import RequestRouting.Text.Character

/-! Texts with placeholders between `$\x7b` and `\x7d`. Placeholders nest, and one that is
not closed is plain text. -/
namespace RequestRouting.Placeholder

inductive Piece where
  | literal (c : Char)
  | reference (body : List Char)
deriving DecidableEq

/-- Splits at the brace that closes a placeholder, given how many placeholders were opened
inside it: what stands before the brace, and what behind it. -/
def splitAtClosing : (depth : Nat) → List Char → Option (List Char × List Char)
  | _, [] => none
  | depth, '$' :: '\x7b' :: cs =>
    (splitAtClosing (depth + 1) cs).map fun (body, rest) => ('$' :: '\x7b' :: body, rest)
  | 0, '\x7d' :: cs => some ([], cs)
  | depth + 1, '\x7d' :: cs =>
    (splitAtClosing depth cs).map fun (body, rest) => ('\x7d' :: body, rest)
  | depth, c :: cs => (splitAtClosing depth cs).map fun (body, rest) => (c :: body, rest)

/-- Where the body of a placeholder ends, in bytes from its start. -/
def bodyEnd? (cs : List Char) : Option Nat :=
  (splitAtClosing 0 cs).map fun (body, _) => Text.byteLength body

/-- Reads pieces from left to right. Each one takes at least one character, so the length of
the text is enough fuel. -/
def readPieces : (fuel : Nat) → List Char → List Piece
  | 0, cs => cs.map .literal
  | _, [] => []
  | fuel + 1, '$' :: '\x7b' :: cs =>
    match splitAtClosing 0 cs with
    | some (body, rest) => .reference body :: readPieces fuel rest
    | none => ('$' :: '\x7b' :: cs).map .literal
  | fuel + 1, c :: cs => .literal c :: readPieces fuel cs

def pieces (cs : List Char) : List Piece := readPieces cs.length cs

example : pieces "a$\x7bb$\x7bc\x7d\x7d".toList =
    [.literal 'a', .reference "b$\x7bc\x7d".toList] := by decide

end RequestRouting.Placeholder
