import RequestRouting.Text.Blank
import RequestRouting.Text.Split

/-! Paths as text. The canonical form of a path starts with a slash and never has two
slashes in a row; the empty path stays empty. -/
namespace RequestRouting.Path

def collapseSlashes : List Char → List Char
  | [] => []
  | c :: cs =>
    if c = '/' ∧ cs.head? = some '/' then collapseSlashes cs else c :: collapseSlashes cs

def normalizeChars (cs : List Char) : List Char :=
  match Text.trimChars cs with
  | [] => []
  | c :: rest => collapseSlashes (if c = '/' then c :: rest else '/' :: c :: rest)

def normalize (path : String) : String := String.ofList (normalizeChars path.toList)

def joinChars (outer inner : List Char) : List Char :=
  if outer.isEmpty then normalizeChars inner
  else if inner.isEmpty then normalizeChars outer
  else
    let outer := Text.dropEndWhile (· == '/') outer
    match inner.dropWhile (· == '/') with
    | [] => normalizeChars outer
    | inner => normalizeChars (outer ++ '/' :: inner)

/-- Places `inner` behind `outer`, with one slash between them; an empty side adds nothing. -/
def join (outer inner : String) : String := String.ofList (joinChars outer.toList inner.toList)

def pieceChars (cs : List Char) : List (List Char) :=
  (Text.splitAll '/' cs).filter fun piece => !piece.isEmpty

def pieces (path : String) : List String := (pieceChars path.toList).map String.ofList

def endsInSlashChars (cs : List Char) : Bool := 1 < cs.length && cs.getLast? == some '/'

def endsInSlash (path : String) : Bool := endsInSlashChars path.toList

theorem pieceChars_cons_slash (cs : List Char) : pieceChars ('/' :: cs) = pieceChars cs := by
  simp [pieceChars, Text.splitAll]

example : normalize " a//b/ " = "/a/b/" := by decide
example : join "/a/" "//b" = "/a/b" := by decide
example : join "/" "/" = "" := by decide

end RequestRouting.Path
