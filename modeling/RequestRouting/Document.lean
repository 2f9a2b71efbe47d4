import RequestRouting.Number.Rounding

/-! Structured documents: what diagnostics show of a mapping table and what settings can be
read from. `Document.render` writes one on a single line without spaces. -/
namespace RequestRouting

/-- A number is its `mantissa` divided by ten to the power `places`. -/
inductive Document where
  | null
  | flag (value : Bool)
  | number (mantissa : Int) (places : Nat)
  | text (value : String)
  | list (items : List Document)
  | record (fields : List (String × Document))
deriving Inhabited

namespace Document

def ofNat (n : Nat) : Document := .number n 0

/-- The number of a document that is nearest to a decimal number. Whole numbers of 64 bits are
kept; all others become binary floating-point values, which have a place behind the point. -/
def ofDecimal (mantissa : Int) (places : Nat) : Document :=
  if places = 0 ∧ -(1 <<< 63) ≤ mantissa ∧ mantissa < 1 <<< 64 then .number mantissa 0
  else
    let (mantissa, places) := Number.nearestBinary64 mantissa places
    if places = 0 then .number (10 * mantissa) 1 else .number mantissa places

def ofOption (value : Option String) : Document := (value.map text).getD null

def texts (values : List String) : Document := .list (values.map text)

def text? : Document → Option String
  | text value => some value
  | _ => none

def flag? : Document → Option Bool
  | flag value => some value
  | _ => none

def list? : Document → Option (List Document)
  | list items => some items
  | _ => none

def hex4 (n : Nat) : List Char :=
  let digits := Nat.toDigits 16 n
  List.replicate (4 - digits.length) '0' ++ digits

def escapeChar (c : Char) : List Char :=
  if c = '"' then ['\\', '"']
  else if c = '\\' then ['\\', '\\']
  else if c = '\x08' then ['\\', 'b']
  else if c = '\x0c' then ['\\', 'f']
  else if c = '\n' then ['\\', 'n']
  else if c = '\r' then ['\\', 'r']
  else if c = '\t' then ['\\', 't']
  else if c.toNat < 0x20 then '\\' :: 'u' :: hex4 c.toNat
  else [c]

def renderText (s : String) : String :=
  String.ofList ('"' :: s.toList.flatMap escapeChar ++ ['"'])

def renderNumber (mantissa : Int) (places : Nat) : String :=
  let digits := Nat.toDigits 10 mantissa.natAbs
  let padded := List.replicate (places + 1 - digits.length) '0' ++ digits
  let whole := padded.take (padded.length - places)
  let fraction := padded.drop (padded.length - places)
  (if mantissa < 0 then "-" else "") ++ String.ofList whole ++
    (if fraction.isEmpty then "" else "." ++ String.ofList fraction)

mutual

def render : Document → String
  | null => "null"
  | flag value => if value then "true" else "false"
  | number mantissa places => renderNumber mantissa places
  | text value => renderText value
  | list items => "[" ++ ",".intercalate (renderItems items) ++ "]"
  | record fields => "\x7b" ++ ",".intercalate (renderFields fields) ++ "\x7d"

def renderItems : List Document → List String
  | [] => []
  | item :: items => render item :: renderItems items

def renderFields : List (String × Document) → List String
  | [] => []
  | (name, value) :: fields => (renderText name ++ ":" ++ render value) :: renderFields fields

end

example : (ofDecimal 18446744073709551617 0).render = "18446744073709551616.0" := by
  decide +kernel
example : (record [("n", .number (-15) 1), ("l", .list [.null, .text "a\"b"])]).render =
    "\x7b\"n\":-1.5,\"l\":[null,\"a\\\"b\"]\x7d" := by decide +kernel

end Document

end RequestRouting
