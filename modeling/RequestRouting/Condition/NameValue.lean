import RequestRouting.Error
import RequestRouting.Document
import RequestRouting.Order.SortedSet

/-! Expressions that ask for a query parameter or a header: `name`, `!name`, `name=value` or
`name!=value`. -/
namespace RequestRouting

structure NameValue where
  name : String
  value : Option String
  negated : Bool
deriving DecidableEq

namespace NameValue

instance : Ord NameValue :=
  ⟨compareLex (compareOn name) (compareLex (compareOn value) (compareOn negated))⟩

instance : Std.TransOrd NameValue :=
  inferInstanceAs (Std.TransCmp (compareLex _ (compareLex _ _)))

/-- Name, value and negation of a trimmed text, told apart by the first `!=`, else the first
equals sign, else a leading exclamation mark. -/
def splitChars (cs : List Char) : List Char × Option (List Char) × Bool :=
  match Text.splitFirstPair '!' '=' cs with
  | some (name, value) => (name, some value, true)
  | none =>
    match Text.splitFirst '=' cs with
    | some (name, value) => (name, some value, false)
    | none =>
      match cs with
      | '!' :: name => (name, none, true)
      | _ => (cs, none, false)

/-- The expression of a text; `none` when there is no name, or one that starts with an
exclamation mark. -/
def parse? (text : String) : Option NameValue :=
  let (name, value, negated) := splitChars (Text.trimChars text.toList)
  let name := Text.trimChars name
  if name.isEmpty || name.head? == some '!' then none
  else some ⟨String.ofList name, value.map fun v => String.ofList (Text.trimChars v), negated⟩

def parse (kind : ExpressionKind) (text : String) : Except MappingError NameValue :=
  match parse? text with
  | some e => .ok e
  | none => .error (.expression kind text)

def render (e : NameValue) : String :=
  match e.value, e.negated with
  | some value, true => e.name ++ "!=" ++ value
  | some value, false => e.name ++ "=" ++ value
  | none, true => "!" ++ e.name
  | none, false => e.name

def lowercaseName (e : NameValue) : NameValue := { e with name := Text.asciiLower e.name }

def holds (e : NameValue) (values : List String) : Bool :=
  let found := match e.value with
    | some expected => values.contains expected
    | none => !values.isEmpty
  found != e.negated

def toDocument (e : NameValue) : Document :=
  .record [("name", .text e.name), ("value", .ofOption e.value), ("negated", .flag e.negated)]

/-- More expressions first, then more expressions with a value. -/
def compareSets (s t : Order.SortedSet NameValue) : Ordering :=
  let withValue := fun u : Order.SortedSet NameValue => u.toList.countP (·.value.isSome)
  (compare t.size s.size).then (compare (withValue t) (withValue s))

def renderSet (s : Order.SortedSet NameValue) : String :=
  "[" ++ " && ".intercalate (s.toList.map render) ++ "]"

def setToDocument (s : Order.SortedSet NameValue) : Document := .list (s.toList.map toDocument)

end NameValue

end RequestRouting
