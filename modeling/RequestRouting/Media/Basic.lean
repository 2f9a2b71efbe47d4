import RequestRouting.Dictionary
import RequestRouting.Number.Binary32
import RequestRouting.Text.Blank
import RequestRouting.Text.Character
import RequestRouting.Text.Split

/-! Media types: a type, a subtype and named parameters. Types, subtypes and parameter names
are kept in lower case, and a parameter value without quotes around it. A star includes every type,
a star for the subtype every subtype of its type, and `*+suffix` the subtypes with that suffix;
parameters do not count for that. -/
namespace RequestRouting

structure MediaType where
  mainType : String
  subType : String
  parameters : Dictionary String
deriving DecidableEq

namespace MediaType

def ofNames (mainType subType : String) : MediaType :=
  ⟨Text.asciiLower mainType, Text.asciiLower subType, ∅⟩

def all : MediaType := ofNames "*" "*"

def applicationJson : MediaType := ofNames "application" "json"

def applicationXml : MediaType := ofNames "application" "xml"

def octetStream : MediaType := ofNames "application" "octet-stream"

def textPlain : MediaType := ofNames "text" "plain"

def unquote (s : String) : String :=
  String.ofList (Text.dropEndWhile (· == '"') (s.toList.dropWhile (· == '"')))

def withParameter (m : MediaType) (name value : String) : MediaType :=
  { m with parameters := m.parameters.insert (Text.asciiLower name) (unquote value) }

def parameter? (m : MediaType) (name : String) : Option String := m.parameters.get? name

/-- The written form; parameters stand in the order of their names. -/
def render (m : MediaType) : String :=
  m.mainType ++ "/" ++ m.subType ++
    String.join (m.parameters.entries.map fun (name, value) => ";" ++ name ++ "=" ++ value)

def isWildcardType (m : MediaType) : Bool := m.mainType == "*"

def wildcardSuffix? (m : MediaType) : Option String :=
  match m.subType.toList with
  | '*' :: '+' :: suffix => some (String.ofList suffix)
  | _ => none

/-- A star, alone or with a suffix. -/
def isWildcardSubtype (m : MediaType) : Bool := m.subType == "*" || m.wildcardSuffix?.isSome

/-- What follows the last plus of the subtype. -/
def suffix? (m : MediaType) : Option String :=
  (Text.splitLast '+' m.subType.toList).map fun (_, suffix) => String.ofList suffix

/-- The parameter `q`; one where it is missing or no number. -/
def quality (m : MediaType) : Number.Binary32 :=
  ((m.parameter? "q").bind Number.Binary32.parse?).getD .one

def sameTypeAndSubtype (m n : MediaType) : Bool :=
  m.mainType == n.mainType && m.subType == n.subType

def includesSubtype (m n : MediaType) : Bool :=
  m.subType == n.subType || m.subType == "*" ||
    m.wildcardSuffix?.any fun suffix => n.suffix? == some suffix || n.subType == suffix

def includes (m n : MediaType) : Bool :=
  m.isWildcardType || (m.mainType == n.mainType && includesSubtype m n)

def isCompatibleWith (m n : MediaType) : Bool := m.includes n || n.includes m

theorem includes_self (m : MediaType) : m.includes m = true := by
  simp [includes, includesSubtype]

theorem isCompatibleWith_comm (m n : MediaType) :
    m.isCompatibleWith n = n.isCompatibleWith m := by
  simp [isCompatibleWith, Bool.or_comm]

instance : Ord (String × String) := ⟨compareLex (compareOn (·.1)) (compareOn (·.2))⟩

instance : Std.TransOrd (String × String) := inferInstanceAs (Std.TransCmp (compareLex _ _))

instance : Ord MediaType :=
  ⟨compareLex (compareOn mainType)
    (compareLex (compareOn subType) (compareOn (·.parameters.entries)))⟩

instance : Std.TransOrd MediaType := inferInstanceAs (Std.TransCmp (compareLex _ (compareLex _ _)))

end MediaType

end RequestRouting
