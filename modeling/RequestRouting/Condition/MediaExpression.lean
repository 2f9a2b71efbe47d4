import RequestRouting.Condition.NameValue
import RequestRouting.Media.Preference

/-! Media types with a possible negation, as mappings declare them for what they consume and
produce. Sets of them have the most specific media type first. -/
namespace RequestRouting

structure MediaExpression where
  mediaType : MediaType
  negated : Bool
deriving DecidableEq

namespace MediaExpression

def compareSpecificity : MediaExpression → MediaExpression → Ordering :=
  fun e f => MediaType.compareSpecificity e.mediaType f.mediaType

instance : Std.TransCmp compareSpecificity :=
  have order : Std.TransCmp MediaType.compareSpecificity := inferInstance
  { eq_swap := order.eq_swap, isLE_trans := order.isLE_trans }

instance : Ord MediaExpression :=
  ⟨compareLex compareSpecificity (compareLex (compareOn mediaType) (compareOn negated))⟩

instance : Std.TransOrd MediaExpression :=
  inferInstanceAs (Std.TransCmp (compareLex _ (compareLex _ _)))

def parse (text : String) : Except MappingError MediaExpression :=
  let (negated, rest) := match Text.trimChars text.toList with
    | '!' :: rest => (true, rest)
    | cs => (false, cs)
  match MediaType.parse (String.ofList rest) with
  | .ok mediaType => .ok ⟨mediaType, negated⟩
  | .error e => .error (.mediaType e)

/-- The expressions of a list with commas; blank entries are left out. -/
def parseList (text : String) : Except MappingError (List MediaExpression) :=
  ((Text.splitAll ',' text.toList).filter fun part => !(Text.trimChars part).isEmpty).mapM
    fun part => parse (String.ofList part)

/-- What a header expression for `headerName` declares. A negated header expression turns
every negation in its value around. -/
def ofHeader (headerName : String) (header : String) :
    Except MappingError (List MediaExpression) := do
  let e ← NameValue.parse .headers header
  if !Text.equalIgnoringCase e.name headerName then return []
  match e.value with
  | none => return []
  | some value =>
    return (← parseList value).map fun m => { m with negated := m.negated != e.negated }

/-- The expressions of an attribute's values and of the headers that declare the same. -/
def parseAll (headerName : String) (values headers : List String) :
    Except MappingError (Order.SortedSet MediaExpression) := do
  let declared ← values.mapM parseList
  let fromHeaders ← headers.mapM (ofHeader headerName)
  return .ofList (declared.flatten ++ fromHeaders.flatten)

def render (e : MediaExpression) : String := (if e.negated then "!" else "") ++ e.mediaType.render

def renderAll (s : Order.SortedSet MediaExpression) : List String := s.toList.map render

def renderSet (s : Order.SortedSet MediaExpression) : String :=
  "[" ++ " || ".intercalate (renderAll s) ++ "]"

def positive (s : Order.SortedSet MediaExpression) : List MediaType :=
  (s.toList.filter (!·.negated)).map (·.mediaType)

end MediaExpression

end RequestRouting
