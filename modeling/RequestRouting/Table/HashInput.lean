import RequestRouting.Mapping

/-! What a mapping feeds to a hasher as a key of the index by conditions. A list is preceded by its
length and an optional value by whether it is there. Name and body flag are left out, as they are
where mappings are compared. -/
namespace RequestRouting

inductive HashInput where
  | length (n : Nat)
  /-- The place of a case among the cases of its type. -/
  | case (n : Nat)
  | text (s : String)
  | flag (b : Bool)
deriving DecidableEq

namespace HashInput

def ofList {α : Type} (f : α → List HashInput) (xs : List α) : List HashInput :=
  length xs.length :: xs.flatMap f

def ofOption {α : Type} (f : α → List HashInput) : Option α → List HashInput
  | none => [case 0]
  | some a => case 1 :: f a

end HashInput

def Path.Pattern.hashInput (p : Path.Pattern) : List HashInput := [.text p.canonical]

def Method.hashInput (m : Method) : List HashInput := [.case m.rank]

def NameValue.hashInput (e : NameValue) : List HashInput :=
  .text e.name :: (HashInput.ofOption (fun value => [.text value]) e.value ++ [.flag e.negated])

def MediaType.hashInput (m : MediaType) : List HashInput :=
  .text m.mainType :: .text m.subType ::
    HashInput.ofList (fun p => [.text p.1, .text p.2]) m.parameters.entries

def MediaExpression.hashInput (e : MediaExpression) : List HashInput :=
  e.mediaType.hashInput ++ [.flag e.negated]

def Mapping.hashInput (m : Mapping) : List HashInput :=
  HashInput.ofList Path.Pattern.hashInput m.paths.patterns ++
    (HashInput.ofList Method.hashInput m.methods.methods.toList ++
    (HashInput.ofList NameValue.hashInput m.params.expressions.toList ++
    (HashInput.ofList NameValue.hashInput m.headers.expressions.toList ++
    (HashInput.ofList MediaExpression.hashInput m.consumes.expressions.toList ++
    HashInput.ofList MediaExpression.hashInput m.produces.expressions.toList))))

end RequestRouting
