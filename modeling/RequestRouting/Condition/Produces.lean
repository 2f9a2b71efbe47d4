import RequestRouting.Condition.MediaExpression
import RequestRouting.Media.Basic
import RequestRouting.Request.Basic

/-! The condition of a mapping on what the client accepts. -/
namespace RequestRouting

@[ext] structure ProducesCondition where
  expressions : Order.SortedSet MediaExpression
deriving DecidableEq

namespace ProducesCondition

def parse (produces headers : List String) : Except MappingError ProducesCondition :=
  return ⟨← MediaExpression.parseAll "accept" produces headers⟩

def isEmpty (c : ProducesCondition) : Bool := c.expressions.isEmpty

def producible (c : ProducesCondition) : List MediaType := MediaExpression.positive c.expressions

def combine (outer inner : ProducesCondition) : ProducesCondition :=
  if inner.isEmpty then outer else inner

def serves (accepted : List MediaType) (e : MediaExpression) : Bool :=
  accepted.any e.mediaType.isCompatibleWith != e.negated

def narrow (c : ProducesCondition) (r : Request) : Option ProducesCondition :=
  if c.isEmpty then some c
  else r.acceptedMediaTypes.toOption.bind fun accepted =>
    let matched := c.expressions.filter (serves accepted)
    if matched.isEmpty then none else some ⟨matched⟩

def indexOf? (c : ProducesCondition) (test : MediaType → Bool) : Option Nat :=
  c.expressions.toList.findIdx? fun e => !e.negated && test e.mediaType

def compareIndex : Option Nat → Option Nat → Ordering
  | some i, some j => compare i j
  | some _, none => .lt
  | none, some _ => .gt
  | none, none => .eq

/-- How two conditions compare for one accepted type: by where they name it, then by where
they name a compatible one. -/
def compareFor (c d : ProducesCondition) (accepted : MediaType) : Ordering :=
  (compareIndex (c.indexOf? (·.sameTypeAndSubtype accepted))
    (d.indexOf? (·.sameTypeAndSubtype accepted))).then
  (compareIndex (c.indexOf? (·.isCompatibleWith accepted))
    (d.indexOf? (·.isCompatibleWith accepted)))

/-- The first accepted type for which the conditions differ decides. -/
def compareByList (c d : ProducesCondition) : List MediaType → Ordering
  | [] => .eq
  | accepted :: rest => (compareFor c d accepted).then (compareByList c d rest)

/-- A condition before none, then by the client's list; a list that cannot be read counts as
accepting everything. -/
def compareFit (r : Request) (c d : ProducesCondition) : Ordering :=
  match c.isEmpty, d.isEmpty with
  | true, true => .eq
  | true, false => .gt
  | false, true => .lt
  | false, false => compareByList c d (r.acceptedMediaTypes.toOption.getD [.all])

def render (c : ProducesCondition) : String := MediaExpression.renderSet c.expressions

def toDocument (c : ProducesCondition) : Document :=
  .texts (MediaExpression.renderAll c.expressions)

end ProducesCondition

end RequestRouting
