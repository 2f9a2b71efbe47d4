import RequestRouting.Condition.MediaExpression
import RequestRouting.Media.Basic
import RequestRouting.Request.Basic

/-! The condition of a mapping on the body of a request. Where no body is required, a request
without one passes whatever media types are declared. -/
namespace RequestRouting

structure ConsumesCondition where
  expressions : Order.SortedSet MediaExpression
  bodyRequired : Bool := true
deriving DecidableEq

namespace ConsumesCondition

def parse (consumes headers : List String) : Except MappingError ConsumesCondition :=
  return { expressions := ← MediaExpression.parseAll "content-type" consumes headers }

def isEmpty (c : ConsumesCondition) : Bool := c.expressions.isEmpty

def consumable (c : ConsumesCondition) : List MediaType := MediaExpression.positive c.expressions

/-- The inner condition replaces the outer one unless it is empty. -/
def combine (outer inner : ConsumesCondition) : ConsumesCondition :=
  if inner.isEmpty then outer else inner

def admits (body : MediaType) (e : MediaExpression) : Bool :=
  e.mediaType.includes body != e.negated

/-- The type of the request's body; bytes of no known type where it is not named. -/
def bodyType? (r : Request) : Option MediaType :=
  match r.contentType? with
  | none => some .octetStream
  | some (.ok m) => some m
  | some (.error _) => none

def narrow (c : ConsumesCondition) (r : Request) : Option ConsumesCondition :=
  if c.isEmpty then some c
  else if !c.bodyRequired && !r.hasBody then some ⟨∅, false⟩
  else (bodyType? r).bind fun body =>
    let matched := c.expressions.filter (admits body)
    if matched.isEmpty then none else some { c with expressions := matched }

def compareFit (c d : ConsumesCondition) : Ordering :=
  match c.expressions.toList.head?, d.expressions.toList.head? with
  | none, none => .eq
  | none, some _ => .gt
  | some _, none => .lt
  | some e, some f => MediaExpression.compareSpecificity e f

/-- Equal conditions declare the same expressions; whether a body is required does not
count. -/
def sameAs (c d : ConsumesCondition) : Bool := c.expressions == d.expressions

def render (c : ConsumesCondition) : String := MediaExpression.renderSet c.expressions

def toDocument (c : ConsumesCondition) : Document :=
  .record [("expressions", .texts (MediaExpression.renderAll c.expressions))]

end ConsumesCondition

end RequestRouting
