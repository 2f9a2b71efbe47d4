import RequestRouting.Condition.NameValue
import RequestRouting.Request.Basic

/-! The header condition of a mapping: all its expressions have to hold. Header names are
compared in lower case. Expressions for `Accept` and `Content-Type` have no place here; they
are read as media types. -/
namespace RequestRouting

@[ext] structure HeaderCondition where
  expressions : Order.SortedSet NameValue
deriving DecidableEq

namespace HeaderCondition

def isMediaHeader (name : String) : Bool := name == "accept" || name == "content-type"

def parse (headers : List String) : Except MappingError HeaderCondition := do
  let parsed ← headers.mapM (NameValue.parse .headers)
  return ⟨.ofList ((parsed.map NameValue.lowercaseName).filter fun e => !isMediaHeader e.name)⟩

def isEmpty (c : HeaderCondition) : Bool := c.expressions.isEmpty

def combine (outer inner : HeaderCondition) : HeaderCondition :=
  ⟨outer.expressions.union inner.expressions⟩

def holds (c : HeaderCondition) (r : Request) : Bool :=
  c.expressions.toList.all fun e => e.holds (r.headerValues e.name)

def narrow (c : HeaderCondition) (r : Request) : Option HeaderCondition :=
  if c.holds r then some c else none

def compareFit (c d : HeaderCondition) : Ordering :=
  NameValue.compareSets c.expressions d.expressions

def render (c : HeaderCondition) : String := NameValue.renderSet c.expressions

def toDocument (c : HeaderCondition) : Document := NameValue.setToDocument c.expressions

end HeaderCondition

end RequestRouting
