import RequestRouting.Condition.NameValue
import RequestRouting.Request.Basic

/-! The query parameter condition of a mapping: all its expressions have to hold. -/
namespace RequestRouting

@[ext] structure ParamCondition where
  expressions : Order.SortedSet NameValue
deriving DecidableEq

namespace ParamCondition

def parse (params : List String) : Except MappingError ParamCondition :=
  return ⟨.ofList (← params.mapM (NameValue.parse .params))⟩

def isEmpty (c : ParamCondition) : Bool := c.expressions.isEmpty

def combine (outer inner : ParamCondition) : ParamCondition :=
  ⟨outer.expressions.union inner.expressions⟩

def holds (c : ParamCondition) (r : Request) : Bool :=
  c.expressions.toList.all fun e => e.holds (r.queryValues e.name)

def narrow (c : ParamCondition) (r : Request) : Option ParamCondition :=
  if c.holds r then some c else none

def compareFit (c d : ParamCondition) : Ordering :=
  NameValue.compareSets c.expressions d.expressions

def render (c : ParamCondition) : String := NameValue.renderSet c.expressions

def toDocument (c : ParamCondition) : Document := NameValue.setToDocument c.expressions

end ParamCondition

end RequestRouting
