import RequestRouting.Document
import RequestRouting.Method
import RequestRouting.Order.SortedSet

/-! The method condition of a mapping. No methods stand for any method. -/
namespace RequestRouting

@[ext] structure MethodCondition where
  methods : Order.SortedSet Method
deriving DecidableEq

namespace MethodCondition

def ofList (methods : List Method) : MethodCondition := ⟨.ofList methods⟩

def contains (c : MethodCondition) (m : Method) : Bool := c.methods.toList.contains m

def isEmpty (c : MethodCondition) : Bool := c.methods.isEmpty

def combine (outer inner : MethodCondition) : MethodCondition :=
  if inner.isEmpty then outer else inner

/-- What the request's method meets; HEAD is also served where GET is. -/
def narrow (c : MethodCondition) (m : Method) : Option MethodCondition :=
  if c.isEmpty then some c
  else if c.contains m then some (ofList [m])
  else if m = .head ∧ c.contains .get then some (ofList [.get])
  else none

/-- Some methods before any method, then fewer methods after more. -/
def compareSize (c d : MethodCondition) : Ordering :=
  match c.isEmpty, d.isEmpty with
  | false, true => .lt
  | true, false => .gt
  | _, _ => compare d.methods.size c.methods.size

def compareFit (m : Method) (c d : MethodCondition) : Ordering :=
  if m = .head then
    match c.contains .head, d.contains .head with
    | true, false => .lt
    | false, true => .gt
    | _, _ => compareSize c d
  else compareSize c d

def names (c : MethodCondition) : List String := c.methods.toList.map Method.name

def render (c : MethodCondition) : String := " || ".intercalate c.names

def toDocument (c : MethodCondition) : Document := .texts c.names

end MethodCondition

end RequestRouting
