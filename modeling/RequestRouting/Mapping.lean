import RequestRouting.Condition.Consumes
import RequestRouting.Condition.Headers
import RequestRouting.Condition.Methods
import RequestRouting.Condition.Params
import RequestRouting.Condition.Paths
import RequestRouting.Condition.Produces

/-! Mappings: the conditions under which a request goes to a handler. Mappings are combined
from an outer and an inner one, narrowed to a request, and compared by how well they fit
it. -/
namespace RequestRouting

structure Mapping where
  name : Option String
  paths : PathCondition
  methods : MethodCondition
  params : ParamCondition
  headers : HeaderCondition
  consumes : ConsumesCondition
  produces : ProducesCondition
deriving DecidableEq

structure MappingSpec where
  paths : List String := []
  methods : List Method := []
  params : List String := []
  headers : List String := []
  consumes : List String := []
  produces : List String := []
  name : Option String := none

namespace Mapping

/-- Reads every condition; the first one that is wrong decides the error. An empty name is
none. -/
def ofSpec (spec : MappingSpec) : Except MappingError Mapping := do
  return {
    name := spec.name.filter (!·.isEmpty)
    paths := ← PathCondition.parse spec.paths
    methods := .ofList spec.methods
    params := ← ParamCondition.parse spec.params
    headers := ← HeaderCondition.parse spec.headers
    consumes := ← ConsumesCondition.parse spec.consumes spec.headers
    produces := ← ProducesCondition.parse spec.produces spec.headers }

def withName (m : Mapping) (name : Option String) : Mapping := { m with name }

def withBodyRequired (m : Mapping) (required : Bool) : Mapping :=
  { m with consumes := { m.consumes with bodyRequired := required } }

def behind (m : Mapping) (path : String) : Except MappingError Mapping := do
  let outer ← PathCondition.parse [path]
  return { m with paths := ← outer.combine m.paths }

def combineNames : Option String → Option String → Option String
  | some outer, some inner => some (outer ++ "#" ++ inner)
  | outer, inner => inner <|> outer

def combine (outer inner : Mapping) : Except MappingError Mapping := do
  return {
    name := combineNames outer.name inner.name
    paths := ← outer.paths.combine inner.paths
    methods := outer.methods.combine inner.methods
    params := outer.params.combine inner.params
    headers := outer.headers.combine inner.headers
    consumes := outer.consumes.combine inner.consumes
    produces := outer.produces.combine inner.produces }

def narrow (m : Mapping) (options : Path.MatchOptions) (r : Request) : Option Mapping := do
  return {
    name := m.name
    methods := ← m.methods.narrow r.method
    params := ← m.params.narrow r
    headers := ← m.headers.narrow r
    consumes := ← m.consumes.narrow r
    produces := ← m.produces.narrow r
    paths := ← m.paths.narrow options r.path }

/-- Compares conditions one after the other. For a HEAD request the methods come first. -/
def compareFit (r : Request) (m n : Mapping) : Ordering :=
  let byMethods := MethodCondition.compareFit r.method m.methods n.methods
  (if r.method = .head then byMethods else .eq).then <|
    (m.paths.compareFit n.paths).then <|
    (m.params.compareFit n.params).then <|
    (m.headers.compareFit n.headers).then <|
    (m.consumes.compareFit n.consumes).then <|
    (ProducesCondition.compareFit r m.produces n.produces).then byMethods

/-- Equal mappings have equal conditions; name and body flag do not count. -/
def sameConditions (m n : Mapping) : Bool :=
  m.paths.sameAs n.paths && m.methods == n.methods && m.params == n.params &&
    m.headers == n.headers && m.consumes.sameAs n.consumes && m.produces == n.produces

theorem sameConditions_iff {m n : Mapping} :
    m.sameConditions n = true ↔ m.paths.texts = n.paths.texts ∧ m.methods = n.methods ∧
      m.params = n.params ∧ m.headers = n.headers ∧
      m.consumes.expressions = n.consumes.expressions ∧ m.produces = n.produces := by
  simp [sameConditions, PathCondition.sameAs, ConsumesCondition.sameAs, and_assoc]

theorem sameConditions_self (m : Mapping) : m.sameConditions m = true := by
  simp [sameConditions_iff]

theorem sameConditions_comm (m n : Mapping) : m.sameConditions n = n.sameConditions m := by
  rw [Bool.eq_iff_iff, sameConditions_iff, sameConditions_iff]
  simp only [eq_comm]

theorem sameConditions_trans {m n k : Mapping} (hmn : m.sameConditions n = true)
    (hnk : n.sameConditions k = true) : m.sameConditions k = true := by
  rw [sameConditions_iff] at *
  simp only [hmn, hnk, and_self]

theorem sameConditions_congr {m n : Mapping} (h : m.sameConditions n = true) (k : Mapping) :
    m.sameConditions k = n.sameConditions k := by
  rw [Bool.eq_iff_iff]
  constructor
  · intro hmk
    rw [sameConditions_comm] at h
    exact sameConditions_trans h hmk
  · exact sameConditions_trans h

def render (m : Mapping) : String :=
  let part := fun (isEmpty : Bool) (shown : String) => if isEmpty then "" else shown
  "\x7b" ++ part m.methods.isEmpty (m.methods.render ++ " ") ++ m.paths.render ++
    part m.params.isEmpty (", params " ++ m.params.render) ++
    part m.headers.isEmpty (", headers " ++ m.headers.render) ++
    part m.consumes.isEmpty (", consumes " ++ m.consumes.render) ++
    part m.produces.isEmpty (", produces " ++ m.produces.render) ++ "\x7d"

def conditionFields (m : Mapping) : List (String × Document) :=
  [("patterns", m.paths.toDocument), ("methods", m.methods.toDocument),
    ("params", m.params.toDocument), ("headers", m.headers.toDocument),
    ("consumes", m.consumes.toDocument), ("produces", m.produces.toDocument)]

def toDocument (m : Mapping) : Document :=
  .record ((m.name.map fun name => ("name", .text name)).toList ++ m.conditionFields)

def diagnostic (m : Mapping) : Document :=
  .record (("name", .ofOption m.name) :: m.conditionFields ++
    [("bodyRequired", .flag m.consumes.bodyRequired)])

end Mapping

end RequestRouting
