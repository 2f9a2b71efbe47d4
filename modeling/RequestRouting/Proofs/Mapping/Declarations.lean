import RequestRouting.Proofs.Condition.Expressions
import RequestRouting.Proofs.Condition.Paths
import RequestRouting.Proofs.Mapping.HashInput

/-! Two mappings have the same conditions exactly when the same is declared in each of six
places, whatever the order of the declared values, how often they stand there and how they are
joined by commas. -/
namespace RequestRouting

@[ext] structure Declarations where
  paths : Set String
  methods : Set Method
  params : Set NameValue
  headers : Set NameValue
  consumes : Set MediaExpression
  produces : Set MediaExpression

namespace MappingSpec

def plainHeaders (headers : List String) : Set NameValue :=
  {e | ∃ text ∈ headers, ∃ f, NameValue.parse .headers text = .ok f ∧ e = f.lowercaseName ∧
    HeaderCondition.isMediaHeader e.name = false}

def declarations (spec : MappingSpec) : Declarations where
  paths := PathCondition.declared spec.paths
  methods := {m | m ∈ spec.methods}
  params := {e | ∃ text ∈ spec.params, NameValue.parse .params text = .ok e}
  headers := plainHeaders spec.headers
  consumes := MediaExpression.declared "content-type" spec.consumes spec.headers
  produces := MediaExpression.declared "accept" spec.produces spec.headers

/-- The same texts are declared, in any order, any number of times, and the entries of media
types joined in any way. -/
structure SameValues (spec other : MappingSpec) : Prop where
  paths : ∀ text, text ∈ spec.paths ↔ text ∈ other.paths
  methods : ∀ m, m ∈ spec.methods ↔ m ∈ other.methods
  params : ∀ text, text ∈ spec.params ↔ text ∈ other.params
  headers : plainHeaders spec.headers = plainHeaders other.headers
  /-- Headers that cannot be read. -/
  unreadable : ∀ text e, NameValue.parse .headers text = .error e →
    (text ∈ spec.headers ↔ text ∈ other.headers)
  consumes : MediaExpression.declaredEntries "content-type" spec.consumes spec.headers =
    MediaExpression.declaredEntries "content-type" other.consumes other.headers
  produces : MediaExpression.declaredEntries "accept" spec.produces spec.headers =
    MediaExpression.declaredEntries "accept" other.produces other.headers

variable {spec other : MappingSpec}

theorem SameValues.declarations_eq (h : spec.SameValues other) :
    spec.declarations = other.declarations := by
  have hnil : spec.paths = [] ↔ other.paths = [] := by
    simp only [List.eq_nil_iff_forall_not_mem, h.paths]
  ext1
  · ext text
    simp only [declarations, PathCondition.declared, Set.mem_ofPred_eq, h.paths, hnil]
  · ext m
    exact h.methods m
  · ext e
    simp only [declarations, Set.mem_ofPred_eq, h.params]
  · exact h.headers
  · simp only [declarations, MediaExpression.declared, h.consumes]
  · simp only [declarations, MediaExpression.declared, h.produces]

theorem SameValues.joined (spec : MappingSpec) (value value' : String) (values : List String) :
    SameValues { spec with consumes := value :: value' :: values }
      { spec with consumes := (value ++ "," ++ value') :: values } where
  paths _ := Iff.rfl
  methods _ := Iff.rfl
  params _ := Iff.rfl
  headers := rfl
  unreadable _ _ _ := Iff.rfl
  consumes := by
    ext x
    simp only [MediaExpression.declaredEntries, Set.mem_union, Set.mem_ofPred_eq, List.mem_cons,
      or_and_right, exists_or, exists_eq_left, MediaExpression.entries_joined, List.mem_append,
      or_assoc]
  produces := rfl

end MappingSpec

namespace Mapping

variable {spec other : MappingSpec} {m n : Mapping}

structure ReadFrom (m : Mapping) (spec : MappingSpec) : Prop where
  name : m.name = spec.name.filter (!·.isEmpty)
  paths : PathCondition.parse spec.paths = .ok m.paths
  methods : m.methods = .ofList spec.methods
  params : ParamCondition.parse spec.params = .ok m.params
  headers : HeaderCondition.parse spec.headers = .ok m.headers
  consumes : ConsumesCondition.parse spec.consumes spec.headers = .ok m.consumes
  produces : ProducesCondition.parse spec.produces spec.headers = .ok m.produces

theorem ofSpec_eq_ok : ofSpec spec = .ok m ↔ m.ReadFrom spec := by
  unfold ofSpec
  constructor
  · intro h
    obtain ⟨paths, hpaths, h⟩ := Outcome.bind_eq_ok.1 h
    obtain ⟨params, hparams, h⟩ := Outcome.bind_eq_ok.1 h
    obtain ⟨headers, hheaders, h⟩ := Outcome.bind_eq_ok.1 h
    obtain ⟨consumes, hconsumes, h⟩ := Outcome.bind_eq_ok.1 h
    obtain ⟨produces, hproduces, h⟩ := Outcome.bind_eq_ok.1 h
    obtain rfl := Outcome.pure_eq_ok.1 h
    exact ⟨rfl, hpaths, rfl, hparams, hheaders, hconsumes, hproduces⟩
  · rintro ⟨hname, hpaths, hmethods, hparams, hheaders, hconsumes, hproduces⟩
    rw [hpaths, hparams, hheaders, hconsumes, hproduces, ← hname, ← hmethods]
    rfl

theorem ReadFrom.sameConditions_iff (hm : m.ReadFrom spec) (hn : n.ReadFrom other) :
    m.sameConditions n = true ↔ spec.declarations = other.declarations := by
  have hmethods : m.methods = n.methods ↔
      spec.declarations.methods = other.declarations.methods := by
    rw [hm.methods, hn.methods, MethodCondition.ext_iff, Order.SortedSet.eq_iff_mem, Set.ext_iff]
    simp only [MethodCondition.ofList, Order.SortedSet.mem_ofList]
    rfl
  have hparams : m.params = n.params ↔ spec.declarations.params = other.declarations.params := by
    rw [ParamCondition.ext_iff, Order.SortedSet.eq_iff_mem, Set.ext_iff]
    simp only [ParamCondition.mem_of_parse hm.params, ParamCondition.mem_of_parse hn.params]
    rfl
  have hheaders : m.headers = n.headers ↔
      spec.declarations.headers = other.declarations.headers := by
    rw [HeaderCondition.ext_iff, Order.SortedSet.eq_iff_mem, Set.ext_iff]
    simp only [HeaderCondition.mem_of_parse hm.headers, HeaderCondition.mem_of_parse hn.headers]
    rfl
  have hconsumes : m.consumes.expressions = n.consumes.expressions ↔
      spec.declarations.consumes = other.declarations.consumes := by
    rw [Order.SortedSet.eq_iff_mem, Set.ext_iff]
    simp only [ConsumesCondition.mem_of_parse hm.consumes,
      ConsumesCondition.mem_of_parse hn.consumes]
    rfl
  have hproduces : m.produces = n.produces ↔
      spec.declarations.produces = other.declarations.produces := by
    rw [ProducesCondition.ext_iff, Order.SortedSet.eq_iff_mem, Set.ext_iff]
    simp only [ProducesCondition.mem_of_parse hm.produces,
      ProducesCondition.mem_of_parse hn.produces]
    rfl
  rw [Mapping.sameConditions_iff, PathCondition.texts_eq_iff hm.paths hn.paths, hmethods, hparams,
    hheaders, hconsumes, hproduces, Declarations.ext_iff]
  rfl

theorem exists_ofSpec_of_sameValues (hm : m.ReadFrom spec) (h : spec.SameValues other) :
    ∃ k, ofSpec other = .ok k := by
  have hreadable : ∀ text ∈ other.headers, ∃ f, NameValue.parse .headers text = .ok f := by
    intro text htext
    cases hparse : NameValue.parse .headers text with
    | ok f => exact ⟨f, rfl⟩
    | error e =>
      have hspec := (h.unreadable text e hparse).2 htext
      obtain ⟨f, hf⟩ := HeaderCondition.exists_parse_iff.1 ⟨_, hm.headers⟩ text hspec
      rw [hparse] at hf
      cases hf
  obtain ⟨paths, hpaths⟩ : ∃ c, PathCondition.parse other.paths = .ok c := by
    rw [PathCondition.exists_parse_iff]
    intro path hpath
    exact PathCondition.exists_parse_iff.1 ⟨_, hm.paths⟩ path ((h.paths path).2 hpath)
  obtain ⟨params, hparams⟩ : ∃ c, ParamCondition.parse other.params = .ok c := by
    rw [ParamCondition.exists_parse_iff]
    intro text htext
    exact ParamCondition.exists_parse_iff.1 ⟨_, hm.params⟩ text ((h.params text).2 htext)
  obtain ⟨headers, hheaders⟩ := HeaderCondition.exists_parse_iff.2 hreadable
  obtain ⟨consumes, hconsumes⟩ : ∃ c, ConsumesCondition.parse other.consumes other.headers =
      .ok c := by
    rw [ConsumesCondition.exists_parse_iff, ← h.consumes]
    exact ⟨hreadable, (ConsumesCondition.exists_parse_iff.1 ⟨_, hm.consumes⟩).2⟩
  obtain ⟨produces, hproduces⟩ : ∃ c, ProducesCondition.parse other.produces other.headers =
      .ok c := by
    rw [ProducesCondition.exists_parse_iff, ← h.produces]
    exact ⟨hreadable, (ProducesCondition.exists_parse_iff.1 ⟨_, hm.produces⟩).2⟩
  have hread : ReadFrom ⟨other.name.filter (!·.isEmpty), paths, .ofList other.methods, params,
      headers, consumes, produces⟩ other :=
    ⟨rfl, hpaths, rfl, hparams, hheaders, hconsumes, hproduces⟩
  exact ⟨_, ofSpec_eq_ok.2 hread⟩

/-- Mappings that were read have the same conditions exactly when the same is declared, and just
then a hasher is fed the same. Declaring the same values otherwise changes nothing. -/
theorem sameConditions_iff_declarations (hm : ofSpec spec = .ok m) (hn : ofSpec other = .ok n) :
    (m.sameConditions n = true ↔ spec.declarations = other.declarations) ∧
      (m.sameConditions n = true ↔ m.hashInput = n.hashInput) ∧
      ∀ rearranged, spec.SameValues rearranged →
        ∃ k, ofSpec rearranged = .ok k ∧ ∀ l, k.sameConditions l = m.sameConditions l := by
  have hm := ofSpec_eq_ok.1 hm
  have hn := ofSpec_eq_ok.1 hn
  refine ⟨hm.sameConditions_iff hn, hashInput_eq_iff.symm, fun rearranged h => ?_⟩
  obtain ⟨k, hk⟩ := exists_ofSpec_of_sameValues hm h
  have hsame := ((ofSpec_eq_ok.1 hk).sameConditions_iff hm).2 h.declarations_eq.symm
  exact ⟨k, hk, sameConditions_congr hsame⟩

theorem sameConditions_respelled :
    ∃ m n k,
      ofSpec {
        paths := ["/users", "/people"]
        headers := ["X-Team", "Accept=text/html"]
        consumes := ["text/plain", "text/html"] } = .ok m ∧
      ofSpec {
        paths := ["people", "/users", "//people"]
        headers := ["x-team"]
        consumes := ["text/html,text/plain"]
        produces := ["text/html"] } = .ok n ∧
      ofSpec {
        paths := ["/users", "/people"]
        headers := ["X-Team", "Accept=text/html"]
        consumes := ["text/plain,text/html"] } = .ok k ∧
      m.sameConditions n = true ∧ m.hashInput = n.hashInput ∧ k.sameConditions n = true := by
  have hread : (do
      let m ← ofSpec {
        paths := ["/users", "/people"]
        headers := ["X-Team", "Accept=text/html"]
        consumes := ["text/plain", "text/html"] }
      let n ← ofSpec {
        paths := ["people", "/users", "//people"]
        headers := ["x-team"]
        consumes := ["text/html,text/plain"]
        produces := ["text/html"] }
      pure (m.sameConditions n)) = Except.ok true := by decide +kernel
  obtain ⟨m, hm, hread⟩ := Outcome.bind_eq_ok.1 hread
  obtain ⟨n, hn, hread⟩ := Outcome.bind_eq_ok.1 hread
  have hsame := Outcome.pure_eq_ok.1 hread
  obtain ⟨-, hhash, hrearranged⟩ := sameConditions_iff_declarations hm hn
  obtain ⟨k, hk, hkm⟩ := hrearranged _ (MappingSpec.SameValues.joined
    { paths := ["/users", "/people"], headers := ["X-Team", "Accept=text/html"] }
    "text/plain" "text/html" [])
  exact ⟨m, n, k, hm, hn, hk, hsame, hhash.1 hsame, (hkm _).trans hsame⟩

end Mapping

end RequestRouting
