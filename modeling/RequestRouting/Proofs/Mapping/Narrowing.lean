import RequestRouting.Proofs.Mapping.Constructible
import RequestRouting.Proofs.Order.Distinct
import RequestRouting.Proofs.Order.Ranking

/-! Narrowing a mapping to a request. What is left meets the request as it is: narrowing it again
changes nothing. No condition gets anything that it did not declare, and none that restricted the
request stops doing so, apart from the media types of a body that is optional and missing. -/
namespace RequestRouting

namespace PathCondition

variable {c d : PathCondition} {options : Path.MatchOptions} {path : String}

theorem perm_of_narrow (h : c.narrow options path = some d) :
    d.patterns.Perm (c.patterns.filter (·.accepts options path)) := by
  rw [(narrow_eq_some.1 h).2]
  exact Order.sortBy_perm _ _

theorem pairwise_of_narrow (h : c.narrow options path = some d) :
    d.patterns.Pairwise fun p q => (Path.Pattern.compareSpecificity p q).isLE := by
  rw [(narrow_eq_some.1 h).2]
  exact Order.pairwise_sortBy _ _

theorem ne_nil_of_narrow (h : c.narrow options path = some d) : d.patterns ≠ [] := by
  obtain ⟨p, rest, hp, -⟩ := exists_first_of_narrow h
  rw [hp]
  exact List.cons_ne_nil p rest

theorem narrow_of_narrow (h : c.narrow options path = some d) :
    d.narrow options path = some d := by
  have hall : d.patterns.filter (·.accepts options path) = d.patterns :=
    List.filter_eq_self.2 fun p hp => ((mem_of_narrow h p).1 hp).2
  rw [narrow_eq_some, hall, Order.sortBy_eq_self (pairwise_of_narrow h)]
  exact ⟨ne_nil_of_narrow h, rfl⟩

end PathCondition

namespace MethodCondition

variable {c d : MethodCondition} {method served : Method}

def Serves (served method : Method) : Prop := served = method ∨ method = .head ∧ served = .get

theorem narrow_cases (h : c.narrow method = some d) :
    c.isEmpty = true ∧ d = c ∨
      ∃ served, c.isEmpty = false ∧ c.contains served = true ∧ Serves served method ∧
        d = ofList [served] := by
  unfold narrow at h
  split at h
  · next hempty => exact .inl ⟨hempty, (Option.some.inj h).symm⟩
  rename_i hsome
  rw [Bool.not_eq_true] at hsome
  split at h
  · next hnamed => exact .inr ⟨method, hsome, hnamed, .inl rfl, (Option.some.inj h).symm⟩
  split at h
  · next hserved =>
    exact .inr ⟨.get, hsome, hserved.2, .inr ⟨hserved.1, rfl⟩, (Option.some.inj h).symm⟩
  · contradiction

theorem narrow_ofList_singleton (h : Serves served method) :
    (ofList [served]).narrow method = some (ofList [served]) := by
  have hsome : ¬ (ofList [served]).isEmpty = true := by rintro ⟨⟩
  have hcontains : (ofList [served]).contains served = true :=
    List.contains_iff_mem.2 List.mem_cons_self
  unfold narrow
  rw [if_neg hsome]
  rcases h with rfl | ⟨rfl, rfl⟩
  · rw [if_pos hcontains]
  · rfl

theorem narrow_of_narrow (h : c.narrow method = some d) : d.narrow method = some d := by
  rcases narrow_cases h with ⟨-, rfl⟩ | ⟨served, -, -, hserves, rfl⟩
  · exact h
  · exact narrow_ofList_singleton hserves

theorem sublist_of_narrow (h : c.narrow method = some d) :
    d.methods.toList.Sublist c.methods.toList := by
  rcases narrow_cases h with ⟨-, rfl⟩ | ⟨served, -, hcontains, -, rfl⟩
  · exact .refl _
  · exact List.singleton_sublist.2 (List.contains_iff_mem.1 hcontains)

theorem isEmpty_of_narrow (h : c.narrow method = some d) : d.isEmpty = c.isEmpty := by
  rcases narrow_cases h with ⟨-, rfl⟩ | ⟨served, hsome, -, -, rfl⟩
  · rfl
  · exact hsome.symm

theorem serves_of_narrow (h : c.narrow method = some d) {x : Method} (hx : x ∈ d.methods) :
    Serves x method := by
  rcases narrow_cases h with ⟨hempty, rfl⟩ | ⟨served, -, -, hserves, rfl⟩
  · rw [isEmpty, Order.SortedSet.isEmpty, List.isEmpty_iff] at hempty
    change x ∈ d.methods.toList at hx
    rw [hempty] at hx
    contradiction
  · obtain rfl : x = served := List.mem_singleton.1 hx
    exact hserves

end MethodCondition

theorem ParamCondition.eq_of_narrow {c d : ParamCondition} {r : Request}
    (h : c.narrow r = some d) : d = c := by
  unfold narrow at h
  split at h
  · exact (Option.some.inj h).symm
  · contradiction

theorem HeaderCondition.eq_of_narrow {c d : HeaderCondition} {r : Request}
    (h : c.narrow r = some d) : d = c := by
  unfold narrow at h
  split at h
  · exact (Option.some.inj h).symm
  · contradiction

namespace ConsumesCondition

variable {c d : ConsumesCondition} {r : Request}

def SkipsBody (c : ConsumesCondition) (r : Request) : Prop :=
  c.bodyRequired = false ∧ r.hasBody = false

def admitting (c : ConsumesCondition) (body : MediaType) : ConsumesCondition :=
  { c with expressions := c.expressions.filter (admits body) }

theorem admitting_admitting (c : ConsumesCondition) (body : MediaType) :
    (c.admitting body).admitting body = c.admitting body := by
  simp [admitting, Order.SortedSet.filter_filter_self]

theorem narrow_of_body {body : MediaType} (hsome : c.isEmpty = false) (hneeds : ¬ c.SkipsBody r)
    (hbody : bodyType? r = some body) :
    c.narrow r = if (c.admitting body).isEmpty then none else some (c.admitting body) := by
  have hskips : ¬ (!c.bodyRequired && !r.hasBody) = true := by
    simpa [SkipsBody] using hneeds
  unfold narrow
  rw [if_neg (ne_true_of_eq_false hsome), if_neg hskips, hbody]
  rfl

theorem narrow_cases (h : c.narrow r = some d) :
    c.isEmpty = true ∧ d = c ∨ c.isEmpty = false ∧ c.SkipsBody r ∧ d = ⟨∅, false⟩ ∨
      c.isEmpty = false ∧ ¬ c.SkipsBody r ∧ d.isEmpty = false ∧
        ∃ body, bodyType? r = some body ∧ d = c.admitting body := by
  cases hsome : c.isEmpty with
  | true =>
    rw [narrow, if_pos hsome] at h
    exact .inl ⟨rfl, (Option.some.inj h).symm⟩
  | false =>
    refine .inr ?_
    by_cases hskips : c.SkipsBody r
    · have hskips' : (!c.bodyRequired && !r.hasBody) = true := by simp [hskips.1, hskips.2]
      rw [narrow, if_neg (ne_true_of_eq_false hsome), if_pos hskips'] at h
      exact .inl ⟨rfl, hskips, (Option.some.inj h).symm⟩
    · cases hbody : bodyType? r with
      | none =>
        have hneeds : ¬ (!c.bodyRequired && !r.hasBody) = true := by
          simpa [SkipsBody] using hskips
        rw [narrow, if_neg (ne_true_of_eq_false hsome), if_neg hneeds, hbody] at h
        contradiction
      | some body =>
        rw [narrow_of_body hsome hskips hbody] at h
        split at h
        · contradiction
        · next hleft =>
          obtain rfl := Option.some.inj h
          exact .inr ⟨rfl, hskips, eq_false_of_ne_true hleft, body, rfl, rfl⟩

theorem narrow_of_narrow (h : c.narrow r = some d) : d.narrow r = some d := by
  rcases narrow_cases h with ⟨-, rfl⟩ | ⟨-, -, rfl⟩ | ⟨-, hneeds, hsome, body, hbody, rfl⟩
  · exact h
  · rfl
  · rw [narrow_of_body hsome hneeds hbody, admitting_admitting,
      if_neg (ne_true_of_eq_false hsome)]

theorem sublist_of_narrow (h : c.narrow r = some d) :
    d.expressions.toList.Sublist c.expressions.toList := by
  rcases narrow_cases h with ⟨-, rfl⟩ | ⟨-, -, rfl⟩ | ⟨-, -, -, body, -, rfl⟩
  · exact .refl _
  · exact List.nil_sublist _
  · exact List.filter_sublist

theorem bodyRequired_of_narrow (h : c.narrow r = some d) : d.bodyRequired = c.bodyRequired := by
  rcases narrow_cases h with ⟨-, rfl⟩ | ⟨-, hskips, rfl⟩ | ⟨-, -, -, body, -, rfl⟩
  · rfl
  · exact hskips.1.symm
  · rfl

theorem isEmpty_of_narrow (h : c.narrow r = some d) :
    d.isEmpty = true ↔ c.isEmpty = true ∨ c.SkipsBody r := by
  rcases narrow_cases h with ⟨hempty, rfl⟩ | ⟨hsome, hskips, rfl⟩ | ⟨hsome, hneeds, hleft, -⟩
  · simp [hempty]
  · exact iff_of_true rfl (.inr hskips)
  · simp [hsome, hneeds, hleft]

end ConsumesCondition

namespace ProducesCondition

variable {c d : ProducesCondition} {r : Request}

def serving (c : ProducesCondition) (accepted : List MediaType) : ProducesCondition :=
  ⟨c.expressions.filter (serves accepted)⟩

theorem serving_serving (c : ProducesCondition) (accepted : List MediaType) :
    (c.serving accepted).serving accepted = c.serving accepted := by
  simp [serving, Order.SortedSet.filter_filter_self]

theorem narrow_of_accepted {accepted : List MediaType} (hsome : c.isEmpty = false)
    (hread : r.acceptedMediaTypes = .ok accepted) :
    c.narrow r = if (c.serving accepted).isEmpty then none else some (c.serving accepted) := by
  unfold narrow
  rw [if_neg (ne_true_of_eq_false hsome), hread]
  rfl

theorem narrow_cases (h : c.narrow r = some d) :
    c.isEmpty = true ∧ d = c ∨ c.isEmpty = false ∧ d.isEmpty = false ∧
      ∃ accepted, r.acceptedMediaTypes = .ok accepted ∧ d = c.serving accepted := by
  cases hsome : c.isEmpty with
  | true =>
    rw [narrow, if_pos hsome] at h
    exact .inl ⟨rfl, (Option.some.inj h).symm⟩
  | false =>
    cases hread : r.acceptedMediaTypes with
    | error e =>
      rw [narrow, if_neg (ne_true_of_eq_false hsome), hread] at h
      contradiction
    | ok accepted =>
      rw [narrow_of_accepted hsome hread] at h
      split at h
      · contradiction
      · next hleft =>
        obtain rfl := Option.some.inj h
        exact .inr ⟨rfl, eq_false_of_ne_true hleft, accepted, rfl, rfl⟩

theorem narrow_of_narrow (h : c.narrow r = some d) : d.narrow r = some d := by
  rcases narrow_cases h with ⟨-, rfl⟩ | ⟨-, hsome, accepted, hread, rfl⟩
  · exact h
  · rw [narrow_of_accepted hsome hread, serving_serving, if_neg (ne_true_of_eq_false hsome)]

theorem sublist_of_narrow (h : c.narrow r = some d) :
    d.expressions.toList.Sublist c.expressions.toList := by
  rcases narrow_cases h with ⟨-, rfl⟩ | ⟨-, -, accepted, -, rfl⟩
  · exact .refl _
  · exact List.filter_sublist

theorem isEmpty_of_narrow (h : c.narrow r = some d) : d.isEmpty = c.isEmpty := by
  rcases narrow_cases h with ⟨-, rfl⟩ | ⟨hsome, hleft, -⟩
  · rfl
  · rw [hsome, hleft]

end ProducesCondition

namespace Mapping

variable {m n : Mapping} {options : Path.MatchOptions} {r : Request}

/-- A mapping as it is left when it was narrowed to a request: nothing is added, restrictions stay
restrictions, and narrowing it again leaves it alone. -/
structure Settles (options : Path.MatchOptions) (r : Request) (m n : Mapping) : Prop where
  settled : n.narrow options r = some n
  paths_ne_nil : n.paths.patterns ≠ []
  paths_perm : n.paths.patterns.Perm (m.paths.patterns.filter (·.accepts options r.path))
  paths_sorted : n.paths.patterns.Pairwise fun p q => (Path.Pattern.compareSpecificity p q).isLE
  methods_sublist : n.methods.methods.toList.Sublist m.methods.methods.toList
  methods_serve : ∀ x ∈ n.methods.methods, x = r.method ∨ r.method = .head ∧ x = .get
  methods_isEmpty : n.methods.isEmpty = m.methods.isEmpty
  consumes_sublist : n.consumes.expressions.toList.Sublist m.consumes.expressions.toList
  consumes_isEmpty : n.consumes.isEmpty = true ↔ m.consumes.isEmpty = true ∨
    m.consumes.bodyRequired = false ∧ r.hasBody = false
  bodyRequired : n.consumes.bodyRequired = m.consumes.bodyRequired
  produces_sublist : n.produces.expressions.toList.Sublist m.produces.expressions.toList
  produces_isEmpty : n.produces.isEmpty = m.produces.isEmpty
  params : n.params = m.params
  headers : n.headers = m.headers
  name : n.name = m.name

theorem narrow_of_narrow (h : m.narrow options r = some n) : n.narrow options r = some n := by
  obtain ⟨-, hmethods, hparams, hheaders, hconsumes, hproduces, hpaths⟩ := narrow_eq_some.1 h
  rw [← ParamCondition.eq_of_narrow hparams] at hparams
  rw [← HeaderCondition.eq_of_narrow hheaders] at hheaders
  exact narrow_eq_some.2 ⟨rfl, MethodCondition.narrow_of_narrow hmethods, hparams, hheaders,
    ConsumesCondition.narrow_of_narrow hconsumes, ProducesCondition.narrow_of_narrow hproduces,
    PathCondition.narrow_of_narrow hpaths⟩

/-- Narrowing reaches what it can reach in one step, and only narrows. -/
theorem settles_of_narrow (h : m.narrow options r = some n) : Settles options r m n := by
  obtain ⟨hname, hmethods, hparams, hheaders, hconsumes, hproduces, hpaths⟩ := narrow_eq_some.1 h
  constructor
  case settled => exact narrow_of_narrow h
  case paths_ne_nil => exact PathCondition.ne_nil_of_narrow hpaths
  case paths_perm => exact PathCondition.perm_of_narrow hpaths
  case paths_sorted => exact PathCondition.pairwise_of_narrow hpaths
  case methods_sublist => exact MethodCondition.sublist_of_narrow hmethods
  case methods_serve => exact fun _ hx => MethodCondition.serves_of_narrow hmethods hx
  case methods_isEmpty => exact MethodCondition.isEmpty_of_narrow hmethods
  case consumes_sublist => exact ConsumesCondition.sublist_of_narrow hconsumes
  case consumes_isEmpty => exact ConsumesCondition.isEmpty_of_narrow hconsumes
  case bodyRequired => exact ConsumesCondition.bodyRequired_of_narrow hconsumes
  case produces_sublist => exact ProducesCondition.sublist_of_narrow hproduces
  case produces_isEmpty => exact ProducesCondition.isEmpty_of_narrow hproduces
  case params => exact ParamCondition.eq_of_narrow hparams
  case headers => exact HeaderCondition.eq_of_narrow hheaders
  case name => exact hname

def reportsSpec : MappingSpec where
  paths := ["/orders", "/reports/*", "/reports/daily"]
  methods := [.post, .get]
  consumes := ["application/json"]
  produces := ["text/*", "!text/html"]

/-- HEAD without a body is served under GET, by the more specific one of two patterns. -/
theorem settles_reports : ∃ m n, ofSpec reportsSpec = .ok m ∧
    (m.withBodyRequired false).narrow {} { method := .head, path := "/reports/daily" } = some n ∧
    Settles {} { method := .head, path := "/reports/daily" } (m.withBodyRequired false) n ∧
    n.render = "\x7bGET [/reports/daily || /reports/*], produces [text/*]\x7d" := by
  obtain ⟨m, n, hm, hn, hshown⟩ : ∃ m n, ofSpec reportsSpec = .ok m ∧
      (m.withBodyRequired false).narrow {} { method := .head, path := "/reports/daily" } = some n ∧
      n.render = "\x7bGET [/reports/daily || /reports/*], produces [text/*]\x7d" :=
    ⟨_, _, rfl, rfl, rfl⟩
  exact ⟨m, n, hm, hn, settles_of_narrow hn, hshown⟩

end Mapping

end RequestRouting
