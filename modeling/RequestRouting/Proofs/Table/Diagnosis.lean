import RequestRouting.Proofs.Table.Selection

/-! Why a request gets no handler. The conditions are looked at in a fixed order, and the reason is
the first one that is passed by none of the mappings that passed all before it. What a reason lists
is what these mappings declare. -/
namespace RequestRouting

theorem MethodCondition.narrow_eq_none_iff {c : MethodCondition} {method : Method} :
    c.narrow method = none ↔ (∃ x, x ∈ c.methods) ∧ method ∉ c.methods ∧
      ¬ (method = .head ∧ .get ∈ c.methods) := by
  have hempty : c.isEmpty = true ↔ ¬ ∃ x, x ∈ c.methods := by
    rw [not_exists]
    exact List.isEmpty_iff.trans List.eq_nil_iff_forall_not_mem
  have hcontains : ∀ x, c.contains x = true ↔ x ∈ c.methods := fun x => List.contains_iff_mem
  simp only [narrow, hcontains]
  split
  · next hnone => simp only [hempty.1 hnone, false_and, reduceCtorEq]
  rename_i hsome
  rw [hempty, not_not] at hsome
  split
  · next hnamed => simp [hnamed]
  split
  · next hserved => simp [hserved]
  · next hnamed hserved => simp only [hsome, hnamed, hserved, not_false_eq_true, and_self]

namespace MappingTable

def Reached (t : MappingTable) (r : Request) (m : Mapping) : Prop :=
  (∃ reg ∈ t.registrations, reg.mapping = m) ∧ (m.paths.narrow t.options r.path).isSome

def Allows (t : MappingTable) (r : Request) (m : Mapping) : Prop :=
  t.Reached r m ∧ (m.methods.narrow r.method).isSome

def Consumes (t : MappingTable) (r : Request) (m : Mapping) : Prop :=
  t.Allows r m ∧ (m.consumes.narrow r).isSome

def Produces (t : MappingTable) (r : Request) (m : Mapping) : Prop :=
  t.Consumes r m ∧ (m.produces.narrow r).isSome

def MeetsParams (t : MappingTable) (r : Request) (m : Mapping) : Prop :=
  t.Produces r m ∧ (m.params.narrow r).isSome

/-- What a lookup answers when no registration takes the request. -/
structure ExactReason (t : MappingTable) (r : Request) : Prop where
  found_none : t.lookup r = .ok none ↔ (¬ ∃ m, t.Reached r m) ∨
    (∃ m, t.MeetsParams r m) ∧ ∀ m, t.MeetsParams r m → m.headers.narrow r = none
  methodNotAllowed : ∀ method allowed, t.lookup r = .error (.methodNotAllowed method allowed) ↔
    (∃ m, t.Reached r m) ∧ (¬ ∃ m, t.Allows r m) ∧ method = r.method ∧
      Order.Enumerates allowed fun x => ∃ m, t.Reached r m ∧ x ∈ m.methods.methods
  allowed_ne_nil : ∀ method allowed,
    t.lookup r = .error (.methodNotAllowed method allowed) → allowed ≠ []
  unsupportedMediaType : ∀ contentType supported,
    t.lookup r = .error (.unsupportedMediaType contentType supported) ↔
      (∃ m, t.Allows r m) ∧ (¬ ∃ m, t.Consumes r m) ∧
        contentType = (r.header? "content-type").getD MediaType.octetStream.render ∧
        Order.Enumerates supported fun x => ∃ m, t.Allows r m ∧
          ∃ e ∈ m.consumes.expressions, e.negated = false ∧ e.mediaType.render = x
  notAcceptable : ∀ producible, t.lookup r = .error (.notAcceptable producible) ↔
    (∃ m, t.Consumes r m) ∧ (¬ ∃ m, t.Produces r m) ∧
      Order.Enumerates producible fun x => ∃ m, t.Consumes r m ∧
        ∃ e ∈ m.produces.expressions, e.negated = false ∧ e.mediaType.render = x
  unsatisfiedParameters : (∃ conditions, t.lookup r = .error (.unsatisfiedParameters conditions)) ↔
    (∃ m, t.Produces r m) ∧ ¬ ∃ m, t.MeetsParams r m
  conditions : ∀ conditions, t.lookup r = .error (.unsatisfiedParameters conditions) →
    ∀ x, x ∈ conditions ↔ ∃ m, t.Produces r m ∧ m.params.render = x

variable {t : MappingTable} {r : Request}

section Members

variable {m : Mapping}

theorem mem_reachedBy : m ∈ t.reachedBy r ↔ t.Reached r m := by
  rw [reachedBy, List.mem_filter, List.mem_map, Reached]

theorem mem_allowing : m ∈ allowingMethod r (t.reachedBy r) ↔ t.Allows r m := by
  rw [allowingMethod, List.mem_filter, mem_reachedBy, Allows]

theorem mem_consuming :
    m ∈ consumingBody r (allowingMethod r (t.reachedBy r)) ↔ t.Consumes r m := by
  rw [consumingBody, List.mem_filter, mem_allowing, Consumes]

theorem mem_producing :
    m ∈ producingAccepted r (consumingBody r (allowingMethod r (t.reachedBy r))) ↔
      t.Produces r m := by
  rw [producingAccepted, List.mem_filter, mem_consuming, Produces]

theorem mem_meeting :
    m ∈ meetingParams r
        (producingAccepted r (consumingBody r (allowingMethod r (t.reachedBy r)))) ↔
      t.MeetsParams r m := by
  rw [meetingParams, List.mem_filter, mem_producing, MeetsParams]

end Members

theorem enumerates_declaredMethods {ms : List Mapping} {P : Mapping → Prop}
    (h : ∀ {m}, m ∈ ms ↔ P m) :
    Order.Enumerates (declaredMethods ms) fun x => ∃ m, P m ∧ x ∈ m.methods.methods := by
  apply Order.SortedSet.enumerates_ofList
  intro x
  simp only [List.mem_flatMap, h]
  rfl

theorem mem_map_render_positive {s : Order.SortedSet MediaExpression} {x : String} :
    x ∈ (MediaExpression.positive s).map MediaType.render ↔
      ∃ e ∈ s, e.negated = false ∧ e.mediaType.render = x := by
  simp only [MediaExpression.positive, List.mem_map, List.mem_filter, Bool.not_eq_true',
    List.map_map, Function.comp, and_assoc]
  rfl

theorem enumerates_consumable {ms : List Mapping} {P : Mapping → Prop}
    (h : ∀ {m}, m ∈ ms ↔ P m) :
    Order.Enumerates (consumable ms) fun x => ∃ m, P m ∧
      ∃ e ∈ m.consumes.expressions, e.negated = false ∧ e.mediaType.render = x := by
  apply Order.SortedSet.enumerates_ofList
  intro x
  rw [List.map_flatMap, List.mem_flatMap]
  simp only [ConsumesCondition.consumable, mem_map_render_positive, h]

theorem enumerates_producible {ms : List Mapping} {P : Mapping → Prop}
    (h : ∀ {m}, m ∈ ms ↔ P m) :
    Order.Enumerates (producible ms) fun x => ∃ m, P m ∧
      ∃ e ∈ m.produces.expressions, e.negated = false ∧ e.mediaType.render = x := by
  apply Order.SortedSet.enumerates_ofList
  intro x
  rw [List.map_flatMap, List.mem_flatMap]
  simp only [ProducesCondition.producible, mem_map_render_positive, h]

/-- The first condition that none of the mappings passes which passed all before it. -/
inductive Reason (t : MappingTable) (r : Request) : Option LookupError → Prop
  | path (hnone : ¬ ∃ m, t.Reached r m) : Reason t r none
  | method (hsome : ∃ m, t.Reached r m) (hnone : ¬ ∃ m, t.Allows r m) :
    Reason t r (some (.methodNotAllowed r.method (declaredMethods (t.reachedBy r))))
  | body (hsome : ∃ m, t.Allows r m) (hnone : ¬ ∃ m, t.Consumes r m) :
    Reason t r (some (.unsupportedMediaType
      ((r.header? "content-type").getD MediaType.octetStream.render)
      (consumable (allowingMethod r (t.reachedBy r)))))
  | accept (hsome : ∃ m, t.Consumes r m) (hnone : ¬ ∃ m, t.Produces r m) :
    Reason t r (some (.notAcceptable
      (producible (consumingBody r (allowingMethod r (t.reachedBy r))))))
  | params (hsome : ∃ m, t.Produces r m) (hnone : ¬ ∃ m, t.MeetsParams r m) :
    Reason t r (some (.unsatisfiedParameters
      ((producingAccepted r (consumingBody r (allowingMethod r (t.reachedBy r)))).map
        fun m => m.params.render)))
  | headers (hsome : ∃ m, t.MeetsParams r m) : Reason t r none

theorem isEmpty_eq_true_iff {ms : List Mapping} {P : Mapping → Prop} (h : ∀ {m}, m ∈ ms ↔ P m) :
    ms.isEmpty = true ↔ ¬ ∃ m, P m := by
  simp only [List.isEmpty_iff, List.eq_nil_iff_forall_not_mem, h, not_exists]

theorem isEmpty_ne_true_iff {ms : List Mapping} {P : Mapping → Prop} (h : ∀ {m}, m ∈ ms ↔ P m) :
    ¬ ms.isEmpty = true ↔ ∃ m, P m := by
  rw [isEmpty_eq_true_iff h, not_not]

theorem reason_diagnose (t : MappingTable) (r : Request) : t.Reason r (t.diagnose r) := by
  unfold diagnose
  dsimp only
  split
  · next hnone => exact .path ((isEmpty_eq_true_iff mem_reachedBy).1 hnone)
  split
  · next hsome hnone =>
    exact .method ((isEmpty_ne_true_iff mem_reachedBy).1 hsome)
      ((isEmpty_eq_true_iff mem_allowing).1 hnone)
  split
  · next hsome hnone =>
    exact .body ((isEmpty_ne_true_iff mem_allowing).1 hsome)
      ((isEmpty_eq_true_iff mem_consuming).1 hnone)
  split
  · next hsome hnone =>
    exact .accept ((isEmpty_ne_true_iff mem_consuming).1 hsome)
      ((isEmpty_eq_true_iff mem_producing).1 hnone)
  split
  · next hsome hnone =>
    exact .params ((isEmpty_ne_true_iff mem_producing).1 hsome)
      ((isEmpty_eq_true_iff mem_meeting).1 hnone)
  · next hsome => exact .headers ((isEmpty_ne_true_iff mem_meeting).1 hsome)

theorem exists_reached (h : ∃ m, t.Allows r m) : ∃ m, t.Reached r m := h.imp fun _ hm => hm.1

theorem exists_allows (h : ∃ m, t.Consumes r m) : ∃ m, t.Allows r m := h.imp fun _ hm => hm.1

theorem exists_consumes (h : ∃ m, t.Produces r m) : ∃ m, t.Consumes r m := h.imp fun _ hm => hm.1

theorem exists_produces (h : ∃ m, t.MeetsParams r m) : ∃ m, t.Produces r m :=
  h.imp fun _ hm => hm.1

theorem Reason.unique {a b : Option LookupError} (ha : t.Reason r a) (hb : t.Reason r b) :
    a = b := by
  have := exists_reached (t := t) (r := r)
  have := exists_allows (t := t) (r := r)
  have := exists_consumes (t := t) (r := r)
  have := exists_produces (t := t) (r := r)
  cases ha with
  | path | headers => cases hb <;> grind
  | method => cases hb <;> grind
  | body => cases hb <;> grind
  | accept => cases hb <;> grind
  | params => cases hb <;> grind

theorem diagnose_eq_iff {e : Option LookupError} : t.diagnose r = e ↔ t.Reason r e := by
  constructor
  · rintro rfl
    exact reason_diagnose t r
  · exact (reason_diagnose t r).unique

theorem narrow_methods_of_not_allows {m : Mapping} (hm : t.Reached r m)
    (hnot : ¬ ∃ m, t.Allows r m) : m.methods.narrow r.method = none := by
  rw [← Option.not_isSome_iff_eq_none]
  intro hsome
  exact hnot ⟨m, hm, hsome⟩

section Unmatched

variable (hnone : ∀ i n, ¬ t.TakesAt r i n)

include hnone

theorem lookup_of_unmatched :
    t.lookup r = match t.diagnose r with
      | some e => .error e
      | none => .ok none := by
  have hempty : t.candidates r = [] := by
    by_contra hne
    obtain ⟨i, n, h⟩ := candidates_ne_nil.1 hne
    exact hnone i n h
  rw [lookup, hempty]
  rfl

theorem lookup_eq_error_iff {e : LookupError} : t.lookup r = .error e ↔ t.Reason r (some e) := by
  rw [lookup_of_unmatched hnone, ← diagnose_eq_iff]
  cases t.diagnose r with
  | none => simp
  | some e' => simp

theorem lookup_eq_none_iff : t.lookup r = .ok none ↔ t.Reason r none := by
  rw [lookup_of_unmatched hnone, ← diagnose_eq_iff]
  cases t.diagnose r with
  | none => simp
  | some e => simp

theorem narrow_headers_of_meetsParams {m : Mapping} (h : t.MeetsParams r m) :
    m.headers.narrow r = none := by
  obtain ⟨⟨⟨⟨⟨⟨reg, hreg, rfl⟩, hpaths⟩, hmethods⟩, hconsumes⟩, hproduces⟩, hparams⟩ := h
  obtain ⟨paths, hpaths⟩ := Option.isSome_iff_exists.1 hpaths
  obtain ⟨methods, hmethods⟩ := Option.isSome_iff_exists.1 hmethods
  obtain ⟨consumes, hconsumes⟩ := Option.isSome_iff_exists.1 hconsumes
  obtain ⟨produces, hproduces⟩ := Option.isSome_iff_exists.1 hproduces
  obtain ⟨params, hparams⟩ := Option.isSome_iff_exists.1 hparams
  rw [Option.eq_none_iff_forall_ne_some]
  intro headers hheaders
  obtain ⟨i, hi⟩ := List.mem_iff_getElem?.1 hreg
  refine hnone i ⟨reg.mapping.name, paths, methods, params, headers, consumes, produces⟩
    ⟨reg, hi, ?_⟩
  exact Mapping.narrow_eq_some.2
    ⟨rfl, hmethods, hparams, hheaders, hconsumes, hproduces, hpaths⟩

end Unmatched

/-- Where no registration takes the request, the answer names the first condition that is passed
by none of the mappings that passed all before it, with what these mappings declare; there is no
answer where the path reaches none, or where only headers are amiss. -/
theorem exactReason_of_unmatched (hnone : ∀ i n, ¬ t.TakesAt r i n) : t.ExactReason r where
  found_none := by
    rw [lookup_eq_none_iff hnone]
    constructor
    · rintro (hpath | _ | _ | _ | _ | hsome)
      · exact .inl hpath
      · exact .inr ⟨hsome, fun _ hm => narrow_headers_of_meetsParams hnone hm⟩
    · rintro (hpath | ⟨hsome, -⟩)
      · exact .path hpath
      · exact .headers hsome
  methodNotAllowed method allowed := by
    rw [lookup_eq_error_iff hnone]
    constructor
    · rintro ⟨⟩
      next hsome hnot => exact ⟨hsome, hnot, rfl, enumerates_declaredMethods mem_reachedBy⟩
    · rintro ⟨hsome, hnot, rfl, hallowed⟩
      rw [hallowed.unique (enumerates_declaredMethods mem_reachedBy)]
      exact .method hsome hnot
  allowed_ne_nil method allowed h := by
    cases (lookup_eq_error_iff hnone).1 h with
    | method hsome hnot =>
      obtain ⟨m, hm⟩ := hsome
      obtain ⟨⟨x, hx⟩, -⟩ :=
        MethodCondition.narrow_eq_none_iff.1 (narrow_methods_of_not_allows hm hnot)
      exact List.ne_nil_of_mem ((enumerates_declaredMethods mem_reachedBy).mem x |>.2 ⟨m, hm, hx⟩)
  unsupportedMediaType contentType supported := by
    rw [lookup_eq_error_iff hnone]
    constructor
    · rintro ⟨⟩
      next hsome hnot => exact ⟨hsome, hnot, rfl, enumerates_consumable mem_allowing⟩
    · rintro ⟨hsome, hnot, rfl, hsupported⟩
      rw [hsupported.unique (enumerates_consumable mem_allowing)]
      exact .body hsome hnot
  notAcceptable types := by
    rw [lookup_eq_error_iff hnone]
    constructor
    · rintro ⟨⟩
      next hsome hnot => exact ⟨hsome, hnot, enumerates_producible mem_consuming⟩
    · rintro ⟨hsome, hnot, htypes⟩
      rw [htypes.unique (enumerates_producible mem_consuming)]
      exact .accept hsome hnot
  unsatisfiedParameters := by
    constructor
    · rintro ⟨conditions, h⟩
      cases (lookup_eq_error_iff hnone).1 h with
      | params hsome hnot => exact ⟨hsome, hnot⟩
    · rintro ⟨hsome, hnot⟩
      exact ⟨_, (lookup_eq_error_iff hnone).2 (.params hsome hnot)⟩
  conditions conditions h x := by
    cases (lookup_eq_error_iff hnone).1 h with
    | params _ _ => simp only [List.mem_map, mem_producing]

def filesCalls : List (Mapping × Handler) :=
  let files : HandlerType := { name := "Files" }
  let base : Mapping := .ofPaths ⟨[⟨"/files", [.literal "files"]⟩]⟩
  let json : ConsumesCondition := { expressions := .ofList [⟨.applicationJson, false⟩] }
  [({ base with methods := .ofList [.post], consumes := json }, ⟨files, { name := "add" }⟩),
    ({ base with methods := .ofList [.get] }, ⟨files, { name := "list" }⟩)]

def filesTable : MappingTable := (empty {}).registerEach filesCalls

/-- POST without a media type reaches both, and only the one for GET would take the body. -/
theorem exactReason_of_unnamed_body :
    (∀ i n, ¬ filesTable.TakesAt { method := .post, path := "/files" } i n) ∧
      filesTable.ExactReason { method := .post, path := "/files" } ∧
      filesTable.lookup { method := .post, path := "/files" } =
        .error (.unsupportedMediaType "application/octet-stream" ["application/json"]) := by
  have hempty : filesTable.candidates { method := .post, path := "/files" } = [] := rfl
  have hnone : ∀ i n, ¬ filesTable.TakesAt { method := .post, path := "/files" } i n :=
    fun i n h => candidates_ne_nil.2 ⟨i, n, h⟩ hempty
  exact ⟨hnone, exactReason_of_unmatched hnone, rfl⟩

end MappingTable

end RequestRouting
