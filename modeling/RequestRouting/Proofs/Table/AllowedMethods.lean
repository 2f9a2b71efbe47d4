import RequestRouting.Proofs.Table.Diagnosis

/-! Requests that are refused because of their method. The methods that a refusal lists would get
further, and so would HEAD where it lists GET; any other method is refused with the same list. -/
namespace RequestRouting

def Request.withMethod (r : Request) (method : Method) : Request := { r with method }

namespace MappingTable

variable {t : MappingTable} {r : Request}

theorem exists_allows_of_takesAt {i : Nat} {n : Mapping} (h : t.TakesAt r i n) :
    ∃ m, t.Allows r m := by
  obtain ⟨reg, hreg, hn⟩ := h
  obtain ⟨-, hmethods, -, -, -, -, hpaths⟩ := Mapping.narrow_eq_some.1 hn
  refine ⟨reg.mapping, ⟨⟨reg, List.mem_of_getElem? hreg, rfl⟩, ?_⟩, ?_⟩
  · exact Option.isSome_of_eq_some hpaths
  · exact Option.isSome_of_eq_some hmethods

theorem not_resolves_of_methodNotAllowed {method : Method} {allowed : List Method}
    (h : t.lookup r = .error (.methodNotAllowed method allowed)) : ¬ t.Resolves r := by
  rintro (⟨m, hm⟩ | ⟨path, first, second, hambiguous⟩)
  · rw [h] at hm
    contradiction
  · rw [h] at hambiguous
    cases Except.error.inj hambiguous

theorem lookup_eq_methodNotAllowed_iff {method : Method} {allowed : List Method} :
    t.lookup r = .error (.methodNotAllowed method allowed) ↔
      (∃ m, t.Reached r m) ∧ (¬ ∃ m, t.Allows r m) ∧ method = r.method ∧
        allowed = declaredMethods (t.reachedBy r) := by
  constructor
  · intro h
    have hnone : ∀ i n, ¬ t.TakesAt r i n := fun i n htakes =>
      not_resolves_of_methodNotAllowed h (resolves_iff.2 (candidates_ne_nil.2 ⟨i, n, htakes⟩))
    cases (lookup_eq_error_iff hnone).1 h with
    | method hsome hnot => exact ⟨hsome, hnot, rfl, rfl⟩
  · rintro ⟨hsome, hnot, rfl, rfl⟩
    have hnone : ∀ i n, ¬ t.TakesAt r i n := fun _ _ htakes =>
      hnot (exists_allows_of_takesAt htakes)
    exact (lookup_eq_error_iff hnone).2 (.method hsome hnot)

theorem not_allows_withMethod_iff (hnot : ¬ ∃ m, t.Allows r m) {method : Method} :
    (¬ ∃ m, t.Allows (r.withMethod method) m) ↔
      method ∉ declaredMethods (t.reachedBy r) ∧
        ¬ (method = .head ∧ .get ∈ declaredMethods (t.reachedBy r)) := by
  have hdeclared : ∀ x, x ∈ declaredMethods (t.reachedBy r) ↔
      ∃ m, t.Reached r m ∧ x ∈ m.methods.methods := (enumerates_declaredMethods mem_reachedBy).mem
  rw [hdeclared, hdeclared]
  constructor
  · intro hnot'
    have hrefuses : ∀ m, t.Reached r m → method ∉ m.methods.methods ∧
        ¬ (method = .head ∧ .get ∈ m.methods.methods) := fun m hm =>
      (MethodCondition.narrow_eq_none_iff.1
        (narrow_methods_of_not_allows (r := r.withMethod method) hm hnot')).2
    constructor
    · rintro ⟨m, hm, hnamed⟩
      exact (hrefuses m hm).1 hnamed
    · rintro ⟨hhead, m, hm, hget⟩
      exact (hrefuses m hm).2 ⟨hhead, hget⟩
  · rintro ⟨hnamed, hserved⟩ ⟨m, hm, hallows⟩
    have hnone : m.methods.narrow method = none := by
      obtain ⟨hnonempty, -⟩ := MethodCondition.narrow_eq_none_iff.1
        (narrow_methods_of_not_allows (r := r) hm hnot)
      rw [MethodCondition.narrow_eq_none_iff]
      refine ⟨hnonempty, fun h => hnamed ⟨m, hm, h⟩, ?_⟩
      rintro ⟨hhead, hget⟩
      exact hserved ⟨hhead, m, hm, hget⟩
    have hsome : (m.methods.narrow method).isSome := hallows
    rw [hnone] at hsome
    contradiction

/-- With another method a refused request is refused again, with the same list, exactly when the
list has neither that method nor, in case of HEAD, GET. -/
theorem lookup_withMethod_of_methodNotAllowed {method : Method} {allowed : List Method}
    (h : t.lookup r = .error (.methodNotAllowed method allowed)) (other : Method) :
    ((∃ method' allowed', t.lookup (r.withMethod other) =
        .error (.methodNotAllowed method' allowed')) ↔
      other ∉ allowed ∧ ¬ (other = .head ∧ .get ∈ allowed)) ∧
    ∀ method' allowed', t.lookup (r.withMethod other) =
      .error (.methodNotAllowed method' allowed') → method' = other ∧ allowed' = allowed := by
  obtain ⟨hsome, hnot, rfl, rfl⟩ := lookup_eq_methodNotAllowed_iff.1 h
  rw [← not_allows_withMethod_iff hnot]
  constructor
  · constructor
    · rintro ⟨method', allowed', h'⟩
      exact (lookup_eq_methodNotAllowed_iff.1 h').2.1
    · intro hnot'
      exact ⟨_, _, lookup_eq_methodNotAllowed_iff.2 ⟨hsome, hnot', rfl, rfl⟩⟩
  · intro method' allowed' h'
    obtain ⟨-, -, hmethod, hallowed⟩ := lookup_eq_methodNotAllowed_iff.1 h'
    exact ⟨hmethod, hallowed⟩

theorem head_allowed_at_files :
    filesTable.lookup { method := .delete, path := "/files" } =
        .error (.methodNotAllowed .delete [.get, .post]) ∧
      ¬ ∃ method allowed, filesTable.lookup { method := .head, path := "/files" } =
        .error (.methodNotAllowed method allowed) := by
  have h : filesTable.lookup { method := .delete, path := "/files" } =
      .error (.methodNotAllowed .delete [.get, .post]) := rfl
  refine ⟨h, fun hrefused => ?_⟩
  exact ((lookup_withMethod_of_methodNotAllowed h .head).1.1 hrefused).2 ⟨rfl, by decide⟩

end MappingTable

end RequestRouting
