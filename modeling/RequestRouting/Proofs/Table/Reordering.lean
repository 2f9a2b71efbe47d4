import RequestRouting.Proofs.Order.Distinct
import RequestRouting.Proofs.Table.Candidates
import RequestRouting.Proofs.Table.Consistency

/-! Lookups do not depend on the order of the registrations. Two tables with the same registrations
in different orders have the same best fit for a request or the same tie, and give the same reason
where there is neither. -/
namespace RequestRouting

/-- Equal errors, up to what shows the order of the registrations: which of several handlers are
named, and how a list with one entry for each mapping is ordered. -/
def LookupError.Alike : LookupError → LookupError → Prop
  | .unsatisfiedParameters xs, .unsatisfiedParameters ys => xs.Perm ys
  | .ambiguousHandler path _ _, .ambiguousHandler path' _ _ => path = path'
  | e, e' => e = e'

def AlikeOutcomes : Except LookupError (Option HandlerMatch) →
    Except LookupError (Option HandlerMatch) → Prop
  | .ok m, .ok m' => m = m'
  | .error e, .error e' => e.Alike e'
  | _, _ => False

namespace MappingTable

def registerAll (t : MappingTable) (calls : List (Mapping × Handler)) :
    Except MappingError MappingTable :=
  calls.foldlM (fun t call => (t.register call.1 call.2).result) t

variable {t t' : MappingTable} {r : Request}

structure Reorders (t t' : MappingTable) : Prop where
  options : t.options = t'.options
  registrations : t.registrations.Perm t'.registrations

theorem declaredMethods_eq_of_perm {ms ms' : List Mapping} (h : ms.Perm ms') :
    declaredMethods ms = declaredMethods ms' := by
  unfold declaredMethods
  rw [Order.SortedSet.ofList_eq_of_perm (h.flatMap_right _)]

theorem consumable_eq_of_perm {ms ms' : List Mapping} (h : ms.Perm ms') :
    consumable ms = consumable ms' := by
  unfold consumable
  rw [Order.SortedSet.ofList_eq_of_perm ((h.flatMap_right _).map _)]

theorem producible_eq_of_perm {ms ms' : List Mapping} (h : ms.Perm ms') :
    producible ms = producible ms' := by
  unfold producible
  rw [Order.SortedSet.ofList_eq_of_perm ((h.flatMap_right _).map _)]

theorem Reorders.reachedBy_perm (h : t.Reorders t') (r : Request) :
    (t.reachedBy r).Perm (t'.reachedBy r) := by
  unfold reachedBy
  rw [h.options]
  exact (h.registrations.map _).filter _

theorem Reorders.diagnose (h : t.Reorders t') (r : Request) :
    Option.Rel LookupError.Alike (t.diagnose r) (t'.diagnose r) := by
  have hreached := h.reachedBy_perm r
  have hallowing : (allowingMethod r (t.reachedBy r)).Perm (allowingMethod r (t'.reachedBy r)) :=
    hreached.filter _
  have hconsuming := hallowing.filter fun m => (m.consumes.narrow r).isSome
  have hproducing := hconsuming.filter fun m => (m.produces.narrow r).isSome
  have hmeeting := hproducing.filter fun m => (m.params.narrow r).isSome
  unfold MappingTable.diagnose consumingBody producingAccepted meetingParams
  dsimp only
  rw [← hreached.isEmpty_eq, ← hallowing.isEmpty_eq, ← hconsuming.isEmpty_eq,
    ← hproducing.isEmpty_eq, ← hmeeting.isEmpty_eq]
  split
  · exact .none
  split
  · rw [declaredMethods_eq_of_perm hreached]
    exact .some rfl
  split
  · rw [consumable_eq_of_perm hallowing]
    exact .some rfl
  split
  · rw [producible_eq_of_perm hconsuming]
    exact .some rfl
  split
  · exact .some (hproducing.map _)
  · exact .none

theorem competing_perm {options : Path.MatchOptions}
    {registrations registrations' : List Registration} (h : registrations.Perm registrations') :
    (competing options r registrations).Perm (competing options r registrations') := by
  have hdirect : (taking options r (spellingOut r.path registrations)).Perm
      (taking options r (spellingOut r.path registrations')) :=
    (h.flatMap_right _).filterMap _
  unfold competing
  dsimp only
  rw [hdirect.isEmpty_eq]
  split
  · exact h.filterMap _
  · exact hdirect

theorem Reorders.choose (h : t.Reorders t') {xs ys : List (Registration × Mapping)}
    (hperm : xs.Perm ys) {cs ds : List Candidate}
    (hcs : cs.map Candidate.content = Order.sortBy (compareContent r) xs)
    (hds : ds.map Candidate.content = Order.sortBy (compareContent r) ys) :
    AlikeOutcomes (t.choose r cs) (t'.choose r ds) := by
  have hanswer : ∀ x, t.answerFor r x = t'.answerFor r x := by
    intro x
    unfold answerFor answer
    rw [h.options]
  cases hxs : Order.sortBy (compareContent r) xs with
  | nil =>
    have hys : ys = [] := by
      rw [Order.sortBy_eq_nil.1 hxs] at hperm
      exact hperm.symm.eq_nil
    rw [hxs, List.map_eq_nil_iff] at hcs
    rw [hys, Order.sortBy, List.map_eq_nil_iff] at hds
    have hreason := h.diagnose r
    rw [hcs, hds, MappingTable.choose, MappingTable.choose]
    generalize t.diagnose r = reason at hreason ⊢
    generalize t'.diagnose r = reason' at hreason ⊢
    cases hreason with
    | none => rfl
    | some halike => exact halike
  | cons x rest =>
    by_cases hne : ∀ y ∈ rest.head?, compareContent r x y ≠ .eq
    · obtain ⟨tail, hys, hne'⟩ := Order.sortBy_front_of_perm hperm hxs hne
      rw [choose_of_first (hcs.trans hxs) hne, choose_of_first (hds.trans hys) hne', hanswer]
      rfl
    · push Not at hne
      obtain ⟨x', rest', hys, htie'⟩ := Order.sortBy_tie_of_perm hperm hxs hne
      obtain ⟨y, hy, htie⟩ := hne
      obtain ⟨y', hy', htie'⟩ := htie'
      rw [choose_of_tie (hcs.trans hxs) hy htie, choose_of_tie (hds.trans hys) hy' htie']
      rfl

theorem Reorders.lookup (h : t.Reorders t') (ht : t.Indexed) (ht' : t'.Indexed) (r : Request) :
    AlikeOutcomes (t.lookup r) (t'.lookup r) := by
  have hperm : (competing t.options r t.registrations).Perm
      (competing t'.options r t'.registrations) := by
    rw [h.options]
    exact competing_perm h.registrations
  unfold MappingTable.lookup
  apply h.choose hperm
  · rw [map_content_rank, ht.map_content_candidates]
  · rw [map_content_rank, ht'.map_content_candidates]

theorem registerAll_of_distinct {t : MappingTable} {calls : List (Mapping × Handler)}
    (hnew : ∀ call ∈ calls, t.find? call.1 = none) (hconsistent : t.Consistent)
    (hindexed : t.Indexed) (hdistinct : calls.Pairwise fun a b => a.1.sameConditions b.1 = false) :
    ∃ t', t.registerAll calls = .ok t' ∧ t'.Indexed ∧ t'.options = t.options ∧
      t'.registrations = t.registrations ++ calls.map registrationOf := by
  induction calls generalizing t with
  | nil => exact ⟨t, rfl, hindexed, rfl, by simp⟩
  | cons call rest ih =>
    obtain ⟨hcall, hrest⟩ := List.pairwise_cons.1 hdistinct
    have hnone : t.find? call.1 = none := hnew call List.mem_cons_self
    have hnew' : ∀ other ∈ rest, (t.add call.1 call.2).find? other.1 = none := by
      intro other hother
      rw [hconsistent.find?_add, if_neg (by simp [hcall other hother])]
      exact hnew other (List.mem_cons_of_mem _ hother)
    obtain ⟨t', hall, hindexed', hoptions, hregistrations⟩ :=
      ih hnew' (hconsistent.add hnone call.2) (hindexed.add call.1 call.2) hrest
    refine ⟨t', ?_, hindexed', hoptions, ?_⟩
    · rw [registerAll, List.foldlM_cons, result_register_of_none hnone]
      exact hall
    · rw [hregistrations, List.map_cons, List.append_cons]
      rfl

/-- Mappings with different conditions can be registered in any order, and lookups do not tell
the orders apart. -/
theorem lookup_of_perm {calls calls' : List (Mapping × Handler)} (hperm : calls.Perm calls')
    (hdistinct : calls.Pairwise fun a b => a.1.sameConditions b.1 = false)
    (options : Path.MatchOptions) (r : Request) :
    ∃ t t', (empty options).registerAll calls = .ok t ∧
      (empty options).registerAll calls' = .ok t' ∧ AlikeOutcomes (t.lookup r) (t'.lookup r) := by
  have hdistinct' : calls'.Pairwise fun a b => a.1.sameConditions b.1 = false := by
    apply (hperm.pairwise_iff ?_).1 hdistinct
    intro a b h
    rw [Mapping.sameConditions_comm, h]
  obtain ⟨t, ht, hindexed, hoptions, hregistrations⟩ :=
    registerAll_of_distinct (fun _ _ => rfl) (consistent_empty options) (indexed_empty options)
      hdistinct
  obtain ⟨t', ht', hindexed', hoptions', hregistrations'⟩ :=
    registerAll_of_distinct (fun _ _ => rfl) (consistent_empty options) (indexed_empty options)
      hdistinct'
  have hreorders : t.Reorders t' := by
    constructor
    · rw [hoptions, hoptions']
    · rw [hregistrations, hregistrations']
      exact (hperm.map registrationOf).append_left _
  exact ⟨t, t', ht, ht', hreorders.lookup hindexed hindexed' r⟩

theorem lookup_of_reversed_usersCalls :
    ∃ t t', (empty {}).registerAll usersCalls = .ok t ∧
      (empty {}).registerAll usersCalls.reverse = .ok t' ∧
      AlikeOutcomes (t.lookup { method := .get, path := "/users/me" })
        (t'.lookup { method := .get, path := "/users/me" }) :=
  lookup_of_perm (List.reverse_perm usersCalls).symm (by decide) {} _

end MappingTable

end RequestRouting
