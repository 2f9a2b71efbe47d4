import RequestRouting.Proofs.Regex.Matching
import RequestRouting.Regex.Reader

/-! Building expressions in normal form: a sequence means its parts one behind the other, and
what is built from well-formed expressions is well-formed. -/
namespace RequestRouting.Regex

namespace Expr

variable {e : Expr} {es : List Expr} {before text after : List Char}

def MatchesAll : List Expr → Matcher
  | [] => fun _ text _ => text = []
  | e :: es => e.Matches.Then (MatchesAll es)

@[simp] theorem matchesAll_nil : MatchesAll [] before text after ↔ text = [] := Iff.rfl

@[simp] theorem matchesAll_cons :
    MatchesAll (e :: es) before text after ↔ e.Matches.Then (MatchesAll es) before text after :=
  Iff.rfl

theorem matchesAll_append {ds : List Expr} :
    MatchesAll (ds ++ es) before text after ↔
      (MatchesAll ds).Then (MatchesAll es) before text after := by
  induction ds generalizing before text after with
  | nil =>
    constructor
    · exact fun h => ⟨[], text, rfl, rfl, by simpa using h⟩
    · rintro ⟨_, y, rfl, rfl, h⟩
      simpa using h
  | cons d ds ih =>
    rw [List.cons_append, matchesAll_cons, MatchesAll, Matcher.then_assoc]
    exact Matcher.then_congr (fun _ _ _ => Iff.rfl) fun _ _ _ => ih

theorem matchesAll_singleton : MatchesAll [e] before text after ↔ e.Matches before text after := by
  simp [Matcher.Then]

theorem matchesAll_parts : MatchesAll e.parts before text after ↔ e.Matches before text after := by
  induction e generalizing before text after with
  | empty => rfl
  | seq first rest ihFirst ihRest =>
    exact Matcher.then_congr (fun _ _ _ => Iff.rfl) fun _ _ _ => ihRest
  | literal | set | look | alt | repeated | group => exact matchesAll_singleton

theorem matchesAll_flatMap_parts :
    MatchesAll (es.flatMap parts) before text after ↔ MatchesAll es before text after := by
  induction es generalizing before text after with
  | nil => rfl
  | cons e es ih =>
    rw [List.flatMap_cons, matchesAll_append]
    exact Matcher.then_congr (fun _ _ _ => matchesAll_parts) fun _ _ _ => ih

theorem matchesAll_literals {s t : List Char} :
    MatchesAll (literal (s ++ t) :: es) before text after ↔
      MatchesAll (literal s :: literal t :: es) before text after := by
  simp only [MatchesAll, ← Matcher.then_assoc]
  exact Matcher.then_congr (fun _ _ _ => by simp [Matches, Matcher.Then]) fun _ _ _ => Iff.rfl

theorem joinLiterals_cons (e : Expr) (es : List Expr) :
    (∃ s t rest, e = literal s ∧ joinLiterals es = literal t :: rest ∧
        joinLiterals (e :: es) = literal (s ++ t) :: rest) ∨
      joinLiterals (e :: es) = e :: joinLiterals es := by
  by_cases hjoin : (∃ s, e = literal s) ∧ ∃ t rest, joinLiterals es = literal t :: rest
  · obtain ⟨⟨s, rfl⟩, t, rest, hes⟩ := hjoin
    exact .inl ⟨s, t, rest, rfl, hes, by simp only [joinLiterals, hes]⟩
  · exact .inr (joinLiterals.eq_3 _ _ fun s t rest hs ht => hjoin ⟨⟨s, hs⟩, t, rest, ht⟩)

theorem matchesAll_joinLiterals :
    MatchesAll (joinLiterals es) before text after ↔ MatchesAll es before text after := by
  induction es generalizing before text after with
  | nil => rfl
  | cons e es ih =>
    have hcons : MatchesAll (e :: joinLiterals es) before text after ↔
        MatchesAll (e :: es) before text after :=
      Matcher.then_congr (fun _ _ _ => Iff.rfl) fun _ _ _ => ih
    rw [← hcons]
    obtain ⟨s, t, rest, rfl, hes, heq⟩ | heq := joinLiterals_cons e es
    · rw [heq, hes, matchesAll_literals]
    · rw [heq]

theorem matches_ofParts : (ofParts es).Matches before text after ↔
    MatchesAll es before text after := by
  induction es generalizing before text after with
  | nil => rfl
  | cons e es ih =>
    cases es with
    | nil => exact matchesAll_singleton.symm
    | cons d es => exact Matcher.then_congr (fun _ _ _ => Iff.rfl) fun _ _ _ => ih

theorem matches_concat : (concat es).Matches before text after ↔
    MatchesAll es before text after := by
  rw [concat, matches_ofParts, matchesAll_joinLiterals, matchesAll_flatMap_parts]

theorem wellFormed_of_mem_parts {p : Expr} (h : e.WellFormed) (hp : p ∈ e.parts) :
    p.WellFormed := by
  induction e with
  | empty => simp [parts] at hp
  | seq first rest ihFirst ihRest =>
    obtain rfl | hp := List.mem_cons.1 hp
    · exact h.1
    · exact ihRest h.2 hp
  | literal | set | look | alt | repeated | group =>
    obtain rfl := List.mem_singleton.1 hp
    exact h

theorem wellFormed_of_mem_branches {p : Expr} (h : e.WellFormed) (hp : p ∈ e.branches) :
    p.WellFormed := by
  induction e with
  | alt first rest ihFirst ihRest =>
    obtain rfl | hp := List.mem_cons.1 hp
    · exact h.1
    · exact ihRest h.2 hp
  | empty | literal | set | look | seq | repeated | group =>
    obtain rfl := List.mem_singleton.1 hp
    exact h

theorem wellFormed_of_mem_joinLiterals {p : Expr} (h : ∀ e ∈ es, e.WellFormed)
    (hp : p ∈ joinLiterals es) : p.WellFormed := by
  induction es generalizing p with
  | nil => simp [joinLiterals] at hp
  | cons e es ih =>
    have hes {p : Expr} (hp : p ∈ joinLiterals es) : p.WellFormed :=
      ih (fun d hd => h d (List.mem_cons_of_mem _ hd)) hp
    obtain ⟨s, t, rest, rfl, hes', heq⟩ | heq := joinLiterals_cons e es
    · rw [heq] at hp
      rw [hes'] at hes
      obtain rfl | hp := List.mem_cons.1 hp
      · have hs : s ≠ [] := h (literal s) (by simp)
        simp [WellFormed, hs]
      · exact hes (List.mem_cons_of_mem _ hp)
    · rw [heq] at hp
      obtain rfl | hp := List.mem_cons.1 hp
      · exact h _ (by simp)
      · exact hes hp

theorem wellFormed_ofParts (h : ∀ e ∈ es, e.WellFormed) : (ofParts es).WellFormed := by
  induction es with
  | nil => trivial
  | cons e es ih =>
    have hes := ih fun d hd => h d (List.mem_cons_of_mem _ hd)
    cases es with
    | nil => exact h e (by simp)
    | cons d es => exact ⟨h e (by simp), hes⟩

theorem wellFormed_ofBranches (h : ∀ e ∈ es, e.WellFormed) : (ofBranches es).WellFormed := by
  induction es with
  | nil => trivial
  | cons e es ih =>
    have hes := ih fun d hd => h d (List.mem_cons_of_mem _ hd)
    cases es with
    | nil => exact h e (by simp)
    | cons d es => exact ⟨h e (by simp), hes⟩

theorem wellFormed_concat (h : ∀ e ∈ es, e.WellFormed) : (concat es).WellFormed := by
  refine wellFormed_ofParts fun p hp => wellFormed_of_mem_joinLiterals (fun q hq => ?_) hp
  obtain ⟨e, he, hq⟩ := List.mem_flatMap.1 hq
  exact wellFormed_of_mem_parts (h e he) hq

theorem wellFormed_ofSet (s : CharSet) : (ofSet s).WellFormed := by
  unfold ofSet
  split <;> simp [WellFormed]

theorem mem_of_mem_commonPrefix {p : Expr} {ds es : List Expr} (h : p ∈ commonPrefix ds es) :
    p ∈ ds := by
  induction ds generalizing es with
  | nil => simp [commonPrefix] at h
  | cons d ds ih =>
    cases es with
    | nil => simp [commonPrefix] at h
    | cons e es =>
      rw [commonPrefix] at h
      split at h
      · obtain rfl | h := List.mem_cons.1 h
        · simp
        · exact List.mem_cons_of_mem _ (ih h)
      · simp at h

theorem mem_of_mem_foldl_commonPrefix {p : Expr} {ds : List Expr}
    (h : p ∈ es.foldl (fun shared e => commonPrefix shared e.parts) ds) : p ∈ ds := by
  induction es generalizing ds with
  | nil => exact h
  | cons e es ih => exact mem_of_mem_commonPrefix (ih h)

theorem wellFormed_of_mem_sharedParts {p : Expr} (h : ∀ e ∈ es, e.WellFormed)
    (hp : p ∈ sharedParts es) : p.WellFormed := by
  cases es with
  | nil => simp [sharedParts] at hp
  | cons e es =>
    rw [sharedParts] at hp
    split at hp
    · exact wellFormed_of_mem_parts (h e (by simp)) (mem_of_mem_foldl_commonPrefix hp)
    · simp at hp

theorem wellFormed_alternationWith {fuel : Nat} (h : ∀ e ∈ es, e.WellFormed) :
    (alternationWith fuel es).WellFormed := by
  induction fuel generalizing es with
  | zero => exact wellFormed_ofBranches h
  | succ fuel ih =>
    have hbranches : ∀ e ∈ es.flatMap branches, e.WellFormed := by
      intro p hp
      obtain ⟨e, he, hp⟩ := List.mem_flatMap.1 hp
      exact wellFormed_of_mem_branches (h e he) hp
    rw [alternationWith.eq_def]
    dsimp only
    split
    · exact hbranches _ (by simp [*])
    · exact wellFormed_ofSet _
    · exact wellFormed_ofBranches hbranches
    · refine wellFormed_concat fun p hp => ?_
      obtain hp | hp := List.mem_append.1 hp
      · exact wellFormed_of_mem_sharedParts hbranches hp
      · obtain rfl := List.mem_singleton.1 hp
        refine ih fun p hp => ?_
        obtain ⟨e, he, rfl⟩ := List.mem_map.1 hp
        exact wellFormed_concat fun q hq =>
          wellFormed_of_mem_parts (hbranches e he) (List.mem_of_mem_drop hq)

theorem wellFormed_alternation (h : ∀ e ∈ es, e.WellFormed) : (alternation es).WellFormed :=
  wellFormed_alternationWith h

theorem wellFormed_repeated {min : Nat} {max : Option Nat} {isLazy : Bool} (h : e.WellFormed)
    (hbounds : ∀ m ∈ max, min ≤ m) (hnone : min = 0 → max ≠ some 0) :
    (repeated e min max isLazy).WellFormed := by
  refine ⟨h, fun m hm => ⟨hbounds m hm, Nat.pos_of_ne_zero ?_⟩⟩
  rintro rfl
  exact hnone (Nat.le_zero.1 (hbounds 0 hm)) hm

theorem wellFormed_repetition {min : Nat} {max : Option Nat} {isLazy : Bool} (h : e.WellFormed)
    (hbounds : ∀ m ∈ max, min ≤ m) : (repetition e min max isLazy).WellFormed := by
  by_cases hread : e.maxLength? = some 0
  · have hle : ∀ m ∈ some (Nat.min (max.getD 1) 1), Nat.min min 1 ≤ m := by
      intro m hm
      obtain rfl := Option.some.inj hm
      cases max with
      | none => exact Nat.min_le_right _ _
      | some m => exact Nat.le_min.2 ⟨Nat.le_trans (Nat.min_le_left _ _) (hbounds m rfl),
          Nat.min_le_right _ _⟩
    simp only [repetition, hread, if_true]
    split
    · trivial
    · exact h
    · exact wellFormed_repeated h hle ‹_›
  · simp only [repetition, hread, if_false]
    split
    · trivial
    · exact h
    · exact wellFormed_repeated h hbounds ‹_›

end Expr

end RequestRouting.Regex
