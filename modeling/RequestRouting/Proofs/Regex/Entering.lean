import RequestRouting.Proofs.Regex.Rounds

/-! Where readers stand in an expression, and what sending another one to its beginning changes.
Main definition: `Expr.Completes`, what a reader has still to read. -/
namespace RequestRouting.Regex

namespace Expr

/-- The readers that stand in an expression get to its end with `text`, which is not empty. -/
def Completes : Expr → Marks → Matcher
  | empty, _ | look _, _ => fun _ _ _ => False
  | literal _, marks => fun _ text _ => text ≠ [] ∧ text ∈ marks.rests
  | set s, marks => fun _ text _ => marks ≠ .none ∧ ∃ c, text = [c] ∧ s.contains c = true
  | seq first rest, marks => fun before text after =>
      (first.Completes marks.split.1).Then rest.Matches before text after ∨
        rest.Completes marks.split.2 before text after
  | alt first rest, marks => fun before text after =>
      first.Completes marks.split.1 before text after ∨
        rest.Completes marks.split.2 before text after
  | repeated body min max _, marks => fun before text after =>
      ∃ entry ∈ marks.running,
        RoundCompletes body.Completes body.Matches (body.owedRounds min) max entry before text after
  | group _ body, marks => body.Completes marks

variable {e : Expr} {marks : Marks} {before text after : List Char}

theorem Completes.ne_nil (h : e.Completes marks before text after) : text ≠ [] := by
  induction e generalizing marks before text after with
  | empty | look => exact h.elim
  | literal chars => exact h.1
  | set s =>
    obtain ⟨-, c, rfl, -⟩ := h
    simp
  | seq first rest ihFirst ihRest =>
    obtain ⟨x, y, rfl, hx, -⟩ | h := h
    · simp [ihFirst hx]
    · exact ihRest h
  | alt first rest ihFirst ihRest => exact h.elim ihFirst ihRest
  | repeated body min max isLazy ih =>
    obtain ⟨entry, -, left, -, x, y, rfl, hx, -⟩ := h
    simp [ih hx]
  | group number body ih => exact ih h

theorem not_completes_none : ¬e.Completes .none before text after := by
  induction e generalizing before text after with
  | empty | look => exact id
  | literal chars => simp [Completes, Marks.rests]
  | set s => simp [Completes]
  | seq first rest ihFirst ihRest =>
    rintro (⟨x, y, -, hx, -⟩ | h)
    · exact ihFirst hx
    · exact ihRest h
  | alt first rest ihFirst ihRest =>
    rintro (h | h)
    · exact ihFirst h
    · exact ihRest h
  | repeated body min max isLazy ih => simp [Completes, Marks.running]
  | group number body ih => exact ih

section Repeated

variable {body : Expr} {owed n min : Nat} {max : Option Nat} {isLazy : Bool}

theorem not_roundCompletes_none {m : Matcher} :
    ¬RoundCompletes body.Completes m owed max (n, .none) before text after := by
  rintro ⟨left, -, x, y, -, h, -⟩
  exact not_completes_none h

theorem roundCompletes_enter
    (h : ∀ {marks text after},
      body.Completes (body.enter (placeBetween before (text ++ after)) marks).1 before text after ↔
        body.Completes marks before text after ∨ body.Matches.reading before text after) :
    RoundCompletes body.Completes body.Matches owed max
        (n, (body.enter (placeBetween before (text ++ after)) marks).1) before text after ↔
      RoundCompletes body.Completes body.Matches owed max (n, marks) before text after ∨
        RoundBegins body.Matches owed max n before text after := by
  have hthen (left : Nat) := Matcher.then_or (k := body.Matches.Rounds left)
    (m := body.Completes (body.enter (placeBetween before (text ++ after)) marks).1)
    fun x y (hxy : text = x ++ y) => by
      rw [hxy, List.append_assoc]
      exact h
  simp only [RoundCompletes, RoundBegins, hthen]
  grind

theorem owedRounds_le_max (hwf : (repeated body min max isLazy).WellFormed) :
    ∀ m ∈ max, body.owedRounds min ≤ m :=
  fun m hm => Nat.le_trans (owedRounds_le body min) (hwf.2 m hm).1

theorem matches_repeated_nil (hwf : (repeated body min max isLazy).WellFormed) :
    (repeated body min max isLazy).Matches before [] after ↔
      body.owedRounds min = 0 ∨ body.Matches before [] after := by
  simp only [matches_repeated_iff hwf, Matcher.rounds_nil]
  constructor
  · rintro ⟨n, hn, -, rfl | h⟩
    · exact .inl (by omega)
    · exact .inr h
  · rintro (h | h)
    · exact ⟨0, by omega, by simp, .inl rfl⟩
    · exact ⟨_, Nat.le_refl _, owedRounds_le_max hwf, .inr h⟩

theorem reading_repeated_iff (hwf : (repeated body min max isLazy).WellFormed) :
    (repeated body min max isLazy).Matches.reading before text after ↔
      ∃ skipped left, (body.owedRounds min ≤ skipped + 1 + left ∧
          ∀ m ∈ max, skipped + 1 + left ≤ m) ∧
        body.Matches.Enters skipped left before text after := by
  rw [Matcher.reading, matches_repeated_iff hwf]
  constructor
  · rintro ⟨htext, n, hmin, hmax, hrounds⟩
    obtain ⟨skipped, left, rfl, he⟩ := (Matcher.rounds_iff_enters htext).1 hrounds
    exact ⟨skipped, left, ⟨hmin, hmax⟩, he⟩
  · rintro ⟨skipped, left, ⟨hmin, hmax⟩, he⟩
    have htext := Matcher.ne_nil_of_reading_then he.2
    exact ⟨htext, _, hmin, hmax, (Matcher.rounds_iff_enters htext).2 ⟨skipped, left, rfl, he⟩⟩

theorem exists_roundBegins_iff (hwf : (repeated body min max isLazy).WellFormed) :
    (∃ i ≤ body.owedRounds min - 1, (i = 0 ∨ body.Matches before [] (text ++ after)) ∧
        RoundBegins body.Matches (body.owedRounds min) max (0 + i) before text after) ↔
      (repeated body min max isLazy).Matches.reading before text after := by
  have hpos : ∀ m ∈ max, 0 < m := fun m hm => (hwf.2 m hm).2
  rw [reading_repeated_iff hwf]
  simpa only [RoundBegins, Matcher.Enters, Nat.zero_add, Nat.sub_zero] using
    exists_roundsAllowed_iff hpos (owedRounds_le_max hwf)

end Repeated

theorem enter_seq_through {place : Place} {first rest : Expr} :
    ((seq first rest).enter place marks).2 = true ↔
      (first.enter place marks.split.1).2 = true ∧ (rest.enter place marks.split.2).2 = true := by
  simp only [enter]
  split <;> simp_all

theorem split_enter_seq {place : Place} {first rest : Expr} :
    ((seq first rest).enter place marks).1.split = ((first.enter place marks.split.1).1,
      if (first.enter place marks.split.1).2 then (rest.enter place marks.split.2).1
      else marks.split.2) := by
  simp only [enter]
  split <;> simp_all

/-- A reader leaves an expression at once when the empty text matches. -/
theorem enter_through (hwf : e.WellFormed) (marks : Marks) :
    (e.enter (placeBetween before after) marks).2 = true ↔ e.Matches before [] after := by
  induction e generalizing marks with
  | empty => simp [enter, Matches]
  | literal chars => simp [enter, Matches, hwf.symm]
  | set s => simp [enter, Matches]
  | look condition => simp [enter, Matches]
  | seq first rest ihFirst ihRest =>
    rw [enter_seq_through, ihFirst hwf.1, ihRest hwf.2, Matches, Matcher.then_nil]
  | alt first rest ihFirst ihRest =>
    simp only [enter, Matches, Bool.or_eq_true, ihFirst hwf.1, ihRest hwf.2]
  | repeated body min max isLazy ih =>
    simp only [matches_repeated_nil hwf, enter, Bool.or_eq_true, beq_iff_eq,
      Marks.enterRounds_through (ih hwf.1)]
  | group number body ih => exact ih hwf marks

theorem roundCompletes_enterRounds {body : Expr} {min : Nat} {max : Option Nat} {isLazy : Bool}
    (hwf : (repeated body min max isLazy).WellFormed)
    (h : ∀ {marks text after},
      body.Completes (body.enter (placeBetween before (text ++ after)) marks).1 before text after ↔
        body.Completes marks before text after ∨ body.Matches.reading before text after)
    (running : List (Nat × Marks)) :
    (∃ entry ∈ (Marks.enterRounds (body.enter (placeBetween before (text ++ after)))
          (body.owedRounds min - 1) 0 running).1,
        RoundCompletes body.Completes body.Matches (body.owedRounds min) max entry
          before text after) ↔
      (∃ entry ∈ running, RoundCompletes body.Completes body.Matches (body.owedRounds min) max entry
          before text after) ∨
        (repeated body min max isLazy).Matches.reading before text after := by
  rw [Marks.exists_mem_enterRounds (fun n => not_roundCompletes_none) (enter_through hwf.1)
    fun n marks => roundCompletes_enter h]
  exact or_congr_right (exists_roundBegins_iff hwf)

/-- Entering adds the matches that read something. -/
theorem completes_enter (hwf : e.WellFormed) :
    e.Completes (e.enter (placeBetween before (text ++ after)) marks).1 before text after ↔
      e.Completes marks before text after ∨ e.Matches.reading before text after := by
  induction e generalizing marks before text after with
  | empty => simp [Completes, Matches, Matcher.reading]
  | literal chars =>
    simp only [enter, Completes, Matches, Matcher.reading, Marks.rests_ahead, ← and_or_left]
    refine and_congr_right fun _ => ?_
    split
    · have hmem : chars ∈ marks.rests := List.mem_of_mem_head? ‹_›
      grind
    · simp [or_comm]
  | set s =>
    simp only [enter, Completes, Matches, Matcher.reading]
    grind
  | look condition => simp +contextual [Completes, Matches, Matcher.reading]
  | seq first rest ihFirst ihRest =>
    simp only [Completes, Matches, split_enter_seq]
    rw [Matcher.then_or fun x y hxy => by
        rw [hxy, List.append_assoc]
        exact ihFirst hwf.1,
      Matcher.reading_then_iff, ← enter_through hwf.1 marks.split.1]
    split
    · rw [ihRest hwf.2]
      grind
    · grind
  | alt first rest ihFirst ihRest =>
    simp only [enter, Completes, Matches, Marks.split_pair, ihFirst hwf.1, ihRest hwf.2]
    simp only [Matcher.reading]
    grind
  | repeated body min max isLazy ih =>
    simp only [enter, Completes, Marks.running_ofRounds]
    exact roundCompletes_enterRounds hwf (ih hwf.1) marks.running
  | group number body ih => exact ih hwf

end Expr

end RequestRouting.Regex
