import RequestRouting.Proofs.Regex.Matching

/-! The rounds of a repetition in a run: what sending a reader into them and reading a character
in them do to any property of the rounds, and how many rounds may follow a completed one. -/
namespace RequestRouting.Regex

namespace Marks

@[simp] theorem split_pair (m n : Marks) : (pair m n).split = (m, n) := by
  cases m <;> cases n <;> rfl

@[simp] theorem running_ofRounds (running : List (Nat × Marks)) :
    (ofRounds running).running = running := by
  cases running <;> rfl

@[simp] theorem rests_ahead (rests : List (List Char)) : (ahead rests).rests = rests :=
  rfl

@[simp] theorem rests_ofRests (rests : List (List Char)) : (ofRests rests).rests = rests := by
  cases rests <;> rfl

section Rounds

variable {enter : Marks → Marks × Bool} {P : Nat × Marks → Prop} {Q : Nat → Prop} {thr : Prop}
  {done : Nat} {marks : Marks} {running later : List (Nat × Marks)}

theorem exists_mem_addRound (hnone : ∀ n, ¬P (n, none)) :
    (∃ entry ∈ addRound done marks later, P entry) ↔
      P (done, marks) ∨ ∃ entry ∈ later, P entry := by
  cases marks <;> simp [addRound, hnone]

def takeRound (done : Nat) (running : List (Nat × Marks)) : Marks × List (Nat × Marks) :=
  match running with
  | (n, marks) :: later => if n = done then (marks, later) else (none, running)
  | [] => (none, [])

theorem exists_mem_takeRound (done : Nat) (running : List (Nat × Marks))
    (hnone : ∀ n, ¬P (n, none)) :
    (∃ entry ∈ running, P entry) ↔
      P (done, (takeRound done running).1) ∨ ∃ entry ∈ (takeRound done running).2, P entry := by
  cases running with
  | nil => simp [takeRound, hnone]
  | cons entry later =>
    by_cases h : entry.1 = done
    · subst h
      simp [takeRound]
    · simp [takeRound, h, hnone]

theorem enterRounds_zero : enterRounds enter 0 done running =
    (addRound done (enter (takeRound done running).1).1 (takeRound done running).2,
      (enter (takeRound done running).1).2) :=
  rfl

theorem enterRounds_succ (owed : Nat) : enterRounds enter (owed + 1) done running =
    if (enter (takeRound done running).1).2 then
      (addRound done (enter (takeRound done running).1).1
          (enterRounds enter owed (done + 1) (takeRound done running).2).1,
        (enterRounds enter owed (done + 1) (takeRound done running).2).2)
    else
      (addRound done (enter (takeRound done running).1).1 (takeRound done running).2, false) :=
  rfl

theorem enterRounds_through (hthr : ∀ marks, (enter marks).2 = true ↔ thr) (owed : Nat) :
    (enterRounds enter owed done running).2 = true ↔ thr := by
  induction owed generalizing done running with
  | zero => simp [enterRounds_zero, hthr]
  | succ owed ih =>
    rw [enterRounds_succ]
    split <;> simp_all

theorem exists_le_succ {p : Nat → Prop} {n : Nat} :
    (∃ i ≤ n + 1, p i) ↔ p 0 ∨ ∃ i ≤ n, p (i + 1) := by
  constructor
  · rintro ⟨_ | i, hi, h⟩
    · exact .inl h
    · exact .inr ⟨i, by omega, h⟩
  · rintro (h | ⟨i, hi, h⟩)
    · exact ⟨0, by omega, h⟩
    · exact ⟨i + 1, by omega, h⟩

theorem exists_mem_enterRounds (hnone : ∀ n, ¬P (n, none))
    (hthr : ∀ marks, (enter marks).2 = true ↔ thr)
    (henter : ∀ n marks, P (n, (enter marks).1) ↔ P (n, marks) ∨ Q n) (owed : Nat) :
    (∃ entry ∈ (enterRounds enter owed done running).1, P entry) ↔
      (∃ entry ∈ running, P entry) ∨ ∃ i ≤ owed, (i = 0 ∨ thr) ∧ Q (done + i) := by
  induction owed generalizing done running with
  | zero =>
    have hfirst : (∃ i ≤ 0, (i = 0 ∨ thr) ∧ Q (done + i)) ↔ Q done := by
      simp only [Nat.le_zero_eq, exists_eq_left, true_or, true_and, Nat.add_zero]
    rw [enterRounds_zero, exists_mem_takeRound done running hnone, exists_mem_addRound hnone,
      henter, hfirst]
    exact or_right_comm
  | succ owed ih =>
    rw [enterRounds_succ, exists_mem_takeRound done running hnone, exists_le_succ]
    by_cases h : thr
    · simp only [(hthr _).2 h, if_true, exists_mem_addRound hnone, henter, ih, h, or_true,
        true_and, Nat.add_zero, Nat.add_assoc, Nat.add_comm 1]
      grind
    · rw [if_neg (mt (hthr _).1 h), exists_mem_addRound hnone, henter]
      simp only [h, Nat.succ_ne_zero, or_false, false_and, and_false, exists_false, true_and,
        Nat.add_zero]
      grind

def nextRound (min : Nat) (max : Option Nat) (done : Nat) : Nat :=
  if max.isSome then done + 1 else Nat.min (done + 1) (min - 1)

theorem any_le_iff {max : Option Nat} {n : Nat} :
    max.any (· ≤ n) = true ↔ ¬∀ m ∈ max, n < m := by
  cases max <;> simp

theorem le_of_nextRound_eq {min : Nat} {max : Option Nat} (h : nextRound min max done = done) :
    min ≤ done + 1 := by
  have hmin : Nat.min (done + 1) (min - 1) = Min.min (done + 1) (min - 1) := rfl
  unfold nextRound at h
  split at h <;> omega

section Step

variable {read : Marks → Marks × Bool} {min : Nat} {max : Option Nat}

theorem stepRounds_cons : stepRounds read enter min max ((done, marks) :: later) =
    if (read marks).2 then
      if max.any (· ≤ done + 1) then
        (addRound done (read marks).1 (stepRounds read enter min max later).1, true)
      else if nextRound min max done = done then
        (addRound done (enter (read marks).1).1 (stepRounds read enter min max later).1, true)
      else
        let entered := enterRounds enter (min - 1 - nextRound min max done)
          (nextRound min max done) (stepRounds read enter min max later).1
        (addRound done (read marks).1 entered.1,
          (stepRounds read enter min max later).2 || min ≤ done + 1 || entered.2)
    else (addRound done (read marks).1 (stepRounds read enter min max later).1,
      (stepRounds read enter min max later).2) := by
  rfl

theorem exists_mem_stepRounds {P' : Nat × Marks → Prop} (hnone : ∀ n, ¬P' (n, none))
    (hthr : ∀ marks, (enter marks).2 = true ↔ thr)
    (henter : ∀ n marks, P' (n, (enter marks).1) ↔ P' (n, marks) ∨ Q n)
    (hread : ∀ n marks, P' (n, (read marks).1) ↔ P (n, marks)) :
    (∃ entry ∈ (stepRounds read enter min max running).1, P' entry) ↔
      ∃ entry ∈ running, P entry ∨ ((read entry.2).2 = true ∧ (∀ m ∈ max, entry.1 + 1 < m) ∧
        ∃ i ≤ min - 1 - nextRound min max entry.1, (i = 0 ∨ thr) ∧
          Q (nextRound min max entry.1 + i)) := by
  induction running with
  | nil => simp [stepRounds]
  | cons entry rest ih =>
    obtain ⟨done, marks⟩ := entry
    simp only [List.mem_cons, exists_eq_or_imp, ← ih, stepRounds_cons, any_le_iff]
    -- the round is completed or not, was the last one allowed or not, and is counted or not
    by_cases hdone : (read marks).2 = true
    · by_cases hmax : ∀ m ∈ max, done + 1 < m
      · by_cases hnext : nextRound min max done = done
        · have howed : min - 1 - done = 0 := by
            have := le_of_nextRound_eq hnext
            omega
          rw [if_pos hdone, if_neg (not_not_intro hmax), if_pos hnext, exists_mem_addRound hnone,
            henter, hread, hnext, howed]
          rw [and_iff_right hdone, and_iff_right hmax]
          simp [or_assoc]
        · rw [if_pos hdone, if_neg (not_not_intro hmax), if_neg hnext, exists_mem_addRound hnone,
            exists_mem_enterRounds hnone hthr henter, hread]
          rw [and_iff_right hdone, and_iff_right hmax, or_assoc]
          exact or_congr_right Or.comm
      · rw [if_pos hdone, if_pos hmax, exists_mem_addRound hnone, hread]
        simp only [hmax, false_and, and_false, or_false]
    · rw [if_neg hdone, exists_mem_addRound hnone, hread]
      simp only [hdone, Bool.false_eq_true, false_and, or_false]

theorem stepRounds_out (hthr : ∀ marks, (enter marks).2 = true ↔ thr) (hmin : ∀ m ∈ max, min ≤ m) :
    (stepRounds read enter min max running).2 = true ↔
      ∃ entry ∈ running, (read entry.2).2 = true ∧ (min ≤ entry.1 + 1 ∨ thr) := by
  induction running with
  | nil => simp [stepRounds]
  | cons entry rest ih =>
    obtain ⟨done, marks⟩ := entry
    simp only [List.mem_cons, exists_eq_or_imp, ← ih, stepRounds_cons, any_le_iff]
    by_cases hdone : (read marks).2 = true
    · by_cases hmax : ∀ m ∈ max, done + 1 < m
      · by_cases hnext : nextRound min max done = done
        · rw [if_pos hdone, if_neg (not_not_intro hmax), if_pos hnext]
          simp [hdone, le_of_nextRound_eq hnext]
        · rw [if_pos hdone, if_neg (not_not_intro hmax), if_neg hnext]
          simp only [Bool.or_eq_true, enterRounds_through hthr, decide_eq_true_eq, hdone, true_and]
          rw [or_assoc, or_comm]
      · have henough : min ≤ done + 1 := by
          cases max with
          | none => simp at hmax
          | some m => simp at hmax hmin; omega
        rw [if_pos hdone, if_pos hmax]
        simp [hdone, henough]
    · simp [hdone]

end Step

end Rounds

end Marks

/-- Whether `left` rounds may follow round `done`, where `owed` are owed and at most `max` are
allowed. A reader that is in a round may complete it. -/
def RoundsAllowed (owed : Nat) (max : Option Nat) (done left : Nat) : Prop :=
  owed ≤ done + 1 + left ∧ (left = 0 ∨ ∀ m ∈ max, done + 1 + left ≤ m)

def RoundBegins (body : Matcher) (owed : Nat) (max : Option Nat) (done : Nat) : Matcher :=
  fun before text after => ∃ left, RoundsAllowed owed max done left ∧
    body.reading.Then (body.Rounds left) before text after

/-- Sending readers into the rounds owed only is enough: where a reader gets through rounds, it
need not count more of them. -/
theorem exists_roundsAllowed_iff {owed next : Nat} {max : Option Nat} {R : Nat → Prop} {thr : Prop}
    (hnext : ∀ m ∈ max, next < m) (howed : ∀ m ∈ max, owed ≤ m) :
    (∃ i ≤ owed - 1 - next, (i = 0 ∨ thr) ∧
        ∃ left, RoundsAllowed owed max (next + i) left ∧ R left) ↔
      ∃ skipped left, (owed ≤ next + skipped + 1 + left ∧
          ∀ m ∈ max, next + skipped + 1 + left ≤ m) ∧ (skipped = 0 ∨ thr) ∧ R left := by
  constructor
  · rintro ⟨i, hi, hthr, left, ⟨hmin, hmax⟩, hR⟩
    refine ⟨i, left, ⟨hmin, fun m hm => ?_⟩, hthr, hR⟩
    have := hnext m hm
    have := howed m hm
    rcases hmax with hleft | hmax
    · omega
    · exact hmax m hm
  · rintro ⟨skipped, left, ⟨hmin, hmax⟩, hthr, hR⟩
    -- Further rounds than those owed need not be counted, so the reader may stop there.
    refine ⟨Min.min skipped (owed - 1 - next), Nat.min_le_right _ _, ?_, left, ⟨?_, ?_⟩, hR⟩
    · exact hthr.imp_left fun h => by simp [h]
    · omega
    · refine .inr fun m hm => ?_
      have := hmax m hm
      omega

theorem nextRound_lt {owed done m : Nat} {max : Option Nat} (hm : m ∈ max) (h : done + 1 < m) :
    Marks.nextRound owed max done < m := by
  simp_all [Marks.nextRound]

theorem roundsAllowed_skipped_iff {owed done skipped left : Nat} {max : Option Nat} :
    RoundsAllowed owed max done (skipped + 1 + left) ↔
      (∀ m ∈ max, done + 1 < m) ∧
        (owed ≤ Marks.nextRound owed max done + skipped + 1 + left ∧
          ∀ m ∈ max, Marks.nextRound owed max done + skipped + 1 + left ≤ m) := by
  have hmin : Nat.min (done + 1) (owed - 1) = Min.min (done + 1) (owed - 1) := rfl
  cases max with
  | none => simp [RoundsAllowed, Marks.nextRound, hmin]; omega
  | some m => simp [RoundsAllowed, Marks.nextRound]; omega

theorem exists_rounds_iff {body : Matcher} {owed done : Nat} {max : Option Nat}
    {before text after : List Char} (howed : ∀ m ∈ max, owed ≤ m) (h : text ≠ []) :
    (∃ left, RoundsAllowed owed max done left ∧ body.Rounds left before text after) ↔
      (∀ m ∈ max, done + 1 < m) ∧ ∃ i ≤ owed - 1 - Marks.nextRound owed max done,
        (i = 0 ∨ body before [] (text ++ after)) ∧
          RoundBegins body owed max (Marks.nextRound owed max done + i) before text after := by
  by_cases hmax : ∀ m ∈ max, done + 1 < m
  · rw [and_iff_right hmax]
    simp only [RoundBegins]
    rw [exists_roundsAllowed_iff (fun m hm => nextRound_lt hm (hmax m hm)) howed]
    simp only [Matcher.rounds_iff_enters h, Matcher.Enters]
    constructor
    · rintro ⟨_, hallowed, skipped, left, rfl, hskip, hread⟩
      exact ⟨skipped, left, (roundsAllowed_skipped_iff.1 hallowed).2, hskip, hread⟩
    · rintro ⟨skipped, left, hallowed, hskip, hread⟩
      exact ⟨_, roundsAllowed_skipped_iff.2 ⟨hmax, hallowed⟩, skipped, left, rfl, hskip, hread⟩
  · simp only [hmax, false_and, iff_false]
    rintro ⟨left, hallowed, hrounds⟩
    obtain ⟨skipped, left, rfl, -⟩ := (Matcher.rounds_iff_enters h).1 hrounds
    exact hmax (roundsAllowed_skipped_iff.1 hallowed).1

def RoundCompletes (completes : Marks → Matcher) (body : Matcher) (owed : Nat) (max : Option Nat)
    (entry : Nat × Marks) : Matcher := fun before text after =>
  ∃ left, RoundsAllowed owed max entry.1 left ∧
    (completes entry.2).Then (body.Rounds left) before text after

theorem roundCompletes_single {completes : Marks → Matcher} {body : Matcher} {owed : Nat}
    {max : Option Nat} {entry : Nat × Marks} {before after : List Char} {c : Char}
    (howed : ∀ m ∈ max, owed ≤ m) (hne : ∀ {marks b t a}, completes marks b t a → t ≠ []) :
    RoundCompletes completes body owed max entry before [c] after ↔
      completes entry.2 before [c] after ∧
        (owed ≤ entry.1 + 1 ∨ body (before ++ [c]) [] after) := by
  simp only [RoundCompletes, Matcher.then_cons hne, Matcher.then_nil, Matcher.past_concat,
    Matcher.rounds_nil]
  constructor
  · rintro ⟨left, ⟨hmin, -⟩, hc, rfl | h⟩
    · exact ⟨hc, .inl hmin⟩
    · exact ⟨hc, .inr h⟩
  · rintro ⟨hc, h | h⟩
    · exact ⟨0, ⟨h, .inl rfl⟩, hc, .inl rfl⟩
    · refine ⟨owed - (entry.1 + 1), ⟨by omega, ?_⟩, hc, .inr h⟩
      by_cases hleft : owed - (entry.1 + 1) = 0
      · exact .inl hleft
      · refine .inr fun m hm => ?_
        have := howed m hm
        omega

theorem roundCompletes_cons {completes : Marks → Matcher} {body : Matcher} {owed : Nat}
    {max : Option Nat} {entry : Nat × Marks} {before text after : List Char} {c : Char}
    (hne : ∀ {marks b t a}, completes marks b t a → t ≠ []) :
    RoundCompletes completes body owed max entry before (c :: text) after ↔
      (∃ left, RoundsAllowed owed max entry.1 left ∧
        ((completes entry.2).past c).reading.Then (body.Rounds left) (before ++ [c]) text after) ∨
      (completes entry.2 before [c] (text ++ after) ∧
        ∃ left, RoundsAllowed owed max entry.1 left ∧
          body.Rounds left (before ++ [c]) text after) := by
  simp only [RoundCompletes, Matcher.then_cons_iff hne]
  grind

end RequestRouting.Regex
