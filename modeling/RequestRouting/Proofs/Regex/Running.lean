import RequestRouting.Proofs.Regex.Entering

/-! The run of an expression finds its matches: each character that is read takes the readers
as far as it should, in every expression, and so does a whole text, by induction. Main result:
`Expr.isMatch_iff`. -/
namespace RequestRouting.Regex

namespace Expr

variable {e : Expr} {marks : Marks} {before text after : List Char} {c : Char}

/-- What reading the character `c` does to the readers, and when one of them gets to the end,
one more being sent to the beginning on demand. -/
structure Steps (e : Expr) (marks : Marks) : Prop where
  out : ∀ {entering before c after},
    (e.step (placeBetween (before ++ [c]) after) marks entering).2 = true ↔
      e.Completes marks before [c] after ∨ (entering = true ∧ e.Matches (before ++ [c]) [] after)
  completes : ∀ {entering before c text after},
    e.Completes (e.step (placeBetween (before ++ [c]) (text ++ after)) marks entering).1
        (before ++ [c]) text after ↔
      text ≠ [] ∧ (e.Completes marks before (c :: text) after ∨
        (entering = true ∧ e.Matches (before ++ [c]) text after))

theorem Steps.then_iff {k : Matcher} {entering : Bool} (h : e.Steps marks) :
    (e.Completes (e.step (placeBetween (before ++ [c]) (text ++ after)) marks entering).1).Then k
        (before ++ [c]) text after ↔
      ((e.Completes marks).past c).reading.Then k (before ++ [c]) text after ∨
        (entering = true ∧ e.Matches.reading.Then k (before ++ [c]) text after) := by
  rw [← Matcher.then_and_left]
  refine Matcher.then_or fun x y hxy => ?_
  rw [hxy, List.append_assoc, h.completes]
  simp only [Matcher.reading, Matcher.past_concat]
  grind

theorem step_none_false {place : Place} : e.step place .none false = (.none, false) := by
  cases e <;> rfl

theorem step_none_true {place : Place} : e.step place .none true = e.enter place .none := by
  cases e <;> rfl

theorem steps_none (hwf : e.WellFormed) : e.Steps .none where
  out {entering _ _ _} := by
    cases entering
    · simp [step_none_false, not_completes_none]
    · simp [step_none_true, not_completes_none, enter_through hwf]
  completes {entering _ _ _ _} := by
    cases entering
    · simp [step_none_false, not_completes_none]
    · simp [step_none_true, not_completes_none, completes_enter hwf, Matcher.reading]

theorem steps_of_ne_none (hwf : e.WellFormed) (h : marks ≠ .none → e.Steps marks) :
    e.Steps marks := by
  by_cases hmarks : marks = .none
  · subst hmarks
    exact steps_none hwf
  · exact h hmarks

theorem step_seq {place : Place} {first rest : Expr} {entering : Bool} (h : marks ≠ .none) :
    (seq first rest).step place marks entering =
      let s := first.step place marks.split.1 entering
      let t := rest.step place marks.split.2 s.2
      (.pair s.1 t.1, t.2) := by
  cases marks <;> first | contradiction | rfl

theorem steps_seq {first rest : Expr} (h : marks ≠ .none) (hfirst : ∀ m, first.Steps m)
    (hrest : ∀ m, rest.Steps m) : (seq first rest).Steps marks where
  out {entering before c after} := by
    simp only [step_seq h, (hrest _).out, (hfirst _).out, Completes, Matches, Matcher.then_nil,
      Matcher.then_cons Completes.ne_nil, Matcher.past_concat]
    grind
  completes {entering before c text after} := by
    have hne {m : Matcher} : m.reading.Then rest.Matches (before ++ [c]) text after → text ≠ [] :=
      Matcher.ne_nil_of_reading_then
    simp only [step_seq h, Completes, Matches, Marks.split_pair, (hfirst _).then_iff,
      (hrest _).completes, (hfirst _).out]
    rw [Matcher.then_cons_iff Completes.ne_nil, Matcher.then_iff (m := first.Matches)]
    grind

section Repeated

variable {body : Expr} {min : Nat} {max : Option Nat} {isLazy : Bool}

theorem step_repeated {place : Place} {entering : Bool} (h : marks ≠ .none) :
    (repeated body min max isLazy).step place marks entering =
      let stepped := Marks.stepRounds (fun marks => body.step place marks false)
        (body.enter place) (body.owedRounds min) max marks.running
      if entering then
        let entered := Marks.enterRounds (body.enter place) (body.owedRounds min - 1) 0 stepped.1
        (.ofRounds entered.1, stepped.2 || body.owedRounds min == 0 || entered.2)
      else (.ofRounds stepped.1, stepped.2) := by
  cases marks <;> first | contradiction | rfl

theorem stepRounds_out_iff (hwf : (repeated body min max isLazy).WellFormed)
    (hbody : ∀ m, body.Steps m) (running : List (Nat × Marks)) :
    (Marks.stepRounds (fun m => body.step (placeBetween (before ++ [c]) after) m false)
        (body.enter (placeBetween (before ++ [c]) after)) (body.owedRounds min) max
        running).2 = true ↔
      ∃ entry ∈ running, RoundCompletes body.Completes body.Matches (body.owedRounds min) max entry
        before [c] after := by
  rw [Marks.stepRounds_out (enter_through hwf.1) (owedRounds_le_max hwf)]
  simp only [(hbody _).out, Bool.false_eq_true, false_and, or_false,
    roundCompletes_single (owedRounds_le_max hwf) Completes.ne_nil]

theorem roundCompletes_stepRounds (hwf : (repeated body min max isLazy).WellFormed)
    (hbody : ∀ m, body.Steps m) (running : List (Nat × Marks)) :
    (∃ entry ∈ (Marks.stepRounds
          (fun m => body.step (placeBetween (before ++ [c]) (text ++ after)) m false)
          (body.enter (placeBetween (before ++ [c]) (text ++ after))) (body.owedRounds min) max
          running).1,
        RoundCompletes body.Completes body.Matches (body.owedRounds min) max entry
          (before ++ [c]) text after) ↔
      text ≠ [] ∧ ∃ entry ∈ running,
        RoundCompletes body.Completes body.Matches (body.owedRounds min) max entry
          before (c :: text) after := by
  by_cases htext : text = []
  · simp only [htext, ne_eq, not_true_eq_false, false_and, iff_false]
    rintro ⟨entry, -, left, -, h⟩
    exact (Matcher.then_nil.1 h).1.ne_nil rfl
  rw [and_iff_right htext, Marks.exists_mem_stepRounds (fun n => not_roundCompletes_none)
    (enter_through hwf.1)
    (fun n m => roundCompletes_enter (completes_enter hwf.1))
    (P := fun entry => ∃ left, RoundsAllowed (body.owedRounds min) max entry.1 left ∧
      ((body.Completes entry.2).past c).reading.Then (body.Matches.Rounds left)
        (before ++ [c]) text after)
    (fun n m => by
      simp only [RoundCompletes, (hbody m).then_iff, Bool.false_eq_true, false_and, or_false])]
  simp only [(hbody _).out, Bool.false_eq_true, false_and, or_false,
    roundCompletes_cons Completes.ne_nil, exists_rounds_iff (owedRounds_le_max hwf) htext]

theorem steps_repeated (hwf : (repeated body min max isLazy).WellFormed) (h : marks ≠ .none)
    (hbody : ∀ m, body.Steps m) : (repeated body min max isLazy).Steps marks where
  out {entering before c after} := by
    simp only [step_repeated h, matches_repeated_nil hwf, Completes]
    rw [← stepRounds_out_iff hwf hbody]
    cases entering
    · simp
    · simp [Marks.enterRounds_through (enter_through hwf.1), or_assoc]
  completes {entering before c text after} := by
    -- The reader sent in on demand comes last, into the rounds as the step has left them.
    rw [step_repeated h]
    cases entering
    · simpa [Completes] using roundCompletes_stepRounds hwf hbody marks.running
    · simp only [Completes, Marks.running_ofRounds, if_true]
      rw [roundCompletes_enterRounds hwf (completes_enter hwf.1),
        roundCompletes_stepRounds hwf hbody, Matcher.reading]
      grind

end Repeated

theorem step_alt {place : Place} {first rest : Expr} {entering : Bool} (h : marks ≠ .none) :
    (alt first rest).step place marks entering =
      let s := first.step place marks.split.1 entering
      let t := rest.step place marks.split.2 entering
      (.pair s.1 t.1, s.2 || t.2) := by
  cases marks <;> first | contradiction | rfl

theorem steps_alt {first rest : Expr} (h : marks ≠ .none) (hfirst : ∀ m, first.Steps m)
    (hrest : ∀ m, rest.Steps m) : (alt first rest).Steps marks where
  out {entering before c after} := by
    simp only [step_alt h, Completes, Matches, Bool.or_eq_true, (hfirst _).out, (hrest _).out]
    grind
  completes {entering before c text after} := by
    simp only [step_alt h, Completes, Matches, Marks.split_pair, (hfirst _).completes,
      (hrest _).completes]
    grind

theorem step_group {place : Place} {number : Nat} {body : Expr} {entering : Bool}
    (h : marks ≠ .none) :
    (group number body).step place marks entering = body.step place marks entering := by
  cases marks <;> first | contradiction | rfl

theorem step_empty {place : Place} {entering : Bool} (h : marks ≠ .none) :
    empty.step place marks entering = (.none, entering) := by
  cases marks <;> first | contradiction | rfl

theorem step_look {place : Place} {condition : Look} {entering : Bool} (h : marks ≠ .none) :
    (look condition).step place marks entering = (.none, entering && condition.holds place) := by
  cases marks <;> first | contradiction | rfl

theorem step_set {place : Place} {s : CharSet} {entering : Bool} (h : marks ≠ .none) :
    (set s).step place marks entering =
      (if entering then .here else .none, place.before.any s.contains) := by
  cases marks <;> first | contradiction | rfl

def met (c : Char) (rests : List (List Char)) : List (List Char) :=
  rests.filterMap fun
    | [] => none
    | d :: rest => if some c = some d then some rest else none

theorem mem_met {rests : List (List Char)} : text ∈ met c rests ↔ c :: text ∈ rests := by
  simp only [met, List.mem_filterMap]
  grind

theorem step_literal {place : Place} {chars : List Char} {entering : Bool} (h : marks ≠ .none)
    (hplace : place.before = some c) :
    (literal chars).step place marks entering =
      (.ofRests (if entering then chars :: (met c marks.rests).filter (!·.isEmpty)
        else (met c marks.rests).filter (!·.isEmpty)), (met c marks.rests).any (·.isEmpty)) := by
  simp only [met, ← hplace]
  cases marks <;> first | contradiction | rfl

@[simp] theorem placeBetween_concat_before :
    (placeBetween (before ++ [c]) after).before = some c := by
  simp [placeBetween]

theorem steps_literal {chars : List Char} (h : marks ≠ .none) (hchars : chars ≠ []) :
    (literal chars).Steps marks where
  out {entering before c after} := by
    simp [step_literal h placeBetween_concat_before, Completes, Matches, mem_met, hchars.symm]
  completes {entering before c text after} := by
    simp only [step_literal h placeBetween_concat_before, Completes, Matches, Marks.rests_ofRests]
    cases entering <;> simp [mem_met] <;> grind

theorem steps_set {s : CharSet} (h : marks ≠ .none) : (set s).Steps marks where
  out {entering before c after} := by
    simp [step_set h, Completes, Matches, h]
  completes {entering before c text after} := by
    cases entering with
    | false => simp +contextual [step_set h, Completes]
    | true =>
      have hhere : Marks.here ≠ .none := by simp
      simp only [step_set h, Completes, Matches, if_true, true_and, hhere, ne_eq, not_false_eq_true,
        List.cons.injEq]
      grind

theorem steps_group {number : Nat} {body : Expr} (h : marks ≠ .none) (hbody : body.Steps marks) :
    (group number body).Steps marks where
  out {entering before c after} := by
    rw [step_group h]
    exact hbody.out
  completes {entering before c text after} := by
    rw [step_group h]
    exact hbody.completes

/-- Reading a character does what it should, in every expression. -/
theorem steps (hwf : e.WellFormed) (marks : Marks) : e.Steps marks := by
  induction e generalizing marks with
  | empty =>
    refine steps_of_ne_none hwf fun h => ⟨?_, ?_⟩
    · simp [step_empty h, Completes, Matches]
    · simp +contextual [Completes, Matches]
  | literal chars => exact steps_of_ne_none hwf fun h => steps_literal h hwf
  | set s => exact steps_of_ne_none hwf steps_set
  | look condition =>
    refine steps_of_ne_none hwf fun h => ⟨?_, ?_⟩
    · simp [step_look h, Completes, Matches]
    · simp +contextual [Completes, Matches]
  | seq first rest ihFirst ihRest =>
    exact steps_of_ne_none hwf fun h => steps_seq h (ihFirst hwf.1) (ihRest hwf.2)
  | alt first rest ihFirst ihRest =>
    exact steps_of_ne_none hwf fun h => steps_alt h (ihFirst hwf.1) (ihRest hwf.2)
  | repeated body min max isLazy ih =>
    exact steps_of_ne_none hwf fun h => steps_repeated hwf h (ih hwf.1)
  | group number body ih =>
    exact steps_of_ne_none hwf fun h => steps_group h (ih hwf marks)

theorem search_cons (before : List Char) {cs : List Char} :
    e.search marks (c :: cs) =
      ((e.step (placeBetween (before ++ [c]) cs) marks true).2 ||
        e.search (e.step (placeBetween (before ++ [c]) cs) marks true).1 cs) := by
  simp [search, placeBetween]

theorem search_iff (hwf : e.WellFormed) (before cs : List Char) :
    e.search marks cs = true ↔
      (∃ text after, cs = text ++ after ∧ e.Completes marks before text after) ∨
        ∃ skipped text after, skipped ≠ [] ∧ cs = skipped ++ text ++ after ∧
          e.Matches (before ++ skipped) text after := by
  induction cs generalizing marks before with
  | nil =>
    simp only [search, Bool.false_eq_true, false_iff, not_or]
    constructor
    · rintro ⟨text, after, htext, h⟩
      exact h.ne_nil (List.append_eq_nil_iff.1 htext.symm).1
    · rintro ⟨skipped, text, after, hskipped, htext, -⟩
      have hnil := (List.append_eq_nil_iff.1 htext.symm).1
      exact hskipped (List.append_eq_nil_iff.1 hnil).1
  | cons c cs ih =>
    -- the first character ends a match, goes to readers on their way, or is skipped
    rw [search_cons before, Bool.or_eq_true, (steps hwf marks).out, ih (before ++ [c])]
    constructor
    · rintro ((h | ⟨-, h⟩) | ⟨text, after, rfl, h⟩ | ⟨skipped, text, after, -, rfl, h⟩)
      · exact .inl ⟨[c], cs, rfl, h⟩
      · exact .inr ⟨[c], [], cs, by simp, rfl, h⟩
      · obtain ⟨-, h | ⟨-, h⟩⟩ := (steps hwf marks).completes.1 h
        · exact .inl ⟨c :: text, after, rfl, h⟩
        · exact .inr ⟨[c], text, after, by simp, rfl, h⟩
      · exact .inr ⟨c :: skipped, text, after, by simp, rfl, by simpa using h⟩
    · rintro (⟨text, after, htext, h⟩ | ⟨skipped, text, after, hskipped, htext, h⟩)
      · obtain ⟨d, text, rfl⟩ := List.exists_cons_of_ne_nil h.ne_nil
        obtain ⟨rfl, rfl⟩ := by simpa using htext
        by_cases hempty : text = []
        · subst hempty
          exact .inl (.inl h)
        · exact .inr (.inl ⟨text, after, rfl, (steps hwf marks).completes.2 ⟨hempty, .inl h⟩⟩)
      · obtain ⟨d, skipped, rfl⟩ := List.exists_cons_of_ne_nil hskipped
        obtain ⟨rfl, rfl⟩ := by simpa using htext
        by_cases hlater : skipped = []
        · subst hlater
          by_cases hempty : text = []
          · subst hempty
            exact .inl (.inr ⟨rfl, h⟩)
          · exact .inr (.inl ⟨text, after, by simp,
              (steps hwf marks).completes.2 ⟨hempty, .inr ⟨rfl, h⟩⟩⟩)
        · exact .inr (.inr ⟨skipped, text, after, hlater, by simp, by simpa using h⟩)

/-- A run finds a match exactly when a part of the text is matched. -/
theorem isMatch_iff (hwf : e.WellFormed) (cs : List Char) :
    e.isMatch cs = true ↔
      ∃ before text after, cs = before ++ text ++ after ∧ e.Matches before text after := by
  have hmatch : e.isMatch cs = ((e.enter (placeBetween [] cs) .none).2 ||
      e.search (e.enter (placeBetween [] cs) .none).1 cs) := rfl
  rw [hmatch, Bool.or_eq_true, enter_through hwf, search_iff hwf []]
  constructor
  · rintro (h | ⟨text, after, rfl, h⟩ | ⟨skipped, text, after, -, rfl, h⟩)
    · exact ⟨[], [], cs, rfl, h⟩
    · exact ⟨[], text, after, rfl, (((completes_enter hwf).1 h).resolve_left not_completes_none).2⟩
    · exact ⟨skipped, text, after, rfl, h⟩
  · rintro ⟨before, text, after, rfl, h⟩
    by_cases hbefore : before = []
    · subst hbefore
      by_cases hempty : text = []
      · subst hempty
        exact .inl h
      · exact .inr (.inl ⟨text, after, rfl, (completes_enter hwf).2 (.inr ⟨hempty, h⟩)⟩)
    · exact .inr (.inr ⟨before, text, after, hbefore, rfl, h⟩)

end Expr

end RequestRouting.Regex
