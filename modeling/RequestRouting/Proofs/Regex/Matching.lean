import RequestRouting.Regex.Run

/-! What it means for an expression to match: the part `text` of `before ++ text ++ after`, by
recursion on the expression. The run of `Expr.isMatch` takes no part in it. -/
namespace RequestRouting.Regex

/-- A part of a text is matched: what stands before it, the part, what stands behind it. -/
abbrev Matcher := (before text after : List Char) → Prop

def placeBetween (before after : List Char) : Place := ⟨before.getLast?, after.head?⟩

def Matcher.Then (m k : Matcher) : Matcher := fun before text after =>
  ∃ x y, text = x ++ y ∧ m before x (y ++ after) ∧ k (before ++ x) y after

def Matcher.Rounds (m : Matcher) : Nat → Matcher
  | 0 => fun _ text _ => text = []
  | n + 1 => m.Then (m.Rounds n)

namespace Expr

def Matches : Expr → Matcher
  | empty => fun _ text _ => text = []
  | literal chars => fun _ text _ => text = chars
  | set s => fun _ text _ => ∃ c, text = [c] ∧ s.contains c = true
  | look condition => fun before text after =>
      text = [] ∧ condition.holds (placeBetween before after) = true
  | seq first rest => first.Matches.Then rest.Matches
  | alt first rest => fun before text after =>
      first.Matches before text after ∨ rest.Matches before text after
  | repeated body min max _ => fun before text after =>
      ∃ n, min ≤ n ∧ (∀ m ∈ max, n ≤ m) ∧ body.Matches.Rounds n before text after
  | group _ body => body.Matches

def WellFormed : Expr → Prop
  | empty | set _ | look _ => True
  | literal chars => chars ≠ []
  | seq first rest | alt first rest => first.WellFormed ∧ rest.WellFormed
  | repeated body min max _ => body.WellFormed ∧ ∀ m ∈ max, min ≤ m ∧ 0 < m
  | group _ body => body.WellFormed

end Expr

namespace Matcher

variable {m k l : Matcher} {before text after x y : List Char} {n : Nat}

theorem then_nil : m.Then k before [] after ↔ m before [] after ∧ k before [] after := by
  simp [Then, and_assoc]

theorem then_assoc : (m.Then k).Then l before text after ↔
    m.Then (k.Then l) before text after := by
  constructor
  · rintro ⟨_, z, rfl, ⟨x, y, rfl, hm, hk⟩, hl⟩
    exact ⟨x, y ++ z, by simp, by simpa using hm, y, z, rfl, hk, by simpa using hl⟩
  · rintro ⟨x, _, rfl, hm, y, z, rfl, hk, hl⟩
    exact ⟨x ++ y, z, by simp, ⟨x, y, rfl, by simpa using hm, hk⟩, by simpa using hl⟩

theorem then_congr {m' k' : Matcher}
    (hm : ∀ before text after, m before text after ↔ m' before text after)
    (hk : ∀ before text after, k before text after ↔ k' before text after) :
    m.Then k before text after ↔ m'.Then k' before text after := by
  simp [Then, hm, hk]

theorem then_or {m₁ m₂ : Matcher} (h : ∀ x y, text = x ++ y →
      (m before x (y ++ after) ↔ m₁ before x (y ++ after) ∨ m₂ before x (y ++ after))) :
    m.Then k before text after ↔ m₁.Then k before text after ∨ m₂.Then k before text after := by
  constructor
  · rintro ⟨x, y, rfl, hm, hk⟩
    exact ((h x y rfl).1 hm).imp (⟨x, y, rfl, ·, hk⟩) (⟨x, y, rfl, ·, hk⟩)
  · rintro (⟨x, y, rfl, hm, hk⟩ | ⟨x, y, rfl, hm, hk⟩)
    · exact ⟨x, y, rfl, (h x y rfl).2 (.inl hm), hk⟩
    · exact ⟨x, y, rfl, (h x y rfl).2 (.inr hm), hk⟩

@[simp] theorem rounds_zero : m.Rounds 0 before text after ↔ text = [] := Iff.rfl

theorem rounds_nil : m.Rounds n before [] after ↔ n = 0 ∨ m before [] after := by
  induction n with
  | zero => simp
  | succ n ih => simp only [Rounds, then_nil, ih]; grind

def reading (m : Matcher) : Matcher := fun before text after => text ≠ [] ∧ m before text after

theorem then_iff : m.Then k before text after ↔
    (m before [] (text ++ after) ∧ k before text after) ∨ m.reading.Then k before text after := by
  constructor
  · rintro ⟨x, y, rfl, hm, hk⟩
    by_cases hx : x = []
    · subst hx
      exact .inl ⟨hm, by simpa using hk⟩
    · exact .inr ⟨x, y, rfl, ⟨hx, hm⟩, hk⟩
  · rintro (⟨hm, hk⟩ | ⟨x, y, rfl, hm, hk⟩)
    · exact ⟨[], text, rfl, hm, by simpa using hk⟩
    · exact ⟨x, y, rfl, hm.2, hk⟩

theorem ne_nil_of_reading_then (h : m.reading.Then k before text after) : text ≠ [] := by
  obtain ⟨x, y, rfl, hm, -⟩ := h
  simp [hm.1]

theorem reading_then_iff : (m.Then k).reading before text after ↔
    (m before [] (text ++ after) ∧ k.reading before text after) ∨
      m.reading.Then k before text after := by
  rw [reading, then_iff, reading]
  have hne : m.reading.Then k before text after → text ≠ [] := ne_nil_of_reading_then
  grind

def past (c : Char) (m : Matcher) : Matcher := fun before text after =>
  ∃ b, before = b ++ [c] ∧ m b (c :: text) after

@[simp] theorem past_concat {c : Char} :
    m.past c (before ++ [c]) text after ↔ m before (c :: text) after := by
  simp [past]

theorem then_cons {c : Char} (h : ∀ {b t a}, m b t a → t ≠ []) :
    m.Then k before (c :: text) after ↔ (m.past c).Then k (before ++ [c]) text after := by
  constructor
  · rintro ⟨x, y, hxy, hm, hk⟩
    obtain ⟨d, x, rfl⟩ := List.exists_cons_of_ne_nil (h hm)
    obtain ⟨rfl, rfl⟩ := by simpa using hxy
    exact ⟨x, y, rfl, past_concat.2 hm, by simpa using hk⟩
  · rintro ⟨x, y, rfl, hm, hk⟩
    exact ⟨c :: x, y, rfl, past_concat.1 hm, by simpa using hk⟩

theorem then_cons_iff {c : Char} (h : ∀ {b t a}, m b t a → t ≠ []) :
    m.Then k before (c :: text) after ↔
      (m before [c] (text ++ after) ∧ k (before ++ [c]) text after) ∨
        (m.past c).reading.Then k (before ++ [c]) text after := by
  rw [then_cons h, then_iff, past_concat]

theorem then_and_left {p : Prop} : Matcher.Then (fun b t a => p ∧ m b t a) k before text after ↔
    p ∧ m.Then k before text after := by
  simp only [Then]
  grind

/-- The first round that reads something: the `skipped` ones before it stand where it begins,
and `left` rounds follow. -/
def Enters (m : Matcher) (skipped left : Nat) : Matcher := fun before text after =>
  (skipped = 0 ∨ m before [] (text ++ after)) ∧ m.reading.Then (m.Rounds left) before text after

theorem enters_succ {skipped left : Nat} :
    m.Enters (skipped + 1) left before text after ↔
      m before [] (text ++ after) ∧ m.Enters skipped left before text after := by
  simp only [Enters]
  grind

theorem rounds_iff_enters (h : text ≠ []) : m.Rounds n before text after ↔
    ∃ skipped left, n = skipped + 1 + left ∧ m.Enters skipped left before text after := by
  induction n with
  | zero => simp [h]; omega
  | succ n ih =>
    rw [Rounds, then_iff]
    -- the first round stands still, or is the one that reads
    constructor
    · rintro (⟨hnil, hn⟩ | hread)
      · obtain ⟨skipped, left, rfl, he⟩ := ih.1 hn
        exact ⟨skipped + 1, left, by omega, enters_succ.2 ⟨hnil, he⟩⟩
      · exact ⟨0, n, by omega, .inl rfl, hread⟩
    · rintro ⟨skipped, left, hn, he⟩
      cases skipped with
      | zero =>
        obtain rfl : n = left := by omega
        exact .inr he.2
      | succ skipped =>
        obtain ⟨hnil, he⟩ := enters_succ.1 he
        exact .inl ⟨hnil, ih.2 ⟨skipped, left, by omega, he⟩⟩

theorem Rounds.pad (extra : Nat) (h : m.Rounds n before text after)
    (hnil : m before [] (text ++ after)) : m.Rounds (extra + n) before text after := by
  induction extra with
  | zero => simpa using h
  | succ extra ih =>
    rw [Nat.add_right_comm]
    exact ⟨[], text, rfl, hnil, by simpa using ih⟩

end Matcher

namespace Expr

variable {e body : Expr} {before text after : List Char}

theorem matches_nil_of_isNullable (h : e.isNullable = true) (hwf : e.WellFormed) :
    e.Matches before [] after := by
  induction e generalizing before after with
  | empty => rfl
  | literal chars => simp_all [isNullable, WellFormed]
  | set s => simp [isNullable] at h
  | look condition => simp [isNullable] at h
  | seq first rest ihFirst ihRest =>
    simp only [isNullable, Bool.and_eq_true] at h
    exact Matcher.then_nil.2 ⟨ihFirst h.1 hwf.1, ihRest h.2 hwf.2⟩
  | alt first rest ihFirst ihRest =>
    simp only [isNullable, Bool.or_eq_true] at h
    exact h.imp (ihFirst · hwf.1) (ihRest · hwf.2)
  | repeated body min max isLazy ih =>
    refine ⟨min, Nat.le_refl _, fun m hm => (hwf.2 m hm).1, Matcher.rounds_nil.2 ?_⟩
    simp only [isNullable, Bool.or_eq_true, beq_iff_eq] at h
    exact h.imp_right (ih · hwf.1)
  | group number body ih => exact ih h hwf

theorem owedRounds_le (body : Expr) (min : Nat) : body.owedRounds min ≤ min := by
  unfold owedRounds
  split <;> omega

/-- Owing none of the rounds that may be empty changes nothing. -/
theorem matches_repeated_iff {min : Nat} {max : Option Nat} {isLazy : Bool}
    (hwf : (repeated body min max isLazy).WellFormed) :
    (repeated body min max isLazy).Matches before text after ↔
      ∃ n, body.owedRounds min ≤ n ∧ (∀ m ∈ max, n ≤ m) ∧
        body.Matches.Rounds n before text after := by
  constructor
  · rintro ⟨n, hmin, hmax, h⟩
    exact ⟨n, Nat.le_trans (owedRounds_le body min) hmin, hmax, h⟩
  · rintro ⟨n, howed, hmax, h⟩
    by_cases hn : min ≤ n
    · exact ⟨n, hn, hmax, h⟩
    · have hnullable : body.isNullable = true := by
        unfold owedRounds at howed
        grind
      refine ⟨min, Nat.le_refl _, fun m hm => (hwf.2 m hm).1, ?_⟩
      have := Matcher.Rounds.pad (min - n) h (matches_nil_of_isNullable hnullable hwf.1)
      rwa [Nat.sub_add_cancel (by omega)] at this

end Expr

end RequestRouting.Regex
