import RequestRouting.Proofs.Regex.Anchoring

/-! Constraints that are regular expressions: the values that they admit, and the texts that do
not stay inside the group between the anchors. Main result: `Constraint.admitsWhole_iff`, for
every engine that anchors and groups mean the usual to. -/
namespace RequestRouting.Path.Constraint

open Regex (Engine Matcher)

def keywords : List String := ["int", "uuid", "alpha", "slug"]

section Engine

variable {engine : Engine} {Matches : engine.Expression → Matcher} {s : String}
  {c : Constraint engine.Expression}

/-- The values admitted are those that the text, read as an expression on its own, matches from
the first character to the last. -/
def AdmitsWhole (engine : Engine) (Matches : engine.Expression → Matcher) (source : String)
    (constraint : Constraint engine.Expression) : Prop :=
  ∀ value, constraint.admitsWith engine value = true ↔
    value ≠ "" ∧ ∃ e, engine.parse? source.toList = some e ∧ Matches e [] value.toList []

theorem toList_anchored (s : String) : (anchored s).toList = Regex.anchoredText s.toList := by
  simp [anchored, Regex.anchoredText, Regex.closing]

theorem parseWith?_eq_some (hs : s ∉ keywords) :
    parseWith? engine s = some c ↔
      ∃ a, engine.parse? (Regex.anchoredText s.toList) = some a ∧ c = regex s a := by
  simp only [keywords, List.mem_cons, List.not_mem_nil, or_false, not_or] at hs
  unfold parseWith?
  split
  case h_5 =>
    rw [toList_anchored, Option.map_eq_some_iff]
    simp only [eq_comm]
  all_goals simp_all

theorem admitsWith_regex (source : String) (e : engine.Expression) (value : String) :
    (regex source e).admitsWith engine value = true ↔
      value ≠ "" ∧ engine.isMatch e value.toList = true := by
  simp [admitsWith]

/-- The values of a regular expression are matched as a whole exactly when its text is one on its
own, or nothing is admitted at all. A text that is one is only bound to the ends by the anchors. -/
theorem admitsWhole_iff (hengine : engine.Follows Matches) (hs : s ∉ keywords)
    (h : parseWith? engine s = some c) :
    (∀ e, engine.parse? s.toList = some e → ∃ a, c = regex s a ∧ ∀ before text after,
      Matches a before text after ↔ before = [] ∧ after = [] ∧ Matches e [] text []) ∧
    (AdmitsWhole engine Matches s c ↔
      (engine.parse? s.toList).isSome = true ∨ ∀ v, c.admitsWith engine v = false) := by
  obtain ⟨a, ha, rfl⟩ := (parseWith?_eq_some hs).1 h
  refine ⟨fun e he => ⟨a, rfl, fun _ _ _ => hengine.matches_anchoredText he ha⟩, ?_⟩
  cases he : engine.parse? s.toList with
  | none => simp [AdmitsWhole, he]
  | some e =>
    simp only [AdmitsWhole, he, Option.isSome_some, true_or, iff_true]
    intro value
    simp [admitsWith_regex, hengine.isMatch_anchoredText he ha]

end Engine

theorem admitsWhole_pets : ∃ c, parse? "cat|dog" = some c ∧
    AdmitsWhole .builtin Regex.Expr.Matches "cat|dog" c ∧
    c.admits "dog" = true ∧ c.admits "hotdog" = false := by
  refine ⟨(parse? "cat|dog").get (by decide), by simp, ?_, by decide, by decide⟩
  have hparse : parseWith? .builtin "cat|dog" = some ((parse? "cat|dog").get (by decide)) :=
    (Option.some_get _).symm
  exact (admitsWhole_iff Regex.builtin_follows (by decide) hparse).2.2 (.inl (by decide))

/-- The text closes the group and opens another one, so that each anchor holds for one part. -/
theorem not_admitsWhole_split : ¬∀ s c, s ∉ keywords → parse? s = some c →
    AdmitsWhole .builtin Regex.Expr.Matches s c := by
  intro h
  have hparse : ∃ c, parse? "a)|(?:b" = some c ∧ c.admits "ax" = true :=
    ⟨(parse? "a)|(?:b").get (by decide), by simp, by decide⟩
  obtain ⟨c, hc, hadmits⟩ := hparse
  obtain ⟨-, e, he, -⟩ := (h _ c (by decide) hc "ax").1 hadmits
  have hnone : Engine.builtin.parse? "a)|(?:b".toList = none := by decide
  rw [hnone] at he
  simp at he

end RequestRouting.Path.Constraint
