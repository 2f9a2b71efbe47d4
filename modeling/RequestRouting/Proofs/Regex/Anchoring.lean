import RequestRouting.Path.Constraint
import RequestRouting.Proofs.Regex.Closing
import RequestRouting.Proofs.Regex.Reading
import RequestRouting.Proofs.Regex.Running

/-! Texts between anchors. What an engine has to know of anchors, groups and searches is named
here, so that nothing depends on the rest of its syntax. The engine that is built in knows it: a
text that it can read on its own is read the same inside a group between anchors. -/
namespace RequestRouting.Regex

def anchoredText (cs : List Char) : List Char := '^' :: '(' :: '?' :: ':' :: (cs ++ closing)

/-- What expressions match is what an engine finds. The anchors are the ends of the text, and a
group between them stands for its body if the body is an expression on its own. -/
structure Engine.Follows (engine : Engine) (Matches : engine.Expression → Matcher) : Prop where
  search {cs text : List Char} {e : engine.Expression} (h : engine.parse? cs = some e) :
    engine.isMatch e text = true ↔
      ∃ before found after, text = before ++ found ++ after ∧ Matches e before found after
  textStart : ∃ e, engine.parse? ['^'] = some e ∧
    ∀ before text after, Matches e before text after ↔ text = [] ∧ before = []
  textEnd : ∃ e, engine.parse? ['$'] = some e ∧
    ∀ before text after, Matches e before text after ↔ text = [] ∧ after = []
  group {cs : List Char} {start e stop whole : engine.Expression}
    (hstart : engine.parse? ['^'] = some start) (h : engine.parse? cs = some e)
    (hstop : engine.parse? ['$'] = some stop)
    (hwhole : engine.parse? (anchoredText cs) = some whole) :
    ∀ before text after, Matches whole before text after ↔
      (Matches start).Then ((Matches e).Then (Matches stop)) before text after

section Engine

variable {engine : Engine} {Matches : engine.Expression → Matcher} {cs : List Char}
  {e whole : engine.Expression}

theorem Engine.Follows.matches_anchoredText (hengine : engine.Follows Matches)
    (h : engine.parse? cs = some e) (hwhole : engine.parse? (anchoredText cs) = some whole)
    {before text after : List Char} :
    Matches whole before text after ↔ before = [] ∧ after = [] ∧ Matches e [] text [] := by
  obtain ⟨start, hstart, hatStart⟩ := hengine.textStart
  obtain ⟨stop, hstop, hatEnd⟩ := hengine.textEnd
  rw [hengine.group hstart h hstop hwhole]
  simp only [Matcher.Then, hatStart, hatEnd]
  constructor
  · rintro ⟨_, _, rfl, ⟨rfl, rfl⟩, x, _, rfl, hx, rfl, rfl⟩
    exact ⟨rfl, rfl, by simpa using hx⟩
  · rintro ⟨rfl, rfl, h⟩
    exact ⟨[], text, rfl, ⟨rfl, rfl⟩, text, [], by simp, by simpa using h, rfl, rfl⟩

theorem Engine.Follows.isMatch_anchoredText (hengine : engine.Follows Matches)
    (h : engine.parse? cs = some e) (hwhole : engine.parse? (anchoredText cs) = some whole)
    (text : List Char) : engine.isMatch whole text = true ↔ Matches e [] text [] := by
  rw [hengine.search hwhole]
  simp only [hengine.matches_anchoredText h hwhole]
  constructor
  · rintro ⟨_, _, _, rfl, rfl, rfl, h⟩
    simpa using h
  · intro h
    exact ⟨[], text, [], by simp, rfl, rfl, h⟩

end Engine

namespace Expr

variable {e : Expr} {es : List Expr} {before text after : List Char}

def anchored (e : Expr) : Expr := concat [look .textStart, e, look .textEnd]

theorem matches_textStart :
    (look .textStart).Matches before text after ↔ text = [] ∧ before = [] := by
  simp [Matches, Look.holds, placeBetween]

theorem matches_textEnd :
    (look .textEnd).Matches before text after ↔ text = [] ∧ after = [] := by
  simp [Matches, Look.holds, placeBetween]

theorem matches_anchored : e.anchored.Matches before text after ↔
    (look .textStart).Matches.Then (e.Matches.Then (look .textEnd).Matches) before text after := by
  rw [anchored, matches_concat]
  simp only [MatchesAll, Matcher.Then]
  grind

theorem joinLiterals_ne_nil (h : es ≠ []) : joinLiterals es ≠ [] := by
  obtain ⟨e, es, rfl⟩ := List.exists_cons_of_ne_nil h
  obtain ⟨s, t, rest, -, -, heq⟩ | heq := joinLiterals_cons e es <;> simp [heq]

theorem exists_anchored_eq_seq (e : Expr) : ∃ rest, e.anchored = seq (look .textStart) rest := by
  have hne : e.parts ++ [look .textEnd] ≠ [] := by simp
  obtain ⟨d, ds, hds⟩ := List.exists_cons_of_ne_nil (joinLiterals_ne_nil hne)
  have hjoin : joinLiterals (look .textStart :: (e.parts ++ [look .textEnd])) =
      look .textStart :: joinLiterals (e.parts ++ [look .textEnd]) := rfl
  refine ⟨ofParts (d :: ds), ?_⟩
  simp only [anchored, concat, parts, List.flatMap_cons, List.flatMap_nil, List.append_nil,
    List.singleton_append, hjoin, hds]
  rfl

theorem alternation_anchored (e : Expr) : alternation [e.anchored] = e.anchored := by
  obtain ⟨rest, heq⟩ := exists_anchored_eq_seq e
  rw [heq]
  rfl

end Expr

theorem readGroup_nil (fuel : Nat) (flags : Flags) (groups : Groups) (g : OpenGroup) :
    readGroup fuel flags groups g [] = some (g.value, groups, []) := by
  cases fuel <;> rfl

theorem readGroup_primitive {fuel : Nat} {flags : Flags} {groups : Groups} {g : OpenGroup}
    {c : Char} {cs rest : List Char} {e : Expr} (hc : c = '^' ∨ c = '$')
    (h : readPrimitive flags (c :: cs) = some (e, rest)) :
    readGroup (fuel + 1) flags groups g (c :: cs) =
      readGroup fuel flags groups (g.add e 0) rest := by
  obtain rfl | rfl := hc <;> simp [readGroup, isOperatorChar, h]

theorem readGroup_anchoredText {cs : List Char} {fuel fuel' : Nat} {e : Written Expr}
    {groups : Groups} (hfuel : fuel ≤ fuel')
    (h : readGroup fuel {} {} .begin cs = some (e, groups, [])) :
    ∃ height, readGroup (fuel' + 3) {} {} .begin (anchoredText cs) =
      some (⟨e.value.anchored, height⟩, groups, []) := by
  have hbody : readGroup (fuel' + 1) {} {} .begin (cs ++ closing) = some (e, groups, [')', '$']) :=
    groupIgnoresClosing (Nat.lt_succ_of_le hfuel) h
  have hhead : readGroupHead {} {} ('?' :: ':' :: (cs ++ closing)) =
      some (.plain {}, cs ++ closing) := rfl
  let g : OpenGroup := ((OpenGroup.begin.add (.look .textStart) 0).add e.value (e.height + 1)).add
    (.look .textEnd) 0
  have hvalue : g.value.value = e.value.anchored := Expr.alternation_anchored e.value
  refine ⟨g.value.height, ?_⟩
  rw [← hvalue, anchoredText, readGroup_primitive (.inl rfl) rfl, readGroup]
  simp only [hhead, hbody]
  rw [readGroup_primitive (.inr rfl) rfl, readGroup_nil]
  rfl

theorem readGroup_of_parse? {cs : List Char} {e : Expr} (h : parse? cs = some e) :
    ∃ height groups,
      readGroup (cs.length + 1) {} {} .begin cs = some (⟨e, height⟩, groups, []) := by
  unfold parse? at h
  split at h
  · split at h
    · obtain rfl := Option.some.inj h
      exact ⟨_, _, ‹_›⟩
    · simp at h
  · simp at h

/-- An expression that can be read on its own stands between the anchors as it is. -/
theorem eq_anchored_of_parse? {cs : List Char} {e a : Expr} (h : parse? cs = some e)
    (ha : parse? (anchoredText cs) = some a) : a = e.anchored := by
  obtain ⟨height, groups, hread⟩ := readGroup_of_parse? h
  obtain ⟨height', groups', hread'⟩ := readGroup_of_parse? ha
  have hfuel : cs.length + 1 ≤ cs.length + 4 := by omega
  obtain ⟨_, hanchored⟩ := readGroup_anchoredText hfuel hread
  have hlength : (anchoredText cs).length + 1 = cs.length + 4 + 3 := by
    simp [anchoredText, closing]
  rw [hlength, hanchored] at hread'
  obtain ⟨⟨rfl, -⟩, -⟩ := by simpa using hread'
  rfl

/-- The engine that is built in knows what it has to know, by the matches of its expressions. -/
theorem builtin_follows : Engine.builtin.Follows Expr.Matches where
  search h := Expr.isMatch_iff (wellFormed_of_parse? h) _
  textStart := ⟨.look .textStart, by decide, fun _ _ _ => Expr.matches_textStart⟩
  textEnd := ⟨.look .textEnd, by decide, fun _ _ _ => Expr.matches_textEnd⟩
  group hstart h hstop hwhole := by
    have hstart' : parse? ['^'] = some (.look .textStart) := by decide
    have hstop' : parse? ['$'] = some (.look .textEnd) := by decide
    obtain rfl := Option.some.inj (hstart'.symm.trans hstart)
    obtain rfl := Option.some.inj (hstop'.symm.trans hstop)
    intro before text after
    rw [eq_anchored_of_parse? h hwhole]
    exact Expr.matches_anchored

end RequestRouting.Regex
