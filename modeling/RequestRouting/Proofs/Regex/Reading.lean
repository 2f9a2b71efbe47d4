import RequestRouting.Proofs.Regex.Building
import RequestRouting.Regex.Reader

/-! What is read is well-formed: the bounds of a repetition are in order, and no literal is
empty. -/
namespace RequestRouting.Regex

namespace OpenGroup

structure WellFormed (g : OpenGroup) : Prop where
  branches : ∀ b ∈ g.branches, b.value.WellFormed
  parts : ∀ p ∈ g.parts, p.written.value.WellFormed

variable {g : OpenGroup}

theorem wellFormed_begin : begin.WellFormed := ⟨by simp [begin], by simp [begin]⟩

theorem WellFormed.add (hg : g.WellFormed) {e : Expr} (he : e.WellFormed) (height : Nat) :
    (g.add e height).WellFormed where
  branches := hg.branches
  parts p hp := by
    obtain rfl | hp := List.mem_cons.1 hp
    · exact he
    · exact hg.parts p hp

theorem WellFormed.addDirective (hg : g.WellFormed) :
    WellFormed { g with parts := .directive :: g.parts } where
  branches := hg.branches
  parts p hp := by
    obtain rfl | hp := List.mem_cons.1 hp
    · trivial
    · exact hg.parts p hp

theorem WellFormed.lastBranch (hg : g.WellFormed) : g.lastBranch.value.WellFormed := by
  refine Expr.wellFormed_concat fun e he => ?_
  simp only [List.map_map, List.mem_map, List.mem_reverse] at he
  obtain ⟨p, hp, rfl⟩ := he
  exact hg.parts p hp

theorem WellFormed.value (hg : g.WellFormed) : g.value.value.WellFormed := by
  refine Expr.wellFormed_alternation fun e he => ?_
  simp only [List.mem_map, List.mem_reverse, List.mem_cons] at he
  obtain ⟨b, rfl | hb, rfl⟩ := he
  · exact hg.lastBranch
  · exact hg.branches b hb

theorem WellFormed.nextAlternative (hg : g.WellFormed) : g.nextAlternative.WellFormed where
  branches b hb := by
    obtain rfl | hb := List.mem_cons.1 hb
    · exact hg.lastBranch
    · exact hg.branches b hb
  parts := by simp [OpenGroup.nextAlternative]

theorem WellFormed.repeatLast (hg : g.WellFormed) {min : Nat} {max : Option Nat} {isLazy : Bool}
    (hbounds : ∀ m ∈ max, min ≤ m) {g' : OpenGroup} (h : g.repeatLast min max isLazy = some g') :
    g'.WellFormed := by
  unfold OpenGroup.repeatLast at h
  split at h
  · rename_i e rest hparts
    obtain rfl := Option.some.inj h
    have hall := hg.parts
    rw [hparts] at hall
    refine ⟨hg.branches, fun p hp => ?_⟩
    obtain rfl | hp := List.mem_cons.1 hp
    · exact Expr.wellFormed_repetition (hall _ (List.mem_cons_self ..)) hbounds
    · exact hall p (List.mem_cons_of_mem _ hp)
  · simp at h

end OpenGroup

variable {cs rest : List Char}

theorem le_of_readBounds {bounds : Nat × Option Nat} (h : readBounds cs = some (bounds, rest)) :
    ∀ m ∈ bounds.2, bounds.1 ≤ m := by
  obtain ⟨⟨min, mid⟩, -, h⟩ := Option.bind_eq_some_iff.1 h
  dsimp only at h
  split at h
  · obtain ⟨rfl, rfl⟩ := by simpa using h
    simp
  · obtain ⟨rfl, rfl⟩ := by simpa using h
    simp
  · obtain ⟨⟨max, mid'⟩, -, h⟩ := Option.bind_eq_some_iff.1 h
    dsimp only at h
    split at h
    · split at h
      · obtain ⟨rfl, rfl⟩ := by simpa using h
        simpa
      · simp at h
    · simp at h
  · simp at h

theorem le_of_readOperator {bounds : Nat × Option Nat}
    (h : readOperator cs = some (bounds, rest)) : ∀ m ∈ bounds.2, bounds.1 ≤ m := by
  unfold readOperator at h
  split at h
  · obtain ⟨rfl, rfl⟩ := by simpa using h
    simp
  · obtain ⟨rfl, rfl⟩ := by simpa using h
    simp
  · obtain ⟨rfl, rfl⟩ := by simpa using h
    simp
  · exact le_of_readBounds h
  · simp at h

theorem wellFormed_literalExpr (flags : Flags) (c : Char) : (literalExpr flags c).WellFormed :=
  Expr.wellFormed_ofSet _

theorem wellFormed_toExpr (flags : Flags) (e : Escape) : (e.toExpr flags).WellFormed := by
  cases e with
  | literal c => exact wellFormed_literalExpr flags c
  | set s => exact Expr.wellFormed_ofSet s
  | look condition => trivial

theorem wellFormed_of_readPrimitive {flags : Flags} {e : Expr}
    (h : readPrimitive flags cs = some (e, rest)) : e.WellFormed := by
  unfold readPrimitive at h
  split at h
  · simp at h
  · obtain ⟨⟨escape, after⟩, -, heq⟩ := Option.map_eq_some_iff.1 h
    obtain ⟨rfl, rfl⟩ := by simpa using heq
    exact wellFormed_toExpr flags escape
  · obtain ⟨rfl, rfl⟩ := by simpa using h
    trivial
  · obtain ⟨rfl, rfl⟩ := by simpa using h
    trivial
  · obtain ⟨rfl, rfl⟩ := by simpa using h
    trivial
  · obtain ⟨rfl, rfl⟩ := by simpa using h
    exact wellFormed_literalExpr flags _

theorem wellFormed_of_readGroup {fuel : Nat} {flags : Flags} {groups groups' : Groups}
    {g : OpenGroup} {e : Written Expr} (hg : g.WellFormed)
    (h : readGroup fuel flags groups g cs = some (e, groups', rest)) : e.value.WellFormed := by
  -- one case for each kind of part; a group inside is read with less fuel
  induction fuel generalizing flags groups g cs e groups' rest with
  | zero =>
    simp only [readGroup] at h
    split at h
    · obtain ⟨rfl, -, -⟩ := by simpa using h
      exact hg.value
    · simp at h
  | succ fuel ih =>
    unfold readGroup at h
    split at h
    · obtain ⟨rfl, -, -⟩ := by simpa using h
      exact hg.value
    · obtain ⟨rfl, -, -⟩ := by simpa using h
      exact hg.value
    · exact ih hg.nextAlternative h
    · obtain ⟨⟨s, mid⟩, -, h⟩ := Option.bind_eq_some_iff.1 h
      exact ih (hg.add (Expr.wellFormed_ofSet _) _) h
    · split at h
      · simp at h
      · exact ih hg.addDirective h
      · split at h
        · rename_i hbody
          exact ih (hg.add (ih OpenGroup.wellFormed_begin hbody) _) h
        · simp at h
      · dsimp only at h
        split at h
        · rename_i hbody
          have hgroup {number : Nat} : (Expr.group number _).WellFormed :=
            ih OpenGroup.wellFormed_begin hbody
          exact ih (hg.add hgroup _) h
        · simp at h
    · split at h
      · obtain ⟨⟨⟨min, max⟩, mid⟩, hoperator, h⟩ := Option.bind_eq_some_iff.1 h
        obtain ⟨g', hrepeat, h⟩ := Option.bind_eq_some_iff.1 h
        exact ih (hg.repeatLast (le_of_readOperator hoperator) hrepeat) h
      · obtain ⟨⟨e, mid⟩, hprimitive, h⟩ := Option.bind_eq_some_iff.1 h
        exact ih (hg.add (wellFormed_of_readPrimitive hprimitive) _) h

theorem wellFormed_of_parse? {e : Expr} (h : parse? cs = some e) : e.WellFormed := by
  unfold parse? at h
  split at h
  · split at h
    · obtain rfl := Option.some.inj h
      exact wellFormed_of_readGroup OpenGroup.wellFormed_begin ‹_›
    · simp at h
  · simp at h

end RequestRouting.Regex
