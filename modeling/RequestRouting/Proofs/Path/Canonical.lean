import Mathlib.Data.List.Chain
import RequestRouting.Path.Basic
import RequestRouting.Proofs.Text.Splitting

/-! Canonical forms of paths. One that is not empty is given by its pieces and by whether it ends
in a slash, so two of them with the same pieces differ in that slash at most. -/
namespace RequestRouting.Path

def NoDoubleSlash (cs : List Char) : Prop := cs.IsChain fun c d => c = '/' → d ≠ '/'

/-- The empty text, or one that starts with a slash and has no two slashes in a row. -/
structure IsCanonical (cs : List Char) : Prop where
  startsWithSlash : cs ≠ [] → cs.head? = some '/'
  noDoubleSlash : NoDoubleSlash cs

theorem head?_collapseSlashes (cs : List Char) : (collapseSlashes cs).head? = cs.head? := by
  induction cs with
  | nil => rfl
  | cons c cs ih =>
    unfold collapseSlashes
    split
    · next h => rw [ih, h.2, List.head?_cons, h.1]
    · rfl

theorem noDoubleSlash_collapseSlashes (cs : List Char) : NoDoubleSlash (collapseSlashes cs) := by
  induction cs with
  | nil => exact List.IsChain.nil
  | cons c cs ih =>
    unfold collapseSlashes
    split
    · exact ih
    · next h =>
      have hhead := head?_collapseSlashes cs
      cases hcs : collapseSlashes cs with
      | nil => exact List.IsChain.singleton c
      | cons d ds =>
        rw [hcs] at ih hhead
        refine List.IsChain.cons_cons ?_ ih
        intro hc hd
        exact h ⟨hc, by rw [← hhead, List.head?_cons, hd]⟩

theorem isCanonical_normalizeChars (cs : List Char) : IsCanonical (normalizeChars cs) := by
  unfold normalizeChars
  split
  · exact ⟨fun h => absurd rfl h, .nil⟩
  · next c rest _ =>
    refine ⟨fun _ => ?_, noDoubleSlash_collapseSlashes _⟩
    rw [head?_collapseSlashes]
    split
    · next h => rw [List.head?_cons, h]
    · rfl

theorem isCanonical_normalize (path : String) : IsCanonical (normalize path).toList := by
  rw [normalize, String.toList_ofList]
  exact isCanonical_normalizeChars _

theorem splitAll_of_noDoubleSlash {cs : List Char} (h : NoDoubleSlash cs) :
    ∃ first others,
      Text.splitAll '/' cs = first :: (others ++ if cs.getLast? = some '/' then [[]] else []) ∧
        (∀ piece ∈ others, piece ≠ []) ∧ (first = [] → cs ≠ [] → cs.head? = some '/') := by
  induction cs with
  | nil => exact ⟨[], [], rfl, by simp, by simp⟩
  | cons c cs ih =>
    obtain ⟨first, others, hsplit, hne, hfirst⟩ := ih h.tail
    by_cases hc : c = '/'
    · -- A slash begins a new piece. It is not empty, for no second slash follows.
      subst hc
      by_cases hcs : cs = []
      · subst hcs
        exact ⟨[], [], by simp [Text.splitAll], by simp, by simp⟩
      · have hfirst' : first ≠ [] := by
          intro hnil
          have hhead := hfirst hnil hcs
          obtain ⟨d, ds, rfl⟩ := List.exists_cons_of_ne_nil hcs
          exact (List.isChain_cons_cons.1 h).1 rfl (by simpa using hhead)
        refine ⟨[], first :: others, ?_, ?_, by simp⟩
        · rw [List.getLast?_cons_of_ne_nil hcs]
          simp [Text.splitAll, hsplit]
        · intro piece hpiece
          rcases List.mem_cons.1 hpiece with rfl | hpiece
          · exact hfirst'
          · exact hne piece hpiece
    · refine ⟨c :: first, others, ?_, hne, by simp⟩
      by_cases hcs : cs = []
      · subst hcs
        have hnil : first = [] ∧ others = [] := by
          simpa [Text.splitAll, eq_comm] using hsplit
        simp [Text.splitAll, hc, hnil]
      · rw [List.getLast?_cons_of_ne_nil hcs]
        simp [Text.splitAll, hc, hsplit]

theorem IsCanonical.splitAll_eq {cs : List Char} (h : IsCanonical cs) (hne : cs ≠ []) :
    Text.splitAll '/' cs =
      [] :: (pieceChars cs ++ if cs.getLast? = some '/' then [[]] else []) := by
  obtain ⟨first, others, hsplit, hothers, -⟩ := splitAll_of_noDoubleSlash h.noDoubleSlash
  obtain ⟨c, rest, rfl⟩ := List.exists_cons_of_ne_nil hne
  have hc : c = '/' := by simpa using h.startsWithSlash hne
  have hfirst : first = [] := by
    simp only [Text.splitAll, hc, if_true, List.cons.injEq] at hsplit
    exact hsplit.1.symm
  have hfilter : others.filter (fun piece => !piece.isEmpty) = others := by
    rw [List.filter_eq_self]
    intro piece hpiece
    simpa using hothers piece hpiece
  have hpieces : pieceChars (c :: rest) = others := by
    unfold pieceChars
    rw [hsplit, hfirst]
    split <;> simp [hfilter]
  rw [hpieces, hsplit, hfirst]

theorem IsCanonical.ext {cs ds : List Char} (hcs : IsCanonical cs) (hds : IsCanonical ds)
    (hc : cs ≠ []) (hd : ds ≠ []) (hpieces : pieceChars cs = pieceChars ds)
    (hend : cs.getLast? = some '/' ↔ ds.getLast? = some '/') : cs = ds := by
  apply Text.splitAll_injective
  rw [hcs.splitAll_eq hc, hds.splitAll_eq hd, hpieces]
  simp only [hend]

theorem IsCanonical.eq_slash {cs : List Char} (h : IsCanonical cs) (hne : cs ≠ [])
    (hpieces : pieceChars cs = []) : cs = ['/'] := by
  have hsplit := h.splitAll_eq hne
  rw [hpieces, List.nil_append] at hsplit
  split at hsplit
  · exact Text.splitAll_injective hsplit
  · exact absurd (Text.splitAll_injective hsplit) hne

theorem IsCanonical.eq_concat {cs ds : List Char} (hcs : IsCanonical cs) (hds : IsCanonical ds)
    (hc : cs ≠ []) (hd : ds ≠ []) (hpieces : pieceChars cs = pieceChars ds)
    (hslash : cs.getLast? = some '/') (hnone : ds.getLast? ≠ some '/') : cs = ds ++ ['/'] := by
  apply Text.splitAll_injective
  rw [Text.splitAll_concat, hcs.splitAll_eq hc, hds.splitAll_eq hd, hpieces, if_pos hslash,
    if_neg hnone, List.append_nil, List.cons_append]

theorem IsCanonical.eq_concat_of_ne {cs ds : List Char} (hcs : IsCanonical cs)
    (hds : IsCanonical ds) (hc : cs ≠ []) (hd : ds ≠ []) (hpieces : pieceChars cs = pieceChars ds)
    (hne : cs ≠ ds) (hslash : endsInSlashChars ds = true → endsInSlashChars cs = true) :
    cs = ds ++ ['/'] := by
  have hdiffer : ¬ (cs.getLast? = some '/' ↔ ds.getLast? = some '/') := by
    intro hend
    exact hne (hcs.ext hds hc hd hpieces hend)
  by_cases hends : cs.getLast? = some '/'
  · have hopen : ds.getLast? ≠ some '/' := by
      intro hds'
      exact hdiffer ⟨fun _ => hds', fun _ => hends⟩
    exact hcs.eq_concat hds hc hd hpieces hends hopen
  · -- A slash at the end of the second would have to be in the first, unless it is all there is.
    have hdsEnds : ds.getLast? = some '/' := by
      by_contra hds'
      exact hdiffer ⟨fun h => absurd h hends, fun h => absurd h hds'⟩
    have hdsEnd : endsInSlashChars ds = false := by
      rw [← Bool.not_eq_true]
      intro h
      have hcsEnd := hslash h
      simp [endsInSlashChars, hends] at hcsEnd
    obtain ⟨c, rest, rfl⟩ := List.exists_cons_of_ne_nil hd
    have hrest : rest = [] := by
      unfold endsInSlashChars at hdsEnd
      rw [hdsEnds] at hdsEnd
      simpa using hdsEnd
    have hslashOnly : c = '/' := by simpa [hrest] using hdsEnds
    rw [hrest, hslashOnly] at hpieces
    rw [hcs.eq_slash hc hpieces] at hends
    exact absurd rfl hends

end RequestRouting.Path
