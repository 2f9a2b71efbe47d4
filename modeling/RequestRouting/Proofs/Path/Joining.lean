import RequestRouting.Proofs.Path.Rereading

/-! Joining paths. A path with pieces is appended to what the path before it is without its end
slash, and an empty path adds nothing. A lone slash takes the end slash of the path before it away,
together with blanks that come to stand at the end then. -/
namespace RequestRouting.Path

structure IsNormal (cs : List Char) : Prop where
  canonical : IsCanonical cs
  trimmed : Text.IsTrimmed cs

theorem isNormal_normalizeChars (cs : List Char) : IsNormal (normalizeChars cs) :=
  ⟨isCanonical_normalizeChars cs, isTrimmed_normalizeChars cs⟩

theorem isNormal_slash : IsNormal ['/'] := isNormal_normalizeChars ['/']

theorem IsNormal.normalizeChars_eq {cs : List Char} (h : IsNormal cs) : normalizeChars cs = cs :=
  h.canonical.normalizeChars_eq h.trimmed

theorem isNormal_joinChars (outer inner : List Char) : IsNormal (joinChars outer inner) := by
  unfold joinChars
  split
  · exact isNormal_normalizeChars _
  split
  · exact isNormal_normalizeChars _
  dsimp only
  split
  · exact isNormal_normalizeChars _
  · exact isNormal_normalizeChars _

theorem IsCanonical.isPrefix {cs ds : List Char} (h : IsCanonical ds) (hcs : cs <+: ds) :
    IsCanonical cs where
  startsWithSlash hne := by
    obtain ⟨rest, rfl⟩ := hcs
    rw [← h.startsWithSlash (by simp [hne]), List.head?_append_of_ne_nil _ hne]
  noDoubleSlash := h.noDoubleSlash.prefix hcs

theorem IsCanonical.exists_eq_cons {cs : List Char} (h : IsCanonical cs) (hne : cs ≠ []) :
    ∃ rest, cs = '/' :: rest :=
  List.head?_eq_some_iff.1 (h.startsWithSlash hne)

theorem IsCanonical.isBlank_head {cs : List Char} (h : IsCanonical cs) (c : Char)
    (hc : cs.head? = some c) : Text.isBlank c = false := by
  have hne : cs ≠ [] := by
    rintro rfl
    contradiction
  obtain ⟨rest, rfl⟩ := h.exists_eq_cons hne
  obtain rfl := Option.some.inj hc
  decide

theorem IsCanonical.normalizeChars_eq_dropEnd {cs : List Char} (h : IsCanonical cs) :
    normalizeChars cs = Text.dropEndWhile Text.isBlank cs := by
  have hfront : cs.dropWhile Text.isBlank = cs := Text.dropWhile_isBlank_of_head h.isBlank_head
  have htrim : Text.trimChars cs = Text.dropEndWhile Text.isBlank cs := by
    rw [Text.trimChars, hfront]
  have hcanonical : IsCanonical (Text.trimChars cs) := by
    rw [htrim]
    exact h.isPrefix (Text.dropEndWhile_isPrefix _ cs)
  rw [← htrim]
  unfold normalizeChars
  split
  · next hnil => rw [hnil]
  · next c rest hcons =>
    have hc : c = '/' := by
      have hhead := hcanonical.startsWithSlash (by simp [hcons])
      simpa [hcons] using hhead
    rw [if_pos hc, ← hcons]
    exact hcanonical.noDoubleSlash.collapseSlashes_eq

def stem (cs : List Char) : List Char := Text.dropEndWhile (· == '/') cs

theorem stem_isPrefix (cs : List Char) : stem cs <+: cs := Text.dropEndWhile_isPrefix _ cs

theorem stem_eq_self_iff {cs : List Char} : stem cs = cs ↔ cs.getLast? ≠ some '/' := by
  rw [stem, Text.dropEndWhile_eq_self_iff]
  constructor
  · intro h hlast
    exact absurd (h '/' hlast) (by decide)
  · intro h c hlast
    rw [beq_eq_false_iff_ne]
    rintro rfl
    exact h hlast

theorem stem_concat_slash (cs : List Char) : stem (cs ++ ['/']) = stem cs :=
  Text.dropEndWhile_concat_of_pos rfl cs

theorem NoDoubleSlash.eq_stem_or {cs : List Char} (h : NoDoubleSlash cs) :
    stem cs = cs ∨ cs = stem cs ++ ['/'] := by
  by_cases hlast : cs.getLast? = some '/'
  · obtain ⟨front, rfl⟩ := List.getLast?_eq_some_iff.1 hlast
    have hfront : stem front = front := by
      rw [stem_eq_self_iff]
      intro hslash
      obtain ⟨rest, rfl⟩ := List.getLast?_eq_some_iff.1 hslash
      exact h.not_isInfix ⟨rest, [], by simp⟩
    rw [stem_concat_slash, hfront]
    exact .inr rfl
  · exact .inl (stem_eq_self_iff.2 hlast)

theorem stem_stem (cs : List Char) : stem (stem cs) = stem cs :=
  List.rdropWhile_idempotent _ cs

theorem pieceChars_append_slash (cs ds : List Char) :
    pieceChars (cs ++ '/' :: ds) = pieceChars cs ++ pieceChars ds := by
  rw [pieceChars, Text.splitAll_append, List.filter_append]
  rfl

theorem ne_nil_of_pieceChars {cs : List Char} (hpieces : pieceChars cs ≠ []) : cs ≠ [] := by
  rintro rfl
  exact hpieces rfl

theorem ne_slash_of_pieceChars {cs : List Char} (hpieces : pieceChars cs ≠ []) : cs ≠ ['/'] := by
  rintro rfl
  exact hpieces rfl

theorem IsNormal.exists_eq_cons {cs : List Char} (h : IsNormal cs) (hpieces : pieceChars cs ≠ []) :
    ∃ c rest, cs = '/' :: c :: rest ∧ c ≠ '/' := by
  obtain ⟨rest, rfl⟩ := h.canonical.exists_eq_cons (ne_nil_of_pieceChars hpieces)
  cases rest with
  | nil => exact absurd rfl hpieces
  | cons c rest => exact ⟨c, rest, rfl, (List.isChain_cons_cons.1 h.canonical.noDoubleSlash).1 rfl⟩

theorem IsNormal.eq_nil_or_slash {cs : List Char} (h : IsNormal cs) (hpieces : pieceChars cs = []) :
    cs = [] ∨ cs = ['/'] := by
  by_cases hne : cs = []
  · exact .inl hne
  · exact .inr (h.canonical.eq_slash hne hpieces)

theorem pieceChars_stem {cs : List Char} (h : IsNormal cs) :
    pieceChars (stem cs) = pieceChars cs := by
  rcases h.canonical.noDoubleSlash.eq_stem_or with hstem | hstem
  · rw [hstem]
  · conv_rhs => rw [hstem, pieceChars_append_slash]
    exact (List.append_nil _).symm

theorem stem_ne_nil {cs : List Char} (h : IsNormal cs) (hpieces : pieceChars cs ≠ []) :
    stem cs ≠ [] := by
  intro hnil
  rw [← pieceChars_stem h, hnil] at hpieces
  exact hpieces rfl

theorem IsNormal.append {cs ds : List Char} (hcs : IsCanonical cs)
    (hopen : cs.getLast? ≠ some '/') (hds : IsNormal ds) (hne : ds ≠ []) :
    IsNormal (cs ++ ds) := by
  have hcanonical : IsCanonical (cs ++ ds) := by
    constructor
    · intro _
      cases cs with
      | nil => exact hds.canonical.startsWithSlash hne
      | cons c cs => exact hcs.startsWithSlash (List.cons_ne_nil c cs)
    · refine List.IsChain.append hcs.noDoubleSlash hds.canonical.noDoubleSlash ?_
      intro c hc d _ hslash
      rw [hslash] at hc
      exact absurd hc hopen
  refine ⟨hcanonical, hcanonical.isBlank_head, ?_⟩
  intro c hc
  rw [List.getLast?_append_of_ne_nil _ hne] at hc
  exact hds.trimmed.last c hc

theorem getLast?_stem (cs : List Char) : (stem cs).getLast? ≠ some '/' :=
  stem_eq_self_iff.1 (stem_stem cs)

section Joining

variable {outer inner : List Char}

theorem joinChars_nil_left (h : IsNormal inner) : joinChars [] inner = inner :=
  h.normalizeChars_eq

theorem joinChars_nil_right (h : IsNormal outer) : joinChars outer [] = outer := by
  unfold joinChars
  split
  · next hnil => rw [List.isEmpty_iff.1 hnil]; rfl
  · exact h.normalizeChars_eq

theorem isNormal_stem_append (houter : IsNormal outer) (hinner : IsNormal inner)
    (hpieces : pieceChars inner ≠ []) : IsNormal (stem outer ++ inner) := by
  have hcanonical := houter.canonical.isPrefix (stem_isPrefix outer)
  exact .append hcanonical (getLast?_stem outer) hinner (ne_nil_of_pieceChars hpieces)

theorem joinChars_of_pieces (houter : IsNormal outer) (hinner : IsNormal inner)
    (hpieces : pieceChars inner ≠ []) : joinChars outer inner = stem outer ++ inner := by
  have hnormal := isNormal_stem_append houter hinner hpieces
  obtain ⟨c, rest, rfl, hc⟩ := hinner.exists_eq_cons hpieces
  unfold joinChars
  split
  · next hnil =>
    rw [List.isEmpty_iff.1 hnil]
    exact hinner.normalizeChars_eq
  · rw [← stem]
    simp [hc, hnormal.normalizeChars_eq]

theorem joinChars_slash (houter : IsNormal outer) (hne : outer ≠ []) :
    joinChars outer ['/'] = Text.dropEndWhile Text.isBlank (stem outer) := by
  have hcanonical := houter.canonical.isPrefix (stem_isPrefix outer)
  rw [← hcanonical.normalizeChars_eq_dropEnd]
  simp [joinChars, hne, stem]

theorem joinChars_slash_of_stem (houter : IsNormal outer) (hstem : stem outer = outer)
    (hne : outer ≠ []) : joinChars outer ['/'] = outer := by
  rw [joinChars_slash houter hne, hstem, Text.dropEndWhile_eq_self_iff]
  exact houter.trimmed.last

theorem stem_append (cs : List Char) (h : IsNormal inner) (hpieces : pieceChars inner ≠ []) :
    stem (cs ++ inner) = cs ++ stem inner :=
  Text.dropEndWhile_append cs (stem_ne_nil h hpieces)

end Joining

theorem dropEnd_isBlank_ne_nil {cs : List Char} (h : IsCanonical cs) (hne : cs ≠ []) :
    Text.dropEndWhile Text.isBlank cs ≠ [] := by
  obtain ⟨rest, rfl⟩ := h.exists_eq_cons hne
  rw [Text.dropEndWhile, Ne, List.reverse_eq_nil_iff, List.dropWhile_eq_nil_iff]
  intro hblank
  have hslash := hblank '/' (by simp)
  exact absurd hslash (by decide)

namespace Pattern

variable {p q : Pattern}

theorem Parsed.isNormal (h : p.Parsed) : IsNormal p.canonical.toList := by
  obtain ⟨text, h⟩ := h
  rw [(parse_eq_ok.1 h).1, normalize, String.toList_ofList]
  exact isNormal_normalizeChars _

theorem canonical_of_combine {joined : Pattern} (h : p.combine q = .ok joined) :
    joined.canonical.toList = joinChars p.canonical.toList q.canonical.toList := by
  rw [(parse_eq_ok.1 h).1, normalize, join, String.toList_ofList, String.toList_ofList]
  exact (isNormal_joinChars _ _).normalizeChars_eq

end Pattern

end RequestRouting.Path
