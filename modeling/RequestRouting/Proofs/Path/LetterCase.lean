import RequestRouting.Proofs.Path.Literal
import RequestRouting.Proofs.Text.Character

/-! Paths up to the case of ASCII letters. A slash has no case, so a path in lower case has the
same pieces in lower case, ends as before and is as long. Where case does not count, a literal
pattern matches by these pieces, and by its end. -/
namespace RequestRouting

namespace Text

theorem toLower_eq_slash {c : Char} : c.toLower = '/' ↔ c = '/' := toLower_eq_iff (by decide)

theorem map_toLower_eq_slash {s : String} : s.toList.map Char.toLower = ['/'] ↔ s = "/" := by
  rw [← String.toList_inj]
  constructor
  · intro h
    obtain ⟨c, hs, hc⟩ := List.map_eq_singleton_iff.1 h
    rw [hs, toLower_eq_slash.1 hc]
    rfl
  · intro h
    rw [h]
    rfl

theorem splitAll_map_toLower (cs : List Char) :
    splitAll '/' (cs.map Char.toLower) = (splitAll '/' cs).map (List.map Char.toLower) := by
  induction cs with
  | nil => rfl
  | cons c cs ih =>
    simp only [List.map_cons, splitAll, toLower_eq_slash, ih]
    split
    · rfl
    · cases splitAll '/' cs with
      | nil => rfl
      | cons piece pieces => rfl

end Text

namespace Path

theorem pieceChars_map_toLower (cs : List Char) :
    pieceChars (cs.map Char.toLower) = (pieceChars cs).map (List.map Char.toLower) := by
  unfold pieceChars
  rw [Text.splitAll_map_toLower, List.filter_map]
  simp only [Function.comp_def, List.isEmpty_map]

theorem map_asciiLower_pieces (path : String) :
    (pieces path).map Text.asciiLower =
      (pieceChars (path.toList.map Char.toLower)).map String.ofList := by
  unfold pieces Text.asciiLower
  rw [pieceChars_map_toLower, List.map_map, List.map_map]
  simp only [Function.comp_def, String.toList_ofList]

theorem getLast?_map_toLower {cs : List Char} :
    (cs.map Char.toLower).getLast? = some '/' ↔ cs.getLast? = some '/' := by
  rw [List.getLast?_map, Option.map_eq_some_iff]
  simp only [Text.toLower_eq_slash, exists_eq_right]

theorem endsInSlashChars_map_toLower (cs : List Char) :
    endsInSlashChars (cs.map Char.toLower) = endsInSlashChars cs := by
  rw [Bool.eq_iff_iff]
  simp only [endsInSlashChars, Bool.and_eq_true, beq_iff_eq, List.length_map,
    getLast?_map_toLower]

theorem IsCanonical.map_toLower {cs : List Char} (h : IsCanonical cs) :
    IsCanonical (cs.map Char.toLower) where
  startsWithSlash hne := by
    rw [List.head?_map, h.startsWithSlash (by simpa using hne)]
    rfl
  noDoubleSlash := by
    rw [NoDoubleSlash, List.isChain_map]
    simp only [Text.toLower_eq_slash, ne_eq]
    exact h.noDoubleSlash

variable {options : MatchOptions}

theorem captureSegments_literals_of_caseless (hcase : options.caseSensitive = false)
    (texts pieces : List String) :
    (∃ entries, captureSegments options (texts.map .literal) pieces = some entries) ↔
      texts.map Text.asciiLower = pieces.map Text.asciiLower := by
  induction texts generalizing pieces with
  | nil =>
    cases pieces with
    | nil => simp [captureSegments]
    | cons piece rest => simp [captureSegments]
  | cons text texts ih =>
    cases pieces with
    | nil => simp [captureSegments]
    | cons piece rest =>
      simp only [List.map_cons, captureSegments, equalLiteral, hcase, Bool.false_eq_true, if_false,
        List.cons.injEq, ← ih, Text.equalIgnoringCase, beq_iff_eq]
      split
      · next heq => simp only [heq, true_and]
      · next hne => simp [hne]

namespace Pattern

variable {p q : Pattern} {path path' : String}

theorem Parsed.accepts_iff_of_caseless (hp : p.Parsed) (hstatic : p.isStatic = true)
    (hcase : options.caseSensitive = false) :
    p.accepts options path = true ↔ slashesAgree p options path = true ∧
      pieceChars (p.canonical.toList.map Char.toLower) =
        pieceChars (path.toList.map Char.toLower) := by
  rw [accepts_iff, hp.segments_eq hstatic, captureSegments_literals_of_caseless hcase,
    map_asciiLower_pieces, map_asciiLower_pieces]
  refine and_congr_right' ⟨fun h => ?_, congrArg _⟩
  exact List.map_injective_iff.2 (fun _ _ => String.ofList_injective) h

theorem Parsed.accepts_congr (hp : p.Parsed) (hstatic : p.isStatic = true)
    (hcase : options.caseSensitive = false) (hpath : Text.equalIgnoringCase path path' = true) :
    p.accepts options path = p.accepts options path' := by
  have hlower := Text.equalIgnoringCase_iff.1 hpath
  have hend : endsInSlash path = endsInSlash path' := by
    rw [endsInSlash, endsInSlash, ← endsInSlashChars_map_toLower, hlower,
      endsInSlashChars_map_toLower]
  rw [Bool.eq_iff_iff, hp.accepts_iff_of_caseless hstatic hcase,
    hp.accepts_iff_of_caseless hstatic hcase, hlower]
  simp only [slashesAgree, hend]

theorem Parsed.eq_concat_of_caseless (hp : p.Parsed) (hq : q.Parsed) (h : p.SpellsOut path)
    (hother : Text.equalIgnoringCase q.directPath path = false)
    (hslash : slashesAgree q options path = true)
    (hpieces : pieceChars (q.canonical.toList.map Char.toLower) =
      pieceChars (path.toList.map Char.toLower)) :
    q.canonical.toList ≠ [] ∧
      path.toList.map Char.toLower = q.canonical.toList.map Char.toLower ++ ['/'] := by
  obtain ⟨hpath, hpathne⟩ := hp.isCanonical_of_spellsOut h
  have hdiffers : q.directPath.toList.map Char.toLower ≠ path.toList.map Char.toLower := by
    rw [Ne, ← Text.equalIgnoringCase_iff, hother]
    exact Bool.false_ne_true
  have hlowerne : path.toList.map Char.toLower ≠ [] := mt List.map_eq_nil_iff.1 hpathne
  have hqne : q.canonical.toList ≠ [] := by
    intro hnil
    apply hdiffers
    rw [hnil] at hpieces
    rw [directPath, if_pos (isEmpty_iff.2 hnil), hpath.map_toLower.eq_slash hlowerne hpieces.symm]
    rfl
  have hdirect : q.directPath = q.canonical := if_neg fun hempty => hqne (isEmpty_iff.1 hempty)
  rw [hdirect] at hdiffers
  refine ⟨hqne, hpath.map_toLower.eq_concat_of_ne hq.isCanonical.map_toLower hlowerne
    (mt List.map_eq_nil_iff.1 hqne) hpieces.symm hdiffers.symm ?_⟩
  rw [endsInSlashChars_map_toLower, endsInSlashChars_map_toLower]
  exact endsInSlash_of_slashesAgree hslash

theorem Parsed.byteLength_lt_of_caseless (hp : p.Parsed) (hq : q.Parsed) (h : p.SpellsOut path)
    (hother : Text.equalIgnoringCase q.directPath path = false)
    (hslash : slashesAgree q options path = true)
    (hpieces : pieceChars (q.canonical.toList.map Char.toLower) =
      pieceChars (path.toList.map Char.toLower)) : q.byteLength < p.byteLength := by
  obtain ⟨hqne, heq⟩ := hp.eq_concat_of_caseless hq h hother hslash hpieces
  have hcanonical : p.canonical = path := by
    refine canonical_of_directPath ?_ h.2
    rintro rfl
    have hnil : q.canonical.toList.map Char.toLower = [] :=
      List.append_cancel_right (heq.symm : _ = [] ++ ['/'])
    exact hqne (List.map_eq_nil_iff.1 hnil)
  rw [byteLength, byteLength, hcanonical, ← Text.byteLength_map_toLower path.toList, heq,
    Text.byteLength_append, Text.byteLength_map_toLower]
  exact Nat.lt_add_of_pos_right (by decide)

theorem Parsed.lt_of_caseless (hp : p.Parsed) (hq : q.Parsed)
    (hcase : options.caseSensitive = false) (h : p.SpellsOut path) (hstatic : q.isStatic = true)
    (hother : Text.equalIgnoringCase q.directPath path = false)
    (haccepts : q.accepts options path = true) : compareSpecificity p q = .lt := by
  obtain ⟨hslash, hpieces⟩ := (hq.accepts_iff_of_caseless hstatic hcase).1 haccepts
  have hlength := hp.byteLength_lt_of_caseless hq h hother hslash hpieces
  have hcount : (pieces p.canonical).length = (pieces q.canonical).length := by
    rw [pieceChars_map_toLower, pieceChars_map_toLower] at hpieces
    have hpieces := congrArg List.length hpieces
    rw [h.pieces_eq]
    simpa [pieces] using hpieces.symm
  rw [compareSpecificity_eq_lt, hp.weight_of_isStatic h.1, hq.weight_of_isStatic hstatic,
    hp.literalCount_of_isStatic h.1, hq.literalCount_of_isStatic hstatic, hcount]
  exact .inr ⟨rfl, .inr ⟨rfl, hlength⟩⟩

end Pattern

end Path

end RequestRouting
