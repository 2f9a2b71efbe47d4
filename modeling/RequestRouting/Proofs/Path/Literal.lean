import Mathlib.Data.List.Count
import RequestRouting.Path.Specificity
import RequestRouting.Proofs.Path.Canonical
import RequestRouting.Proofs.Text.Character
import RequestRouting.Proofs.Path.Matching

/-! Literal patterns that spell out a path. Where case counts and the path has at most a hundred
pieces, such a pattern matches the path and is strictly more specific than every other kind of
pattern that matches it. The bound is sharp: a catch-all weighs as much as a hundred literals. -/
namespace RequestRouting.Path

theorem Constraint.five_le_weight (constraint : Constraint) : 5 ≤ constraint.weight := by
  cases constraint <;> simp [Constraint.weight]

def weightOf (segments : List Segment) : Nat :=
  segments.foldr (fun segment rest => segment.weight + rest) 0

theorem weightOf_cons (segment : Segment) (rest : List Segment) :
    weightOf (segment :: rest) = segment.weight + weightOf rest := rfl

theorem five_mul_length_le (segments : List Segment) :
    5 * segments.length ≤ weightOf segments + 4 * segments.countP Segment.isLiteral := by
  induction segments with
  | nil => simp
  | cons segment rest ih =>
    rw [weightOf_cons, List.length_cons, List.countP_cons]
    -- only literals weigh less than five, and they make up for it with four
    cases segment with
    | literal text =>
      simp only [Segment.weight, Segment.isLiteral, if_true]
      omega
    | param name constraint =>
      have hweight := constraint.five_le_weight
      simp only [Segment.weight, Segment.isLiteral, Bool.false_eq_true, if_false]
      omega
    | wildcard =>
      simp only [Segment.weight, Segment.isLiteral, Bool.false_eq_true, if_false]
      omega
    | catchAll name =>
      simp only [Segment.weight, Segment.isLiteral, Bool.false_eq_true, if_false]
      omega

theorem countP_isLiteral_le_weightOf (segments : List Segment) :
    segments.countP Segment.isLiteral ≤ weightOf segments := by
  have hweight := five_mul_length_le segments
  have hcount : segments.countP Segment.isLiteral ≤ segments.length := List.countP_le_length
  omega

theorem weightOf_of_catchAll {segments : List Segment} (h : segments.any Segment.isCatchAll) :
    100 + segments.countP Segment.isLiteral ≤ weightOf segments := by
  induction segments with
  | nil => contradiction
  | cons segment rest ih =>
    rw [weightOf_cons, List.countP_cons]
    cases segment with
    | literal text =>
      have hweight := ih (by simpa [Segment.isCatchAll] using h)
      simp only [Segment.weight, Segment.isLiteral, if_true]
      omega
    | param name constraint =>
      have hweight := ih (by simpa [Segment.isCatchAll] using h)
      simp only [Segment.isLiteral, Bool.false_eq_true, if_false]
      omega
    | wildcard =>
      have hweight := ih (by simpa [Segment.isCatchAll] using h)
      simp only [Segment.isLiteral, Bool.false_eq_true, if_false]
      omega
    | catchAll name =>
      have hrest := countP_isLiteral_le_weightOf rest
      simp only [Segment.weight, Segment.isLiteral, Bool.false_eq_true, if_false]
      omega

theorem weightOf_literals (texts : List String) :
    weightOf (texts.map .literal) = texts.length := by
  induction texts with
  | nil => rfl
  | cons text texts ih =>
    rw [List.map_cons, weightOf_cons, ih, Segment.weight, List.length_cons]
    omega

theorem countP_isLiteral_literals (texts : List String) :
    (texts.map Segment.literal).countP Segment.isLiteral = texts.length := by
  rw [List.countP_map, List.countP_eq_length]
  intro text _
  rfl

namespace Pattern

theorem compareSpecificity_eq_lt {p q : Pattern} :
    compareSpecificity p q = .lt ↔ p.weight < q.weight ∨ p.weight = q.weight ∧
      (q.literalCount < p.literalCount ∨ q.literalCount = p.literalCount ∧
        q.byteLength < p.byteLength) := by
  simp only [compareSpecificity, compareLex, compareOn, Ordering.then_eq_lt,
    Std.LawfulEqOrd.compare_eq_iff_eq, Nat.compare_eq_lt]

/-- The path under which a static pattern is listed. -/
def directPath (p : Pattern) : String := if p.isEmpty then "/" else p.canonical

/-- The pattern is static and spells out the path. -/
def SpellsOut (p : Pattern) (path : String) : Prop := p.isStatic = true ∧ p.directPath = path

variable {p q : Pattern} {path : String} {options : MatchOptions}

theorem isEmpty_iff : p.isEmpty = true ↔ p.canonical.toList = [] := by
  rw [isEmpty, String.isEmpty_iff, ← String.toList_eq_nil_iff]

theorem Parsed.isCanonical (hp : p.Parsed) : IsCanonical p.canonical.toList := by
  obtain ⟨text, hp⟩ := hp
  rw [(parse_eq_ok.1 hp).1]
  exact isCanonical_normalize text

theorem Parsed.weight_of_isStatic (hp : p.Parsed) (hstatic : p.isStatic) :
    p.weight = (pieces p.canonical).length := by
  show weightOf p.segments = _
  rw [hp.segments_eq hstatic, weightOf_literals]

theorem Parsed.literalCount_of_isStatic (hp : p.Parsed) (hstatic : p.isStatic) :
    p.literalCount = (pieces p.canonical).length := by
  rw [literalCount, hp.segments_eq hstatic, countP_isLiteral_literals]

theorem canonical_of_directPath (hpath : path ≠ "/") (h : p.directPath = path) :
    p.canonical = path := by
  unfold directPath at h
  split at h
  · exact absurd h.symm hpath
  · exact h

theorem Parsed.spellsOut_root (hp : p.Parsed) (h : p.canonical = "" ∨ p.canonical = "/") :
    p.SpellsOut "/" := by
  have hpieces : pieceChars p.canonical.toList = [] := by
    rcases h with h | h
    · rw [h]; decide
    · rw [h]; decide
  have hsegments : p.segments = [] := by
    obtain ⟨text, hp⟩ := hp
    have hread := (parse_eq_ok.1 hp).2
    rw [hpieces] at hread
    exact (Except.ok.inj hread).symm
  refine ⟨?_, ?_⟩
  · rw [isStatic, hsegments, List.all_nil]
  · unfold directPath
    split
    · rfl
    · next hnonempty =>
      rcases h with h | h
      · exact absurd (isEmpty_iff.2 (String.toList_eq_nil_iff.2 h)) hnonempty
      · exact h

theorem SpellsOut.pieces_eq (h : p.SpellsOut path) : pieces p.canonical = pieces path := by
  obtain ⟨-, h⟩ := h
  unfold directPath at h
  split at h
  · next hempty =>
    rw [← h, pieces, isEmpty_iff.1 hempty]
    decide
  · rw [h]

theorem Parsed.isCanonical_of_spellsOut (hp : p.Parsed) (h : p.SpellsOut path) :
    IsCanonical path.toList ∧ path.toList ≠ [] := by
  obtain ⟨-, h⟩ := h
  unfold directPath at h
  split at h
  · rw [← h]
    exact ⟨⟨fun _ => rfl, List.IsChain.singleton _⟩, by decide⟩
  · next hempty =>
    rw [← h]
    exact ⟨hp.isCanonical, fun hnil => hempty (isEmpty_iff.2 hnil)⟩

theorem Parsed.accepts_of_spellsOut (hp : p.Parsed) (h : p.SpellsOut path) :
    p.accepts options path = true := by
  rw [accepts_iff]
  constructor
  · have hslash : p.trailingSlash = endsInSlash path := by
      have hpath := h.2
      unfold directPath at hpath
      split at hpath
      · next hempty =>
        rw [← hpath, trailingSlash, endsInSlash, isEmpty_iff.1 hempty]
        decide
      · rw [← hpath, trailingSlash]
    unfold slashesAgree
    rw [hslash]
    split
    · next hends => simp [hends]
    · next hends => simp [hends]
  · rw [hp.segments_eq h.1, h.pieces_eq]
    exact ⟨[], captureSegments_literals_self _⟩

theorem pieceChars_eq_of_pieces_eq {path path' : String} (h : pieces path = pieces path') :
    pieceChars path.toList = pieceChars path'.toList :=
  List.map_injective_iff.2 (fun _ _ => String.ofList_injective) h

theorem SpellsOut.of_canonical_eq (hstatic : q.isStatic) (hne : q.canonical.toList ≠ [])
    (h : q.canonical = path) : q.SpellsOut path := by
  refine ⟨hstatic, ?_⟩
  unfold directPath
  rw [if_neg fun hempty => hne (isEmpty_iff.1 hempty), h]

theorem endsInSlash_of_slashesAgree (h : slashesAgree p options path = true)
    (hp : p.trailingSlash = true) : endsInSlash path = true := by
  unfold slashesAgree at h
  split at h
  · assumption
  · rw [hp] at h
    contradiction

theorem Parsed.eq_concat_of_spellsOut (hp : p.Parsed) (hq : q.Parsed) (h : p.SpellsOut path)
    (hstatic : q.isStatic) (hother : ¬ q.SpellsOut path) (hslash : slashesAgree q options path)
    (hpieces : pieces q.canonical = pieces path) :
    q.canonical.toList ≠ [] ∧ path.toList = q.canonical.toList ++ ['/'] := by
  obtain ⟨hpath, hpathne⟩ := hp.isCanonical_of_spellsOut h
  have hchars : pieceChars path.toList = pieceChars q.canonical.toList :=
    (pieceChars_eq_of_pieces_eq hpieces).symm
  have hqne : q.canonical.toList ≠ [] := by
    intro hnil
    rw [hnil] at hchars
    refine hother ⟨hstatic, ?_⟩
    rw [directPath, if_pos (isEmpty_iff.2 hnil), ← String.toList_inj, hpath.eq_slash hpathne hchars]
    rfl
  refine ⟨hqne, hpath.eq_concat_of_ne hq.isCanonical hpathne hqne hchars ?_ ?_⟩
  · intro heq
    exact hother (.of_canonical_eq hstatic hqne (String.toList_inj.1 heq).symm)
  · exact endsInSlash_of_slashesAgree hslash

theorem Parsed.byteLength_lt_of_spellsOut (hp : p.Parsed) (hq : q.Parsed) (h : p.SpellsOut path)
    (hstatic : q.isStatic) (hother : ¬ q.SpellsOut path) (hslash : slashesAgree q options path)
    (hpieces : pieces q.canonical = pieces path) : q.byteLength < p.byteLength := by
  obtain ⟨hqne, heq⟩ := hp.eq_concat_of_spellsOut hq h hstatic hother hslash hpieces
  have hcanonical : p.canonical = path := by
    have hdirect := h.2
    unfold directPath at hdirect
    split at hdirect
    · rw [← hdirect] at heq
      exact absurd (List.append_cancel_right (heq : [] ++ ['/'] = _)).symm hqne
    · exact hdirect
  rw [byteLength, byteLength, hcanonical, heq, Text.byteLength_append]
  exact Nat.lt_add_of_pos_right (by decide)

theorem Parsed.lt_of_spellsOut (hp : p.Parsed) (hq : q.Parsed)
    (hcase : options.caseSensitive = true) (hlength : (pieces path).length ≤ 100)
    (h : p.SpellsOut path) (hother : ¬ q.SpellsOut path)
    (haccepts : q.accepts options path = true) : compareSpecificity p q = .lt := by
  have hweight : p.weight = (pieces path).length := by rw [hp.weight_of_isStatic h.1, h.pieces_eq]
  have hcount : p.literalCount = (pieces path).length := by
    rw [hp.literalCount_of_isStatic h.1, h.pieces_eq]
  obtain ⟨hslash, entries, hentries⟩ := accepts_iff.1 haccepts
  rw [compareSpecificity_eq_lt, hweight, hcount]
  cases hcatch : q.segments.any Segment.isCatchAll with
  | true =>
    -- A catch-all weighs as much as the longest of these paths. In a draw the literals count.
    have hheavy : 100 + q.literalCount ≤ q.weight := weightOf_of_catchAll hcatch
    omega
  | false =>
    have hsame := length_of_captureSegments hcatch hentries
    by_cases hstatic : q.isStatic
    · rw [hq.segments_eq hstatic] at hentries
      have hpieces := eq_of_captureSegments_literals hcase hentries
      rw [hq.weight_of_isStatic hstatic, hq.literalCount_of_isStatic hstatic, hpieces]
      exact .inr ⟨rfl, .inr ⟨rfl, hp.byteLength_lt_of_spellsOut hq h hstatic hother hslash hpieces⟩⟩
    · -- There are as many segments as pieces, and one that is no literal weighs more than one.
      have hfewer : q.literalCount < q.segments.length := by
        rw [literalCount, List.countP_lt_length_iff]
        simpa [isStatic] using hstatic
      have hheavy : 5 * q.segments.length ≤ q.weight + 4 * q.literalCount := five_mul_length_le _
      omega

end Pattern

end RequestRouting.Path
