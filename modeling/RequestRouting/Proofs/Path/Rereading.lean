import RequestRouting.Path.Capture
import RequestRouting.Path.Specificity
import RequestRouting.Proofs.Path.Canonical
import RequestRouting.Proofs.Path.Reading
import RequestRouting.Proofs.Text.Trimming

/-! Reading a canonical form again. A canonical form is trimmed and has nothing left to collapse, so
it is its own canonical form, and reading it gives the pattern back. Two patterns with the same
canonical form are therefore the same in every respect, whichever texts they come from. -/
namespace RequestRouting.Path

theorem getLast?_collapseSlashes (cs : List Char) :
    (collapseSlashes cs).getLast? = cs.getLast? := by
  induction cs with
  | nil => rfl
  | cons c cs ih =>
    unfold collapseSlashes
    split
    · next h =>
      have hne : cs ≠ [] := by
        rintro rfl
        simp at h
      rw [ih, List.getLast?_cons_of_ne_nil hne]
    · rw [List.getLast?_cons, List.getLast?_cons, ih]

theorem NoDoubleSlash.collapseSlashes_eq {cs : List Char} (h : NoDoubleSlash cs) :
    collapseSlashes cs = cs := by
  induction cs with
  | nil => rfl
  | cons c cs ih =>
    unfold collapseSlashes
    split
    · next hdouble =>
      obtain ⟨hc, hhead⟩ := hdouble
      obtain ⟨rest, rfl⟩ := List.head?_eq_some_iff.1 hhead
      exact absurd rfl ((List.isChain_cons_cons.1 h).1 hc)
    · rw [ih h.tail]

theorem NoDoubleSlash.not_isInfix {cs : List Char} (h : NoDoubleSlash cs) :
    ¬ ['/', '/'] <:+: cs := by
  intro hinfix
  have hpair : NoDoubleSlash ['/', '/'] := h.infix hinfix
  simp [NoDoubleSlash] at hpair

theorem isTrimmed_normalizeChars (cs : List Char) : Text.IsTrimmed (normalizeChars cs) := by
  have hcanonical := isCanonical_normalizeChars cs
  constructor
  case head =>
    intro c hc
    have hne : normalizeChars cs ≠ [] := by
      intro hnil
      simp [hnil] at hc
    obtain rfl : '/' = c := by simpa [hcanonical.startsWithSlash hne] using hc
    decide
  case last =>
    intro c hc
    unfold normalizeChars at hc
    split at hc
    · simp at hc
    · next d rest htrim =>
      have hlast : (Text.trimChars cs).getLast? = some c := by
        rw [htrim]
        rw [getLast?_collapseSlashes] at hc
        split at hc
        · exact hc
        · rwa [List.getLast?_cons_of_ne_nil (List.cons_ne_nil d rest)] at hc
      exact Text.getLast?_trimChars hlast

theorem IsCanonical.normalizeChars_eq {cs : List Char} (h : IsCanonical cs)
    (htrimmed : Text.IsTrimmed cs) : normalizeChars cs = cs := by
  unfold normalizeChars
  rw [htrimmed.trimChars_eq]
  cases cs with
  | nil => rfl
  | cons c rest =>
    have hc : c = '/' := by simpa using h.startsWithSlash (List.cons_ne_nil c rest)
    simp only [hc, if_true]
    rw [← hc]
    exact h.noDoubleSlash.collapseSlashes_eq

theorem normalize_normalize (path : String) : normalize (normalize path) = normalize path := by
  have hchars : normalizeChars (normalizeChars path.toList) = normalizeChars path.toList :=
    (isCanonical_normalizeChars _).normalizeChars_eq (isTrimmed_normalizeChars _)
  simp [normalize, hchars]

structure IsSpelling (text : String) : Prop where
  startsWithSlash : text = "" ∨ text.toList.head? = some '/'
  noDoubleSlash : ¬ ['/', '/'] <:+: text.toList
  trimmed : Text.IsTrimmed text.toList

theorem isSpelling_normalize (path : String) : IsSpelling (normalize path) := by
  have hcanonical := isCanonical_normalize path
  refine ⟨?_, hcanonical.noDoubleSlash.not_isInfix, ?_⟩
  · by_cases hempty : normalize path = ""
    · exact .inl hempty
    · exact .inr (hcanonical.startsWithSlash (mt String.toList_eq_nil_iff.1 hempty))
  · rw [normalize, String.toList_ofList]
    exact isTrimmed_normalizeChars _

namespace Pattern

variable {p q : Pattern}

/-- The patterns that can be made: the empty one, those read from a text, and those put together
from others. -/
inductive Produced : Pattern → Prop
  | empty : Produced .empty
  | parse {text : String} {p : Pattern} (h : Pattern.parse text = .ok p) : Produced p
  | combine {p q joined : Pattern} (hp : Produced p) (hq : Produced q)
    (h : p.combine q = .ok joined) : Produced joined

theorem Produced.parsed (h : p.Produced) : p.Parsed := by
  cases h with
  | empty => exact parsed_empty
  | parse h => exact ⟨_, h⟩
  | combine _ _ h => exact ⟨_, h⟩

theorem Parsed.parse_canonical (h : p.Parsed) : parse p.canonical = .ok p := by
  obtain ⟨text, h⟩ := h
  obtain ⟨hcanonical, hsegments⟩ := parse_eq_ok.1 h
  apply parse_eq_ok.2
  refine ⟨?_, hsegments⟩
  rw [hcanonical, normalize_normalize]

theorem Parsed.eq_of_sameCanonical (hp : p.Parsed) (hq : q.Parsed)
    (h : p.sameCanonical q = true) : p = q := by
  have hcanonical : p.canonical = q.canonical := by simpa [sameCanonical] using h
  have hread := hp.parse_canonical
  rw [hcanonical, hq.parse_canonical] at hread
  exact (Except.ok.inj hread).symm

/-- Nothing tells the two patterns apart. -/
structure Interchangeable (p q : Pattern) : Prop where
  segments : p.segments = q.segments
  names : p.names = q.names
  hasCatchAll : p.hasCatchAll = q.hasCatchAll
  literalCount : p.literalCount = q.literalCount
  trailingSlash : p.trailingSlash = q.trailingSlash
  capture : ∀ options path, p.capture options path = q.capture options path
  weight : p.weight = q.weight
  compareSpecificity : ∀ other, compareSpecificity p other = compareSpecificity q other

theorem interchangeable_self (p : Pattern) : p.Interchangeable p where
  segments := rfl
  names := rfl
  hasCatchAll := rfl
  literalCount := rfl
  trailingSlash := rfl
  capture _ _ := rfl
  weight := rfl
  compareSpecificity _ := rfl

/-- A pattern is what its canonical form says. -/
theorem canonical_faithful :
    (∀ text p, parse text = .ok p → IsSpelling p.canonical ∧ parse p.canonical = .ok p) ∧
      ∀ p q : Pattern, p.Produced → q.Produced → p.sameCanonical q = true →
        p.Interchangeable q := by
  constructor
  · intro text p h
    have hparsed : p.Parsed := ⟨text, h⟩
    rw [(parse_eq_ok.1 h).1]
    refine ⟨isSpelling_normalize text, ?_⟩
    rw [← (parse_eq_ok.1 h).1]
    exact hparsed.parse_canonical
  · intro p q hp hq hsame
    rw [hp.parsed.eq_of_sameCanonical hq.parsed hsame]
    exact interchangeable_self q

def userPattern : Pattern := ⟨"/users/\x7bid\x7d/", [.literal "users", .param "id" .any]⟩

theorem canonical_faithful_users : ∃ p q : Pattern,
    parse " users//\x7bid\x7d//\t" = .ok p ∧
      combine ⟨"/users", [.literal "users"]⟩ ⟨"/\x7bid\x7d/", [.param "id" .any]⟩ = .ok q ∧
      IsSpelling p.canonical ∧ parse p.canonical = .ok p ∧ p.Interchangeable q := by
  have hread : parse " users//\x7bid\x7d//\t" = .ok userPattern := by rfl
  have houter : parse "users" = .ok ⟨"/users", [.literal "users"]⟩ := by rfl
  have hinner : parse "\x7bid\x7d/" = .ok ⟨"/\x7bid\x7d/", [.param "id" .any]⟩ := by rfl
  have hcombined : combine ⟨"/users", [.literal "users"]⟩ ⟨"/\x7bid\x7d/", [.param "id" .any]⟩ =
      .ok userPattern := by rfl
  obtain ⟨hspelling, hagain⟩ := canonical_faithful.1 _ _ hread
  have hq : userPattern.Produced := .combine (.parse houter) (.parse hinner) hcombined
  exact ⟨_, _, hread, hcombined, hspelling, hagain,
    canonical_faithful.2 _ _ (.parse hread) hq (by decide)⟩

end Pattern

end RequestRouting.Path
