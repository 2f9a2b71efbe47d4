import RequestRouting.Media.Basic
import RequestRouting.Proofs.Media.Rendering
import RequestRouting.Proofs.Text.Splitting

/-! Inclusion as an order on types and subtypes. A suffix is compared as text: behind `*+` it is
all that follows, and in the included subtype what follows the last plus. A wildcard may itself
stand as a suffix. Apart from such stacked wildcards inclusion is transitive, and two types that
include each other are the same. -/
namespace RequestRouting.MediaType

def HasSuffix (cs suffix : List Char) : Prop := ∃ front, cs = front ++ '+' :: suffix ∧ '+' ∉ suffix

theorem HasSuffix.plus_mem {cs suffix : List Char} (h : HasSuffix cs suffix) : '+' ∈ cs := by
  obtain ⟨front, rfl, -⟩ := h
  simp

theorem HasSuffix.plus_notMem {cs suffix : List Char} (h : HasSuffix cs suffix) :
    '+' ∉ suffix := by
  obtain ⟨front, -, hlast⟩ := h
  exact hlast

theorem hasSuffix_star_iff {cs suffix : List Char} : HasSuffix ('*' :: '+' :: cs) suffix ↔
    cs = suffix ∧ '+' ∉ suffix ∨ HasSuffix cs suffix := by
  constructor
  · rintro ⟨front, heq, hlast⟩
    match front with
    | [] => simp at heq
    | [c] => exact .inl ⟨by simpa using (List.cons.inj heq).2, hlast⟩
    | c :: d :: front => exact .inr ⟨front, (List.cons.inj (List.cons.inj heq).2).2, hlast⟩
  · rintro (⟨rfl, hlast⟩ | ⟨front, rfl, hlast⟩)
    · exact ⟨['*'], rfl, hlast⟩
    · exact ⟨'*' :: '+' :: front, rfl, hlast⟩

inductive Covers : List Char → List Char → Prop
  | same (cs : List Char) : Covers cs cs
  | star (cs : List Char) : Covers ['*'] cs
  | bare (suffix : List Char) : Covers ('*' :: '+' :: suffix) suffix
  | suffixed {cs suffix : List Char} (h : HasSuffix cs suffix) : Covers ('*' :: '+' :: suffix) cs

inductive IsWildcard : List Char → Prop
  | star : IsWildcard ['*']
  | suffixed (suffix : List Char) : IsWildcard ('*' :: '+' :: suffix)

section Subtypes

variable {cs ds es suffix : List Char}

theorem Covers.eq_of_not_isWildcard (h : Covers cs ds) (hcs : ¬ IsWildcard cs) : cs = ds := by
  cases h with
  | same => rfl
  | star => exact absurd .star hcs
  | bare => exact absurd (.suffixed _) hcs
  | suffixed => exact absurd (.suffixed _) hcs

theorem covers_suffix_iff : Covers ('*' :: '+' :: suffix) cs ↔
    cs = '*' :: '+' :: suffix ∨ cs = suffix ∨ HasSuffix cs suffix := by
  constructor
  · intro h
    cases h with
    | same => exact .inl rfl
    | bare => exact .inr (.inl rfl)
    | suffixed h => exact .inr (.inr h)
  · rintro (rfl | rfl | h)
    · exact .same _
    · exact .bare _
    · exact .suffixed h

theorem Covers.trans (hcd : Covers cs ds) (hde : Covers ds es)
    (hcs : ∀ suffix, cs = '*' :: '+' :: suffix → ¬ IsWildcard suffix) : Covers cs es := by
  cases hcd with
  | same => exact hde
  | star => exact .star es
  | bare =>
    rw [← hde.eq_of_not_isWildcard (hcs ds rfl)]
    exact .bare ds
  | suffixed hd =>
    cases hde with
    | same => exact .suffixed hd
    | star => exact absurd hd.plus_mem (by decide)
    | bare =>
      rcases hasSuffix_star_iff.1 hd with ⟨rfl, -⟩ | hes
      · exact .bare es
      · exact .suffixed hes
    | suffixed hes =>
      rcases hasSuffix_star_iff.1 hd with ⟨rfl, -⟩ | hinner
      · exact .suffixed hes
      · obtain ⟨-, -, hlast⟩ := hes
        exact absurd hinner.plus_mem hlast

/-- A star put in front of a wildcard that includes it. -/
def Stacks (cs ds : List Char) : Prop :=
  cs = '*' :: '+' :: ds ∧ (ds = ['*'] ∨ ∃ suffix, ds = '*' :: '+' :: suffix ∧ '+' ∉ suffix)

theorem Stacks.covers (h : Stacks cs ds) : Covers cs ds ∧ Covers ds cs := by
  obtain ⟨rfl, rfl | ⟨suffix, rfl, hlast⟩⟩ := h
  · exact ⟨.bare _, .star _⟩
  · have hstar := hasSuffix_star_iff.2 (.inl ⟨rfl, hlast⟩)
    exact ⟨.bare _, .suffixed (hasSuffix_star_iff.2 (.inr hstar))⟩

theorem Covers.cases_suffix (h : Covers ds ('*' :: '+' :: suffix)) :
    ds = ['*'] ∨ ds = '*' :: '+' :: suffix ∨ ds = '*' :: '+' :: '*' :: '+' :: suffix ∨
      ∃ inner, ds = '*' :: '+' :: inner ∧ HasSuffix suffix inner := by
  cases h with
  | same => exact .inr (.inl rfl)
  | star => exact .inl rfl
  | bare => exact .inr (.inr (.inl rfl))
  | suffixed h =>
    rcases hasSuffix_star_iff.1 h with ⟨rfl, -⟩ | h
    · exact .inr (.inl rfl)
    · exact .inr (.inr (.inr ⟨_, rfl, h⟩))

theorem Covers.eq_or_stacks (hcd : Covers cs ds) (hdc : Covers ds cs) :
    cs = ds ∨ Stacks cs ds ∨ Stacks ds cs := by
  cases hcd with
  | same => exact .inl rfl
  | star =>
    cases hdc with
    | same => exact .inl rfl
    | star => exact .inl rfl
    | bare => exact .inr (.inr ⟨rfl, .inl rfl⟩)
    | suffixed h => exact absurd h.plus_mem (by decide)
  | bare =>
    rcases hdc.cases_suffix with hds | hds | hds | ⟨inner, hds, hinner⟩
    · exact .inr (.inl ⟨rfl, .inl hds⟩)
    · exact absurd (List.self_eq_append_left.1 (show ds = ['*', '+'] ++ ds from hds)) (by simp)
    · exact absurd (List.self_eq_append_left.1 (show ds = ['*', '+', '*', '+'] ++ ds from hds))
        (by simp)
    · exact .inr (.inl ⟨rfl, .inr ⟨inner, hds, hinner.plus_notMem⟩⟩)
  | suffixed hd =>
    rcases hdc.cases_suffix with rfl | hds | hds | ⟨inner, -, hinner⟩
    · exact absurd hd.plus_mem (by decide)
    · exact .inl hds.symm
    · exact .inr (.inr ⟨hds, .inr ⟨_, rfl, hd.plus_notMem⟩⟩)
    · exact absurd hinner.plus_mem hd.plus_notMem

theorem covers_both_iff :
    Covers cs ds ∧ Covers ds cs ↔ cs = ds ∨ Stacks cs ds ∨ Stacks ds cs := by
  constructor
  · rintro ⟨hcd, hdc⟩
    exact hcd.eq_or_stacks hdc
  · rintro (rfl | h | h)
    · exact ⟨.same cs, .same cs⟩
    · exact h.covers
    · exact h.covers.symm

theorem not_covers_of_length_lt (h : ds.length < suffix.length) (hplus : '+' ∈ suffix) :
    ¬ Covers ('*' :: '+' :: suffix) ds := by
  rw [covers_suffix_iff]
  rintro (rfl | rfl | hsuffix)
  · simp only [List.length_cons] at h
    omega
  · exact absurd h (Nat.lt_irrefl _)
  · exact hsuffix.plus_notMem hplus

/-- A star in front of a wildcard misses a subtype that the wildcard includes. -/
theorem IsWildcard.exists_gap (h : IsWildcard cs) :
    ∃ ds, Covers cs ds ∧ ¬ Covers ('*' :: '+' :: cs) ds ∧ ds ≠ [] ∧ ds ⊆ '+' :: cs := by
  cases h with
  | star =>
    refine ⟨['+'], .star _, ?_, List.cons_ne_nil _ _, by simp⟩
    rw [covers_suffix_iff]
    rintro (heq | heq | ⟨front, heq, -⟩)
    · simp at heq
    · simp at heq
    · simpa using congrArg List.length heq
  | suffixed suffix =>
    have hplus : '+' ∈ '*' :: '+' :: suffix := by simp
    by_cases hempty : suffix = []
    · subst hempty
      exact ⟨['+'], .suffixed ⟨[], rfl, List.not_mem_nil⟩,
        not_covers_of_length_lt (by decide) hplus, List.cons_ne_nil _ _, by simp⟩
    · refine ⟨suffix, .bare suffix, not_covers_of_length_lt ?_ hplus, hempty, ?_⟩
      · simp only [List.length_cons]
        omega
      · intro c hc
        simp [hc]

end Subtypes

variable {read : Reader} {a b m n : MediaType}

theorem suffix?_eq_some_iff {suffix : String} :
    m.suffix? = some suffix ↔ HasSuffix m.subType.toList suffix.toList := by
  unfold suffix?
  rw [Option.map_eq_some_iff]
  constructor
  · rintro ⟨⟨front, last⟩, hsplit, rfl⟩
    rw [String.toList_ofList]
    exact ⟨front, Text.splitLast_eq_some_iff.1 hsplit⟩
  · rintro ⟨front, h⟩
    exact ⟨(front, suffix.toList), Text.splitLast_eq_some_iff.2 h, String.ofList_toList⟩

theorem wildcardSuffix?_eq_some_iff {suffix : String} :
    m.wildcardSuffix? = some suffix ↔ m.subType.toList = '*' :: '+' :: suffix.toList := by
  unfold wildcardSuffix?
  split
  · next front h => simp [h, ← String.toList_inj]
  · next h =>
    constructor
    · intro hnone
      contradiction
    · intro hsuffix
      exact absurd hsuffix (h _)

theorem includesSubtype_iff :
    m.includesSubtype n = true ↔ Covers m.subType.toList n.subType.toList := by
  unfold includesSubtype
  rw [Bool.or_eq_true, Bool.or_eq_true, beq_iff_eq, beq_iff_eq, Option.any_eq_true]
  simp only [Bool.or_eq_true, beq_iff_eq, wildcardSuffix?_eq_some_iff]
  constructor
  · rintro ((hsame | hstar) | ⟨suffix, hwild, hsuffix | hbare⟩)
    · rw [hsame]
      exact .same _
    · rw [hstar]
      exact .star _
    · rw [hwild]
      exact .suffixed (suffix?_eq_some_iff.1 hsuffix)
    · rw [hwild, ← hbare]
      exact .bare _
  · generalize hm : m.subType.toList = cs, hn : n.subType.toList = ds
    intro h
    cases h with
    | same => exact .inl (.inl (String.toList_inj.1 (hm.trans hn.symm)))
    | star => exact .inl (.inr (String.toList_inj.1 hm))
    | bare => exact .inr ⟨n.subType, by rw [hn], .inr rfl⟩
    | @suffixed _ suffix h =>
      refine .inr ⟨String.ofList suffix, by rw [String.toList_ofList], .inl ?_⟩
      rw [suffix?_eq_some_iff, hn, String.toList_ofList]
      exact h

theorem includes_iff : m.includes n = true ↔
    m.mainType = "*" ∨ m.mainType = n.mainType ∧ Covers m.subType.toList n.subType.toList := by
  rw [includes, Bool.or_eq_true, Bool.and_eq_true, isWildcardType, beq_iff_eq, beq_iff_eq,
    includesSubtype_iff]

def IsStacked (m : MediaType) : Prop :=
  ∃ suffix, m.subType.toList = '*' :: '+' :: suffix ∧ IsWildcard suffix

def StacksOn (m n : MediaType) : Prop :=
  m.mainType = n.mainType ∧ Stacks m.subType.toList n.subType.toList

theorem includes_trans (ha : ¬ a.IsStacked) (ham : a.includes m = true)
    (hmn : m.includes n = true) : a.includes n = true := by
  rw [includes_iff] at ham hmn ⊢
  rcases ham with hall | ⟨htype, ham⟩
  · exact .inl hall
  · rw [htype]
    refine hmn.imp_right fun ⟨htype, hmn⟩ => ⟨htype, ham.trans hmn fun suffix hsuffix hwild => ?_⟩
    exact ha ⟨suffix, hsuffix, hwild⟩

theorem IsStacked.exists_not_includes (hread : Grammar read) (h : a.IsStacked)
    (ha : a.WellNamed) : ∃ m n : MediaType, m.ReadBy read ∧ n.ReadBy read ∧
      a.includes m = true ∧ m.includes n = true ∧ ¬ a.includes n = true := by
  obtain ⟨suffix, hsub, hwild⟩ := h
  obtain ⟨gap, hcovers, hmisses, hne, hchars⟩ := hwild.exists_gap
  have htype : a.mainType ≠ "*" := by
    intro hstar
    rw [ha.star hstar] at hsub
    simp at hsub
  have hinside : '+' :: suffix ⊆ a.subType.toList := by
    rw [hsub]
    exact List.subset_cons_self _ _
  have hsuffix : IsName (String.ofList suffix) := by
    refine ha.subType.of_subset ?_ fun c hc => hinside (List.mem_cons_of_mem _ hc)
    rintro rfl
    cases hwild
  have hgap : IsName (String.ofList gap) :=
    ha.subType.of_subset hne fun c hc => hinside (hchars hc)
  have hnot : ∀ sub : String, a.mainType = "*" → sub = "*" := fun _ hstar => absurd hstar htype
  refine ⟨⟨a.mainType, String.ofList suffix, ∅⟩, ⟨a.mainType, String.ofList gap, ∅⟩,
    hread.readBy_names ha.mainType hsuffix (hnot _), hread.readBy_names ha.mainType hgap (hnot _),
    ?_, ?_, ?_⟩
  · rw [includes_iff, hsub, String.toList_ofList]
    exact .inr ⟨rfl, .bare suffix⟩
  · rw [includes_iff, String.toList_ofList, String.toList_ofList]
    exact .inr ⟨rfl, hcovers⟩
  · rw [includes_iff, hsub, String.toList_ofList]
    rintro (hstar | ⟨-, h⟩)
    · exact htype hstar
    · exact hmisses h

theorem sameTypeAndSubtype_iff :
    a.sameTypeAndSubtype b = true ↔ a.mainType = b.mainType ∧ a.subType = b.subType := by
  rw [sameTypeAndSubtype, Bool.and_eq_true, beq_iff_eq, beq_iff_eq]

theorem WellNamed.includes_both_iff (ha : a.WellNamed) (hb : b.WellNamed) :
    a.includes b = true ∧ b.includes a = true ↔ a.mainType = b.mainType ∧
      Covers a.subType.toList b.subType.toList ∧ Covers b.subType.toList a.subType.toList := by
  rw [includes_iff, includes_iff]
  constructor
  · rintro ⟨hab, hba⟩
    by_cases hall : a.mainType = "*" ∧ b.mainType = "*"
    · rw [ha.star hall.1, hb.star hall.2]
      exact ⟨hall.1.trans hall.2.symm, .same _, .same _⟩
    · rcases hab with hstar | ⟨htype, hab⟩
      · rcases hba with hstar' | ⟨htype, -⟩
        · exact absurd ⟨hstar, hstar'⟩ hall
        · exact absurd ⟨hstar, htype.trans hstar⟩ hall
      · rcases hba with hstar | ⟨-, hba⟩
        · exact absurd ⟨htype.trans hstar, hstar⟩ hall
        · exact ⟨htype, hab, hba⟩
  · rintro ⟨htype, hab, hba⟩
    exact ⟨.inr ⟨htype, hab⟩, .inr ⟨htype.symm, hba⟩⟩

/-- Inclusion is reflexive. It is transitive from every media type on that is not a star in front of
a wildcard, and two that include each other are the same but for such a star. -/
theorem includes_order (hread : Grammar read) (ha : a.ReadBy read) (hb : b.ReadBy read) :
    a.includes a = true ∧
      ((∀ m n : MediaType, m.ReadBy read → n.ReadBy read → a.includes m = true →
        m.includes n = true → a.includes n = true) ↔ ¬ a.IsStacked) ∧
      (a.includes b = true ∧ b.includes a = true ↔
        a.sameTypeAndSubtype b = true ∨ a.StacksOn b ∨ b.StacksOn a) := by
  refine ⟨a.includes_self, ⟨?_, ?_⟩, ?_⟩
  · intro htrans hstacked
    obtain ⟨m, n, hm, hn, ham, hmn, hmisses⟩ :=
      hstacked.exists_not_includes hread (hread.wellNamed ha)
    exact hmisses (htrans m n hm hn ham hmn)
  · intro hstacked m n _ _
    exact includes_trans hstacked
  · have htype : b.mainType = a.mainType ↔ a.mainType = b.mainType := eq_comm
    rw [(hread.wellNamed ha).includes_both_iff (hread.wellNamed hb), covers_both_iff,
      sameTypeAndSubtype_iff]
    simp only [StacksOn, htype, String.toList_inj, and_or_left]

theorem includes_order_problem_json : ∃ a b : MediaType,
    parse "application/*+json" = .ok a ∧ parse "application/problem+json" = .ok b ∧
      a.includes a = true ∧
      ((∀ m n : MediaType, m.ReadBy readChars → n.ReadBy readChars → a.includes m = true →
        m.includes n = true → a.includes n = true) ↔ ¬ a.IsStacked) ∧
      (a.includes b = true ∧ b.includes a = true ↔
        a.sameTypeAndSubtype b = true ∨ a.StacksOn b ∨ b.StacksOn a) := by
  have ha : parse "application/*+json" = .ok ⟨"application", "*+json", ∅⟩ := by rfl
  have hb : parse "application/problem+json" = .ok ⟨"application", "problem+json", ∅⟩ := by rfl
  exact ⟨_, _, ha, hb, includes_order grammar_readChars ⟨_, ha⟩ ⟨_, hb⟩⟩

/-- The suffix of `*+*` is taken for the subtype `*`, so the two include each other, and only the
latter includes all subtypes. -/
theorem includes_stacked_wildcard : ∃ a b c : MediaType,
    parse "application/*+*" = .ok a ∧ parse "application/*" = .ok b ∧
      parse "application/json" = .ok c ∧
      a.includes b = true ∧ b.includes a = true ∧ a.sameTypeAndSubtype b = false ∧
      b.includes c = true ∧ a.includes c = false := by
  refine ⟨⟨"application", "*+*", ∅⟩, ⟨"application", "*", ∅⟩, ⟨"application", "json", ∅⟩,
    by rfl, by rfl, by rfl, ?_⟩
  decide +kernel

end RequestRouting.MediaType
