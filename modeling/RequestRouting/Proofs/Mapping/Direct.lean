import Mathlib.Data.List.Nodup
import RequestRouting.Proofs.Mapping.Constructible
import RequestRouting.Proofs.Path.Literal

/-! Conditions with a literal pattern that spells out the request's path. After narrowing such a
pattern is the first one, and the condition fits strictly better than one without. -/
namespace RequestRouting.PathCondition

variable {options : Path.MatchOptions} {path : String} {c d c' d' : PathCondition}

theorem directPaths_eq (c : PathCondition) :
    c.directPaths = (c.patterns.filter Path.Pattern.isStatic).map Path.Pattern.directPath := rfl

theorem mem_directPaths : path ∈ c.directPaths ↔ ∃ p ∈ c.patterns, p.SpellsOut path := by
  rw [directPaths_eq, List.mem_map]
  constructor
  · rintro ⟨p, hp, hpath⟩
    obtain ⟨hmem, hstatic⟩ := List.mem_filter.1 hp
    exact ⟨p, hmem, hstatic, hpath⟩
  · rintro ⟨p, hmem, hstatic, hpath⟩
    exact ⟨p, List.mem_filter.2 ⟨hmem, hstatic⟩, hpath⟩

theorem WellFormed.nodup_directPaths (hc : c.WellFormed)
    (hroot : ¬ ("" ∈ c.texts ∧ "/" ∈ c.texts)) : c.directPaths.Nodup := by
  have hinj : ∀ p ∈ c.patterns, ∀ q ∈ c.patterns, p.canonical = q.canonical → p = q := by
    intro p hp q hq heq
    exact List.inj_on_of_nodup_map hc.nodup hp hq heq
  have htext : ∀ p ∈ c.patterns, p.canonical ∈ c.texts := by
    intro p hp
    exact List.mem_map_of_mem hp
  have hempty : ∀ p : Path.Pattern, p.isEmpty = true → p.canonical = "" := by
    intro p hp
    rw [← String.toList_eq_nil_iff]
    exact Path.Pattern.isEmpty_iff.1 hp
  rw [directPaths_eq]
  apply List.Nodup.map_on
  · intro p hp q hq heq
    have hp := (List.mem_filter.1 hp).1
    have hq := (List.mem_filter.1 hq).1
    apply hinj p hp q hq
    -- only the empty pattern is listed under another path than its canonical form
    unfold Path.Pattern.directPath at heq
    split at heq
    · next hpe =>
      split at heq
      · next hqe => rw [hempty p hpe, hempty q hqe]
      · have hslash := htext q hq
        have hnone := htext p hp
        rw [← heq] at hslash
        rw [hempty p hpe] at hnone
        exact absurd ⟨hnone, hslash⟩ hroot
    · split at heq
      · next hqe =>
        have hslash := htext p hp
        have hnone := htext q hq
        rw [heq] at hslash
        rw [hempty q hqe] at hnone
        exact absurd ⟨hnone, hslash⟩ hroot
      · exact heq
  · exact (List.Nodup.of_map _ hc.nodup).filter _

theorem count_directPaths (c : PathCondition) (path : String) :
    c.directPaths.count path =
      c.patterns.countP fun p => p.isStatic && p.directPath == path := by
  rw [directPaths_eq, List.count_eq_countP, List.countP_map, List.countP_filter]
  apply List.countP_congr
  intro p _
  simp [and_comm]

theorem WellFormed.two_le_count_directPaths (hc : c.WellFormed) :
    2 ≤ c.directPaths.count path ↔ path = "/" ∧ "" ∈ c.texts ∧ "/" ∈ c.texts := by
  constructor
  · intro hcount
    constructor
    · by_contra hpath
      have hle : c.directPaths.count path ≤ c.texts.count path := by
        rw [count_directPaths, texts, List.count_eq_countP, List.countP_map]
        apply List.countP_mono_left
        intro p _ hp
        obtain ⟨-, hdirect⟩ := Bool.and_eq_true_iff.1 hp
        have htext := Path.Pattern.canonical_of_directPath hpath (eq_of_beq hdirect)
        exact beq_iff_eq.2 htext
      have hone := List.nodup_iff_count_le_one.1 hc.nodup path
      omega
    · by_contra hroot
      have hone := List.nodup_iff_count_le_one.1 (hc.nodup_directPaths hroot) path
      omega
  · rintro ⟨rfl, hempty, hslash⟩
    obtain ⟨p, hp, hpempty⟩ := List.mem_map.1 hempty
    obtain ⟨q, hq, hqslash⟩ := List.mem_map.1 hslash
    have hne : p ≠ q := by
      rintro rfl
      rw [hpempty] at hqslash
      contradiction
    have hpair : [p, q].Subperm c.patterns := by
      apply List.subperm_of_subset
      · simp [hne]
      · simp [hp, hq]
    have hproot := (hc.parsed p hp).spellsOut_root (.inl hpempty)
    have hqroot := (hc.parsed q hq).spellsOut_root (.inr hqslash)
    calc
      2 = [p, q].countP fun p => p.isStatic && p.directPath == "/" := by
        simp [hproot.1, hproot.2, hqroot.1, hqroot.2]
      _ ≤ c.patterns.countP fun p => p.isStatic && p.directPath == "/" := hpair.countP_le _
      _ = c.directPaths.count "/" := (c.count_directPaths "/").symm

theorem compareFit_of_forall_lt {p : Path.Pattern} (hp : p ∈ c.patterns)
    (haccepts : p.accepts options path = true)
    (hlt : ∀ q ∈ d.patterns, q.accepts options path = true →
      Path.Pattern.compareSpecificity p q = .lt)
    (hcn : c.narrow options path = some c') (hdn : d.narrow options path = some d') :
    c'.compareFit d' = .lt := by
  obtain ⟨first, rest, hfirst, -, -, hleast⟩ := exists_first_of_narrow hcn
  obtain ⟨q, qrest, hq, hqmem, hqaccepts, -⟩ := exists_first_of_narrow hdn
  have hfirstlt : Path.Pattern.compareSpecificity first q = .lt :=
    Std.TransCmp.lt_of_isLE_of_lt (hleast p hp haccepts) (hlt q hqmem hqaccepts)
  rw [compareFit, hfirst, hq, compareLists, hfirstlt]
  rfl

theorem WellFormed.compareFit_of_directPaths (hc : c.WellFormed) (hd : d.WellFormed)
    (hcase : options.caseSensitive = true) (hlength : (Path.pieces path).length ≤ 100)
    (hcpath : path ∈ c.directPaths) (hdpath : path ∉ d.directPaths)
    (hcn : c.narrow options path = some c') (hdn : d.narrow options path = some d') :
    c'.compareFit d' = .lt := by
  obtain ⟨p, hp, hspells⟩ := mem_directPaths.1 hcpath
  have hparsed := hc.parsed p hp
  refine compareFit_of_forall_lt hp (hparsed.accepts_of_spellsOut hspells) ?_ hcn hdn
  intro q hq haccepts
  have hother : ¬ q.SpellsOut path := fun h => hdpath (mem_directPaths.2 ⟨q, hq, h⟩)
  exact hparsed.lt_of_spellsOut (hd.parsed q hq) hcase hlength hspells hother haccepts

end RequestRouting.PathCondition
