import RequestRouting.Proofs.Condition.Expressions
import RequestRouting.Proofs.Condition.Paths
import RequestRouting.Proofs.Mapping.Constructible
import RequestRouting.Proofs.Path.Rereading

/-! Combined conditions: every inner pattern behind every outer one, unions of expressions, or the
inner condition where there is one and else the outer one. -/
namespace RequestRouting

namespace PathCondition

variable {outer inner c : PathCondition} {patterns : List Path.Pattern} {path : String}

theorem ofPatterns_ne_nil (patterns : List Path.Pattern) : (ofPatterns patterns).patterns ≠ [] := by
  have htexts : (ofPatterns patterns).texts ≠ [] := by
    cases patterns with
    | nil => exact List.cons_ne_nil _ _
    | cons p ps =>
      have hmem : p.canonical ∈ (ofPatterns (p :: ps)).texts :=
        mem_texts_ofPatterns.2 (.inl ⟨p, List.mem_cons_self, rfl⟩)
      exact List.ne_nil_of_mem hmem
  intro hnil
  exact htexts (by rw [texts, hnil, List.map_nil])

theorem mem_ofPatterns (hparsed : ∀ p ∈ patterns, p.Parsed) (hne : patterns ≠ [])
    (p : Path.Pattern) : p ∈ (ofPatterns patterns).patterns ↔ p ∈ patterns := by
  have hsub : ∀ q ∈ (ofPatterns patterns).patterns, q ∈ patterns := by
    intro q hq
    have hmem := Order.mem_of_mem_distinctBy hq
    rwa [if_neg (by simpa using hne)] at hmem
  refine ⟨hsub p, fun hp => ?_⟩
  have htext : p.canonical ∈ (ofPatterns patterns).texts :=
    mem_texts_ofPatterns.2 (.inl ⟨p, hp, rfl⟩)
  obtain ⟨q, hq, hcanonical⟩ := List.mem_map.1 htext
  have hsame : p.sameCanonical q = true := by simp [Path.Pattern.sameCanonical, hcanonical]
  rwa [(hparsed p hp).eq_of_sameCanonical (hparsed q (hsub q hq)) hsame]

theorem ne_nil_of_parse {paths : List String} (h : parse paths = .ok c) : c.patterns ≠ [] := by
  obtain ⟨ps, -, h⟩ := Outcome.bind_eq_ok.1 h
  obtain rfl := Outcome.pure_eq_ok.1 h
  exact ofPatterns_ne_nil ps

theorem parse_singleton (h : parse [path] = .ok c) :
    ∃ p, Path.Pattern.parse path = .ok p ∧ c.patterns = [p] := by
  obtain ⟨ps, hps, h⟩ := Outcome.bind_eq_ok.1 h
  obtain rfl := Outcome.pure_eq_ok.1 h
  obtain ⟨p, rest, hp, hrest, rfl⟩ := Outcome.mapM_cons_eq_ok.1 hps
  obtain rfl := Outcome.pure_eq_ok.1 hrest
  exact ⟨p, parsePattern_eq_ok.1 hp, rfl⟩

/-- The patterns of a combined condition, all of which can be formed. -/
structure Combines (outer inner c : PathCondition) : Prop where
  ne_nil : c.patterns ≠ []
  exists_sum : ∀ p ∈ outer.patterns, ∀ q ∈ inner.patterns, ∃ r, p.combine q = .ok r
  mem_iff : ∀ r, r ∈ c.patterns ↔
    ∃ p ∈ outer.patterns, ∃ q ∈ inner.patterns, p.combine q = .ok r

theorem combines_of_combine (h : outer.combine inner = .ok c) (houter : outer.patterns ≠ [])
    (hinner : inner.patterns ≠ []) : outer.Combines inner c := by
  obtain ⟨rs, hrs, h⟩ := Outcome.bind_eq_ok.1 h
  obtain rfl := Outcome.pure_eq_ok.1 h
  have hread : ∀ r, r ∈ rs ↔ ∃ p ∈ outer.patterns, ∃ q ∈ inner.patterns, p.combine q = .ok r := by
    intro r
    rw [Outcome.mem_mapM_iff hrs]
    simp only [List.mem_flatMap, List.mem_map, combinePatterns, Outcome.mapError_eq_ok]
    constructor
    · rintro ⟨_, ⟨p, hp, q, hq, rfl⟩, hr⟩
      exact ⟨p, hp, q, hq, hr⟩
    · rintro ⟨p, hp, q, hq, hr⟩
      exact ⟨(p, q), ⟨p, hp, q, hq, rfl⟩, hr⟩
  have hexists : ∀ p ∈ outer.patterns, ∀ q ∈ inner.patterns, ∃ r, p.combine q = .ok r := by
    intro p hp q hq
    have hpair : (p, q) ∈ outer.patterns.flatMap fun p => inner.patterns.map fun q => (p, q) :=
      List.mem_flatMap.2 ⟨p, hp, List.mem_map.2 ⟨q, hq, rfl⟩⟩
    obtain ⟨r, -, hr⟩ := Outcome.exists_of_mapM hrs hpair
    exact ⟨r, Outcome.mapError_eq_ok.1 hr⟩
  have hparsed : ∀ r ∈ rs, r.Parsed := by
    intro r hr
    obtain ⟨p, -, q, -, hcombine⟩ := (hread r).1 hr
    exact ⟨_, hcombine⟩
  have hne : rs ≠ [] := by
    obtain ⟨p, hp⟩ := List.exists_mem_of_ne_nil _ houter
    obtain ⟨q, hq⟩ := List.exists_mem_of_ne_nil _ hinner
    obtain ⟨r, hr⟩ := hexists p hp q hq
    exact List.ne_nil_of_mem ((hread r).2 ⟨p, hp, q, hq, hr⟩)
  exact ⟨ofPatterns_ne_nil rs, hexists, fun r => (mem_ofPatterns hparsed hne r).trans (hread r)⟩

end PathCondition

end RequestRouting
