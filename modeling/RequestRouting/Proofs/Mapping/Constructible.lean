import RequestRouting.Mapping
import RequestRouting.Proofs.Order.Distinct
import RequestRouting.Proofs.Order.Ranking
import RequestRouting.Proofs.Path.Reading

/-! The mappings that can be made: declared ones, and what combining, placing behind a path,
renaming, setting the body flag and narrowing to a request make of them. All their patterns
were read from texts, and no two have the same canonical form. -/
namespace RequestRouting

namespace PathCondition

structure WellFormed (c : PathCondition) : Prop where
  parsed : ∀ p ∈ c.patterns, p.Parsed
  nodup : c.texts.Nodup

theorem wellFormed_ofPatterns {patterns : List Path.Pattern} (h : ∀ p ∈ patterns, p.Parsed) :
    (ofPatterns patterns).WellFormed where
  parsed := by
    intro p hp
    have hmem := Order.mem_of_mem_distinctBy hp
    split at hmem
    · rw [List.mem_singleton.1 hmem]
      exact Path.Pattern.parsed_empty
    · exact h p hmem
  nodup := by
    unfold texts ofPatterns
    rw [List.Nodup, List.pairwise_map]
    refine (Order.pairwise_distinctBy Path.Pattern.compareCanonical _).imp ?_
    intro p q hlt heq
    have hself : Path.Pattern.compareCanonical p q = .eq := by
      unfold Path.Pattern.compareCanonical compareOn
      rw [heq, Std.ReflOrd.compare_self]
    rw [hlt] at hself
    contradiction

theorem exists_eq_of_parse {paths : List String} {c : PathCondition} (h : parse paths = .ok c) :
    ∃ patterns, (∀ p ∈ patterns, p.Parsed) ∧ c = ofPatterns patterns := by
  obtain ⟨patterns, hpatterns, h⟩ := Outcome.bind_eq_ok.1 h
  refine ⟨patterns, fun p hp => ?_, (Outcome.pure_eq_ok.1 h).symm⟩
  obtain ⟨path, -, hread⟩ := Outcome.exists_of_mem_mapM hpatterns hp
  exact ⟨path, Outcome.mapError_eq_ok.1 hread⟩

theorem exists_eq_of_combine {outer inner c : PathCondition} (h : outer.combine inner = .ok c) :
    ∃ patterns, (∀ p ∈ patterns, p.Parsed) ∧ c = ofPatterns patterns := by
  obtain ⟨patterns, hpatterns, h⟩ := Outcome.bind_eq_ok.1 h
  refine ⟨patterns, fun p hp => ?_, (Outcome.pure_eq_ok.1 h).symm⟩
  obtain ⟨pair, -, hread⟩ := Outcome.exists_of_mem_mapM hpatterns hp
  exact ⟨_, Outcome.mapError_eq_ok.1 hread⟩

theorem wellFormed_of_parse {paths : List String} {c : PathCondition} (h : parse paths = .ok c) :
    c.WellFormed := by
  obtain ⟨patterns, hparsed, rfl⟩ := exists_eq_of_parse h
  exact wellFormed_ofPatterns hparsed

theorem wellFormed_of_combine {outer inner c : PathCondition} (h : outer.combine inner = .ok c) :
    c.WellFormed := by
  obtain ⟨patterns, hparsed, rfl⟩ := exists_eq_of_combine h
  exact wellFormed_ofPatterns hparsed

variable {options : Path.MatchOptions} {path : String}

theorem narrow_eq_some {c d : PathCondition} :
    c.narrow options path = some d ↔ c.patterns.filter (·.accepts options path) ≠ [] ∧
      d.patterns = Order.sortBy Path.Pattern.compareSpecificity
        (c.patterns.filter (·.accepts options path)) := by
  obtain ⟨patterns⟩ := d
  unfold narrow
  dsimp only
  split
  · next hnil => simp [List.isEmpty_iff.1 hnil]
  · next hne =>
    rw [List.isEmpty_iff] at hne
    simp [hne, eq_comm]

theorem mem_of_narrow {c d : PathCondition} (h : c.narrow options path = some d)
    (p : Path.Pattern) :
    p ∈ d.patterns ↔ p ∈ c.patterns ∧ p.accepts options path = true := by
  rw [(narrow_eq_some.1 h).2, Order.mem_sortBy, List.mem_filter]

theorem exists_first_of_narrow {c d : PathCondition}
    (h : c.narrow options path = some d) :
    ∃ p rest, d.patterns = p :: rest ∧ p ∈ c.patterns ∧ p.accepts options path = true ∧
      ∀ q ∈ c.patterns, q.accepts options path = true →
        (Path.Pattern.compareSpecificity p q).isLE := by
  obtain ⟨hne, hsorted⟩ := narrow_eq_some.1 h
  have hne' : d.patterns ≠ [] := by
    rw [hsorted, Ne, Order.sortBy_eq_nil]
    exact hne
  obtain ⟨p, rest, hp⟩ := List.exists_cons_of_ne_nil hne'
  have hmem : p ∈ d.patterns := by
    rw [hp]
    exact List.mem_cons_self
  have hle := Order.pairwise_sortBy Path.Pattern.compareSpecificity
    (c.patterns.filter (·.accepts options path))
  rw [← hsorted, hp] at hle
  refine ⟨p, rest, hp, ((mem_of_narrow h p).1 hmem).1, ((mem_of_narrow h p).1 hmem).2, ?_⟩
  intro q hq haccepts
  have hq' := (mem_of_narrow h q).2 ⟨hq, haccepts⟩
  rw [hp] at hq'
  rcases List.mem_cons.1 hq' with rfl | hq'
  · simp [Std.ReflCmp.compare_self]
  · exact (List.pairwise_cons.1 hle).1 q hq'

theorem WellFormed.narrow {c d : PathCondition} (hc : c.WellFormed)
    (h : c.narrow options path = some d) : d.WellFormed where
  parsed := fun p hp => hc.parsed p ((mem_of_narrow h p).1 hp).1
  nodup := by
    unfold texts
    rw [(narrow_eq_some.1 h).2]
    have hperm := (Order.sortBy_perm Path.Pattern.compareSpecificity
      (c.patterns.filter (·.accepts options path))).map (·.canonical)
    rw [hperm.nodup_iff]
    exact hc.nodup.sublist (List.filter_sublist.map _)

end PathCondition

namespace Mapping

section Inverting

variable {outer inner m m' : Mapping} {path : String}

theorem combine_eq_ok :
    outer.combine inner = .ok m ↔ ∃ paths, outer.paths.combine inner.paths = .ok paths ∧
      m = ⟨combineNames outer.name inner.name, paths, outer.methods.combine inner.methods,
        outer.params.combine inner.params, outer.headers.combine inner.headers,
        outer.consumes.combine inner.consumes, outer.produces.combine inner.produces⟩ := by
  rw [combine, Outcome.bind_eq_ok]
  exact exists_congr fun paths => and_congr_right' (Outcome.pure_eq_ok.trans eq_comm)

theorem behind_eq_ok :
    m.behind path = .ok m' ↔ ∃ outer paths, PathCondition.parse [path] = .ok outer ∧
      outer.combine m.paths = .ok paths ∧ m' = { m with paths } := by
  rw [behind, Outcome.bind_eq_ok]
  simp only [Outcome.bind_eq_ok, Outcome.pure_eq_ok, exists_and_left]
  refine exists_congr fun outer => and_congr_right' (exists_congr fun paths => ?_)
  exact and_congr_right' eq_comm

end Inverting

inductive Constructible : Mapping → Prop
  | declared {spec : MappingSpec} {m : Mapping} (h : ofSpec spec = .ok m) : Constructible m
  | combined {outer inner m : Mapping} (houter : Constructible outer)
      (hinner : Constructible inner) (h : outer.combine inner = .ok m) : Constructible m
  | placedBehind {m m' : Mapping} {path : String} (hm : Constructible m)
      (h : m.behind path = .ok m') : Constructible m'
  | renamed {m : Mapping} (hm : Constructible m) (name : Option String) :
      Constructible (m.withName name)
  | flagged {m : Mapping} (hm : Constructible m) (required : Bool) :
      Constructible (m.withBodyRequired required)
  | narrowed {m n : Mapping} {options : Path.MatchOptions} {r : Request} (hm : Constructible m)
      (h : m.narrow options r = some n) : Constructible n

theorem narrow_eq_some {m n : Mapping} {options : Path.MatchOptions} {r : Request} :
    m.narrow options r = some n ↔ n.name = m.name ∧ m.methods.narrow r.method = some n.methods ∧
      m.params.narrow r = some n.params ∧ m.headers.narrow r = some n.headers ∧
      m.consumes.narrow r = some n.consumes ∧ m.produces.narrow r = some n.produces ∧
      m.paths.narrow options r.path = some n.paths := by
  obtain ⟨name, paths, methods, params, headers, consumes, produces⟩ := n
  simp only [narrow, bind, Option.bind_eq_some_iff, pure, Option.some.injEq, Mapping.mk.injEq]
  constructor
  · rintro ⟨_, h₁, _, h₂, _, h₃, _, h₄, _, h₅, _, h₆, rfl, rfl, rfl, rfl, rfl, rfl, rfl⟩
    exact ⟨rfl, h₁, h₂, h₃, h₄, h₅, h₆⟩
  · rintro ⟨rfl, h₁, h₂, h₃, h₄, h₅, h₆⟩
    exact ⟨_, h₁, _, h₂, _, h₃, _, h₄, _, h₅, _, h₆, rfl, rfl, rfl, rfl, rfl, rfl, rfl⟩

def ofPaths (paths : PathCondition) : Mapping where
  name := none
  paths := paths
  methods := ⟨∅⟩
  params := ⟨∅⟩
  headers := ⟨∅⟩
  consumes := { expressions := ∅ }
  produces := ⟨∅⟩

theorem constructible_ofPaths {paths : List String} {c : PathCondition}
    (h : PathCondition.parse paths = .ok c) : (ofPaths c).Constructible := by
  have hspec : ofSpec { paths } = .ok (ofPaths c) := by
    unfold ofSpec
    rw [h]
    rfl
  exact .declared hspec

theorem Constructible.wellFormed {m : Mapping} (h : m.Constructible) : m.paths.WellFormed := by
  induction h with
  | declared h =>
    obtain ⟨paths, hpaths, h⟩ := Outcome.bind_eq_ok.1 h
    simp only [Outcome.bind_eq_ok, Outcome.pure_eq_ok] at h
    obtain ⟨_, -, _, -, _, -, _, -, rfl⟩ := h
    exact PathCondition.wellFormed_of_parse hpaths
  | combined _ _ h =>
    obtain ⟨paths, hpaths, rfl⟩ := combine_eq_ok.1 h
    exact PathCondition.wellFormed_of_combine hpaths
  | placedBehind _ h =>
    obtain ⟨outer, paths, -, hpaths, rfl⟩ := behind_eq_ok.1 h
    exact PathCondition.wellFormed_of_combine hpaths
  | renamed _ _ ih => exact ih
  | flagged _ _ ih => exact ih
  | narrowed _ h ih => exact ih.narrow (narrow_eq_some.1 h).2.2.2.2.2.2

end Mapping

end RequestRouting
