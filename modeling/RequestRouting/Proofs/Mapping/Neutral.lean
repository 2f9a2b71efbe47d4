import RequestRouting.Proofs.Condition.Combining
import RequestRouting.Proofs.Mapping.Declarations
import RequestRouting.Proofs.Path.Joining

/-! The mapping for which nothing is declared. Put around a mapping or into it, it leaves the
conditions and the name as they are, and an empty path in front leaves the patterns as they are:
joining with an empty path gives each canonical form back, which is read as the same pattern, and
patterns that stand in order stay there. -/
namespace RequestRouting

namespace Path.Pattern

variable {p : Pattern}

theorem Parsed.combine_empty (h : p.Parsed) : p.combine .empty = .ok p := by
  have hjoin : join p.canonical "" = p.canonical := by
    rw [join, String.toList_empty, joinChars_nil_right h.isNormal, String.ofList_toList]
  rw [combine, empty, hjoin, h.parse_canonical]

theorem Parsed.empty_combine (h : p.Parsed) : empty.combine p = .ok p := by
  have hjoin : join "" p.canonical = p.canonical := by
    rw [join, String.toList_empty, joinChars_nil_left h.isNormal, String.ofList_toList]
  rw [combine, empty, hjoin, h.parse_canonical]

end Path.Pattern

namespace PathCondition

variable {c : PathCondition} {patterns : List Path.Pattern}

structure Ordered (c : PathCondition) : Prop extends c.WellFormed where
  ne_nil : c.patterns ≠ []
  sorted : c.patterns.Pairwise (Path.Pattern.compareCanonical · · = .lt)

theorem ordered_ofPatterns (h : ∀ p ∈ patterns, p.Parsed) : (ofPatterns patterns).Ordered where
  toWellFormed := wellFormed_ofPatterns h
  ne_nil := ofPatterns_ne_nil patterns
  sorted := Order.pairwise_distinctBy _ _

theorem Ordered.ofPatterns_eq (h : c.Ordered) : ofPatterns c.patterns = c := by
  have hne : c.patterns.isEmpty = false := by simpa using h.ne_nil
  rw [ofPatterns, hne, if_neg Bool.false_ne_true, Order.distinctBy_eq_self h.sorted]

def undeclared : PathCondition := ofPatterns []

theorem Ordered.combine_undeclared (h : c.Ordered) : c.combine undeclared = .ok c := by
  have hpairs : (c.patterns.flatMap fun p => undeclared.patterns.map fun q => (p, q)) =
      c.patterns.map fun p => (p, Path.Pattern.empty) := List.map_eq_flatMap.symm
  have hread : ∀ p ∈ c.patterns, combinePatterns p .empty = .ok p :=
    fun p hp => Outcome.mapError_eq_ok.2 (h.parsed p hp).combine_empty
  unfold combine
  rw [hpairs]
  exact Outcome.bind_eq_ok.2 ⟨_, Outcome.mapM_map_eq_ok hread, congrArg _ h.ofPatterns_eq⟩

theorem Ordered.undeclared_combine (h : c.Ordered) : undeclared.combine c = .ok c := by
  have hpairs : (undeclared.patterns.flatMap fun p => c.patterns.map fun q => (p, q)) =
      c.patterns.map fun q => (Path.Pattern.empty, q) := List.append_nil _
  have hread : ∀ q ∈ c.patterns, combinePatterns .empty q = .ok q :=
    fun q hq => Outcome.mapError_eq_ok.2 (h.parsed q hq).empty_combine
  unfold combine
  rw [hpairs]
  exact Outcome.bind_eq_ok.2 ⟨_, Outcome.mapM_map_eq_ok hread, congrArg _ h.ofPatterns_eq⟩

end PathCondition

theorem MethodCondition.combine_empty (c : MethodCondition) : c.combine ⟨∅⟩ = c := rfl

theorem MethodCondition.empty_combine (c : MethodCondition) : combine ⟨∅⟩ c = c := by
  unfold combine
  split
  · next h => exact (MethodCondition.ext (Order.SortedSet.eq_empty_of_isEmpty h)).symm
  · rfl

theorem ParamCondition.combine_empty (c : ParamCondition) : c.combine ⟨∅⟩ = c :=
  ParamCondition.ext (Order.SortedSet.union_empty _)

theorem ParamCondition.empty_combine (c : ParamCondition) : combine ⟨∅⟩ c = c :=
  ParamCondition.ext (Order.SortedSet.empty_union _)

theorem HeaderCondition.combine_empty (c : HeaderCondition) : c.combine ⟨∅⟩ = c :=
  HeaderCondition.ext (Order.SortedSet.union_empty _)

theorem HeaderCondition.empty_combine (c : HeaderCondition) : combine ⟨∅⟩ c = c :=
  HeaderCondition.ext (Order.SortedSet.empty_union _)

theorem ConsumesCondition.combine_empty (c : ConsumesCondition) :
    c.combine { expressions := ∅ } = c := rfl

theorem ConsumesCondition.empty_combine (c : ConsumesCondition) :
    combine { expressions := ∅ } c = { c with bodyRequired := c.isEmpty || c.bodyRequired } := by
  unfold combine
  split
  · next h =>
    have hnone : c.expressions = ∅ := Order.SortedSet.eq_empty_of_isEmpty h
    rw [h, hnone, Bool.true_or]
  · next h => rw [Bool.not_eq_true] at h; rw [h, Bool.false_or]

theorem ProducesCondition.combine_empty (c : ProducesCondition) : c.combine ⟨∅⟩ = c := rfl

theorem ProducesCondition.empty_combine (c : ProducesCondition) : combine ⟨∅⟩ c = c := by
  unfold combine
  split
  · next h => exact (ProducesCondition.ext (Order.SortedSet.eq_empty_of_isEmpty h)).symm
  · rfl

namespace Mapping

variable {m : Mapping}

/-- The mappings that are put together without looking at a request. -/
inductive Composed : Mapping → Prop
  | declared {spec : MappingSpec} {m : Mapping} (h : ofSpec spec = .ok m) : Composed m
  | combined {outer inner m : Mapping} (houter : Composed outer) (hinner : Composed inner)
      (h : outer.combine inner = .ok m) : Composed m
  | placedBehind {m m' : Mapping} {path : String} (hm : Composed m) (h : m.behind path = .ok m') :
      Composed m'
  | renamed {m : Mapping} (hm : Composed m) (name : Option String) : Composed (m.withName name)
  | flagged {m : Mapping} (hm : Composed m) (required : Bool) :
      Composed (m.withBodyRequired required)

theorem Composed.ordered (h : m.Composed) : m.paths.Ordered := by
  induction h with
  | declared h =>
    obtain ⟨patterns, hparsed, heq⟩ := PathCondition.exists_eq_of_parse (ofSpec_eq_ok.1 h).paths
    rw [heq]
    exact PathCondition.ordered_ofPatterns hparsed
  | combined _ _ h =>
    -- The order of the two sides does not matter: their sums are put in order again.
    obtain ⟨paths, hpaths, rfl⟩ := combine_eq_ok.1 h
    obtain ⟨patterns, hparsed, rfl⟩ := PathCondition.exists_eq_of_combine hpaths
    exact PathCondition.ordered_ofPatterns hparsed
  | placedBehind _ h =>
    obtain ⟨outer, paths, -, hpaths, rfl⟩ := behind_eq_ok.1 h
    obtain ⟨patterns, hparsed, rfl⟩ := PathCondition.exists_eq_of_combine hpaths
    exact PathCondition.ordered_ofPatterns hparsed
  | renamed _ _ ih => exact ih
  | flagged _ _ ih => exact ih

def undeclared : Mapping := ofPaths .undeclared

theorem ofSpec_empty : ofSpec {} = .ok undeclared := rfl

theorem combineNames_none (name : Option String) : combineNames name none = name := by
  cases name <;> rfl

theorem none_combineNames (name : Option String) : combineNames none name = name := by
  cases name <;> rfl

theorem combine_undeclared (h : m.paths.Ordered) : m.combine undeclared = .ok m := by
  refine combine_eq_ok.2 ⟨m.paths, h.combine_undeclared, ?_⟩
  rw [undeclared, ofPaths, combineNames_none, MethodCondition.combine_empty,
    ParamCondition.combine_empty, HeaderCondition.combine_empty, ConsumesCondition.combine_empty,
    ProducesCondition.combine_empty]

theorem undeclared_combine (h : m.paths.Ordered) : undeclared.combine m =
    .ok (m.withBodyRequired (m.consumes.isEmpty || m.consumes.bodyRequired)) := by
  refine combine_eq_ok.2 ⟨m.paths, h.undeclared_combine, ?_⟩
  rw [undeclared, ofPaths, none_combineNames, MethodCondition.empty_combine,
    ParamCondition.empty_combine, HeaderCondition.empty_combine, ConsumesCondition.empty_combine,
    ProducesCondition.empty_combine, withBodyRequired]

theorem behind_empty (h : m.paths.Ordered) : m.behind "" = .ok m := by
  have hparse : PathCondition.parse [""] = .ok .undeclared := rfl
  exact behind_eq_ok.2 ⟨_, m.paths, hparse, h.undeclared_combine, rfl⟩

/-- Combining with the mapping of an empty declaration, inside or outside, changes no condition and
no name, and an empty path in front changes nothing. Inside it keeps the body flag, too; outside it
sets the flag of a mapping that declares no media types for the body. -/
theorem Composed.undeclared_neutral (h : m.Composed) : ∃ e, ofSpec {} = .ok e ∧
    m.combine e = .ok m ∧ m.behind "" = .ok m ∧
    ∃ n, e.combine m = .ok n ∧ n.sameConditions m = true ∧ n.name = m.name ∧
      n.consumes.bodyRequired = (m.consumes.isEmpty || m.consumes.bodyRequired) := by
  have hordered := h.ordered
  refine ⟨undeclared, ofSpec_empty, combine_undeclared hordered, behind_empty hordered,
    _, undeclared_combine hordered, ?_, rfl, rfl⟩
  exact sameConditions_iff.2 ⟨rfl, rfl, rfl, rfl, rfl, rfl⟩

/-- A mapping that needs no body comes out of the mapping around it as one that does. -/
theorem undeclared_neutral_users : ∃ m e n,
    ofSpec { paths := ["/users/", "people"], params := ["team=a"], name := some "U" } = .ok m ∧
      ofSpec {} = .ok e ∧
      (m.withBodyRequired false).combine e = .ok (m.withBodyRequired false) ∧
      (m.withBodyRequired false).behind "" = .ok (m.withBodyRequired false) ∧
      e.combine (m.withBodyRequired false) = .ok n ∧
      n.sameConditions (m.withBodyRequired false) = true ∧ n.name = m.name ∧
      n.consumes.bodyRequired = true := by
  have hread : (ofSpec {
      paths := ["/users/", "people"], params := ["team=a"], name := some "U" }).map
        (·.consumes.isEmpty) = .ok true := by decide +kernel
  obtain ⟨m, hm, hnone⟩ := Outcome.map_eq_ok.1 hread
  obtain ⟨e, he, hinner, hbehind, n, hn, hsame, hname, hflag⟩ :=
    ((Composed.declared hm).flagged false).undeclared_neutral
  refine ⟨m, e, n, hm, he, hinner, hbehind, hn, hsame, hname, hflag.trans ?_⟩
  rw [Bool.or_eq_true]
  exact .inl hnone

end Mapping

end RequestRouting
