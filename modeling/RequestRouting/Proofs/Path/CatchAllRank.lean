import RequestRouting.Proofs.Path.Appending
import RequestRouting.Proofs.Path.Capturing
import RequestRouting.Proofs.Path.Literal

/-! Where catch-alls rank. A catch-all weighs a hundred and every other segment at most twelve, so
eight of those never weigh as much as a catch-all, and nine can weigh more. On a path with at most
eight pieces the patterns with a catch-all therefore come last, and on no longer path they always
do. -/
namespace RequestRouting.Path

theorem Segment.weight_le_twelve {segment : Segment} (h : segment.isCatchAll = false) :
    segment.weight ≤ 12 := by
  cases segment with
  | literal text => simp [Segment.weight]
  | param name constraint => cases constraint <;> simp [Segment.weight, Constraint.weight]
  | wildcard => simp [Segment.weight]
  | catchAll name => contradiction

theorem weightOf_append (front back : List Segment) :
    weightOf (front ++ back) = weightOf front + weightOf back := by
  induction front with
  | nil => simp [weightOf]
  | cons segment front ih => rw [List.cons_append, weightOf_cons, weightOf_cons, ih, Nat.add_assoc]

theorem weightOf_le {segments : List Segment} (h : segments.any Segment.isCatchAll = false) :
    weightOf segments ≤ 12 * segments.length := by
  induction segments with
  | nil => simp [weightOf]
  | cons segment rest ih =>
    rw [List.any_cons, Bool.or_eq_false_iff] at h
    have hfirst := Segment.weight_le_twelve h.1
    have hrest := ih h.2
    rw [weightOf_cons, List.length_cons]
    omega

theorem weightOf_replicate (n : Nat) (segment : Segment) :
    weightOf (List.replicate n segment) = segment.weight * n := by
  induction n with
  | zero => rfl
  | succ n ih =>
    rw [List.replicate_succ, weightOf_cons, ih, Nat.mul_succ]
    omega

theorem any_isCatchAll_wildcards (n : Nat) :
    (List.replicate n Segment.wildcard).any Segment.isCatchAll = false := by
  rw [List.any_eq_false]
  intro segment hmem
  rw [List.eq_of_mem_replicate hmem]
  exact Bool.false_ne_true

theorem CatchAllLast.exists_eq_concat {segments : List Segment} (h : CatchAllLast segments)
    (hcatch : segments.any Segment.isCatchAll = true) :
    ∃ front name, segments = front ++ [.catchAll name] := by
  induction segments with
  | nil => contradiction
  | cons segment rest ih =>
    cases hfirst : segment.isCatchAll with
    | true =>
      obtain ⟨name, rfl⟩ := catchAll_of_isCatchAll hfirst
      rw [h.1 rfl]
      exact ⟨[], name, rfl⟩
    | false =>
      rw [List.any_cons, hfirst, Bool.false_or] at hcatch
      obtain ⟨front, name, rfl⟩ := ih h.2 hcatch
      exact ⟨segment :: front, name, rfl⟩

theorem captureSegments_wildcards (options : MatchOptions) (pieces : List String) :
    captureSegments options (List.replicate pieces.length .wildcard) pieces = some [] := by
  induction pieces with
  | nil => rfl
  | cons piece rest ih => exact ih

namespace Pattern

variable {p q : Pattern} {options : MatchOptions} {path : String} {front : List Segment}
  {name : Option String}

theorem weight_of_catchAll (hends : q.segments = front ++ [.catchAll name]) :
    q.weight = weightOf front + 100 := by
  show weightOf q.segments = _
  rw [hends, weightOf_append]
  rfl

theorem length_of_accepts (hnone : p.hasCatchAll = false) (h : p.accepts options path = true) :
    p.segments.length = (pieces path).length := by
  obtain ⟨-, entries, hentries⟩ := accepts_iff.1 h
  exact length_of_captureSegments hnone hentries

/-- The pattern is lighter than one that ends in a catch-all, or as heavy and otherwise more
specific. -/
def Outranks (p q : Pattern) (front : List Segment) : Prop :=
  weightOf p.segments < weightOf front + 100 ∨ weightOf p.segments = weightOf front + 100 ∧
    (q.literalCount < p.literalCount ∨
      q.literalCount = p.literalCount ∧ q.byteLength < p.byteLength)

theorem compareSpecificity_iff_outranks (hends : q.segments = front ++ [.catchAll name]) :
    compareSpecificity p q = .lt ↔ Outranks p q front := by
  rw [compareSpecificity_eq_lt, weight_of_catchAll hends]
  rfl

theorem outranks_of_length_le (hnone : p.hasCatchAll = false)
    (h : p.accepts options path = true) (hlength : (pieces path).length ≤ front.length + 8)
    (hfront : weightOf (p.segments.take front.length) ≤ weightOf front) : Outranks p q front := by
  have hsegments := List.take_append_drop front.length p.segments
  have hrest : (p.segments.drop front.length).any Segment.isCatchAll = false := by
    unfold hasCatchAll at hnone
    rw [← hsegments, List.any_append, Bool.or_eq_false_iff] at hnone
    exact hnone.2
  have hweight := weightOf_le hrest
  rw [List.length_drop, length_of_accepts hnone h] at hweight
  refine .inl ?_
  rw [← hsegments, weightOf_append]
  omega

theorem outranks_of_length_le_eight (hnone : p.hasCatchAll = false)
    (h : p.accepts options path = true) (hlength : (pieces path).length ≤ 8) :
    Outranks p q front := by
  have hweight := weightOf_le hnone
  rw [length_of_accepts hnone h] at hweight
  exact .inl (by omega)

theorem exists_wildcards (slash : Bool) (n : Nat) :
    ∃ p : Pattern, p.Parsed ∧ p.segments = List.replicate (n + 1) .wildcard ∧
      p.trailingSlash = slash := by
  obtain ⟨one, hone, hsegments, hslash⟩ : ∃ p : Pattern, p.Parsed ∧ p.segments = [.wildcard] ∧
      p.trailingSlash = slash := by
    cases slash with
    | false => exact ⟨⟨"/*", [.wildcard]⟩, ⟨"/*", by rfl⟩, rfl, by decide⟩
    | true => exact ⟨⟨"/*/", [.wildcard]⟩, ⟨"/*/", by rfl⟩, rfl, by decide⟩
  induction n with
  | zero => exact ⟨one, hone, hsegments, hslash⟩
  | succ n ih =>
    obtain ⟨p, hp, hpsegments, -⟩ := ih
    have hne : one.segments ≠ [] := by simp [hsegments]
    have hplain : p.hasCatchAll = false ∧ ∀ name ∈ p.names, name ∉ one.names := by
      constructor
      · rw [hasCatchAll, hpsegments, any_isCatchAll_wildcards]
      · simp [names, hsegments, Segment.name?]
    obtain ⟨joined, hjoined⟩ := (exists_combine_iff hp hone hne).2 hplain
    have happends := appends_of_combine hp hone hne hjoined
    refine ⟨joined, ⟨_, hjoined⟩, ?_, happends.trailingSlash.trans hslash⟩
    rw [happends.segments, hpsegments, hsegments, List.replicate_succ' (n := n + 1)]

theorem exists_accepts_wildcards (options : MatchOptions) (hne : pieces path ≠ []) :
    ∃ p : Pattern, p.Parsed ∧ p.segments = List.replicate (pieces path).length .wildcard ∧
      p.accepts options path = true := by
  obtain ⟨n, hn⟩ := Nat.exists_eq_add_one_of_ne_zero (mt List.length_eq_zero_iff.1 hne)
  obtain ⟨p, hp, hsegments, hslash⟩ := exists_wildcards (endsInSlash path) n
  rw [← hn] at hsegments
  refine ⟨p, hp, hsegments, accepts_iff.2 ⟨?_, [], ?_⟩⟩
  · unfold slashesAgree
    rw [hslash]
    split
    · next hends => simp [hends]
    · next hends => simp [hends]
  · rw [hsegments]
    exact captureSegments_wildcards options _

def catchAllPattern : Pattern := ⟨"/**", [.catchAll none]⟩

theorem accepts_catchAllPattern (options : MatchOptions) (path : String) :
    catchAllPattern.accepts options path = true := by
  have hnone : catchAllPattern.trailingSlash = false := by decide
  have hcatch : catchAllPattern.hasCatchAll = true := by rfl
  refine accepts_iff.2 ⟨?_, [], rfl⟩
  unfold slashesAgree
  split
  · simp [hcatch]
  · simp [hnone]

theorem exists_not_lt_of_length (options : MatchOptions) (hlength : 8 < (pieces path).length) :
    ∃ p : Pattern, p.Parsed ∧ p.hasCatchAll = false ∧ p.accepts options path = true ∧
      compareSpecificity p catchAllPattern ≠ .lt := by
  have hne : pieces path ≠ [] := by
    intro hnil
    rw [hnil] at hlength
    contradiction
  obtain ⟨p, hp, hsegments, haccepts⟩ := exists_accepts_wildcards options hne
  refine ⟨p, hp, ?_, haccepts, ?_⟩
  · rw [hasCatchAll, hsegments, any_isCatchAll_wildcards]
  · -- a wildcard weighs twelve and a catch-all a hundred
    have hweight :p.weight = 12 * (pieces path).length := by
      show weightOf p.segments = _
      rw [hsegments, weightOf_replicate]
      rfl
    have hcatch : catchAllPattern.weight = 100 := by rfl
    rw [Ne, compareSpecificity_eq_lt, hweight, hcatch]
    omega

/-- A pattern without a catch-all ranks before one that ends in a catch-all exactly when it is
lighter, or as heavy and otherwise more specific. It is lighter where the catch-all takes at most
eight pieces and what stands before it is no lighter than the other pattern there. On a path with at
most eight pieces the catch-all is always the last resort, and on no longer path it always is. -/
theorem catchAll_ranking (options : MatchOptions) (path : String) :
    (∀ (p q : Pattern) (front : List Segment) (name : Option String), p.Parsed → q.Parsed →
      p.hasCatchAll = false → q.segments = front ++ [.catchAll name] →
        p.accepts options path = true → q.accepts options path = true →
          (compareSpecificity p q = .lt ↔ Outranks p q front) ∧
            ((pieces path).length ≤ front.length + 8 →
              weightOf (p.segments.take front.length) ≤ weightOf front →
                compareSpecificity p q = .lt)) ∧
    ((∀ p q : Pattern, p.Parsed → q.Parsed → p.hasCatchAll = false → q.hasCatchAll = true →
      p.accepts options path = true → q.accepts options path = true →
        compareSpecificity p q = .lt) ↔ (pieces path).length ≤ 8) := by
  constructor
  · intro p q front name _ _ hnone hends haccepts _
    have hrank := compareSpecificity_iff_outranks (p := p) hends
    refine ⟨hrank, fun hlength hfront => hrank.2 ?_⟩
    exact outranks_of_length_le hnone haccepts hlength hfront
  · constructor
    · intro h
      by_contra hlength
      obtain ⟨p, hp, hnone, haccepts, hrank⟩ :=
        exists_not_lt_of_length options (Nat.lt_of_not_le hlength)
      exact hrank (h p catchAllPattern hp ⟨"/**", by rfl⟩ hnone rfl haccepts
        (accepts_catchAllPattern options path))
    · intro hlength p q _ hq hnone hcatch haccepts _
      obtain ⟨front, name, hends⟩ := hq.catchAllLast.exists_eq_concat hcatch
      exact (compareSpecificity_iff_outranks hends).2
        (outranks_of_length_le_eight hnone haccepts hlength)

def wildcards (n : Nat) : Pattern :=
  ⟨String.ofList (List.replicate n ['/', '*']).flatten, List.replicate n .wildcard⟩

/-- Eight wildcards are more specific than a catch-all. -/
theorem eight_wildcards_before_catchAll :
    (wildcards 8).Parsed ∧ catchAllPattern.Parsed ∧
      (wildcards 8).accepts {} "/a/b/c/d/e/f/g/h" = true ∧
      catchAllPattern.accepts {} "/a/b/c/d/e/f/g/h" = true ∧
      compareSpecificity (wildcards 8) catchAllPattern = .lt := by
  have hp : (wildcards 8).Parsed := ⟨"/*/*/*/*/*/*/*/*", by rfl⟩
  have hq : catchAllPattern.Parsed := ⟨"/**", by rfl⟩
  have hpath : (wildcards 8).accepts {} "/a/b/c/d/e/f/g/h" = true := by decide
  have hpath' := accepts_catchAllPattern {} "/a/b/c/d/e/f/g/h"
  have hlength : (pieces "/a/b/c/d/e/f/g/h").length ≤ 8 := by decide
  have hrank := (catchAll_ranking {} "/a/b/c/d/e/f/g/h").2.2 hlength (wildcards 8) catchAllPattern
  exact ⟨hp, hq, hpath, hpath', hrank hp hq rfl rfl hpath hpath'⟩

/-- Nine are less specific. -/
theorem nine_wildcards_behind_catchAll :
    parse "/*/*/*/*/*/*/*/*/*" = .ok (wildcards 9) ∧ parse "/**" = .ok catchAllPattern ∧
      (wildcards 9).accepts {} "/a/b/c/d/e/f/g/h/i" = true ∧
      catchAllPattern.accepts {} "/a/b/c/d/e/f/g/h/i" = true ∧
      compareSpecificity (wildcards 9) catchAllPattern = .gt ∧
      ¬ ∀ (options : MatchOptions) (path : String) (p q : Pattern), p.Parsed → q.Parsed →
        p.hasCatchAll = false → q.hasCatchAll = true → p.accepts options path = true →
          q.accepts options path = true → compareSpecificity p q = .lt := by
  have hpath : (wildcards 9).accepts {} "/a/b/c/d/e/f/g/h/i" = true := by decide
  have hpath' := accepts_catchAllPattern {} "/a/b/c/d/e/f/g/h/i"
  have hrank : compareSpecificity (wildcards 9) catchAllPattern = .gt := by decide
  refine ⟨by rfl, by rfl, hpath, hpath', hrank, fun h => ?_⟩
  have hlt := h {} _ (wildcards 9) catchAllPattern ⟨"/*/*/*/*/*/*/*/*/*", by rfl⟩
    ⟨"/**", by rfl⟩ rfl rfl hpath hpath'
  exact absurd (hrank.symm.trans hlt) (by decide)

end Pattern

end RequestRouting.Path
