import RequestRouting.Proofs.Path.LetterCase
import RequestRouting.Proofs.Table.FastPath

/-! Lookups in tables of literal patterns where case does not count. A scan of all registrations
looks at the path only to narrow the mappings, so it does not see the case. The index does see it:
it knows the paths as their patterns are written. Both find the same unless the index lists some of
the registrations that contend for a request and leaves out others. -/
namespace RequestRouting

namespace PathCondition

variable {options : Path.MatchOptions} {path path' : String} {c d c' d' : PathCondition}

theorem WellFormed.narrow_congr (hc : c.WellFormed)
    (hstatic : ∀ p ∈ c.patterns, p.isStatic = true) (hcase : options.caseSensitive = false)
    (hpath : Text.equalIgnoringCase path path' = true) :
    c.narrow options path = c.narrow options path' := by
  have hmatching : c.patterns.filter (·.accepts options path) =
      c.patterns.filter (·.accepts options path') := by
    apply List.filter_congr
    intro p hp
    exact (hc.parsed p hp).accepts_congr (hstatic p hp) hcase hpath
  unfold PathCondition.narrow
  rw [hmatching]

theorem WellFormed.compareFit_of_caseless (hc : c.WellFormed) (hd : d.WellFormed)
    (hstatic : ∀ q ∈ d.patterns, q.isStatic = true) (hcase : options.caseSensitive = false)
    (hcpath : path ∈ c.directPaths)
    (hdpath : ¬ ∃ text ∈ d.directPaths, Text.equalIgnoringCase text path = true)
    (hcn : c.narrow options path = some c') (hdn : d.narrow options path = some d') :
    c'.compareFit d' = .lt := by
  obtain ⟨p, hp, hspells⟩ := mem_directPaths.1 hcpath
  have hparsed := hc.parsed p hp
  refine compareFit_of_forall_lt hp (hparsed.accepts_of_spellsOut hspells) ?_ hcn hdn
  intro q hq haccepts
  have hother : Text.equalIgnoringCase q.directPath path = false := by
    rw [← Bool.not_eq_true]
    intro hsame
    exact hdpath ⟨_, mem_directPaths.2 ⟨q, hq, hstatic q hq, rfl⟩, hsame⟩
  exact hparsed.lt_of_caseless (hd.parsed q hq) hcase hspells (hstatic q hq) hother haccepts

end PathCondition

theorem Mapping.compareFit_path (r : Request) (path : String) :
    compareFit { r with path := path } = compareFit r := rfl

namespace MappingTable

def outcome (found : Except LookupError (Option HandlerMatch)) : Except String (Option Handler) :=
  (found.mapError LookupError.code).map (Option.map HandlerMatch.handler)

/-- A registration that takes the request and, unless this is a HEAD request, has a literal
pattern that is the path up to case. -/
def Contends (t : MappingTable) (r : Request) (reg : Registration) : Prop :=
  (reg.mapping.narrow t.options r).isSome ∧ (r.method ≠ .head →
    ∃ text ∈ reg.mapping.paths.directPaths, Text.equalIgnoringCase text r.path = true)

instance (t : MappingTable) (r : Request) (reg : Registration) : Decidable (t.Contends r reg) :=
  inferInstanceAs (Decidable (_ ∧ _))

/-- The index lists under the path all registrations that contend for the request, or none. -/
def ListedAlike (t : MappingTable) (r : Request) : Prop :=
  (∀ reg ∈ t.registrations, t.Contends r reg → r.path ∈ reg.mapping.paths.directPaths) ∨
    ∀ reg ∈ t.registrations, t.Contends r reg → r.path ∉ reg.mapping.paths.directPaths

instance (t : MappingTable) (r : Request) : Decidable (t.ListedAlike r) :=
  inferInstanceAs (Decidable (_ ∨ _))

variable {t : MappingTable} {r : Request} {options : Path.MatchOptions} {path : String}

section SameNarrowing

variable (hnarrow : ∀ reg ∈ t.registrations,
  reg.mapping.paths.narrow t.options path = reg.mapping.paths.narrow t.options r.path)

include hnarrow

theorem candidate?_congr (i : Nat) : t.candidate? { r with path := path } i = t.candidate? r i := by
  unfold candidate?
  cases hreg : t.registrations[i]? with
  | none => rfl
  | some reg =>
    have hsame : reg.mapping.narrow t.options { r with path := path } =
        reg.mapping.narrow t.options r := by
      unfold Mapping.narrow
      rw [hnarrow reg (List.mem_of_getElem? hreg)]
      rfl
    rw [Option.bind_eq_bind, Option.bind_some, hsame]
    rfl

theorem diagnose_congr : t.diagnose { r with path := path } = t.diagnose r := by
  have hreached : t.reachedBy { r with path := path } = t.reachedBy r := by
    unfold reachedBy
    apply List.filter_congr
    intro m hm
    obtain ⟨reg, hreg, rfl⟩ := List.mem_map.1 hm
    rw [hnarrow reg hreg]
  unfold diagnose
  rw [hreached]
  rfl

theorem outcome_choose_congr (cs : List Candidate) :
    outcome (t.choose { r with path := path } cs) = outcome (t.choose r cs) := by
  match cs with
  | [] =>
    rw [choose, diagnose_congr hnarrow]
    rfl
  | [c] => rfl
  | c :: d :: rest =>
    rw [choose, choose, Mapping.compareFit_path]
    split
    · rfl
    · rfl

theorem outcome_scan_congr : outcome (t.scan { r with path := path }) = outcome (t.scan r) := by
  have hcandidates : t.allCandidates { r with path := path } = t.allCandidates r := by
    unfold allCandidates candidatesAt
    congr 1
    funext i
    exact candidate?_congr hnarrow i
  unfold scan
  rw [hcandidates]
  exact outcome_choose_congr hnarrow _

end SameNarrowing

section Literal

variable (hwell : ∀ reg ∈ t.registrations, reg.mapping.paths.WellFormed)
  (hstatic : ∀ reg ∈ t.registrations, ∀ p ∈ reg.mapping.paths.patterns, p.isStatic = true)
  (hcase : t.options.caseSensitive = false)

include hwell hstatic hcase

theorem compareContent_of_listedAlike (hlisted : t.ListedAlike r) {x y : Registration × Mapping}
    (hx : x ∈ taking t.options r t.registrations) (hy : y ∈ taking t.options r t.registrations)
    (hxdirect : isDirect r.path x.1 = true) (hydirect : isDirect r.path y.1 = false) :
    compareContent r x y = .lt := by
  obtain ⟨hxmem, hxn⟩ := mem_taking.1 hx
  obtain ⟨hymem, hyn⟩ := mem_taking.1 hy
  have hxpath : r.path ∈ x.1.mapping.paths.directPaths := of_decide_eq_true hxdirect
  have hypath : r.path ∉ y.1.mapping.paths.directPaths := of_decide_eq_false hydirect
  have hxcontends : t.Contends r x.1 := by
    refine ⟨Option.isSome_of_eq_some hxn, fun _ => ⟨r.path, hxpath, ?_⟩⟩
    rw [Text.equalIgnoringCase_iff]
  -- `y` is not listed; if all that contend are, it has no literal pattern for the path
  rcases hlisted with hall | hnone
  · have hycontends : ¬ t.Contends r y.1 := fun h => hypath (hall y.1 hymem h)
    rw [Contends, hyn] at hycontends
    obtain ⟨hmethod, hyother⟩ := not_forall.1 (not_and.1 hycontends rfl)
    obtain ⟨-, -, -, -, -, -, hxpaths⟩ := Mapping.narrow_eq_some.1 hxn
    obtain ⟨-, -, -, -, -, -, hypaths⟩ := Mapping.narrow_eq_some.1 hyn
    have hpaths : x.2.paths.compareFit y.2.paths = .lt :=
      (hwell _ hxmem).compareFit_of_caseless (hwell _ hymem) (hstatic _ hymem) hcase hxpath hyother
        hxpaths hypaths
    simp [compareContent, Mapping.compareFit, hmethod, hpaths]
  · exact absurd hxpath (hnone x.1 hxmem hxcontends)

theorem lookup_eq_scan_of_listedAlike (hindexed : t.Indexed) (hroot : r.path ≠ "/")
    (hlisted : t.ListedAlike r) : t.lookup r = t.scan r := by
  apply lookup_eq_scan_of_lt hindexed
  · intro reg hreg
    by_contra htwice
    have htwice := (hwell reg hreg).two_le_count_directPaths.1 (not_le.1 htwice)
    exact hroot htwice.1
  · intro x hx y hy
    exact compareContent_of_listedAlike hwell hstatic hcase hlisted hx hy

end Literal

/-- Where case does not count, literal patterns do not tell requests apart by the case of their
paths, as long as the index does not tell apart the registrations that contend. -/
theorem Reachable.lookup_ignores_case (ht : t.Reachable options)
    (hcase : options.caseSensitive = false)
    (hstatic : ∀ reg ∈ t.registrations, ∀ p ∈ reg.mapping.paths.patterns, p.isStatic = true)
    (hpath : Text.equalIgnoringCase r.path path = true) (hlisted : t.ListedAlike r)
    (hlisted' : t.ListedAlike { r with path := path }) :
    outcome (t.lookup r) = outcome (t.lookup { r with path := path }) := by
  have hwell : ∀ reg ∈ t.registrations, reg.mapping.paths.WellFormed := by
    intro reg hreg
    exact (ht.constructible reg hreg).wellFormed
  rw [← ht.options_eq] at hcase
  have hslash : r.path = "/" ↔ path = "/" := by
    rw [← Text.map_toLower_eq_slash, ← Text.map_toLower_eq_slash,
      Text.equalIgnoringCase_iff.1 hpath]
  by_cases hroot : r.path = "/"
  · rw [hslash.1 hroot, ← hroot]
  · have hroot' : path ≠ "/" := mt hslash.2 hroot
    rw [lookup_eq_scan_of_listedAlike hwell hstatic hcase ht.indexed hroot hlisted,
      lookup_eq_scan_of_listedAlike hwell hstatic hcase ht.indexed hroot' hlisted']
    symm
    apply outcome_scan_congr
    intro reg hreg
    symm
    exact (hwell reg hreg).narrow_congr (hstatic reg hreg) hcase hpath

def casedCalls : List (Mapping × Handler) :=
  let pages : HandlerType := { name := "Pages" }
  [(.ofPaths ⟨[⟨"/foo", [.literal "foo"]⟩]⟩, ⟨pages, { name := "lower" }⟩),
    (.ofPaths ⟨[⟨"/Foo", [.literal "Foo"]⟩]⟩, ⟨pages, { name := "upper" }⟩),
    (.ofPaths ⟨[⟨"/bar", [.literal "bar"]⟩]⟩, ⟨pages, { name := "bar" }⟩)]

def casedTable : MappingTable := (empty { caseSensitive := false }).registerEach casedCalls

theorem reachable_casedTable : casedTable.Reachable { caseSensitive := false } := by
  refine ⟨casedCalls, ?_, rfl⟩
  intro call hcall
  simp only [casedCalls, List.mem_cons, List.not_mem_nil, or_false] at hcall
  rcases hcall with rfl | rfl | rfl
  · have hread : PathCondition.parse ["/foo"] = .ok _ := rfl
    exact Mapping.constructible_ofPaths hread
  · have hread : PathCondition.parse ["/Foo"] = .ok _ := rfl
    exact Mapping.constructible_ofPaths hread
  · have hread : PathCondition.parse ["/bar"] = .ok _ := rfl
    exact Mapping.constructible_ofPaths hread

theorem isStatic_casedTable : ∀ reg ∈ casedTable.registrations,
    ∀ p ∈ reg.mapping.paths.patterns, p.isStatic = true := by
  decide

theorem lookup_casedTable_ignores_case :
    Text.equalIgnoringCase "/bar" "/BAR" = true ∧
      casedTable.ListedAlike { method := .get, path := "/bar" } ∧
      casedTable.ListedAlike { method := .get, path := "/BAR" } ∧
      outcome (casedTable.lookup { method := .get, path := "/bar" }) =
        outcome (casedTable.lookup { method := .get, path := "/BAR" }) := by
  have hlisted : casedTable.ListedAlike { method := .get, path := "/bar" } := by decide
  have hlisted' : casedTable.ListedAlike { method := .get, path := "/BAR" } := by decide
  exact ⟨by decide, hlisted, hlisted',
    reachable_casedTable.lookup_ignores_case rfl isStatic_casedTable (by decide) hlisted hlisted'⟩

/-- Each spelling of a path that is listed itself goes to its own handler. -/
theorem lookup_casedTable_tells_case_apart :
    casedTable.Reachable { caseSensitive := false } ∧
      (∀ reg ∈ casedTable.registrations,
        ∀ p ∈ reg.mapping.paths.patterns, p.isStatic = true) ∧
      Text.equalIgnoringCase "/foo" "/Foo" = true ∧
      outcome (casedTable.lookup { method := .get, path := "/foo" }) ≠
        outcome (casedTable.lookup { method := .get, path := "/Foo" }) :=
  ⟨reachable_casedTable, isStatic_casedTable, by decide, by decide⟩

end MappingTable

end RequestRouting
