import RequestRouting.Proofs.Mapping.Direct
import RequestRouting.Proofs.Table.Candidates

/-! Asking the index by path first. Where case counts, the mappings that spell out the path fit
it strictly better than all others, so that a lookup need not look at any other. -/
namespace RequestRouting.MappingTable

/-- The lookup that asks every registration. -/
def scan (t : MappingTable) (r : Request) : Except LookupError (Option HandlerMatch) :=
  t.choose r (rank r (t.allCandidates r))

variable {t : MappingTable} {r : Request} {options : Path.MatchOptions}

def isDirect (path : String) (reg : Registration) : Bool :=
  decide (path ∈ reg.mapping.paths.directPaths)

theorem spellingOut_eq_filter {path : String} {registrations : List Registration}
    (h : ∀ reg ∈ registrations, reg.mapping.paths.directPaths.count path ≤ 1) :
    spellingOut path registrations = registrations.filter (isDirect path) := by
  induction registrations with
  | nil => rfl
  | cons reg rest ih =>
    have hrest : ∀ reg ∈ rest, reg.mapping.paths.directPaths.count path ≤ 1 := by
      intro reg' hreg'
      exact h reg' (List.mem_cons_of_mem _ hreg')
    have honce := h reg List.mem_cons_self
    rw [spellingOut, List.flatMap_cons, ← spellingOut, ih hrest]
    by_cases hmem : path ∈ reg.mapping.paths.directPaths
    · have hone := le_antisymm honce (List.count_pos_iff.2 hmem)
      rw [hone, List.filter_cons_of_pos (by simp [isDirect, hmem])]
      rfl
    · rw [List.count_eq_zero_of_not_mem hmem, List.filter_cons_of_neg (by simp [isDirect, hmem])]
      rfl

theorem taking_filter (p : Registration → Bool) (registrations : List Registration) :
    taking options r (registrations.filter p) =
      (taking options r registrations).filter fun x => p x.1 := by
  unfold taking
  induction registrations with
  | nil => rfl
  | cons reg rest ih =>
    cases hn : reg.mapping.narrow options r with
    | none => cases hp : p reg <;> simp [hp, hn, ih]
    | some n => cases hp : p reg <;> simp [hp, hn, ih]

theorem mem_taking {registrations : List Registration} {x : Registration × Mapping} :
    x ∈ taking options r registrations ↔
      x.1 ∈ registrations ∧ x.1.mapping.narrow options r = some x.2 := by
  obtain ⟨reg, n⟩ := x
  simp only [taking, List.mem_filterMap, Option.map_eq_some_iff, Prod.mk.injEq]
  constructor
  · rintro ⟨reg', hreg, n', hn, rfl, rfl⟩
    exact ⟨hreg, hn⟩
  · rintro ⟨hreg, hn⟩
    exact ⟨reg, hreg, n, hn, rfl, rfl⟩

theorem compareContent_of_isDirect (ht : ∀ reg ∈ t.registrations, reg.mapping.paths.WellFormed)
    (hcase : t.options.caseSensitive = true) (hmethod : r.method ≠ .head)
    (hlength : (Path.pieces r.path).length ≤ 100) {x y : Registration × Mapping}
    (hx : x ∈ taking t.options r t.registrations) (hy : y ∈ taking t.options r t.registrations)
    (hxdirect : isDirect r.path x.1 = true) (hydirect : isDirect r.path y.1 = false) :
    compareContent r x y = .lt := by
  obtain ⟨hxmem, hxn⟩ := mem_taking.1 hx
  obtain ⟨hymem, hyn⟩ := mem_taking.1 hy
  obtain ⟨-, -, -, -, -, -, hxpaths⟩ := Mapping.narrow_eq_some.1 hxn
  obtain ⟨-, -, -, -, -, -, hypaths⟩ := Mapping.narrow_eq_some.1 hyn
  have hpaths : x.2.paths.compareFit y.2.paths = .lt :=
    (ht _ hxmem).compareFit_of_directPaths (ht _ hymem) hcase hlength
      (of_decide_eq_true hxdirect) (of_decide_eq_false hydirect) hxpaths hypaths
  simp [compareContent, Mapping.compareFit, hmethod, hpaths]

theorem choose_append {cs ds : List Candidate} {x : Registration × Mapping}
    {rest others : List (Registration × Mapping)} (hcs : cs.map Candidate.content = x :: rest)
    (hds : ds.map Candidate.content = x :: (rest ++ others))
    (hbehind : ∀ y ∈ others, compareContent r x y = .lt) : t.choose r ds = t.choose r cs := by
  cases rest with
  | nil =>
    have hne : ∀ y ∈ others.head?, compareContent r x y ≠ .eq := by
      intro y hy heq
      rw [hbehind y (List.mem_of_mem_head? hy)] at heq
      contradiction
    rw [choose_of_first hds hne, choose_of_first hcs (by simp)]
  | cons y rest =>
    by_cases htie : compareContent r x y = .eq
    · rw [choose_of_tie hds rfl htie, choose_of_tie hcs rfl htie]
    · have hne : ∀ z ∈ (y :: rest).head?, compareContent r x z ≠ .eq := by
        intro z hz
        obtain rfl := Option.some.inj hz
        exact htie
      rw [choose_of_first hds hne, choose_of_first hcs hne]

theorem map_content_directCandidates (hindexed : t.Indexed)
    (honce : ∀ reg ∈ t.registrations, reg.mapping.paths.directPaths.count r.path ≤ 1) :
    (t.directCandidates r).map Candidate.content =
      (taking t.options r t.registrations).filter fun x => isDirect r.path x.1 := by
  rw [hindexed.map_content_directCandidates, spellingOut_eq_filter honce, taking_filter]

/-- Where the registrations that spell out the path come before all others, there is no need to look
at others. -/
theorem lookup_eq_scan_of_lt (hindexed : t.Indexed)
    (honce : ∀ reg ∈ t.registrations, reg.mapping.paths.directPaths.count r.path ≤ 1)
    (hbefore : ∀ x ∈ taking t.options r t.registrations,
      ∀ y ∈ taking t.options r t.registrations, isDirect r.path x.1 = true →
        isDirect r.path y.1 = false → compareContent r x y = .lt) : t.lookup r = t.scan r := by
  unfold lookup scan candidates
  split
  · rfl
  next hdirect =>
  have hfilter := map_content_directCandidates hindexed honce
  -- The ranked direct candidates are the front of all ranked candidates.
  have hall := map_content_rank (r := r) (t.allCandidates r)
  rw [map_content_allCandidates, Order.sortBy_eq_append_of_lt _ hbefore, ← hfilter,
    ← map_content_rank] at hall
  cases hranked : (rank r (t.directCandidates r)).map Candidate.content with
  | nil =>
    have hnil : t.directCandidates r = [] := Order.sortBy_eq_nil.1 (List.map_eq_nil_iff.1 hranked)
    rw [hnil] at hdirect
    contradiction
  | cons x rest =>
    have hx : x ∈ (rank r (t.directCandidates r)).map Candidate.content := by
      rw [hranked]
      exact List.mem_cons_self
    rw [map_content_rank, Order.mem_sortBy, hfilter, List.mem_filter] at hx
    rw [hranked, List.cons_append] at hall
    symm
    apply choose_append hranked hall
    intro y hy
    obtain ⟨hy, hydirect⟩ := List.mem_filter.1 (Order.mem_sortBy.1 hy)
    exact hbefore x hx.1 y hy hx.2 (by simpa using hydirect)

/-- A lookup that asks the index first finds what a scan of all registrations finds. -/
theorem Reachable.lookup_eq_scan (ht : t.Reachable options) (hcase : options.caseSensitive = true)
    (hroot : ∀ reg ∈ t.registrations,
      ¬ ("" ∈ reg.mapping.paths.texts ∧ "/" ∈ reg.mapping.paths.texts))
    (hmethod : r.method ≠ .head) (hlength : (Path.pieces r.path).length ≤ 100) :
    t.lookup r = t.scan r := by
  have hwell : ∀ reg ∈ t.registrations, reg.mapping.paths.WellFormed := by
    intro reg hreg
    exact (ht.constructible reg hreg).wellFormed
  have hcase : t.options.caseSensitive = true := by rw [ht.options_eq, hcase]
  apply lookup_eq_scan_of_lt ht.indexed
  · intro reg hreg
    exact List.nodup_iff_count_le_one.1 ((hwell reg hreg).nodup_directPaths (hroot reg hreg)) _
  · intro x hx y hy
    exact compareContent_of_isDirect hwell hcase hmethod hlength hx hy

theorem lookup_usersTable_eq_scan :
    (usersTable.directCandidates { method := .get, path := "/users/me" }).length = 1 ∧
      (usersTable.allCandidates { method := .get, path := "/users/me" }).length = 2 ∧
      usersTable.lookup { method := .get, path := "/users/me" } =
        usersTable.scan { method := .get, path := "/users/me" } :=
  ⟨rfl, rfl, reachable_usersTable.lookup_eq_scan rfl (by decide) (by decide) (by decide)⟩

end RequestRouting.MappingTable
