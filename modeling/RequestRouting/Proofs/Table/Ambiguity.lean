import RequestRouting.Proofs.Mapping.Direct
import RequestRouting.Proofs.Table.Selection

/-! When a lookup finds its request ambiguous. Two registrations that tie for the best fit are one
reason. The other one is a single registration that the index lists twice: one whose mapping spells
out the root both as the empty pattern and as a slash. -/
namespace RequestRouting.MappingTable

/-- The registration at a position competes for the request, and none that does fits better. -/
structure Leads (t : MappingTable) (r : Request) (i : Nat) (n : Mapping) : Prop where
  competes : t.Competes r i
  takes : t.TakesAt r i n
  best : ∀ j n', t.Competes r j → t.TakesAt r j n' → (Mapping.compareFit r n n').isLE

def Ties (t : MappingTable) (r : Request) (i : Nat) (n : Mapping) : Prop :=
  ∃ j n', j ≠ i ∧ t.Competes r j ∧ t.TakesAt r j n' ∧ Mapping.compareFit r n n' = .eq

def SpellsRootTwice (t : MappingTable) (r : Request) (i : Nat) : Prop :=
  r.path = "/" ∧ ∃ reg, t.registrations[i]? = some reg ∧
    "" ∈ reg.mapping.paths.texts ∧ "/" ∈ reg.mapping.paths.texts

variable {t : MappingTable} {r : Request} {i : Nat} {n : Mapping}

theorem TakesAt.unique {n' : Mapping} (h : t.TakesAt r i n) (h' : t.TakesAt r i n') : n = n' := by
  obtain ⟨reg, hreg, hn⟩ := h
  obtain ⟨reg', hreg', hn'⟩ := h'
  obtain rfl := Option.some.inj (hreg.symm.trans hreg')
  exact Option.some.inj (hn.symm.trans hn')

theorem map_index_candidatesAt (is : List Nat) :
    (t.candidatesAt r is).map Candidate.index = is.filter fun i => (t.candidate? r i).isSome := by
  unfold candidatesAt
  induction is with
  | nil => rfl
  | cons i is ih =>
    rw [List.filterMap_cons, List.filter_cons]
    cases hc : t.candidate? r i with
    | none => exact ih
    | some c =>
      obtain ⟨hindex, -, -⟩ := candidate?_eq_some.1 hc
      simp [hindex, ih]

theorem two_le_count_candidates (htakes : t.TakesAt r i n) :
    2 ≤ ((t.candidates r).map Candidate.index).count i ↔
      2 ≤ (positions t.byPath r.path).count i := by
  obtain ⟨reg, hreg, hn⟩ := htakes
  have hsome : (t.candidate? r i).isSome = true :=
    Option.isSome_iff_exists.2 ⟨⟨i, reg, n⟩, candidate?_eq_some.2 ⟨rfl, hreg, hn⟩⟩
  -- the positions listed are those that are narrowed, each as often as it is listed
  have hdirect : ((t.directCandidates r).map Candidate.index).count i =
      (positions t.byPath r.path).count i := by
    rw [directCandidates, map_index_candidatesAt]
    exact List.count_filter hsome
  unfold candidates
  split
  · next hnone =>
    have hall : ((t.allCandidates r).map Candidate.index).count i ≤ 1 := by
      rw [allCandidates, map_index_candidatesAt]
      exact List.nodup_iff_count_le_one.1 (List.nodup_range.filter _) i
    rw [List.isEmpty_iff.1 hnone, List.map_nil, List.count_nil] at hdirect
    omega
  · rw [hdirect]

theorem Reachable.two_le_count_positions {options : Path.MatchOptions} (ht : t.Reachable options) :
    2 ≤ (positions t.byPath r.path).count i ↔ t.SpellsRootTwice r i := by
  rw [ht.indexed r.path]
  have hcount : ∀ reg, t.registrations[i]? = some reg →
      (2 ≤ (spelledAt r.path 0 t.registrations).count i ↔ r.path = "/" ∧
        "" ∈ reg.mapping.paths.texts ∧ "/" ∈ reg.mapping.paths.texts) := by
    intro reg hreg
    have hlisted : (spelledAt r.path 0 t.registrations).count (0 + i) =
        reg.mapping.paths.directPaths.count r.path := count_spelledAt hreg
    rw [Nat.zero_add] at hlisted
    rw [hlisted]
    exact (ht.constructible reg (List.mem_of_getElem? hreg)).wellFormed.two_le_count_directPaths
  constructor
  · intro htwice
    obtain ⟨reg, hreg, -⟩ := mem_spelledAt.1 (List.count_pos_iff.1 (Nat.zero_lt_of_lt htwice))
    obtain ⟨hpath, htexts⟩ := (hcount reg hreg).1 htwice
    exact ⟨hpath, reg, hreg, htexts⟩
  · rintro ⟨hpath, reg, hreg, htexts⟩
    exact (hcount reg hreg).2 ⟨hpath, htexts⟩

theorem count_rank (cs : List Candidate) (i : Nat) :
    ((rank r cs).map Candidate.index).count i = (cs.map Candidate.index).count i :=
  ((Order.sortBy_perm _ cs).map Candidate.index).count_eq i

theorem rank_eq_of_ambiguous {path first second : String}
    (h : t.lookup r = .error (.ambiguousHandler path first second)) :
    ∃ c d rest, rank r (t.candidates r) = c :: d :: rest ∧
      Mapping.compareFit r c.narrowed d.narrowed = .eq := by
  unfold lookup at h
  cases hranked : rank r (t.candidates r) with
  | nil =>
    rw [hranked, choose] at h
    split at h
    · next e he =>
      obtain rfl := Except.error.inj h
      exact absurd he diagnose_ne_ambiguousHandler
    · contradiction
  | cons c rest =>
    rw [hranked] at h
    cases rest with
    | nil => contradiction
    | cons d rest =>
      rw [choose] at h
      split at h
      · next htie => exact ⟨c, d, rest, rfl, htie⟩
      · contradiction

theorem leads_of_rank_eq {c : Candidate} {rest : List Candidate}
    (h : rank r (t.candidates r) = c :: rest) : t.Leads r c.index c.narrowed := by
  obtain ⟨hcompetes, hreg, hn⟩ := competes_of_ranked_first h
  refine ⟨hcompetes, ⟨c.registration, hreg, hn⟩, ?_⟩
  rintro j n' hj ⟨reg, hregj, hnj⟩
  have hmem : ⟨j, reg, n'⟩ ∈ rank r (t.candidates r) := mem_ranked.2 ⟨hj, hregj, hnj⟩
  have := Order.transCmp_comap (Mapping.compareFit r) Candidate.narrowed
  have hsorted : (rank r (t.candidates r)).Pairwise fun c d =>
      (Mapping.compareFit r c.narrowed d.narrowed).isLE := Order.pairwise_sortBy _ _
  rw [h] at hsorted hmem
  rcases List.mem_cons.1 hmem with heq | hrest
  · rw [← heq]
    simp [Std.ReflCmp.compare_self]
  · exact (List.pairwise_cons.1 hsorted).1 _ hrest

section StrictlyFirst

variable {c : Candidate} {rest : List Candidate}
  (hranked : rank r (t.candidates r) = c :: rest)
  (hleast : ∀ d ∈ rest, Mapping.compareFit r c.narrowed d.narrowed = .lt)

include hranked hleast

theorem Leads.eq_first (h : t.Leads r i n) : i = c.index ∧ n = c.narrowed := by
  apply (eq_first_or_lt hranked hleast h.competes h.takes).resolve_right
  intro hlt
  have hc := leads_of_rank_eq hranked
  have hle := h.best _ _ hc.competes hc.takes
  rw [Std.OrientedCmp.gt_of_lt hlt] at hle
  contradiction

theorem not_ties_first : ¬ t.Ties r c.index c.narrowed := by
  rintro ⟨j, n', hne, hcompetes, htakes, htie⟩
  rcases eq_first_or_lt hranked hleast hcompetes htakes with ⟨heq, -⟩ | hlt
  · exact hne heq
  · rw [hlt] at htie
    contradiction

theorem count_first : ((t.candidates r).map Candidate.index).count c.index = 1 := by
  have hother : c.index ∉ rest.map Candidate.index := by
    intro hmem
    obtain ⟨d, hd, hindex⟩ := List.mem_map.1 hmem
    have hranked' : d ∈ rank r (t.candidates r) := by
      rw [hranked]
      exact List.mem_cons_of_mem c hd
    obtain ⟨-, hreg, hn⟩ := mem_ranked.1 hranked'
    have htakes : t.TakesAt r c.index d.narrowed := by
      rw [← hindex]
      exact ⟨d.registration, hreg, hn⟩
    -- One position takes the request in one way only, and nothing comes strictly before itself.
    have hsame : d.narrowed = c.narrowed := htakes.unique (leads_of_rank_eq hranked).takes
    have hself : Mapping.compareFit r c.narrowed c.narrowed = .eq := Std.ReflCmp.compare_self
    have hlt := hleast d hd
    rw [hsame, hself] at hlt
    contradiction
  rw [← count_rank, hranked, List.map_cons, List.count_cons_self,
    List.count_eq_zero_of_not_mem hother]

end StrictlyFirst

/-- A lookup is ambiguous exactly when some registration that leads ties with another one, or is
listed twice itself. -/
theorem Reachable.ambiguous_iff {options : Path.MatchOptions} (ht : t.Reachable options)
    (r : Request) :
    (∃ path first second, t.lookup r = .error (.ambiguousHandler path first second)) ↔
      ∃ i n, t.Leads r i n ∧ (t.Ties r i n ∨ t.SpellsRootTwice r i) := by
  constructor
  · rintro ⟨path, first, second, h⟩
    obtain ⟨c, d, rest, hranked, htie⟩ := rank_eq_of_ambiguous h
    have hleads := leads_of_rank_eq hranked
    refine ⟨c.index, c.narrowed, hleads, ?_⟩
    by_cases hsame : d.index = c.index
    · right
      rw [← ht.two_le_count_positions, ← two_le_count_candidates hleads.takes, ← count_rank,
        hranked]
      simp [hsame]
    · left
      have hd : d ∈ rank r (t.candidates r) := by
        rw [hranked]
        simp
      obtain ⟨hcompetes, hreg, hn⟩ := mem_ranked.1 hd
      exact ⟨d.index, d.narrowed, hsame, hcompetes, ⟨d.registration, hreg, hn⟩, htie⟩
  · rintro ⟨i, n, hleads, hreason⟩
    rcases resolves_iff.2 (candidates_ne_nil.2 ⟨i, n, hleads.takes⟩) with ⟨m, hm⟩ | hambiguous
    · obtain ⟨c, rest, hranked, -, hleast⟩ := rank_eq_of_lookup hm
      obtain ⟨rfl, rfl⟩ := hleads.eq_first hranked hleast
      rcases hreason with hties | htwice
      · exact absurd hties (not_ties_first hranked hleast)
      · rw [← ht.two_le_count_positions, ← two_le_count_candidates hleads.takes,
          count_first hranked hleast] at htwice
        omega
    · exact hambiguous

def homeCalls : List (Mapping × Handler) :=
  [(.ofPaths ⟨[⟨"", []⟩, ⟨"/", []⟩]⟩, ⟨{ name := "Home" }, { name := "index" }⟩)]

def homeTable : MappingTable := (empty {}).registerEach homeCalls

theorem reachable_homeTable : homeTable.Reachable {} := by
  refine ⟨homeCalls, ?_, rfl⟩
  intro call hcall
  obtain rfl := List.mem_singleton.1 hcall
  have hread : PathCondition.parse ["", "/"] = .ok _ := rfl
  exact Mapping.constructible_ofPaths hread

/-- The only handler leads, and is listed twice. -/
theorem home_leads : homeTable.Reachable {} ∧
    ∃ i n, homeTable.Leads { method := .get, path := "/" } i n ∧
      (homeTable.Ties { method := .get, path := "/" } i n ∨
        homeTable.SpellsRootTwice { method := .get, path := "/" } i) :=
  ⟨reachable_homeTable, (reachable_homeTable.ambiguous_iff _).1 ⟨_, _, _, rfl⟩⟩

/-- The lookup is ambiguous, although there are no two registrations. -/
theorem home_ambiguous_with_itself : homeTable.Reachable {} ∧
    homeTable.lookup { method := .get, path := "/" } =
      .error (.ambiguousHandler "/" "Home#index" "Home#index") ∧
    ¬ ∃ i j n n', i ≠ j ∧ homeTable.TakesAt { method := .get, path := "/" } i n ∧
      homeTable.TakesAt { method := .get, path := "/" } j n' ∧
      Mapping.compareFit { method := .get, path := "/" } n n' = .eq := by
  refine ⟨reachable_homeTable, rfl, ?_⟩
  rintro ⟨i, j, n, n', hne, ⟨reg, hi, -⟩, ⟨reg', hj, -⟩, -⟩
  obtain ⟨hi, -⟩ := List.getElem?_eq_some_iff.1 hi
  obtain ⟨hj, -⟩ := List.getElem?_eq_some_iff.1 hj
  have hsize : homeTable.registrations.length = 1 := rfl
  omega

end RequestRouting.MappingTable
