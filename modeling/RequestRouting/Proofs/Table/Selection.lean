import RequestRouting.Proofs.Mapping.Constructible
import RequestRouting.Proofs.Mapping.Fit
import RequestRouting.Proofs.Order.Ranking
import RequestRouting.Proofs.Path.Matching
import RequestRouting.Proofs.Table.Candidates

/-! What a lookup finds. It finds something exactly when some registration takes the request, and
what it finds fits the request strictly better than everything that it competes with. -/
namespace RequestRouting.MappingTable

def TakesAt (t : MappingTable) (r : Request) (i : Nat) (n : Mapping) : Prop :=
  ∃ reg, t.registrations[i]? = some reg ∧ reg.mapping.narrow t.options r = some n

/-- The position is listed under the request's path, or none listed there takes the request. -/
def Competes (t : MappingTable) (r : Request) (i : Nat) : Prop :=
  i ∈ positions t.byPath r.path ∨
    ¬ ∃ j ∈ positions t.byPath r.path, ∃ n, t.TakesAt r j n

/-- The lookup decides for a handler, or between several ones in vain. -/
def Resolves (t : MappingTable) (r : Request) : Prop :=
  (∃ m, t.lookup r = .ok (some m)) ∨
    ∃ path first second, t.lookup r = .error (.ambiguousHandler path first second)

/-- What is found comes from the registration at position `i`. -/
structure BestFit (t : MappingTable) (r : Request) (m : HandlerMatch) (i : Nat) : Prop where
  registered : ∃ reg, t.registrations[i]? = some reg ∧ m.mapping = reg.mapping ∧
    m.handler = reg.handler
  narrowed : m.mapping.narrow t.options r = some m.matched
  competes : t.Competes r i
  pattern : ∃ p ∈ m.mapping.paths.patterns, m.matched.paths.first? = some p ∧
    m.bestPattern = p.canonical ∧ p.accepts t.options r.path = true ∧
    p.capture t.options r.path = some m.pathParams ∧
    ∀ name, name ∈ m.pathParams.keys ↔ name ∈ p.names
  best : ∀ j n, j ≠ i → t.Competes r j → t.TakesAt r j n →
    Mapping.compareFit r m.matched n = .lt

variable {t : MappingTable} {r : Request}

theorem diagnose_ne_ambiguousHandler {path first second : String} :
    t.diagnose r ≠ some (.ambiguousHandler path first second) := by
  unfold diagnose
  dsimp only
  split
  · simp
  split
  · simp
  split
  · simp
  split
  · simp
  split
  · simp
  · simp

theorem rank_eq_of_lookup {m : HandlerMatch} (h : t.lookup r = .ok (some m)) :
    ∃ c rest, rank r (t.candidates r) = c :: rest ∧ m = t.answer r c ∧
      ∀ d ∈ rest, Mapping.compareFit r c.narrowed d.narrowed = .lt := by
  unfold lookup at h
  cases hranked : rank r (t.candidates r) with
  | nil =>
    rw [hranked, choose] at h
    split at h
    · contradiction
    · cases Except.ok.inj h
  | cons c rest =>
    rw [hranked] at h
    by_cases hne : ∀ d ∈ rest.head?, Mapping.compareFit r c.narrowed d.narrowed ≠ .eq
    · rw [choose_cons_of_ne hne] at h
      have hm := Except.ok.inj h
      refine ⟨c, rest, rfl, (Option.some.inj hm).symm, ?_⟩
      intro e he
      -- the candidates are sorted, so a tie further on would be one with the second, too
      have := Order.transCmp_comap (Mapping.compareFit r) Candidate.narrowed
      unfold rank at hranked
      exact Order.lt_of_sortBy_eq hranked hne he
    · push Not at hne
      obtain ⟨d, hd, htie⟩ := hne
      rw [choose_cons_of_eq hd htie] at h
      contradiction

theorem resolves_iff : t.Resolves r ↔ t.candidates r ≠ [] := by
  have hempty : rank r (t.candidates r) = [] ↔ t.candidates r = [] := Order.sortBy_eq_nil
  rw [Resolves, lookup, Ne, ← hempty]
  cases hranked : rank r (t.candidates r) with
  | nil =>
    simp only [choose, not_true, iff_false]
    cases hd : t.diagnose r with
    | none => simp
    | some e =>
      have hne : ∀ path first second, e ≠ .ambiguousHandler path first second := by
        rintro path first second rfl
        exact diagnose_ne_ambiguousHandler hd
      simp [hne]
  | cons c rest =>
    by_cases hne : ∀ d ∈ rest.head?, Mapping.compareFit r c.narrowed d.narrowed ≠ .eq
    · simp [choose_cons_of_ne hne]
    · push Not at hne
      obtain ⟨d, hd, htie⟩ := hne
      simp [choose_cons_of_eq hd htie]

theorem mem_candidates {c : Candidate} :
    c ∈ t.candidates r ↔ t.Competes r c.index ∧
      t.registrations[c.index]? = some c.registration ∧
      c.registration.mapping.narrow t.options r = some c.narrowed := by
  have hdirect : t.directCandidates r = [] ↔
      ¬ ∃ j ∈ positions t.byPath r.path, ∃ n, t.TakesAt r j n := by
    rw [List.eq_nil_iff_forall_not_mem]
    constructor
    · rintro hnone ⟨j, hj, n, reg, hreg, hn⟩
      exact hnone ⟨j, reg, n⟩ (mem_candidatesAt.2 ⟨hj, hreg, hn⟩)
    · intro hnone d hd
      obtain ⟨hj, hreg, hn⟩ := mem_candidatesAt.1 hd
      exact hnone ⟨d.index, hj, d.narrowed, d.registration, hreg, hn⟩
  unfold candidates Competes
  rw [← hdirect]
  split
  · next h =>
    have hnone := List.isEmpty_iff.1 h
    simp only [hnone, or_true, true_and, mem_allCandidates]
  · next h =>
    have hsome : t.directCandidates r ≠ [] := fun hnone => h (List.isEmpty_iff.2 hnone)
    simp only [hsome, or_false]
    exact mem_candidatesAt

theorem mem_ranked {c : Candidate} :
    c ∈ rank r (t.candidates r) ↔ t.Competes r c.index ∧
      t.registrations[c.index]? = some c.registration ∧
      c.registration.mapping.narrow t.options r = some c.narrowed :=
  mem_rank.trans mem_candidates

theorem competes_of_ranked_first {c : Candidate} {rest : List Candidate}
    (hranked : rank r (t.candidates r) = c :: rest) :
    t.Competes r c.index ∧ t.registrations[c.index]? = some c.registration ∧
      c.registration.mapping.narrow t.options r = some c.narrowed := by
  rw [← mem_ranked, hranked]
  exact List.mem_cons_self

theorem eq_first_or_lt {c : Candidate} {rest : List Candidate} {i : Nat} {n : Mapping}
    (hranked : rank r (t.candidates r) = c :: rest)
    (hleast : ∀ d ∈ rest, Mapping.compareFit r c.narrowed d.narrowed = .lt)
    (hcompetes : t.Competes r i) (htakes : t.TakesAt r i n) :
    i = c.index ∧ n = c.narrowed ∨ Mapping.compareFit r c.narrowed n = .lt := by
  obtain ⟨reg, hreg, hn⟩ := htakes
  have hmem : ⟨i, reg, n⟩ ∈ rank r (t.candidates r) := mem_ranked.2 ⟨hcompetes, hreg, hn⟩
  rw [hranked] at hmem
  rcases List.mem_cons.1 hmem with heq | hrest
  · rw [← heq]
    exact .inl ⟨rfl, rfl⟩
  · exact .inr (hleast _ hrest)

theorem candidates_ne_nil : t.candidates r ≠ [] ↔ ∃ i n, t.TakesAt r i n := by
  constructor
  · intro h
    obtain ⟨c, hc⟩ := List.exists_mem_of_ne_nil _ h
    obtain ⟨-, hreg, hn⟩ := mem_candidates.1 hc
    exact ⟨c.index, c.narrowed, c.registration, hreg, hn⟩
  · rintro ⟨i, n, hin⟩
    -- When nothing that is listed under the path takes the request, position `i` competes.
    by_cases hlisted : ∃ j ∈ positions t.byPath r.path, ∃ n, t.TakesAt r j n
    · obtain ⟨j, hj, n, reg, hreg, hn⟩ := hlisted
      have hmem : ⟨j, reg, n⟩ ∈ t.candidates r := mem_candidates.2 ⟨.inl hj, hreg, hn⟩
      exact List.ne_nil_of_mem hmem
    · obtain ⟨reg, hreg, hn⟩ := hin
      have hmem : ⟨i, reg, n⟩ ∈ t.candidates r := mem_candidates.2 ⟨.inr hlisted, hreg, hn⟩
      exact List.ne_nil_of_mem hmem

theorem pattern_of_answer {c : Candidate} (hc : c.registration.mapping.paths.WellFormed)
    (hn : c.registration.mapping.narrow t.options r = some c.narrowed) :
    ∃ p ∈ c.registration.mapping.paths.patterns, c.narrowed.paths.first? = some p ∧
      (t.answer r c).bestPattern = p.canonical ∧ p.accepts t.options r.path = true ∧
      p.capture t.options r.path = some (t.answer r c).pathParams ∧
      ∀ name, name ∈ (t.answer r c).pathParams.keys ↔ name ∈ p.names := by
  obtain ⟨-, -, -, -, -, -, hpaths⟩ := Mapping.narrow_eq_some.1 hn
  obtain ⟨p, rest, hp, hregistered, haccepts, -⟩ := PathCondition.exists_first_of_narrow hpaths
  have hfirst : c.narrowed.paths.first? = some p := by
    rw [PathCondition.first?, hp]
    rfl
  obtain ⟨values, hvalues⟩ := Option.isSome_iff_exists.1 haccepts
  have hparams : (t.answer r c).pathParams = values := by
    simp only [answer, hfirst, Option.bind_some, hvalues, Option.getD_some]
  refine ⟨p, hregistered, hfirst, ?_, haccepts, ?_, ?_⟩
  · simp only [answer, hfirst, Option.map_some, Option.getD_some]
  · rw [hparams, hvalues]
  · intro name
    rw [hparams]
    exact (hc.parsed p hregistered).mem_keys_capture hvalues name

theorem bestFit_of_lookup (ht : ∀ reg ∈ t.registrations, reg.mapping.paths.WellFormed)
    {m : HandlerMatch} (h : t.lookup r = .ok (some m)) : ∃ i, t.BestFit r m i := by
  obtain ⟨c, rest, hranked, rfl, hleast⟩ := rank_eq_of_lookup h
  obtain ⟨hcompetes, hreg, hn⟩ := competes_of_ranked_first hranked
  refine ⟨c.index, ⟨c.registration, hreg, rfl, rfl⟩, hn, hcompetes, ?_, ?_⟩
  · exact pattern_of_answer (ht _ (List.mem_of_getElem? hreg)) hn
  · intro j n hne hj htakes
    rcases eq_first_or_lt hranked hleast hj htakes with ⟨heq, -⟩ | hlt
    · exact absurd heq hne
    · exact hlt

/-- A lookup resolves exactly the requests that some registration takes, and what it finds is
the strictly best fit among all that compete for the request. -/
theorem Reachable.lookup_selects {options : Path.MatchOptions} (ht : t.Reachable options)
    (r : Request) :
    (t.Resolves r ↔ ∃ i n, t.TakesAt r i n) ∧
      (∀ m, t.lookup r = .ok (some m) → ∃ i, t.BestFit r m i) ∧
      ∀ i, i ∈ positions t.byPath r.path ↔
        ∃ reg, t.registrations[i]? = some reg ∧ r.path ∈ reg.mapping.paths.directPaths := by
  refine ⟨resolves_iff.trans candidates_ne_nil, ?_, ?_⟩
  · intro m hm
    exact bestFit_of_lookup (fun reg hreg => (ht.constructible reg hreg).wellFormed) hm
  · intro i
    rw [ht.indexed r.path]
    exact mem_spelledAt

/-- The pattern with the variable is found for a path that no mapping spells out. -/
theorem lookup_selects_user : usersTable.Reachable {} ∧
    ∃ m, usersTable.lookup { method := .get, path := "/users/7" } = .ok (some m) ∧
      m.bestPattern = "/users/\x7bid\x7d" ∧
      ∃ i, usersTable.BestFit { method := .get, path := "/users/7" } m i :=
  ⟨reachable_usersTable, _, rfl, rfl, (reachable_usersTable.lookup_selects _).2.1 _ rfl⟩

end RequestRouting.MappingTable
