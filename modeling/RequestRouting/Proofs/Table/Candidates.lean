import Mathlib.Data.List.Basic
import RequestRouting.Proofs.Mapping.Fit
import RequestRouting.Proofs.Order.Ranking
import RequestRouting.Proofs.Table.Index
import RequestRouting.Table.Lookup

/-! Who takes part in a lookup. Without their positions, the candidates are the registrations
that take the request, in their order; the direct ones come as often as their mapping spells out
the path. -/
namespace RequestRouting

def Candidate.content (c : Candidate) : Registration × Mapping := (c.registration, c.narrowed)

namespace MappingTable

def taking (options : Path.MatchOptions) (r : Request) (registrations : List Registration) :
    List (Registration × Mapping) :=
  registrations.filterMap fun reg => (reg.mapping.narrow options r).map fun n => (reg, n)

def spellingOut (path : String) (registrations : List Registration) : List Registration :=
  registrations.flatMap fun reg => List.replicate (reg.mapping.paths.directPaths.count path) reg

variable {t : MappingTable} {r : Request}

theorem candidate?_eq_some {i : Nat} {c : Candidate} :
    t.candidate? r i = some c ↔ c.index = i ∧ t.registrations[i]? = some c.registration ∧
      c.registration.mapping.narrow t.options r = some c.narrowed := by
  obtain ⟨index, registration, narrowed⟩ := c
  simp only [candidate?, bind, Option.bind_eq_some_iff, pure, Option.some.injEq,
    Candidate.mk.injEq]
  constructor
  · rintro ⟨reg, hreg, n, hn, rfl, rfl, rfl⟩
    exact ⟨rfl, hreg, hn⟩
  · rintro ⟨rfl, hreg, hn⟩
    exact ⟨registration, hreg, narrowed, hn, rfl, rfl, rfl⟩

theorem mem_candidatesAt {is : List Nat} {c : Candidate} :
    c ∈ t.candidatesAt r is ↔ c.index ∈ is ∧ t.registrations[c.index]? = some c.registration ∧
      c.registration.mapping.narrow t.options r = some c.narrowed := by
  rw [candidatesAt, List.mem_filterMap]
  constructor
  · rintro ⟨i, hi, h⟩
    obtain ⟨hindex, hreg, hn⟩ := candidate?_eq_some.1 h
    rw [hindex]
    exact ⟨hi, hreg, hn⟩
  · rintro ⟨hi, hreg, hn⟩
    exact ⟨c.index, hi, candidate?_eq_some.2 ⟨rfl, hreg, hn⟩⟩

theorem mem_allCandidates {c : Candidate} :
    c ∈ t.allCandidates r ↔ t.registrations[c.index]? = some c.registration ∧
      c.registration.mapping.narrow t.options r = some c.narrowed := by
  rw [allCandidates, mem_candidatesAt, List.mem_range]
  constructor
  · intro h
    exact h.2
  · intro h
    refine ⟨?_, h⟩
    obtain ⟨hi, -⟩ := List.getElem?_eq_some_iff.1 h.1
    exact hi

theorem map_content_candidatesAt (is : List Nat) :
    (t.candidatesAt r is).map Candidate.content = taking t.options r (t.select is) := by
  unfold candidatesAt taking select
  rw [List.map_filterMap, List.filterMap_filterMap]
  congr 1
  funext i
  cases hreg : t.registrations[i]? with
  | none => simp [candidate?, hreg]
  | some reg =>
    cases hn : reg.mapping.narrow t.options r with
    | none => simp [candidate?, hreg, hn]
    | some n => simp [candidate?, hreg, hn, Candidate.content]

theorem getElem?_of_mem_zipIdx {registrations : List Registration} {entry : Registration × Nat}
    (h : entry ∈ registrations.zipIdx) : registrations[entry.2]? = some entry.1 :=
  List.mem_zipIdx_iff_getElem?.1 h

theorem select_range (t : MappingTable) : t.select (List.range t.size) = t.registrations := by
  unfold select size
  rw [List.range_eq_range', ← List.zipIdx_map_snd, List.filterMap_map]
  calc
    _ = t.registrations.zipIdx.filterMap fun entry => some entry.1 := by
      apply List.filterMap_congr
      intro entry hentry
      exact getElem?_of_mem_zipIdx hentry
    _ = t.registrations := by
      rw [List.filterMap_eq_map', List.zipIdx_map_fst]

theorem map_content_allCandidates :
    (t.allCandidates r).map Candidate.content = taking t.options r t.registrations := by
  rw [allCandidates, map_content_candidatesAt, select_range]

theorem Indexed.direct_eq (ht : t.Indexed) (path : String) :
    t.direct path = spellingOut path t.registrations := by
  rw [direct, ht path, spelledAt, select, List.filterMap_flatMap]
  calc
    _ = t.registrations.zipIdx.flatMap fun entry =>
        List.replicate (entry.1.mapping.paths.directPaths.count path) entry.1 := by
      apply List.flatMap_congr
      intro entry hentry
      rw [List.filterMap_replicate, getElem?_of_mem_zipIdx hentry]
    _ = (t.registrations.zipIdx.map Prod.fst).flatMap fun reg =>
        List.replicate (reg.mapping.paths.directPaths.count path) reg := by
      rw [List.flatMap_map]
    _ = spellingOut path t.registrations := by
      rw [List.zipIdx_map_fst, spellingOut]

theorem Indexed.map_content_directCandidates (ht : t.Indexed) :
    (t.directCandidates r).map Candidate.content =
      taking t.options r (spellingOut r.path t.registrations) := by
  rw [directCandidates, map_content_candidatesAt, ← ht.direct_eq, direct]

/-- The direct registrations that take the request or, when there are none, all that do. -/
def competing (options : Path.MatchOptions) (r : Request) (registrations : List Registration) :
    List (Registration × Mapping) :=
  let direct := taking options r (spellingOut r.path registrations)
  if direct.isEmpty then taking options r registrations else direct

theorem Indexed.map_content_candidates (ht : t.Indexed) :
    (t.candidates r).map Candidate.content = competing t.options r t.registrations := by
  unfold candidates competing
  dsimp only
  rw [← ht.map_content_directCandidates, ← map_content_allCandidates, List.isEmpty_map]
  split
  · rfl
  · rfl

def compareContent (r : Request) (x y : Registration × Mapping) : Ordering :=
  Mapping.compareFit r x.2 y.2

instance (r : Request) : Std.TransCmp (compareContent r) :=
  Order.transCmp_comap (Mapping.compareFit r) Prod.snd

theorem mem_rank {c : Candidate} {cs : List Candidate} : c ∈ rank r cs ↔ c ∈ cs := Order.mem_sortBy

theorem map_content_rank (cs : List Candidate) :
    (rank r cs).map Candidate.content =
      Order.sortBy (compareContent r) (cs.map Candidate.content) := by
  rw [← Order.map_sortBy]
  rfl

def answerFor (t : MappingTable) (r : Request) (x : Registration × Mapping) : HandlerMatch :=
  t.answer r ⟨0, x.1, x.2⟩

theorem choose_cons_of_ne {c : Candidate} {cs : List Candidate}
    (hne : ∀ d ∈ cs.head?, Mapping.compareFit r c.narrowed d.narrowed ≠ .eq) :
    t.choose r (c :: cs) = .ok (some (t.answer r c)) := by
  cases cs with
  | nil => rfl
  | cons d cs => rw [choose, if_neg (hne d rfl)]

theorem choose_cons_of_eq {c d : Candidate} {cs : List Candidate} (hd : d ∈ cs.head?)
    (htie : Mapping.compareFit r c.narrowed d.narrowed = .eq) :
    t.choose r (c :: cs) = .error (.ambiguousHandler r.path c.registration.handler.qualifiedName
      d.registration.handler.qualifiedName) := by
  cases cs with
  | nil => contradiction
  | cons e cs =>
    obtain rfl := Option.some.inj hd
    rw [choose, if_pos htie]

theorem choose_of_first {cs : List Candidate} {x : Registration × Mapping}
    {rest : List (Registration × Mapping)} (h : cs.map Candidate.content = x :: rest)
    (hne : ∀ y ∈ rest.head?, compareContent r x y ≠ .eq) :
    t.choose r cs = .ok (some (t.answerFor r x)) := by
  obtain ⟨c, cs, rfl, rfl, rfl⟩ := List.map_eq_cons_iff.1 h
  apply choose_cons_of_ne
  intro d hd
  apply hne d.content
  rw [List.head?_map, hd]
  rfl

theorem choose_of_tie {cs : List Candidate} {x y : Registration × Mapping}
    {rest : List (Registration × Mapping)} (h : cs.map Candidate.content = x :: rest)
    (hy : y ∈ rest.head?) (htie : compareContent r x y = .eq) :
    t.choose r cs = .error (.ambiguousHandler r.path x.1.handler.qualifiedName
      y.1.handler.qualifiedName) := by
  obtain ⟨c, cs, rfl, rfl, rfl⟩ := List.map_eq_cons_iff.1 h
  rw [List.head?_map] at hy
  obtain ⟨d, hd, rfl⟩ := Option.map_eq_some_iff.1 hy
  exact choose_cons_of_eq hd htie

end MappingTable

end RequestRouting
