import RequestRouting.Proofs.Mapping.Constructible
import RequestRouting.Table.Basic

/-! Tables as sequences of registrations leave them. A registration either changes nothing or
adds a mapping whose conditions are new, so what adding keeps holds of every table. -/
namespace RequestRouting.MappingTable

theorem result_register_of_some {t : MappingTable} {m : Mapping} {existing : Registration}
    (hfind : t.find? m = some existing) (h : Handler) :
    (t.register m h).result =
      if existing.handler = h then .ok t
      else .error (.ambiguousMapping m.render existing.handler.qualifiedName h.qualifiedName) := by
  unfold register
  rw [hfind]
  dsimp only
  split
  · rfl
  · rfl

theorem result_register_of_none {t : MappingTable} {m : Mapping} (hfind : t.find? m = none)
    (h : Handler) : (t.register m h).result = .ok (t.add m h) := by
  unfold register
  rw [hfind]
  rfl

def registrationOf (call : Mapping × Handler) : Registration :=
  ⟨call.1, call.2, call.1.name.getD call.2.defaultMappingName⟩

theorem registrations_add (t : MappingTable) (m : Mapping) (h : Handler) :
    (t.add m h).registrations = t.registrations ++ [registrationOf (m, h)] := rfl

/-- One call of a sequence. That a call which fails leaves the table as it was holds by
construction: its outcome is an error and no table, and the table before it is kept. -/
def registerOrKeep (t : MappingTable) (call : Mapping × Handler) : MappingTable :=
  (t.register call.1 call.2).result.toOption.getD t

def registerEach (t : MappingTable) (calls : List (Mapping × Handler)) : MappingTable :=
  calls.foldl registerOrKeep t

theorem registerOrKeep_of_some {t : MappingTable} {call : Mapping × Handler}
    {existing : Registration} (hfind : t.find? call.1 = some existing) :
    t.registerOrKeep call = t := by
  unfold registerOrKeep
  rw [result_register_of_some hfind]
  split
  · rfl
  · rfl

theorem registerOrKeep_of_none {t : MappingTable} {call : Mapping × Handler}
    (hfind : t.find? call.1 = none) : t.registerOrKeep call = t.add call.1 call.2 := by
  unfold registerOrKeep
  rw [result_register_of_none hfind]
  rfl

/-- The table comes from an empty one by some calls, any of which may have failed. -/
def Reachable (options : Path.MatchOptions) (t : MappingTable) : Prop :=
  ∃ calls : List (Mapping × Handler), (∀ call ∈ calls, call.1.Constructible) ∧
    t = (empty options).registerEach calls

theorem registerEach_induction {P : MappingTable → Prop} {calls : List (Mapping × Handler)}
    (hadd : ∀ t, ∀ call ∈ calls, P t → t.find? call.1 = none → P (t.add call.1 call.2))
    {t : MappingTable} (ht : P t) : P (t.registerEach calls) := by
  induction calls generalizing t with
  | nil => exact ht
  | cons call rest ih =>
    have hrest : ∀ t, ∀ other ∈ rest, P t → t.find? other.1 = none → P (t.add other.1 other.2) :=
      fun t other hother => hadd t other (List.mem_cons_of_mem _ hother)
    refine ih hrest ?_
    cases hfind : t.find? call.1 with
    | some existing =>
      rw [registerOrKeep_of_some hfind]
      exact ht
    | none =>
      rw [registerOrKeep_of_none hfind]
      exact hadd t call List.mem_cons_self ht hfind

/-- What holds of the empty table, and goes on to hold when a mapping with new conditions is
added, holds of every reachable table. -/
theorem Reachable.induction {options : Path.MatchOptions} {P : MappingTable → Prop}
    (hempty : P (empty options))
    (hadd : ∀ t m h, P t → m.Constructible → t.find? m = none → P (t.add m h))
    {t : MappingTable} (ht : t.Reachable options) : P t := by
  obtain ⟨calls, hcalls, rfl⟩ := ht
  apply registerEach_induction ?_ hempty
  intro t call hcall h hfind
  exact hadd t call.1 call.2 h (hcalls call hcall) hfind

theorem Reachable.options_eq {options : Path.MatchOptions} {t : MappingTable}
    (ht : t.Reachable options) : t.options = options := by
  apply Reachable.induction (P := fun t => t.options = options) rfl ?_ ht
  intro t m h hoptions _ _
  exact hoptions

theorem Reachable.constructible {options : Path.MatchOptions} {t : MappingTable}
    (ht : t.Reachable options) : ∀ reg ∈ t.registrations, reg.mapping.Constructible := by
  apply Reachable.induction (P := fun t => ∀ reg ∈ t.registrations, reg.mapping.Constructible)
    ?_ ?_ ht
  · intro reg hreg
    contradiction
  · intro t m h hall hm _ reg hreg
    rcases List.mem_append.1 hreg with hreg | hreg
    · exact hall reg hreg
    · rw [List.mem_singleton.1 hreg]
      exact hm

def usersCalls : List (Mapping × Handler) :=
  let users : HandlerType := { name := "Users" }
  [(.ofPaths ⟨[⟨"/users/\x7bid\x7d", [.literal "users", .param "id" .any]⟩]⟩,
      ⟨users, { name := "byId" }⟩),
    (.ofPaths ⟨[⟨"/users/me", [.literal "users", .literal "me"]⟩]⟩, ⟨users, { name := "me" }⟩)]

def usersTable : MappingTable := (empty {}).registerEach usersCalls

theorem reachable_usersTable : usersTable.Reachable {} := by
  refine ⟨usersCalls, ?_, rfl⟩
  intro call hcall
  simp only [usersCalls, List.mem_cons, List.not_mem_nil, or_false] at hcall
  rcases hcall with rfl | rfl
  · have hread : PathCondition.parse ["/users/\x7bid\x7d"] = .ok _ := rfl
    exact Mapping.constructible_ofPaths hread
  · have hread : PathCondition.parse ["/users/me"] = .ok _ := rfl
    exact Mapping.constructible_ofPaths hread

end RequestRouting.MappingTable
