import RequestRouting.Proofs.Table.Selection

/-! Lookups of HEAD requests. Among the mappings that compete for such a request one that names
HEAD comes before all others, whatever their patterns. It does not compete where only others that
take the request spell out the path. -/
namespace RequestRouting

theorem MethodCondition.contains_head_of_narrow {c d : MethodCondition}
    (h : c.narrow .head = some d) : d.contains .head = c.contains .head := by
  unfold narrow at h
  split at h
  · rw [← Option.some.inj h]
  · split at h
    · next hhead =>
      rw [← Option.some.inj h, hhead]
      rfl
    · next hhead =>
      split at h
      · rw [← Option.some.inj h, Bool.eq_false_iff.2 hhead]
        rfl
      · contradiction

theorem Mapping.contains_head_of_narrow {m n : Mapping} {options : Path.MatchOptions}
    {r : Request} (hmethod : r.method = .head) (h : m.narrow options r = some n) :
    n.methods.contains .head = m.methods.contains .head := by
  obtain ⟨-, hmethods, -⟩ := Mapping.narrow_eq_some.1 h
  rw [hmethod] at hmethods
  exact MethodCondition.contains_head_of_narrow hmethods

theorem Mapping.compareFit_of_contains_head {m n : Mapping} {r : Request}
    (hmethod : r.method = .head) (hm : m.methods.contains .head = true)
    (hn : n.methods.contains .head = false) : compareFit r m n = .lt := by
  simp [compareFit, MethodCondition.compareFit, hmethod, hm, hn]

namespace MappingTable

variable {t : MappingTable} {r : Request}

/-- What is found for a HEAD request names HEAD exactly when some mapping that competes for the
request does. -/
theorem lookup_head_iff (hmethod : r.method = .head) {m : HandlerMatch}
    (hfound : t.lookup r = .ok (some m)) :
    m.mapping.methods.contains .head = true ↔
      ∃ i reg n, t.Competes r i ∧ t.registrations[i]? = some reg ∧
        reg.mapping.narrow t.options r = some n ∧ reg.mapping.methods.contains .head = true := by
  obtain ⟨c, rest, hranked, rfl, hleast⟩ := rank_eq_of_lookup hfound
  obtain ⟨hcompetes, hreg, hn⟩ := competes_of_ranked_first hranked
  have hnarrowed : c.narrowed.methods.contains .head =
      c.registration.mapping.methods.contains .head := Mapping.contains_head_of_narrow hmethod hn
  constructor
  · intro hhead
    exact ⟨c.index, c.registration, c.narrowed, hcompetes, hreg, hn, hhead⟩
  · rintro ⟨i, reg, n, hi, hregi, hni, hhead⟩
    rw [← Mapping.contains_head_of_narrow hmethod hni] at hhead
    show c.registration.mapping.methods.contains .head = true
    rw [← hnarrowed]
    rcases eq_first_or_lt hranked hleast hi ⟨reg, hregi, hni⟩ with ⟨-, rfl⟩ | hlt
    · exact hhead
    · by_contra hother
      -- The mapping that names HEAD would come before the one that was found.
      have hgt : Mapping.compareFit r n c.narrowed = .lt :=
        Mapping.compareFit_of_contains_head hmethod hhead (Bool.eq_false_iff.2 hother)
      rw [Std.OrientedCmp.gt_of_lt hgt] at hlt
      contradiction

def probedCalls : List (Mapping × Handler) :=
  let users : HandlerType := { name := "Users" }
  let me : Mapping := .ofPaths ⟨[⟨"/users/me", [.literal "users", .literal "me"]⟩]⟩
  let byId : Mapping :=
    .ofPaths ⟨[⟨"/users/\x7bid\x7d", [.literal "users", .param "id" .any]⟩]⟩
  [({ me with methods := .ofList [.get] }, ⟨users, { name := "me" }⟩),
    ({ byId with methods := .ofList [.head] }, ⟨users, { name := "probe" }⟩)]

def probedTable : MappingTable := (empty {}).registerEach probedCalls

theorem reachable_probedTable : probedTable.Reachable {} := by
  refine ⟨probedCalls, ?_, rfl⟩
  intro call hcall
  simp only [probedCalls, List.mem_cons, List.not_mem_nil, or_false] at hcall
  rcases hcall with rfl | rfl
  · have hspec : Mapping.ofSpec { paths := ["/users/me"], methods := [.get] } = .ok _ := rfl
    exact .declared hspec
  · have hspec : Mapping.ofSpec { paths := ["/users/\x7bid\x7d"], methods := [.head] } = .ok _ :=
      rfl
    exact .declared hspec

theorem lookup_head_with_trailing_slash :
    ∃ m, probedTable.lookup { method := .head, path := "/users/me/" } = .ok (some m) ∧
      (m.mapping.methods.contains .head = true ↔
        ∃ i reg n, probedTable.Competes { method := .head, path := "/users/me/" } i ∧
          probedTable.registrations[i]? = some reg ∧
          reg.mapping.narrow {} { method := .head, path := "/users/me/" } = some n ∧
          reg.mapping.methods.contains .head = true) ∧ m.handler.method.name = "probe" :=
  ⟨_, rfl, lookup_head_iff rfl rfl, rfl⟩

/-- HEAD at the literal path goes to the handler for GET, past one that names HEAD. -/
theorem lookup_head_spelled_out :
    probedTable.Reachable {} ∧
      (∃ reg n, probedTable.registrations[1]? = some reg ∧
        reg.mapping.methods.contains .head = true ∧
        reg.mapping.narrow {} { method := .head, path := "/users/me" } = some n) ∧
      ∃ m, probedTable.lookup { method := .head, path := "/users/me" } = .ok (some m) ∧
        m.mapping.methods.isEmpty = false ∧ m.mapping.methods.contains .head = false :=
  ⟨reachable_probedTable, ⟨_, _, rfl, rfl, rfl⟩, _, rfl, rfl, rfl⟩

end MappingTable

end RequestRouting
