import RequestRouting.Proofs.Placeholder.Expansion

/-! What a text resolves to. Any number of levels that is enough gives the same, and what it gives
is what the text resolves to. So there is no limit, and nothing comes out only where there is no
end. -/
namespace RequestRouting.Placeholder

variable {α : Type} {x : Logged Stop α}

theorem finished?_eq_some {y : Logged PlaceholderError α} :
    Stop.finished? x = some y ↔ x.result = y.result.mapError .failed ∧ x.events = y.events := by
  obtain ⟨result, events⟩ := x
  obtain ⟨result', events'⟩ := y
  unfold Stop.finished?
  rcases result with (_ | e) | a <;> rcases result' with e' | a' <;> simp [Except.mapError]

theorem settled_iff : Settled x ↔ (Stop.finished? x).isSome := by
  obtain ⟨result, events⟩ := x
  unfold Settled Stop.finished?
  rcases result with (_ | e) | a <;> simp

theorem settled_map {β : Type} (f : α → β) : Settled (f <$> x) ↔ Settled x := by
  unfold Settled
  rw [Logged.result_map]
  cases x.result <;> simp

namespace Resolver

variable {r : Resolver} {text out : String} {y : Logged PlaceholderError String}

/-- What comes out of resolving a text, without the report; `none` if there is no end. -/
noncomputable def outcome? (r : Resolver) (text : String) :
    Option (Except PlaceholderError String) :=
  (r.resolve text).map (·.result)

theorem resolveWithin_of_le {depth deeper : Nat} (h : r.resolveWithin depth text = some y)
    (hle : depth ≤ deeper) : r.resolveWithin deeper text = some y := by
  have hsettled : Settled (String.ofList <$> r.expand depth [] text.toList) := by
    rw [settled_iff]
    exact Option.isSome_of_eq_some h
  rw [resolveWithin, expand_eq_of_le ((settled_map _).1 hsettled) hle]
  exact h

theorem resolveWithin_unique {x : Logged PlaceholderError String} {depth depth' : Nat}
    (h : r.resolveWithin depth text = some x) (h' : r.resolveWithin depth' text = some y) :
    x = y := by
  have hdeeper := resolveWithin_of_le h (Nat.le_max_left depth depth')
  have hdeeper' := resolveWithin_of_le h' (Nat.le_max_right depth depth')
  exact Option.some.inj (hdeeper.symm.trans hdeeper')

theorem resolve_eq_some_iff :
    r.resolve text = some y ↔ ∃ depth, r.resolveWithin depth text = some y := by
  unfold resolve
  constructor
  · intro h
    split at h
    · exact ⟨_, h⟩
    · cases h
  · rintro ⟨depth, h⟩
    have hends : ∃ depth, (r.resolveWithin depth text).isSome :=
      ⟨depth, Option.isSome_of_eq_some h⟩
    rw [dif_pos hends]
    obtain ⟨x, hx⟩ := Option.isSome_iff_exists.1 hends.choose_spec
    rw [hx, resolveWithin_unique hx h]

theorem outcome?_eq_some_iff {outcome : Except PlaceholderError String} :
    r.outcome? text = some outcome ↔
      ∃ depth, (r.resolveWithin depth text).map (·.result) = some outcome := by
  simp only [outcome?, Option.map_eq_some_iff, resolve_eq_some_iff]
  constructor
  · rintro ⟨y, ⟨depth, hy⟩, h⟩
    exact ⟨depth, y, hy, h⟩
  · rintro ⟨depth, y, hy, h⟩
    exact ⟨y, ⟨depth, hy⟩, h⟩

theorem result_resolveWithin {depth : Nat} {outcome : Except PlaceholderError String} :
    (r.resolveWithin depth text).map (·.result) = some outcome ↔
      (r.expand depth [] text.toList).result.map String.ofList = outcome.mapError .failed := by
  simp only [resolveWithin, Option.map_eq_some_iff, finished?_eq_some, Logged.result_map]
  constructor
  · rintro ⟨y, ⟨h, -⟩, rfl⟩
    exact h
  · intro h
    exact ⟨⟨outcome, _⟩, ⟨h, rfl⟩, rfl⟩

theorem outcome?_eq_ok :
    r.outcome? text = some (.ok out) ↔
      ∃ depth, (r.expand depth [] text.toList).result = .ok out.toList := by
  simp only [outcome?_eq_some_iff, result_resolveWithin]
  apply exists_congr
  intro depth
  rw [Except.mapError, Outcome.map_eq_ok]
  constructor
  · rintro ⟨cs, hcs, rfl⟩
    rw [hcs, String.toList_ofList]
  · intro h
    exact ⟨_, h, String.ofList_toList⟩

theorem outcome?_eq_error {e : PlaceholderError} :
    r.outcome? text = some (.error e) ↔
      ∃ depth, (r.expand depth [] text.toList).result = .error (.failed e) := by
  simp only [outcome?_eq_some_iff, result_resolveWithin]
  apply exists_congr
  intro depth
  cases (r.expand depth [] text.toList).result <;> simp [Except.map, Except.mapError]

theorem isSome_resolve_iff :
    (r.resolve text).isSome ↔ ∃ depth, Settled (r.expand depth [] text.toList) := by
  simp only [Option.isSome_iff_exists, resolve_eq_some_iff, resolveWithin,
    ← settled_map String.ofList, settled_iff]
  exact exists_comm

end Resolver

end RequestRouting.Placeholder
