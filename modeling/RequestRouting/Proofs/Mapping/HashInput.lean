import RequestRouting.Proofs.Order.Distinct
import RequestRouting.Table.HashInput

/-! Mappings feed a hasher the same data exactly when they have the same conditions. Every part of
the data shows where it ends, so whatever follows it the value can be read off. -/
namespace RequestRouting

namespace HashInput

variable {α : Type} {f : α → List HashInput}

/-- The value and the rest can be told from the data. -/
def Delimits (f : α → List HashInput) : Prop :=
  ∀ a b rest rest', f a ++ rest = f b ++ rest' → a = b ∧ rest = rest'

theorem Delimits.eq (hf : Delimits f) {a b : α} (h : f a = f b) : a = b :=
  (hf a b [] [] (by rw [h])).1

theorem delimits_text : Delimits fun s : String => [text s] := by
  intro s s' rest rest' h
  simpa using h

theorem flatMap_append_inj (hf : Delimits f) {xs ys : List α} (hlength : xs.length = ys.length)
    {rest rest' : List HashInput} (h : xs.flatMap f ++ rest = ys.flatMap f ++ rest') :
    xs = ys ∧ rest = rest' := by
  induction xs generalizing ys with
  | nil =>
    obtain rfl := List.length_eq_zero_iff.1 hlength.symm
    exact ⟨rfl, h⟩
  | cons x xs ih =>
    obtain ⟨y, ys, rfl⟩ := List.exists_cons_of_length_eq_add_one hlength.symm
    rw [List.flatMap_cons, List.flatMap_cons, List.append_assoc, List.append_assoc] at h
    obtain ⟨rfl, htail⟩ := hf _ _ _ _ h
    obtain ⟨rfl, hrest⟩ := ih (Nat.succ.inj hlength) htail
    exact ⟨rfl, hrest⟩

theorem delimits_ofList (hf : Delimits f) : Delimits (ofList f) := by
  intro xs ys rest rest' h
  rw [ofList, ofList, List.cons_append, List.cons_append, List.cons.injEq] at h
  exact flatMap_append_inj hf (length.inj h.1) h.2

theorem delimits_ofOption (hf : Delimits f) : Delimits (ofOption f) := by
  intro a b rest rest' h
  cases a with
  | none =>
    cases b with
    | none => simpa [ofOption] using h
    | some b => simp [ofOption] at h
  | some a =>
    cases b with
    | none => simp [ofOption] at h
    | some b =>
      have h : f a ++ rest = f b ++ rest' := by simpa [ofOption] using h
      obtain ⟨rfl, hrest⟩ := hf a b rest rest' h
      exact ⟨rfl, hrest⟩

end HashInput

open HashInput (Delimits delimits_ofList delimits_ofOption delimits_text)

theorem Method.delimits_hashInput : Delimits Method.hashInput := by
  intro m n rest rest' h
  rw [hashInput, hashInput, List.singleton_append, List.singleton_append, List.cons.injEq] at h
  exact ⟨rank_inj (HashInput.case.inj h.1), h.2⟩

theorem NameValue.delimits_hashInput : Delimits NameValue.hashInput := by
  rintro ⟨name, value, negated⟩ ⟨name', value', negated'⟩ rest rest' h
  simp only [hashInput, List.cons_append, List.append_assoc, List.cons.injEq,
    HashInput.text.injEq] at h
  obtain ⟨rfl, h⟩ := h
  obtain ⟨rfl, hrest⟩ := delimits_ofOption delimits_text _ _ _ _ h
  simpa using hrest

theorem MediaType.delimits_hashInput : Delimits MediaType.hashInput := by
  have hentry : Delimits fun p : String × String => [HashInput.text p.1, .text p.2] := by
    rintro ⟨name, value⟩ ⟨name', value'⟩ rest rest' h
    simpa [and_assoc] using h
  rintro ⟨mainType, subType, parameters, sorted⟩ ⟨mainType', subType', parameters', sorted'⟩
    rest rest' h
  simp only [hashInput, List.cons_append, List.cons.injEq, HashInput.text.injEq] at h
  obtain ⟨rfl, rfl, h⟩ := h
  obtain ⟨rfl, hrest⟩ := delimits_ofList hentry _ _ _ _ h
  exact ⟨rfl, hrest⟩

theorem MediaExpression.delimits_hashInput : Delimits MediaExpression.hashInput := by
  rintro ⟨mediaType, negated⟩ ⟨mediaType', negated'⟩ rest rest' h
  rw [hashInput, hashInput, List.append_assoc, List.append_assoc] at h
  obtain ⟨rfl, hrest⟩ := MediaType.delimits_hashInput _ _ _ _ h
  simpa using hrest

namespace Mapping

theorem ofList_patternInput (c : PathCondition) :
    HashInput.ofList Path.Pattern.hashInput c.patterns =
      HashInput.ofList (fun text => [.text text]) c.texts := by
  unfold HashInput.ofList PathCondition.texts
  rw [List.length_map, List.flatMap_map]
  rfl

theorem hashInput_eq_iff {m n : Mapping} :
    m.hashInput = n.hashInput ↔ m.sameConditions n = true := by
  have hpaths := delimits_ofList delimits_text
  have hmethods := delimits_ofList Method.delimits_hashInput
  have hpairs := delimits_ofList NameValue.delimits_hashInput
  have hmedia := delimits_ofList MediaExpression.delimits_hashInput
  rw [sameConditions_iff]
  unfold hashInput
  rw [ofList_patternInput, ofList_patternInput]
  constructor
  · intro h
    obtain ⟨htexts, h⟩ := hpaths _ _ _ _ h
    obtain ⟨hmethods, h⟩ := hmethods _ _ _ _ h
    obtain ⟨hparams, h⟩ := hpairs _ _ _ _ h
    obtain ⟨hheaders, h⟩ := hpairs _ _ _ _ h
    obtain ⟨hconsumes, h⟩ := hmedia _ _ _ _ h
    have hproduces := hmedia.eq h
    refine ⟨htexts, ?_, ?_, ?_, Order.SortedSet.ext hconsumes, ?_⟩
    · exact MethodCondition.ext (Order.SortedSet.ext hmethods)
    · exact ParamCondition.ext (Order.SortedSet.ext hparams)
    · exact HeaderCondition.ext (Order.SortedSet.ext hheaders)
    · exact ProducesCondition.ext (Order.SortedSet.ext hproduces)
  · rintro ⟨htexts, hmethods, hparams, hheaders, hconsumes, hproduces⟩
    rw [htexts, hmethods, hparams, hheaders, hconsumes, hproduces]

end Mapping

end RequestRouting
