import Mathlib.Logic.Relation
import Mathlib.Order.WellFounded
import RequestRouting.Proofs.Tag.Registering

/-! Which tags a tag carries, directly and through others. The types that a type refers to were
registered before it, and later registrations hide none of them. So whatever is read off the types
in front of a name can be read off the whole registry, and following carried tags comes to an
end. -/
namespace RequestRouting.TagRegistry

variable {r : TagRegistry} {types earlier : List TagType} {t u : TagType} {name target : String}

theorem find?_cons (t : TagType) (earlier : List TagType) (name : String) :
    find? (t :: earlier) name = if t.name = name then some t else find? earlier name := by
  unfold find?
  by_cases h : t.name = name
  · simp [h]
  · simp [h]

theorem find?_cons_of_ne (h : t.name ≠ name) : find? (t :: earlier) name = find? earlier name := by
  rw [find?_cons, if_neg h]

theorem name_of_find? (h : find? types name = some t) : t.name = name := by
  have hname := List.find?_some h
  exact beq_iff_eq.1 hname

theorem isOrCarriesIn_cons (t : TagType) (earlier : List TagType) (name target : String) :
    isOrCarriesIn (t :: earlier) name target = (name == target ||
      if t.name = name then t.metas.any fun tag => isOrCarriesIn earlier tag.name target
      else isOrCarriesIn earlier name target) := by
  simp only [isOrCarriesIn, beq_iff_eq]

theorem isOrCarriesIn_of_eq (types : List TagType) (h : name = target) :
    isOrCarriesIn types name target = true := by
  cases types with
  | nil => simp [isOrCarriesIn, h]
  | cons t earlier => simp [isOrCarriesIn, h]

theorem isOrCarriesIn_cons_of_ne (h : t.name ≠ name) :
    isOrCarriesIn (t :: earlier) name target = isOrCarriesIn earlier name target := by
  rw [isOrCarriesIn_cons, if_neg h]
  by_cases heq : name = target
  · rw [isOrCarriesIn_of_eq earlier heq, Bool.or_true]
  · rw [beq_false_of_ne heq, Bool.false_or]

theorem isOrCarriesIn_of_find?_eq_none (h : find? types name = none) :
    isOrCarriesIn types name target = (name == target) := by
  induction types with
  | nil => rfl
  | cons t earlier ih =>
    rw [find?_cons] at h
    split at h
    · contradiction
    · next hne => rw [isOrCarriesIn_cons_of_ne hne, ih h]

def rank : List TagType → String → Nat
  | [], _ => 0
  | t :: earlier, name => if t.name = name then earlier.length + 1 else rank earlier name

theorem rank_cons_of_ne (h : t.name ≠ name) : rank (t :: earlier) name = rank earlier name := by
  rw [rank, if_neg h]

theorem rank_le_length (types : List TagType) (name : String) : rank types name ≤ types.length := by
  induction types with
  | nil => exact Nat.le_refl 0
  | cons t earlier ih =>
    unfold rank
    split
    · exact Nat.le_refl _
    · exact Nat.le_succ_of_le ih

namespace BuiltUp

theorem fits_of_suffix (h : BuiltUp types) (hs : t :: earlier <:+ types) : Fits ⟨earlier⟩ t := by
  induction h with
  | nil => cases List.eq_nil_of_suffix_nil hs
  | cons ht _ ih =>
    rcases List.suffix_cons_iff.1 hs with heq | hs
    · obtain ⟨rfl, rfl⟩ := List.cons.inj heq
      exact ht
    · exact ih hs

theorem eq_of_suffix {β : Type} {f : List TagType → β}
    (hf : ∀ t earlier, t.name ≠ name → f (t :: earlier) = f earlier)
    (h : BuiltUp types) (hs : earlier <:+ types) (hu : find? earlier name = some u) :
    f types = f earlier ∧ find? types name = some u := by
  induction h with
  | nil =>
    obtain rfl := List.eq_nil_of_suffix_nil hs
    exact ⟨rfl, hu⟩
  | @cons t rest ht _ ih =>
    rcases List.suffix_cons_iff.1 hs with rfl | hs
    · exact ⟨rfl, hu⟩
    · obtain ⟨heq, hfound⟩ := ih hs
      have hne : t.name ≠ name := by
        rintro rfl
        have hnew : find? rest t.name = none := ht.new
        rw [hfound] at hnew
        contradiction
      rw [hf t rest hne, find?_cons, if_neg hne]
      exact ⟨heq, hfound⟩

theorem exists_earlier (h : BuiltUp types) (hfind : find? types name = some t) :
    ∃ earlier, t :: earlier <:+ types ∧ find? (t :: earlier) name = some t ∧
      Fits ⟨earlier⟩ t := by
  have hname := name_of_find? hfind
  obtain ⟨-, newer, earlier, rfl, -⟩ := List.find?_eq_some_iff_append.1 hfind
  have hs : t :: earlier <:+ newer ++ t :: earlier := List.suffix_append newer _
  refine ⟨earlier, hs, ?_, h.fits_of_suffix hs⟩
  rw [find?_cons, if_pos hname]

theorem eq_of_mem_metas {β : Type} {f : List TagType → β} {tag : Tag}
    (hf : ∀ t earlier, t.name ≠ tag.name → f (t :: earlier) = f earlier)
    (h : BuiltUp types) (hs : t :: earlier <:+ types) (htag : tag ∈ t.metas) :
    f types = f earlier := by
  obtain ⟨u, hu, -⟩ := (h.fits_of_suffix hs).metas tag htag
  exact (h.eq_of_suffix hf ((List.suffix_cons t earlier).trans hs) hu).1

theorem exists_of_mem_metas (h : BuiltUp types) (hfind : find? types name = some t) {tag : Tag}
    (htag : tag ∈ t.metas) : ∃ u, find? types tag.name = some u ∧
      ∀ attr ∈ tag.attrs.keys, u.declares attr = true := by
  obtain ⟨earlier, hs, -, hfits⟩ := h.exists_earlier hfind
  obtain ⟨u, hu, hdeclares⟩ := hfits.metas tag htag
  refine ⟨u, ?_, hdeclares⟩
  rw [h.eq_of_mem_metas (f := (find? · tag.name)) (fun _ _ => find?_cons_of_ne) hs htag]
  exact hu

theorem rank_lt (h : BuiltUp types) (hfind : find? types name = some t) {tag : Tag}
    (htag : tag ∈ t.metas) : rank types tag.name < rank types name := by
  obtain ⟨earlier, hs, hself, -⟩ := h.exists_earlier hfind
  have hcarried : rank types tag.name = rank earlier tag.name :=
    h.eq_of_mem_metas (f := (rank · tag.name)) (fun _ _ => rank_cons_of_ne) hs htag
  have hown : rank types name = rank (t :: earlier) name :=
    (h.eq_of_suffix (f := (rank · name)) (fun _ _ => rank_cons_of_ne) hs hself).1
  rw [hcarried, hown, rank, if_pos (name_of_find? hfind)]
  exact Nat.lt_succ_of_le (rank_le_length earlier tag.name)

theorem isOrCarriesIn_eq (h : BuiltUp types) (name target : String) :
    isOrCarriesIn types name target = (name == target ||
      (find? types name).any fun t => t.metas.any fun tag =>
        isOrCarriesIn types tag.name target) := by
  cases hfind : find? types name with
  | none => rw [isOrCarriesIn_of_find?_eq_none hfind, Option.any_none, Bool.or_false]
  | some t =>
    obtain ⟨earlier, hs, hself, -⟩ := h.exists_earlier hfind
    have hown : isOrCarriesIn types name target = isOrCarriesIn (t :: earlier) name target :=
      (h.eq_of_suffix (f := (isOrCarriesIn · name target))
        (fun _ _ => isOrCarriesIn_cons_of_ne) hs hself).1
    have hcarried : ∀ tag ∈ t.metas,
        isOrCarriesIn types tag.name target = isOrCarriesIn earlier tag.name target :=
      fun tag htag => h.eq_of_mem_metas (f := (isOrCarriesIn · tag.name target))
        (fun _ _ => isOrCarriesIn_cons_of_ne) hs htag
    rw [hown, isOrCarriesIn_cons, if_pos (name_of_find? hfind), Option.any_some]
    congr 1
    rw [Bool.eq_iff_iff, List.any_eq_true, List.any_eq_true]
    constructor
    · rintro ⟨tag, htag, hcarries⟩
      exact ⟨tag, htag, (hcarried tag htag).trans hcarries⟩
    · rintro ⟨tag, htag, hcarries⟩
      exact ⟨tag, htag, (hcarried tag htag).symm.trans hcarries⟩

end BuiltUp

def Carries (r : TagRegistry) (name other : String) : Prop :=
  ∃ t, r.get? name = some t ∧ ∃ tag ∈ t.metas, tag.name = other

theorem BuiltUp.wellFounded_carries (h : BuiltUp r.types) :
    WellFounded fun other name => r.Carries name other := by
  have hlt : ∀ other name, r.Carries name other → rank r.types other < rank r.types name := by
    rintro other name ⟨t, hfind, tag, htag, rfl⟩
    exact h.rank_lt hfind htag
  exact Subrelation.wf (fun {other name} => hlt other name) (measure (rank r.types)).wf

theorem BuiltUp.isOrCarries_eq_true_iff (h : BuiltUp r.types) (name target : String) :
    r.isOrCarries name target = true ↔
      name = target ∨ ∃ other, r.Carries name other ∧ r.isOrCarries other target = true := by
  unfold isOrCarries
  rw [h.isOrCarriesIn_eq, Bool.or_eq_true, beq_iff_eq]
  simp only [Option.any_eq_true, List.any_eq_true, Carries, get?]
  constructor
  · rintro (heq | ⟨t, hfind, tag, htag, hcarries⟩)
    · exact .inl heq
    · exact .inr ⟨tag.name, ⟨t, hfind, tag, htag, rfl⟩, hcarries⟩
  · rintro (heq | ⟨other, ⟨t, hfind, tag, htag, rfl⟩, hcarries⟩)
    · exact .inl heq
    · exact .inr ⟨t, hfind, tag, htag, hcarries⟩

theorem BuiltUp.isOrCarries_iff_reflTransGen (h : BuiltUp r.types) (name target : String) :
    r.isOrCarries name target = true ↔ Relation.ReflTransGen r.Carries name target := by
  constructor
  · induction name using h.wellFounded_carries.induction with
    | _ name ih =>
      intro hname
      rcases (h.isOrCarries_eq_true_iff name target).1 hname with rfl | ⟨other, hcarries, hother⟩
      · exact .refl
      · exact .head hcarries (ih other hcarries hother)
  · intro hreach
    induction hreach using Relation.ReflTransGen.head_induction_on with
    | refl => exact (h.isOrCarries_eq_true_iff target target).2 (.inl rfl)
    | head hcarries _ ih =>
      exact (h.isOrCarries_eq_true_iff _ target).2 (.inr ⟨_, hcarries, ih⟩)

end RequestRouting.TagRegistry
