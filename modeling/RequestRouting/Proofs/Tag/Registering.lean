import RequestRouting.Tag.Builtin

/-! Registries of tag types as sequences of registrations leave them. A registration either changes
nothing or puts a type in front that fits the types before it, so a registry is built up type by
type. The registry that all others start with is built up in the same way. -/
namespace RequestRouting

theorem TagType.undeclared?_eq_none_iff {t : TagType} {tag : Tag} :
    t.undeclared? tag = none ↔ ∀ attr ∈ tag.attrs.keys, t.declares attr = true := by
  simp only [undeclared?, List.find?_eq_none, Bool.not_eq_true', Bool.not_eq_false]

namespace TagRegistry

def HasTarget (r : TagRegistry) (t : TagType) (a : Alias) : Prop :=
  a.targetTag = t.name ∧ t.declares a.targetAttr = true ∨
    a.targetTag ≠ t.name ∧ (∃ tag ∈ t.metas, tag.name = a.targetTag) ∧
      ∃ u, r.get? a.targetTag = some u ∧ u.declares a.targetAttr = true

structure Fits (r : TagRegistry) (t : TagType) : Prop where
  named : t.name ≠ ""
  new : r.get? t.name = none
  metas : ∀ tag ∈ t.metas, ∃ u, r.get? tag.name = some u ∧
    ∀ attr ∈ tag.attrs.keys, u.declares attr = true
  aliases : ∀ a ∈ t.aliases, t.declares a.attr = true ∧ r.HasTarget t a

variable {r : TagRegistry} {t : TagType}

theorem metaFault?_eq_none_iff {tag : Tag} :
    r.metaFault? tag = none ↔ ∃ u, r.get? tag.name = some u ∧
      ∀ attr ∈ tag.attrs.keys, u.declares attr = true := by
  unfold metaFault?
  cases r.get? tag.name with
  | none => simp
  | some u => simp [TagType.undeclared?_eq_none_iff]

theorem aliasFault?_eq_none_iff {a : Alias} :
    r.aliasFault? t a = none ↔ t.declares a.attr = true ∧ r.HasTarget t a := by
  unfold aliasFault? HasTarget
  by_cases hattr : t.declares a.attr = true
  · by_cases hown : a.targetTag = t.name
    · simp [hattr, hown]
    · by_cases hmeta : ∃ tag ∈ t.metas, tag.name = a.targetTag
      · simp [hattr, hown, hmeta, Option.any_eq_true]
      · simp [hattr, hown, hmeta]
  · simp [hattr]

theorem fault?_eq_none_iff : r.fault? t = none ↔ r.Fits t := by
  have hparts : r.Fits t ↔ t.name ≠ "" ∧ r.get? t.name = none ∧
      (∀ tag ∈ t.metas, r.metaFault? tag = none) ∧
      ∀ a ∈ t.aliases, r.aliasFault? t a = none := by
    simp only [metaFault?_eq_none_iff, aliasFault?_eq_none_iff]
    constructor
    · intro h
      exact ⟨h.named, h.new, h.metas, h.aliases⟩
    · rintro ⟨hnamed, hnew, hmetas, haliases⟩
      exact ⟨hnamed, hnew, hmetas, haliases⟩
  rw [hparts]
  unfold fault? contains
  by_cases hname : t.name = ""
  · simp [hname]
  · by_cases hnew : r.get? t.name = none
    · simp [hname, hnew]
    · simp [hname, hnew, Option.isSome_iff_ne_none]

theorem result_register_of_fault {fault : DefinitionFault} (h : r.fault? t = some fault) :
    (r.register t).result = .error (.definition t.name fault) := by
  unfold register
  rw [h]
  rfl

theorem result_register_of_fits (h : r.Fits t) : (r.register t).result = .ok (r.add t) := by
  unfold register
  rw [fault?_eq_none_iff.2 h]
  rfl

/-- One call of a sequence. That a call which fails leaves the registry as it was holds by
construction: its outcome is an error and no registry, and the registry before it is kept. -/
def registerOrKeep (r : TagRegistry) (t : TagType) : TagRegistry :=
  (r.register t).result.toOption.getD r

def registerEach (r : TagRegistry) (types : List TagType) : TagRegistry :=
  types.foldl registerOrKeep r

theorem registerOrKeep_of_fault {fault : DefinitionFault} (h : r.fault? t = some fault) :
    r.registerOrKeep t = r := by
  unfold registerOrKeep
  rw [result_register_of_fault h]
  rfl

theorem registerOrKeep_of_fits (h : r.Fits t) : r.registerOrKeep t = r.add t := by
  unfold registerOrKeep
  rw [result_register_of_fits h]
  rfl

/-- The registry comes from the empty or the builtin one by some calls, any of which may have
failed. -/
def Reachable (r : TagRegistry) : Prop :=
  ∃ types, r = empty.registerEach types ∨ r = builtin.registerEach types

/-- Every type, latest first, fits the registry of those behind it. -/
inductive BuiltUp : List TagType → Prop
  | nil : BuiltUp []
  | cons {t : TagType} {earlier : List TagType} (ht : Fits ⟨earlier⟩ t) (h : BuiltUp earlier) :
    BuiltUp (t :: earlier)

theorem BuiltUp.registerEach (h : BuiltUp r.types) (types : List TagType) :
    BuiltUp (r.registerEach types).types := by
  induction types generalizing r with
  | nil => exact h
  | cons t rest ih =>
    apply ih
    cases hfault : r.fault? t with
    | some fault =>
      rw [registerOrKeep_of_fault hfault]
      exact h
    | none =>
      have hfits := fault?_eq_none_iff.1 hfault
      rw [registerOrKeep_of_fits hfits]
      exact .cons hfits h

theorem builtin_eq_registerEach : builtin = empty.registerEach TagType.builtins := rfl

theorem Reachable.builtUp (hr : r.Reachable) : BuiltUp r.types := by
  obtain ⟨types, rfl | rfl⟩ := hr
  · exact BuiltUp.nil.registerEach types
  · rw [builtin_eq_registerEach]
    exact (BuiltUp.nil.registerEach TagType.builtins).registerEach types

end TagRegistry

end RequestRouting
