import RequestRouting.Proofs.Tag.MergedAttributes

/-! What is found among tags: the attributes of the one tag that leads to a target. -/
namespace RequestRouting

namespace TagRegistry

variable {r : TagRegistry} {tag : Tag} {tags : List Tag} {target element : String}
  {attributes : AttributeMap}

theorem mergeAll_cons_eq_ok {found : List (String × AttributeMap)} :
    r.mergeAll (tag :: tags) target = .ok found ↔ ∃ result rest, r.merge tag target = .ok result ∧
      r.mergeAll tags target = .ok rest ∧
      found = (result.map (tag.name, ·)).toList ++ rest := by
  unfold mergeAll
  simp only [Outcome.bind_eq_ok, Outcome.pure_eq_ok, Outcome.mapM_cons_eq_ok]
  constructor
  · rintro ⟨_, ⟨_, merged, ⟨result, hresult, rfl⟩, hmerged, rfl⟩, rfl⟩
    refine ⟨result, _, hresult, ⟨merged, hmerged, rfl⟩, ?_⟩
    cases result <;> rfl
  · rintro ⟨result, _, hresult, ⟨merged, hmerged, rfl⟩, rfl⟩
    refine ⟨_, ⟨_, merged, ⟨result, hresult, rfl⟩, hmerged, rfl⟩, ?_⟩
    cases result <;> rfl

theorem mergeAll_eq_nil :
    r.mergeAll tags target = .ok [] ↔ ∀ tag ∈ tags, r.merge tag target = .ok none := by
  induction tags with
  | nil => simp [mergeAll, pure, Except.pure, bind, Except.bind]
  | cons tag tags ih =>
    rw [mergeAll_cons_eq_ok, List.forall_mem_cons, ← ih]
    constructor
    · rintro ⟨result, rest, hresult, hrest, hnil⟩
      obtain ⟨hnone, rfl⟩ := List.nil_eq_append_iff.1 hnil
      cases result with
      | none => exact ⟨hresult, hrest⟩
      | some a => cases hnone
    · rintro ⟨hresult, hrest⟩
      exact ⟨none, [], hresult, hrest, rfl⟩

def LeadsAlone (r : TagRegistry) (tags : List Tag) (target : String) (tag : Tag)
    (attributes : AttributeMap) : Prop :=
  ∃ before after, tags = before ++ tag :: after ∧ r.merge tag target = .ok (some attributes) ∧
    ∀ other ∈ before ++ after, r.merge other target = .ok none

theorem mergeAll_eq_singleton {found : String × AttributeMap} :
    r.mergeAll tags target = .ok [found] ↔
      ∃ tag, r.LeadsAlone tags target tag found.2 ∧ tag.name = found.1 := by
  induction tags with
  | nil =>
    have hnil : r.mergeAll [] target = .ok [] := rfl
    rw [hnil]
    constructor
    · intro h
      cases h
    · rintro ⟨tag, ⟨before, after, hempty, -⟩, -⟩
      simp at hempty
  | cons tag tags ih =>
    rw [mergeAll_cons_eq_ok]
    constructor
    · rintro ⟨result, rest, hresult, hrest, hfound⟩
      cases result with
      | none =>
        obtain rfl : [found] = rest := hfound
        obtain ⟨alone, ⟨before, after, rfl, halone, hothers⟩, hname⟩ := ih.1 hrest
        exact ⟨alone, ⟨tag :: before, after, rfl, halone,
          List.forall_mem_cons.2 ⟨hresult, hothers⟩⟩, hname⟩
      | some attributes =>
        obtain ⟨rfl, rfl⟩ : found = (tag.name, attributes) ∧ [] = rest := by simpa using hfound
        exact ⟨tag, ⟨[], tags, rfl, hresult, mergeAll_eq_nil.1 hrest⟩, rfl⟩
    · rintro ⟨alone, ⟨before, after, htags, halone, hothers⟩, hname⟩
      cases before with
      | nil =>
        obtain ⟨rfl, rfl⟩ : tag = alone ∧ tags = after := by simpa using htags
        refine ⟨some found.2, [], halone, mergeAll_eq_nil.2 hothers, ?_⟩
        rw [Option.map_some, hname]
        rfl
      | cons first before =>
        obtain ⟨rfl, rfl⟩ : tag = first ∧ tags = before ++ alone :: after := by simpa using htags
        obtain ⟨hfirst, hrest⟩ := List.forall_mem_cons.1 hothers
        exact ⟨none, [found], hfirst, ih.2 ⟨alone, ⟨before, after, rfl, halone, hrest⟩, hname⟩,
          rfl⟩

theorem findMerged_eq_none :
    r.findMerged element tags target = .ok none ↔ ∀ tag ∈ tags, r.merge tag target = .ok none := by
  rw [← mergeAll_eq_nil, findMerged, Outcome.bind_eq_ok]
  constructor
  · rintro ⟨found, hfound, h⟩
    match found with
    | [] => exact hfound
    | [_] => cases h
    | _ :: _ :: _ => cases h
  · intro h
    exact ⟨[], h, rfl⟩

theorem findMerged_eq_some :
    r.findMerged element tags target = .ok (some attributes) ↔
      ∃ tag, r.LeadsAlone tags target tag attributes := by
  rw [findMerged, Outcome.bind_eq_ok]
  constructor
  · rintro ⟨found, hfound, h⟩
    match found with
    | [] => cases h
    | [(name, a)] =>
      cases h
      obtain ⟨tag, halone, -⟩ := mergeAll_eq_singleton.1 hfound
      exact ⟨tag, halone⟩
    | _ :: _ :: _ => cases h
  · rintro ⟨tag, halone⟩
    exact ⟨[(tag.name, attributes)], mergeAll_eq_singleton.2 ⟨tag, halone, rfl⟩, rfl⟩

theorem LeadsAlone.not_forall_none (h : r.LeadsAlone tags target tag attributes) :
    ¬ ∀ other ∈ tags, r.merge other target = .ok none := by
  obtain ⟨before, after, rfl, halone, -⟩ := h
  intro hnone
  have hmerge := hnone tag (List.mem_append_right _ List.mem_cons_self)
  rw [halone] at hmerge
  cases hmerge

theorem LeadsAlone.unique {other : Tag} {attributes' : AttributeMap}
    (h : r.LeadsAlone tags target tag attributes)
    (h' : r.LeadsAlone tags target other attributes') : attributes = attributes' := by
  have hfound : r.findMerged "" tags target = .ok (some attributes) :=
    findMerged_eq_some.2 ⟨tag, h⟩
  rw [findMerged_eq_some.2 ⟨other, h'⟩] at hfound
  exact (Option.some.inj (Except.ok.inj hfound)).symm

def LeadsTo (r : TagRegistry) (tag : Tag) (target : String) : Prop :=
  r.contains tag.name = true ∧ r.isOrCarries tag.name target = true

theorem Reachable.isSome_merge_iff (hr : r.Reachable) {result : Option AttributeMap}
    (h : r.merge tag target = .ok result) : result.isSome = true ↔ r.LeadsTo tag target := by
  have hsound := hr.mergesSoundly tag target
  unfold LeadsTo contains
  cases hfind : r.get? tag.name with
  | none =>
    rw [hsound.unregistered hfind] at h
    rw [← Except.ok.inj h]
    simp
  | some t =>
    have hadmits : t.Admits tag := by
      by_contra hrefused
      obtain ⟨_, _, _, herror⟩ := (hsound.refused_iff t hfind).2 (TagType.not_admits_iff.1 hrefused)
      rw [h] at herror
      cases herror
    have hnone := hsound.none_iff t hfind hadmits
    rw [h] at hnone
    cases result with
    | none => simp [hnone.1 rfl]
    | some a => simpa using hnone

end TagRegistry

end RequestRouting
