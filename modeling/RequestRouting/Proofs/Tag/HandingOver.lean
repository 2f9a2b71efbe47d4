import Mathlib.Data.List.Induction
import RequestRouting.Proofs.Tag.Overriding

/-! The values of a carried tag, once the tag that carries it has handed on its own. Attributes are
written in the order of their names, and each that is written unsets all that stand for the same. So
of two that stand for the same only the later one stays, whatever their values are. -/
namespace RequestRouting.TagType

/-- Another attribute that stands for the same is written, and this one is not written after it. -/
def Displaced (u : TagType) (supplied? : String → Option TagValue) (attr : String) : Prop :=
  ∃ other, attr ∈ u.partners other ∧ supplied? other ≠ none ∧
    (supplied? attr = none ∨ compare attr other = .lt)

/-- What a carried tag of type `u` becomes when values are supplied for some of its attributes. -/
structure HandedOver (u : TagType) (supplied? : String → Option TagValue)
    (carriedTag c : Tag) : Prop where
  name : c.name = carriedTag.name
  displaced : ∀ attr, u.Displaced supplied? attr → c.attrs.get? attr = none
  kept : ∀ attr, ¬ u.Displaced supplied? attr →
    c.attrs.get? attr = (supplied? attr).or (carriedTag.attrs.get? attr)

variable {t u : TagType} {tag carriedTag c c' : Tag} {supplied? : String → Option TagValue}

theorem HandedOver.unique (h : HandedOver u supplied? carriedTag c)
    (h' : HandedOver u supplied? carriedTag c') : c = c' := by
  have hname : c.name = c'.name := h.name.trans h'.name.symm
  have hattrs : c.attrs = c'.attrs := by
    apply Dictionary.ext_get?
    intro attr
    by_cases hdisplaced : u.Displaced supplied? attr
    · rw [h.displaced attr hdisplaced, h'.displaced attr hdisplaced]
    · rw [h.kept attr hdisplaced, h'.kept attr hdisplaced]
  cases c
  cases c'
  cases hname
  cases hattrs
  rfl

theorem get?_foldl_remove (attrs : List String) (tag : Tag) (attr : String) :
    (attrs.foldl Tag.remove tag).attrs.get? attr =
      if attr ∈ attrs then none else tag.attrs.get? attr := by
  induction attrs generalizing tag with
  | nil => rfl
  | cons first rest ih =>
    rw [List.foldl_cons, ih, Tag.remove, Dictionary.get?_erase]
    by_cases hrest : attr ∈ rest
    · rw [if_pos hrest, if_pos (List.mem_cons_of_mem first hrest)]
    · simp only [List.mem_cons, hrest, or_false, if_false]

theorem get?_override (u : TagType) (tag : Tag) (attr other : String) (v : TagValue) :
    (override (some u) tag attr v).attrs.get? other =
      if other = attr then some v
      else if other ∈ u.partners attr then none else tag.attrs.get? other := by
  unfold override Tag.set
  rw [Dictionary.get?_insert, get?_foldl_remove]
  rfl

theorem handedOver_self (u : TagType) (tag : Tag) : HandedOver u (fun _ => none) tag tag where
  name := rfl
  displaced _ := by
    rintro ⟨_, _, hsupplied, _⟩
    contradiction
  kept _ _ := rfl

section Last

variable {attr : String} (v : TagValue)
  (hlast : ∀ other, supplied? other ≠ none → compare other attr = .lt)
include hlast

theorem not_displaced_update_self :
    ¬ u.Displaced (Function.update supplied? attr (some v)) attr := by
  rintro ⟨other, -, hother, hnone | hlt⟩
  · rw [Function.update_self] at hnone
    contradiction
  · by_cases heq : other = attr
    · rw [heq, Std.ReflOrd.compare_self] at hlt
      contradiction
    · rw [Function.update_of_ne heq] at hother
      rw [Std.OrientedCmp.gt_of_lt (hlast other hother)] at hlt
      contradiction

theorem displaced_update_iff {other : String} (hne : other ≠ attr) :
    u.Displaced (Function.update supplied? attr (some v)) other ↔
      other ∈ u.partners attr ∨ u.Displaced supplied? other := by
  unfold Displaced
  rw [Function.update_of_ne hne]
  constructor
  · rintro ⟨next, hpartner, hnext, hlater⟩
    by_cases heq : next = attr
    · rw [heq] at hpartner
      exact .inl hpartner
    · rw [Function.update_of_ne heq] at hnext
      exact .inr ⟨next, hpartner, hnext, hlater⟩
  · rintro (hpartner | ⟨next, hpartner, hnext, hlater⟩)
    · refine ⟨attr, hpartner, ?_, ?_⟩
      · rw [Function.update_self]
        exact Option.some_ne_none v
      · exact (eq_or_ne (supplied? other) none).imp_right (hlast other)
    · refine ⟨next, hpartner, ?_, hlater⟩
      by_cases heq : next = attr
      · rw [heq, Function.update_self]
        exact Option.some_ne_none v
      · rw [Function.update_of_ne heq]
        exact hnext

theorem HandedOver.override (h : HandedOver u supplied? carriedTag c) :
    HandedOver u (Function.update supplied? attr (some v)) carriedTag
      (TagType.override (some u) c attr v) where
  name := (name_override attr).trans h.name
  displaced other hdisplaced := by
    have hne : other ≠ attr := by
      rintro rfl
      exact not_displaced_update_self v hlast hdisplaced
    rw [get?_override, if_neg hne]
    split
    · rfl
    · next hpartner =>
      have hbefore := ((displaced_update_iff v hlast hne).1 hdisplaced).resolve_left hpartner
      exact h.displaced other hbefore
  kept other hkept := by
    rw [get?_override]
    split
    · next heq =>
      rw [heq, Function.update_self]
      rfl
    · next hne =>
      rw [displaced_update_iff v hlast hne, not_or] at hkept
      rw [if_neg hkept.1, Function.update_of_ne hne]
      exact h.kept other hkept.2

end Last

theorem handedOver_foldl (u : TagType) (carriedTag : Tag)
    {entries : List (String × String × TagValue)}
    (hsorted : entries.Pairwise fun a b => compare a.1 b.1 = .lt) :
    HandedOver u (fun attr => (entries.lookup attr).map Prod.snd) carriedTag
      (entries.foldl (fun c e => override (some u) c e.1 e.2.2) carriedTag) := by
  -- from the end: what is written last is not displaced by anything before it
  induction entries using List.reverseRecOn with
  | nil => exact handedOver_self u carriedTag
  | append_singleton entries e ih =>
    obtain ⟨hbefore, -, hlast⟩ := List.pairwise_append.1 hsorted
    have hearlier : ∀ attr, (entries.lookup attr).map Prod.snd ≠ none →
        compare attr e.1 = .lt := by
      intro attr hattr
      obtain ⟨entry, hentry⟩ := Option.ne_none_iff_exists'.1 (mt Option.map_eq_none_iff.2 hattr)
      obtain ⟨before, after, rfl, -⟩ := List.lookup_eq_some_iff.1 hentry
      exact hlast (attr, entry) (List.mem_append_right before List.mem_cons_self) e
        List.mem_cons_self
    have hnew : entries.lookup e.1 = none := by
      by_contra hsome
      have hlt := hearlier e.1 (mt Option.map_eq_none_iff.1 hsome)
      rw [Std.ReflOrd.compare_self] at hlt
      contradiction
    have hupdate : (fun attr => ((entries ++ [e]).lookup attr).map Prod.snd) =
        Function.update (fun attr => (entries.lookup attr).map Prod.snd) e.1 (some e.2.2) := by
      funext attr
      rw [List.lookup_append, Dictionary.lookup_entry_cons, Function.update_apply]
      split
      · next heq =>
        rw [heq, hnew]
        rfl
      · rw [List.lookup_nil, Option.or_none]
    rw [hupdate, List.foldl_append]
    exact HandedOver.override e.2.2 hearlier (ih hbefore)

theorem handedOver_of_carried (h : t.carried (some u) tag carriedTag = .ok c) :
    HandedOver u (t.supplied? tag carriedTag.name) carriedTag c := by
  obtain ⟨overrides, hfirst, rfl⟩ := carried_eq_ok h
  rw [← funext hfirst]
  exact handedOver_foldl u carriedTag overrides.sorted

end RequestRouting.TagType
