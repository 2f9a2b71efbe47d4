import RequestRouting.Proofs.Dictionary
import RequestRouting.Proofs.Outcome
import RequestRouting.Tag.Merging

/-! What a tag hands on to a tag that its type carries. Two attributes that are aliases of one
attribute there must not have different values; apart from that every value is handed on, and only
to attributes that some alias names. -/
namespace RequestRouting

def Clashes (valueOf? : String → Option TagValue) (attr other : String) : Prop :=
  ∃ v w, valueOf? attr = some v ∧ valueOf? other = some w ∧ v.normalized ≠ w.normalized

theorem Clashes.symm {valueOf? : String → Option TagValue} {attr other : String}
    (h : Clashes valueOf? attr other) : Clashes valueOf? other attr := by
  obtain ⟨v, w, hv, hw, hne⟩ := h
  exact ⟨w, v, hw, hv, hne.symm⟩

def Contradicts (valueOf? : String → Option TagValue) (standsFor : String → String → Prop) : Prop :=
  ∃ p q attr v w, valueOf? p = some v ∧ valueOf? q = some w ∧ v.normalized ≠ w.normalized ∧
    standsFor p attr ∧ standsFor q attr

namespace TagType

/-- The value of an attribute: what the tag sets, else the default, unless it is empty. -/
def valueOf? (t : TagType) (tag : Tag) (attr : String) : Option TagValue :=
  (tag.attrs.get? attr <|> t.defaults.get? attr).filter fun v => !v.isEmpty

def AliasOf (t : TagType) (metaName attr targetAttr : String) : Prop :=
  ∃ a ∈ t.aliasesTo metaName, a.attr = attr ∧ a.targetAttr = targetAttr

variable {t : TagType} {tag : Tag}

/-- The value that aliases supply for an attribute. Of aliases that agree, the first one counts. -/
def suppliedBy? (t : TagType) (tag : Tag) (aliases : List Alias) (attr : String) :
    Option TagValue :=
  aliases.findSome? fun a => if a.targetAttr = attr then t.aliasValue? tag a else none

def supplied? (t : TagType) (tag : Tag) (metaName : String) : String → Option TagValue :=
  t.suppliedBy? tag (t.aliasesTo metaName)

theorem suppliedBy?_concat (aliases : List Alias) (a : Alias) (attr : String) :
    t.suppliedBy? tag (aliases ++ [a]) attr = (t.suppliedBy? tag aliases attr).or
      (if a.targetAttr = attr then t.aliasValue? tag a else none) := by
  unfold suppliedBy?
  rw [List.findSome?_append]
  congr 1
  split <;> simp [*]

theorem exists_of_suppliedBy? {aliases : List Alias} {attr : String} {v : TagValue}
    (h : t.suppliedBy? tag aliases attr = some v) :
    ∃ a ∈ aliases, a.targetAttr = attr ∧ t.aliasValue? tag a = some v := by
  obtain ⟨a, ha, hvalue⟩ := List.exists_of_findSome?_eq_some h
  split at hvalue
  · next htarget => exact ⟨a, ha, htarget, hvalue⟩
  · contradiction

structure Collected (t : TagType) (tag : Tag) (aliases : List Alias)
    (overrides : Dictionary (String × TagValue)) : Prop where
  first : ∀ attr, (overrides.get? attr).map Prod.snd = t.suppliedBy? tag aliases attr
  agree : ∀ a ∈ aliases, ∀ v, t.aliasValue? tag a = some v →
    ∃ w, t.suppliedBy? tag aliases a.targetAttr = some w ∧ w.normalized = v.normalized

def Disagrees (t : TagType) (tag : Tag) (aliases : List Alias) (a : Alias) : Prop :=
  ∃ b ∈ aliases, b.targetAttr = a.targetAttr ∧ ∃ v w, t.aliasValue? tag a = some v ∧
    t.aliasValue? tag b = some w ∧ v.normalized ≠ w.normalized

theorem collected_nil : t.Collected tag [] ∅ where
  first _ := rfl
  agree _ ha := by contradiction

theorem Collected.concat {aliases : List Alias}
    {overrides overrides' : Dictionary (String × TagValue)}
    (h : t.Collected tag aliases overrides) {a : Alias}
    (hfirst : ∀ attr, (overrides'.get? attr).map Prod.snd = ((overrides.get? attr).map Prod.snd).or
      (if a.targetAttr = attr then t.aliasValue? tag a else none))
    (hagree : ∀ v w, t.aliasValue? tag a = some v →
      (overrides.get? a.targetAttr).map Prod.snd = some w → w.normalized = v.normalized) :
    t.Collected tag (aliases ++ [a]) overrides' where
  first attr := by rw [hfirst, h.first, suppliedBy?_concat]
  agree b hb v hv := by
    rw [suppliedBy?_concat]
    rcases List.mem_append.1 hb with hb | hb
    · obtain ⟨w, hw, hnormal⟩ := h.agree b hb v hv
      exact ⟨w, by rw [hw, Option.some_or], hnormal⟩
    · obtain rfl := List.mem_singleton.1 hb
      rw [if_pos rfl]
      cases hw : t.suppliedBy? tag aliases b.targetAttr with
      | none => exact ⟨v, hv, rfl⟩
      | some w => exact ⟨w, rfl, hagree v w hv ((h.first b.targetAttr).trans hw)⟩

theorem addOverride_cases {aliases : List Alias} {overrides : Dictionary (String × TagValue)}
    (h : t.Collected tag aliases overrides) (a : Alias) :
    (∃ overrides', t.addOverride tag overrides a = .ok overrides' ∧
        t.Collected tag (aliases ++ [a]) overrides') ∨
      (∃ supplier, t.addOverride tag overrides a = .error (.aliasConflict t.name supplier a.attr)) ∧
        t.Disagrees tag aliases a := by
  unfold addOverride
  cases hv : t.aliasValue? tag a with
  | none =>
    refine .inl ⟨overrides, rfl, h.concat (fun attr => ?_) fun v w hv' => ?_⟩
    · rw [hv, ite_self, Option.or_none]
    · rw [hv] at hv'
      contradiction
  | some v =>
    cases hentry : overrides.get? a.targetAttr with
    | none =>
      refine .inl ⟨_, rfl, h.concat (fun attr => ?_) fun v w _ hw => ?_⟩
      · rw [hv, Dictionary.get?_insert]
        by_cases heq : attr = a.targetAttr
        · rw [if_pos heq, if_pos heq.symm, heq, hentry]
          rfl
        · rw [if_neg heq, if_neg (Ne.symm heq), Option.or_none]
      · rw [hentry] at hw
        contradiction
    | some entry =>
      obtain ⟨supplier, existing⟩ := entry
      dsimp only
      split
      · next hsame =>
        refine .inl ⟨overrides, rfl, h.concat (fun attr => ?_) fun w x hw hx => ?_⟩
        · by_cases heq : attr = a.targetAttr
          · rw [heq, hentry]
            rfl
          · rw [if_neg (Ne.symm heq), Option.or_none]
        · obtain rfl := Option.some.inj (hv.symm.trans hw)
          rw [hentry] at hx
          obtain rfl := Option.some.inj hx
          exact hsame
      · next hother =>
        have hexisting := h.first a.targetAttr
        rw [hentry] at hexisting
        obtain ⟨b, hb, htarget, hsource⟩ := exists_of_suppliedBy? hexisting.symm
        exact .inr ⟨⟨supplier, rfl⟩, b, hb, htarget, v, existing, hv, hsource, Ne.symm hother⟩

theorem foldlM_addOverride_cases {aliases : List Alias}
    {overrides : Dictionary (String × TagValue)} (h : t.Collected tag aliases overrides)
    (rest : List Alias) :
    (∃ overrides', rest.foldlM (t.addOverride tag) overrides = .ok overrides' ∧
        t.Collected tag (aliases ++ rest) overrides') ∨
      (∃ supplier other, rest.foldlM (t.addOverride tag) overrides =
          .error (.aliasConflict t.name supplier other)) ∧
        ∃ a ∈ aliases ++ rest, t.Disagrees tag (aliases ++ rest) a := by
  induction rest generalizing aliases overrides with
  | nil =>
    rw [List.append_nil]
    exact .inl ⟨overrides, rfl, h⟩
  | cons a rest ih =>
    rw [List.foldlM_cons, List.append_cons]
    rcases addOverride_cases h a with ⟨overrides', hok, h'⟩ | ⟨⟨supplier, herror⟩, hdisagrees⟩
    · rw [hok]
      exact ih h'
    · rw [herror]
      obtain ⟨b, hb, hba⟩ := hdisagrees
      refine .inr ⟨⟨supplier, a.attr, rfl⟩, a, ?_, b, ?_, hba⟩
      · exact List.mem_append_left _ (List.mem_append_right _ List.mem_cons_self)
      · exact List.mem_append_left _ (List.mem_append_left _ hb)

/-- Collecting the values for a carried tag fails exactly when two attributes with different values
are aliases of one attribute there. -/
theorem overrides_cases (t : TagType) (tag : Tag) (metaName : String) :
    (∃ overrides, t.overrides tag metaName = .ok overrides ∧
        (∀ attr, (overrides.get? attr).map Prod.snd = t.supplied? tag metaName attr) ∧
        ¬ Contradicts (t.valueOf? tag) (t.AliasOf metaName)) ∨
      (∃ supplier other, t.overrides tag metaName =
          .error (.aliasConflict t.name supplier other)) ∧
        Contradicts (t.valueOf? tag) (t.AliasOf metaName) := by
  rcases foldlM_addOverride_cases collected_nil (t.aliasesTo metaName) with
    ⟨overrides, hok, hcollected⟩ | ⟨herror, a, ha, b, hb, htarget, v, w, hv, hw, hne⟩
  · refine .inl ⟨overrides, hok, hcollected.first, ?_⟩
    rintro ⟨p, q, attr, v, w, hv, hw, hne, ⟨a, ha, rfl, rfl⟩, b, hb, rfl, htarget⟩
    obtain ⟨x, hx, hxv⟩ := hcollected.agree a ha v hv
    obtain ⟨y, hy, hyw⟩ := hcollected.agree b hb w hw
    rw [htarget, hx] at hy
    obtain rfl := Option.some.inj hy
    exact hne (hxv.symm.trans hyw)
  · exact .inr ⟨herror, a.attr, b.attr, a.targetAttr, v, w, hv, hw, hne, ⟨a, ha, rfl, rfl⟩,
      b, hb, rfl, htarget⟩

section Override

variable {metaType : Option TagType} {value : TagValue}

theorem name_foldl_remove (attrs : List String) (tag : Tag) :
    (attrs.foldl Tag.remove tag).name = tag.name := by
  induction attrs generalizing tag with
  | nil => rfl
  | cons attr rest ih => exact ih (tag.remove attr)

theorem mem_keys_foldl_remove {attrs : List String} {attr : String}
    (h : attr ∈ (attrs.foldl Tag.remove tag).attrs.keys) : attr ∈ tag.attrs.keys := by
  induction attrs generalizing tag with
  | nil => exact h
  | cons other rest ih => exact (Dictionary.mem_keys_erase.1 (ih h)).2

theorem name_override (attr : String) : (override metaType tag attr value).name = tag.name :=
  name_foldl_remove _ tag

theorem mem_keys_override {attr other : String}
    (h : other ∈ (override metaType tag attr value).attrs.keys) :
    other = attr ∨ other ∈ tag.attrs.keys :=
  (Dictionary.mem_keys_insert.1 h).imp_right mem_keys_foldl_remove

end Override

section Carried

variable {metaType : Option TagType} {carriedTag c : Tag}

theorem name_foldl_override (entries : List (String × String × TagValue)) (tag : Tag) :
    (entries.foldl (fun c e => override metaType c e.1 e.2.2) tag).name = tag.name := by
  induction entries generalizing tag with
  | nil => rfl
  | cons e rest ih => rw [List.foldl_cons, ih, name_override]

theorem mem_keys_foldl_override {entries : List (String × String × TagValue)} {attr : String}
    (h : attr ∈ (entries.foldl (fun c e => override metaType c e.1 e.2.2) tag).attrs.keys) :
    attr ∈ entries.map Prod.fst ∨ attr ∈ tag.attrs.keys := by
  induction entries generalizing tag with
  | nil => exact .inr h
  | cons e rest ih =>
    rw [List.map_cons, List.mem_cons, or_assoc]
    rcases ih h with hrest | htag
    · exact .inr (.inl hrest)
    · exact (mem_keys_override htag).imp_right .inr

theorem carried_eq_ok (h : t.carried metaType tag carriedTag = .ok c) :
    ∃ overrides : Dictionary (String × TagValue),
      (∀ attr, (overrides.get? attr).map Prod.snd = t.supplied? tag carriedTag.name attr) ∧
        c = overrides.entries.foldl (fun c e => override metaType c e.1 e.2.2) carriedTag := by
  obtain ⟨overrides, hoverrides, h⟩ := Outcome.bind_eq_ok.1 h
  rcases overrides_cases t tag carriedTag.name with ⟨_, hok, hfirst, -⟩ | ⟨⟨_, _, herror⟩, -⟩
  · obtain rfl := Except.ok.inj (hoverrides.symm.trans hok)
    exact ⟨overrides, hfirst, (Outcome.pure_eq_ok.1 h).symm⟩
  · rw [hoverrides] at herror
    contradiction

theorem carried_cases (t : TagType) (metaType : Option TagType) (tag carriedTag : Tag) :
    (∃ c, t.carried metaType tag carriedTag = .ok c ∧
        ¬ Contradicts (t.valueOf? tag) (t.AliasOf carriedTag.name)) ∨
      (∃ attr other, t.carried metaType tag carriedTag =
          .error (.aliasConflict t.name attr other)) ∧
        Contradicts (t.valueOf? tag) (t.AliasOf carriedTag.name) := by
  unfold carried
  rcases overrides_cases t tag carriedTag.name with
    ⟨overrides, hok, -, hnone⟩ | ⟨⟨attr, other, herror⟩, hconflict⟩
  · rw [hok]
    exact .inl ⟨_, rfl, hnone⟩
  · rw [herror]
    exact .inr ⟨⟨attr, other, rfl⟩, hconflict⟩

theorem name_carried (h : t.carried metaType tag carriedTag = .ok c) :
    c.name = carriedTag.name := by
  obtain ⟨overrides, -, rfl⟩ := carried_eq_ok h
  exact name_foldl_override overrides.entries carriedTag

theorem mem_keys_carried (h : t.carried metaType tag carriedTag = .ok c) {attr : String}
    (hattr : attr ∈ c.attrs.keys) :
    attr ∈ carriedTag.attrs.keys ∨ ∃ a ∈ t.aliasesTo carriedTag.name, a.targetAttr = attr := by
  obtain ⟨overrides, hfirst, rfl⟩ := carried_eq_ok h
  rcases mem_keys_foldl_override hattr with hkey | hkey
  · right
    obtain ⟨entry, hentry, rfl⟩ := List.mem_map.1 hkey
    have hsupplied := hfirst entry.1
    rw [Dictionary.get?_of_mem_entries hentry] at hsupplied
    obtain ⟨a, ha, htarget, -⟩ := exists_of_suppliedBy? hsupplied.symm
    exact ⟨a, ha, htarget⟩
  · exact .inl hkey

end Carried

end TagType

end RequestRouting
