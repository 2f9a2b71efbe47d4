import RequestRouting.Proofs.Tag.MergedAttributes

/-! Which values arrive at an attribute when the local aliases of a type are gone through once.
Every value that is there in the end was set on some attribute and handed on from there. The two
ends of an alias get the same value exactly when the same values are handed on to both, and for
that the order of the aliases matters: a value that comes to an end of an alias only after the
alias itself does not come back to its other end. -/
namespace RequestRouting

def AttributeMap.Equates (m : AttributeMap) (a : Alias) : Prop :=
  ∃ v w, m.get? a.attr = some v ∧ m.get? a.targetAttr = some w ∧
    (v.isEmpty = true ∧ w.isEmpty = true ∨ v.normalized = w.normalized)

def Alias.HasEnd (a : Alias) (attr : String) : Prop := a.attr = attr ∨ a.targetAttr = attr

theorem Alias.Joins.hasEnd {a : Alias} {attr other : String} (h : a.Joins attr other) :
    a.HasEnd attr ∧ a.HasEnd other := by
  rcases h with ⟨hattr, hother⟩ | ⟨hother, hattr⟩
  · exact ⟨.inl hattr, .inr hother⟩
  · exact ⟨.inr hattr, .inl hother⟩

theorem Alias.HasEnd.eq_or_joins {a : Alias} {attr other : String} (h : a.HasEnd attr)
    (hother : a.HasEnd other) : attr = other ∨ a.Joins attr other := by
  rcases h with rfl | rfl <;> rcases hother with rfl | rfl
  · exact .inl rfl
  · exact .inr (.inl ⟨rfl, rfl⟩)
  · exact .inr (.inr ⟨rfl, rfl⟩)
  · exact .inl rfl

namespace TagType

variable {t : TagType} {tag : Tag} {values values' : Dictionary TagValue} {aliases : List Alias}

/-- No value comes from elsewhere than from an attribute that hands it on. -/
theorem exists_handsOn_of_foldlM (h : aliases.foldlM t.equateAlias values = .ok values')
    {attr : String} {v : TagValue} (hv : filled? values' attr = some v) :
    ∃ source, HandsOn aliases source attr ∧ filled? values source = some v := by
  induction aliases generalizing values with
  | nil =>
    obtain rfl := Outcome.pure_eq_ok.1 h
    exact ⟨attr, rfl, hv⟩
  | cons a rest ih =>
    rw [List.foldlM_cons, Outcome.bind_eq_ok] at h
    obtain ⟨next, hnext, hrest⟩ := h
    obtain ⟨source, hhands, hsource⟩ := ih hrest
    rcases equateAlias_cases t values a with ⟨_, hok, hspreads⟩ | ⟨herror, -⟩
    · obtain rfl := Except.ok.inj (hnext.symm.trans hok)
      rcases hspreads.source source v hsource with hsource | ⟨origin, hjoins, horigin⟩
      · exact ⟨source, .inl hhands, hsource⟩
      · exact ⟨origin, .inr ⟨source, hjoins, hhands⟩, horigin⟩
    · rw [hnext] at herror
      contradiction

theorem exists_filled?_of_foldlM (h : aliases.foldlM t.equateAlias values = .ok values')
    {source attr : String} {v : TagValue} (hhands : HandsOn aliases source attr)
    (hv : filled? values source = some v) :
    ∃ w, filled? values' attr = some w ∧ w.normalized = v.normalized := by
  rcases foldlM_equateAlias_cases t aliases values with ⟨_, hok, harrives⟩ | ⟨⟨_, _, herror⟩, -⟩
  · obtain rfl := Except.ok.inj (h.symm.trans hok)
    exact harrives source attr v hhands hv
  · rw [h] at herror
    contradiction

/-- The tag has this value at some attribute that hands it on, in the end to the one asked for. -/
def Arrives (t : TagType) (tag : Tag) (value : TagValue) (attr : String) : Prop :=
  ∃ source v, t.valueOf? tag source = some v ∧ v.normalized = value ∧
    HandsOn t.localAliases source attr

theorem arrives_iff {m : AttributeMap} (h : t.ownAttributes tag = .ok m) {value : TagValue}
    {attr : String} : t.Arrives tag value attr ↔
      (filled? m.values attr).map TagValue.normalized = some value := by
  obtain ⟨values, hvalues, h⟩ := Outcome.bind_eq_ok.1 h
  obtain rfl := Outcome.pure_eq_ok.1 h
  unfold Arrives
  rw [valueOf?_eq_filled?, Option.map_eq_some_iff]
  constructor
  · rintro ⟨source, v, hv, rfl, hhands⟩
    exact exists_filled?_of_foldlM hvalues hhands hv
  · rintro ⟨v, hv, hnormal⟩
    obtain ⟨source, hhands, hsource⟩ := exists_handsOn_of_foldlM hvalues hv
    exact ⟨source, v, hsource, hnormal, hhands⟩

theorem filled?_of_get? {attr : String} {v : TagValue} (h : values.get? attr = some v) :
    filled? values attr = if v.isEmpty then none else some v := by
  unfold filled?
  rw [h]
  cases hempty : v.isEmpty <;> simp [hempty]

theorem equates_iff_filled? {m : AttributeMap} {a : Alias} {v w : TagValue}
    (hv : m.get? a.attr = some v) (hw : m.get? a.targetAttr = some w) :
    m.Equates a ↔ (filled? m.values a.attr).map TagValue.normalized =
      (filled? m.values a.targetAttr).map TagValue.normalized := by
  have hempty : v.normalized = w.normalized → v.isEmpty = w.isEmpty := by
    intro h
    rw [← v.isEmpty_normalized, h, w.isEmpty_normalized]
  unfold AttributeMap.Equates
  rw [filled?_of_get? hv, filled?_of_get? hw, hv, hw]
  cases hvempty : v.isEmpty <;> cases hwempty : w.isEmpty <;> simp [hvempty, hwempty] at hempty ⊢
  · exact hempty
  · exact hempty

theorem equates_iff {m : AttributeMap} (h : t.ownAttributes tag = .ok m) (hcovers : m.Covers t)
    {a : Alias} (hattr : t.declares a.attr = true) (htarget : t.declares a.targetAttr = true) :
    m.Equates a ↔ ∀ value, t.Arrives tag value a.attr ↔ t.Arrives tag value a.targetAttr := by
  have hvalue : ∀ attr, t.declares attr = true → ∃ v, m.get? attr = some v := by
    intro attr hdeclares
    have hkey := Dictionary.contains_eq_true_iff.2 ((hcovers attr).2 hdeclares)
    exact Option.isSome_iff_exists.1 hkey
  obtain ⟨v, hv⟩ := hvalue a.attr hattr
  obtain ⟨w, hw⟩ := hvalue a.targetAttr htarget
  rw [equates_iff_filled? hv hw, Option.ext_iff]
  simp only [arrives_iff h]

section Unshared

variable {a : Alias} {source attr : String}

theorem hasEnd_of_handsOn
    (hunshared : ∀ b ∈ aliases, ∀ attr, a.HasEnd attr → b.HasEnd attr → b = a)
    (hattr : a.HasEnd attr) (h : HandsOn aliases source attr) : a.HasEnd source := by
  induction aliases generalizing source with
  | nil =>
    obtain rfl : source = attr := h
    exact hattr
  | cons b rest ih =>
    have hrest : ∀ {source}, HandsOn rest source attr → a.HasEnd source :=
      ih fun c hc => hunshared c (List.mem_cons_of_mem b hc)
    rcases h with h | ⟨next, hjoins, h⟩
    · exact hrest h
    · obtain rfl := hunshared b List.mem_cons_self next (hrest h) hjoins.hasEnd.2
      exact hjoins.hasEnd.1

theorem handsOn_of_hasEnd (ha : a ∈ aliases) (hsource : a.HasEnd source) (hattr : a.HasEnd attr) :
    HandsOn aliases source attr := by
  induction aliases with
  | nil => contradiction
  | cons b rest ih =>
    rcases List.mem_cons.1 ha with rfl | ha
    · rcases hsource.eq_or_joins hattr with rfl | hjoins
      · exact handsOn_self _ _
      · exact .inr ⟨attr, hjoins, handsOn_self rest attr⟩
    · exact .inl (ih ha)

end Unshared

end TagType

namespace TagRegistry

variable {r : TagRegistry} {t : TagType} {tag : Tag} {m : AttributeMap} {a : Alias}

theorem BuiltUp.ownAttributes_of_merge (h : BuiltUp r.types) (hfind : r.get? tag.name = some t)
    (hmerge : r.merge tag tag.name = .ok (some m)) : t.ownAttributes tag = .ok m ∧ m.Covers t := by
  rw [h.merge_eq hfind, Outcome.bind_eq_ok] at hmerge
  obtain ⟨_, hchecked, hmerge⟩ := hmerge
  rw [if_pos (name_of_find? hfind)] at hmerge
  obtain ⟨attributes, hown, hmerge⟩ := Outcome.bind_eq_ok.1 hmerge
  obtain rfl := Option.some.inj (Outcome.pure_eq_ok.1 hmerge)
  have hadmits : t.Admits tag := TagType.checkDeclared_eq_ok_iff.1 hchecked
  refine ⟨hown, (TagType.covers_of_ownAttributes hown ?_ hadmits).2⟩
  intro a ha
  exact h.declares_of_mem_localAliases hfind ha

/-- When a tag is merged into its own type, the two ends of a local alias are equated exactly if the
same values arrive at both. -/
theorem Reachable.merge_equates_iff (hr : r.Reachable) (hfind : r.get? tag.name = some t)
    (hmerge : r.merge tag tag.name = .ok (some m)) (ha : a ∈ t.localAliases) :
    m.Equates a ↔ ∀ value, t.Arrives tag value a.attr ↔ t.Arrives tag value a.targetAttr := by
  obtain ⟨hown, hcovers⟩ := hr.builtUp.ownAttributes_of_merge hfind hmerge
  obtain ⟨hattr, htarget⟩ := hr.builtUp.declares_of_mem_localAliases hfind ha
  exact TagType.equates_iff hown hcovers hattr htarget

section Chain

def chainOnly : TagRegistry := builtin.registerEach [chainType]

def firstTag : Tag := (Tag.named "Chain").set "first" (.text "/a")

def lastTag : Tag := (Tag.named "Chain").set "last" (.text "/a")

theorem merge_equates_first : chainOnly.Reachable ∧ chainOnly.get? firstTag.name = some chainType ∧
    ⟨"middle", "Chain", "last"⟩ ∈ chainType.localAliases ∧
    ∃ m, chainOnly.merge firstTag firstTag.name = .ok (some m) ∧
      m.get? "last" = some (.text "/a") ∧ m.Equates ⟨"middle", "Chain", "last"⟩ ∧
      ∀ value, chainType.Arrives firstTag value "middle" ↔
        chainType.Arrives firstTag value "last" := by
  have hreachable : chainOnly.Reachable := ⟨_, .inr rfl⟩
  have hfind : chainOnly.get? firstTag.name = some chainType := rfl
  have hmem : ⟨"middle", "Chain", "last"⟩ ∈ chainType.localAliases := by decide
  obtain ⟨m, hmerge, hmiddle, hlast⟩ : ∃ m, chainOnly.merge firstTag firstTag.name = .ok (some m) ∧
      m.get? "middle" = some (.text "/a") ∧ m.get? "last" = some (.text "/a") :=
    ⟨_, rfl, rfl, rfl⟩
  have hequates : m.Equates ⟨"middle", "Chain", "last"⟩ :=
    ⟨.text "/a", .text "/a", hmiddle, hlast, .inr rfl⟩
  exact ⟨hreachable, hfind, hmem, m, hmerge, hlast, hequates,
    (hreachable.merge_equates_iff hfind hmerge hmem).1 hequates⟩

/-- Against the order of the aliases, the value of the last attribute does not arrive at the first
one, and the ends of the alias between the first two differ. -/
theorem merge_last_unequal : chainOnly.Reachable ∧ chainOnly.get? lastTag.name = some chainType ∧
    ⟨"first", "Chain", "middle"⟩ ∈ chainType.localAliases ∧
    ∃ m, chainOnly.merge lastTag lastTag.name = .ok (some m) ∧
      m.get? "first" = some (.text "") ∧ m.get? "middle" = some (.text "/a") ∧
      ¬ m.Equates ⟨"first", "Chain", "middle"⟩ := by
  refine ⟨⟨_, .inr rfl⟩, rfl, by decide, _, rfl, rfl, rfl, ?_⟩
  rintro ⟨v, w, hv, hw, hvw⟩
  obtain rfl := Option.some.inj (hv.symm.trans (rfl : _ = some (TagValue.text "")))
  obtain rfl := Option.some.inj (hw.symm.trans (rfl : _ = some (TagValue.text "/a")))
  revert hvw
  decide

end Chain

end TagRegistry

end RequestRouting
