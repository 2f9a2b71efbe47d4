import RequestRouting.Proofs.Tag.Arriving

/-! A tag that sets one of two attributes that stand for each other. Where no other local alias
has a part in them, the value goes to both, or merging fails. The value is compared with the
default of the attribute that is left out as if the tag had set that too, so a default that is not
empty must be the same. -/
namespace RequestRouting

theorem Alias.Joins.clashes_iff {a : Alias} {valueOf? : String → Option TagValue}
    {attr other : String} (h : a.Joins attr other) :
    Clashes valueOf? attr other ↔ Clashes valueOf? a.attr a.targetAttr := by
  rcases h with ⟨rfl, rfl⟩ | ⟨rfl, rfl⟩
  · rfl
  · exact ⟨Clashes.symm, Clashes.symm⟩

namespace TagType

variable {t : TagType} {tag : Tag} {values values' : Dictionary TagValue} {a : Alias}

theorem equateAlias_eq_error_iff {e : MappingError} : t.equateAlias values a = .error e ↔
    Clashes (filled? values) a.attr a.targetAttr ∧
      .aliasConflict t.name a.targetAttr a.attr = e := by
  rcases equateAlias_cases t values a with ⟨values', hok, hspreads⟩ | ⟨herror, hclash⟩
  · have hagree : ¬ Clashes (filled? values) a.attr a.targetAttr := by
      rintro ⟨v, w, hv, hw, hne⟩
      obtain ⟨x, hx, hxv⟩ := hspreads.handed a.attr a.targetAttr v (.inl ⟨rfl, rfl⟩) hv
      obtain rfl := Option.some.inj (hx.symm.trans (hspreads.kept a.targetAttr w hw))
      exact hne hxv.symm
    simp [hok, hagree]
  · rw [herror, Except.error.injEq]
    exact ⟨fun h => ⟨hclash, h⟩, And.right⟩

/-- Aliases that share no attribute with the ends of `a` change nothing about whether these clash,
and neither does `a` itself. -/
theorem clashes_iff_of_foldlM {aliases : List Alias}
    (h : aliases.foldlM t.equateAlias values = .ok values')
    (hunshared : ∀ b ∈ aliases, ∀ attr, a.HasEnd attr → b.HasEnd attr → b = a) :
    Clashes (filled? values') a.attr a.targetAttr ↔
      Clashes (filled? values) a.attr a.targetAttr := by
  constructor
  · rintro ⟨v, w, hv, hw, hne⟩
    obtain ⟨p, hp, hpv⟩ := exists_handsOn_of_foldlM h hv
    obtain ⟨q, hq, hqw⟩ := exists_handsOn_of_foldlM h hw
    have hpEnd : a.HasEnd p := hasEnd_of_handsOn hunshared (.inl rfl) hp
    have hqEnd : a.HasEnd q := hasEnd_of_handsOn hunshared (.inr rfl) hq
    rcases hpEnd.eq_or_joins hqEnd with rfl | hjoins
    · obtain rfl := Option.some.inj (hpv.symm.trans hqw)
      exact absurd rfl hne
    · exact hjoins.clashes_iff.1 ⟨v, w, hpv, hqw, hne⟩
  · rintro ⟨v, w, hv, hw, hne⟩
    obtain ⟨x, hx, hxv⟩ := exists_filled?_of_foldlM h (handsOn_self _ _) hv
    obtain ⟨y, hy, hyw⟩ := exists_filled?_of_foldlM h (handsOn_self _ _) hw
    refine ⟨x, y, hx, hy, ?_⟩
    rwa [hxv, hyw]

/-- The local aliases are gone through up to this one without a conflict. -/
def Reaches (t : TagType) (tag : Tag) (a : Alias) : Prop :=
  ∃ before, before ++ [a] <+: t.localAliases ∧ ¬ Contradicts (t.valueOf? tag) (HandsOn before)

theorem ownAttributes_eq_error_iff {e : MappingError} : t.ownAttributes tag = .error e ↔
    t.localAliases.foldlM t.equateAlias (t.defaults.insertMany tag.attrs.entries) = .error e := by
  unfold ownAttributes equateAliases
  cases t.localAliases.foldlM t.equateAlias (t.defaults.insertMany tag.attrs.entries) with
  | error e' => simp [bind, Except.bind]
  | ok values => simp [bind, Except.bind, pure, Except.pure]

theorem ownAttributes_conflict_iff
    (hunshared : ∀ b ∈ t.localAliases, ∀ attr, a.HasEnd attr → b.HasEnd attr → b = a) :
    (∃ name p q, a.Joins p q ∧ t.ownAttributes tag = .error (.aliasConflict name p q)) ↔
      Clashes (t.valueOf? tag) a.attr a.targetAttr ∧ t.Reaches tag a := by
  simp only [ownAttributes_eq_error_iff, Reaches, valueOf?_eq_filled?]
  generalize t.defaults.insertMany tag.attrs.entries = values
  -- aliases before `a` share no attribute with it, so its ends are as they were
  have hbefore : ∀ {before}, before ++ [a] <+: t.localAliases →
      ∀ b ∈ before, ∀ attr, a.HasEnd attr → b.HasEnd attr → b = a := by
    intro before hfront b hb
    exact hunshared b (hfront.subset (List.mem_append_left _ hb))
  constructor
  · rintro ⟨name, p, q, hjoins, herror⟩
    obtain ⟨before, b, c, hfront, hok, hb⟩ := Outcome.foldlM_eq_error.1 herror
    obtain ⟨hclash, heq⟩ := equateAlias_eq_error_iff.1 hb
    obtain ⟨-, rfl, rfl⟩ := MappingError.aliasConflict.inj heq
    obtain rfl : b = a := hunshared b (hfront.subset (by simp)) b.attr hjoins.hasEnd.2 (.inl rfl)
    exact ⟨(clashes_iff_of_foldlM hok (hbefore hfront)).1 hclash, before, hfront,
      (foldlM_equateAlias_ok_iff t before values).1 ⟨c, hok⟩⟩
  · rintro ⟨hclash, before, hfront, hnone⟩
    obtain ⟨c, hok⟩ := (foldlM_equateAlias_ok_iff t before values).2 hnone
    have hclash' := (clashes_iff_of_foldlM hok (hbefore hfront)).2 hclash
    exact ⟨t.name, a.targetAttr, a.attr, .inr ⟨rfl, rfl⟩,
      Outcome.foldlM_eq_error.2 ⟨before, a, c, hfront, hok,
        equateAlias_eq_error_iff.2 ⟨hclash', rfl⟩⟩⟩

section Supplied

variable {attr other : String} {v : TagValue}

theorem valueOf?_of_set (hset : tag.attrs.get? attr = some v) (hv : v.isEmpty = false) :
    t.valueOf? tag attr = some v := by
  simp [valueOf?, hset, hv]

theorem valueOf?_of_unset (hunset : tag.attrs.get? other = none) {d : TagValue} :
    t.valueOf? tag other = some d ↔ t.defaults.get? other = some d ∧ d.isEmpty = false := by
  simp [valueOf?, hunset, Option.filter_eq_some_iff]

theorem clashes_iff_default (hset : tag.attrs.get? attr = some v) (hv : v.isEmpty = false)
    (hunset : tag.attrs.get? other = none) : Clashes (t.valueOf? tag) attr other ↔
      ∃ d, t.defaults.get? other = some d ∧ d.isEmpty = false ∧ d.normalized ≠ v.normalized := by
  unfold Clashes
  simp only [valueOf?_of_set hset hv, valueOf?_of_unset hunset]
  constructor
  · rintro ⟨w, d, hw, ⟨hd, hfilled⟩, hne⟩
    obtain rfl := Option.some.inj hw
    exact ⟨d, hd, hfilled, hne.symm⟩
  · rintro ⟨d, hd, hfilled, hne⟩
    exact ⟨v, d, rfl, ⟨hd, hfilled⟩, hne.symm⟩

end Supplied

end TagType

namespace TagRegistry

variable {r : TagRegistry} {t : TagType} {tag : Tag} {a : Alias} {attr other : String}
  {v : TagValue}

/-- A tag sets one of the two attributes of an alias that no other local alias shares, to a value
that is not empty. Merged into its own type, it has this value at both, unless that fails. The two
attributes are the reason exactly when the other one has a different default and no conflict is
found before. -/
theorem Reachable.merge_supplied (hr : r.Reachable) (hfind : r.get? tag.name = some t)
    (hadmits : t.Admits tag) (ha : a ∈ t.localAliases)
    (hunshared : ∀ b ∈ t.localAliases, ∀ attr, a.HasEnd attr → b.HasEnd attr → b = a)
    (hjoins : a.Joins attr other) (hset : tag.attrs.get? attr = some v) (hv : v.isEmpty = false)
    (hunset : tag.attrs.get? other = none) :
    (∀ m, r.merge tag tag.name = .ok (some m) →
        ∀ p, a.HasEnd p → ∃ w, m.get? p = some w ∧ w.normalized = v.normalized) ∧
      ((∃ name p q, a.Joins p q ∧ r.merge tag tag.name = .error (.aliasConflict name p q)) ↔
        (∃ d, t.defaults.get? other = some d ∧ d.isEmpty = false ∧ d.normalized ≠ v.normalized) ∧
          t.Reaches tag a) := by
  refine ⟨fun m hmerge p hp => ?_, ?_⟩
  · obtain ⟨hown, -⟩ := hr.builtUp.ownAttributes_of_merge hfind hmerge
    have harrives : t.Arrives tag v.normalized p :=
      ⟨attr, v, TagType.valueOf?_of_set hset hv, rfl,
        TagType.handsOn_of_hasEnd ha hjoins.hasEnd.1 hp⟩
    rw [TagType.arrives_iff hown, Option.map_eq_some_iff] at harrives
    obtain ⟨w, hw, hwv⟩ := harrives
    exact ⟨w, (Option.filter_eq_some_iff.1 hw).1, hwv⟩
  · rw [← TagType.clashes_iff_default hset hv hunset, hjoins.clashes_iff,
      ← TagType.ownAttributes_conflict_iff hunshared, hr.builtUp.merge_of_declared hfind hadmits,
      if_pos (name_of_find? hfind)]
    cases t.ownAttributes tag with
    | error e => simp [Except.map]
    | ok attributes => simp [Except.map]

section Page

def pageType : TagType where
  name := "Page"
  defaults := .ofList [("value", .text ""), ("path", .text "/home")]
  metas := []
  aliases := [⟨"value", "Page", "path"⟩]

def pageRegistry : TagRegistry := builtin.registerEach [pageType]

def pathTag : Tag := (Tag.named "Page").set "path" (.text "/a")

def valueTag : Tag := (Tag.named "Page").set "value" (.text "/a")

theorem unshared_pageType : ∀ b ∈ pageType.localAliases, ∀ attr,
    Alias.HasEnd ⟨"value", "Page", "path"⟩ attr → b.HasEnd attr →
      b = ⟨"value", "Page", "path"⟩ := by
  intro b hb _ _ _
  exact List.mem_singleton.1 hb

theorem merge_supplied_path : pageRegistry.Reachable ∧
    pageRegistry.get? pathTag.name = some pageType ∧
    ∃ m, pageRegistry.merge pathTag pathTag.name = .ok (some m) ∧
      ∃ w, m.get? "value" = some w ∧ w.normalized = .texts ["/a"] := by
  have hreachable : pageRegistry.Reachable := ⟨_, .inr rfl⟩
  have hfind : pageRegistry.get? pathTag.name = some pageType := rfl
  obtain ⟨m, hmerge⟩ : ∃ m, pageRegistry.merge pathTag pathTag.name = .ok (some m) := ⟨_, rfl⟩
  have hsupplied := hreachable.merge_supplied hfind (by decide) (by decide) unshared_pageType
    (.inr ⟨rfl, rfl⟩ : Alias.Joins _ "path" "value") (v := .text "/a") rfl rfl rfl
  exact ⟨hreachable, hfind, m, hmerge, hsupplied.1 m hmerge "value" (.inl rfl)⟩

/-- The other name is set and the path left out, and its default counts as a second value. -/
theorem merge_value_clashes_with_default : pageRegistry.Reachable ∧
    pageRegistry.get? valueTag.name = some pageType ∧ pageType.Admits valueTag ∧
    ⟨"value", "Page", "path"⟩ ∈ pageType.localAliases ∧
    (∀ b ∈ pageType.localAliases, ∀ attr, Alias.HasEnd ⟨"value", "Page", "path"⟩ attr →
      b.HasEnd attr → b = ⟨"value", "Page", "path"⟩) ∧
    valueTag.attrs.get? "value" = some (.text "/a") ∧ valueTag.attrs.get? "path" = none ∧
    pageRegistry.merge valueTag valueTag.name =
      .error (.aliasConflict "Page" "path" "value") :=
  ⟨⟨_, .inr rfl⟩, rfl, by decide, by decide, unshared_pageType, rfl, rfl, rfl⟩

end Page

end TagRegistry

end RequestRouting
