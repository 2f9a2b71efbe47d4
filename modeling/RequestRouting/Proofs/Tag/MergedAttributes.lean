import RequestRouting.Proofs.Tag.Conflict

/-! What merging a tag comes to. A tag of an unregistered type has no result, and a tag that sets
what its type lacks is refused; that is the only check of attributes that can fail, for what a tag
hands on is always declared where it goes. Apart from conflicts between aliases, a tag that leads to
the target is merged into the attributes that the target declares, all of them and no others. -/
namespace RequestRouting

def AttributeMap.Covers (m : AttributeMap) (t : TagType) : Prop :=
  ∀ attr, attr ∈ m.values.keys ↔ t.declares attr = true

namespace TagType

variable {t : TagType} {tag : Tag} {values values' : Dictionary TagValue}

def Admits (t : TagType) (tag : Tag) : Prop := ∀ attr ∈ tag.attrs.keys, t.declares attr = true

instance : Decidable (t.Admits tag) :=
  inferInstanceAs (Decidable (∀ attr ∈ tag.attrs.keys, t.declares attr = true))

theorem not_admits_iff : ¬ t.Admits tag ↔ ∃ attr ∈ tag.attrs.keys, t.declares attr = false := by
  simp [Admits]

theorem checkDeclared_eq_ok_iff : t.checkDeclared tag = .ok () ↔ t.Admits tag := by
  unfold Admits
  rw [← undeclared?_eq_none_iff, checkDeclared]
  cases t.undeclared? tag <;> simp

theorem declares_eq_true_iff {attr : String} :
    t.declares attr = true ↔ attr ∈ t.defaults.keys := Dictionary.contains_eq_true_iff

theorem mem_keys_insert_of_mem {attr other : String} {v : TagValue} (h : attr ∈ values.keys) :
    other ∈ (values.insert attr v).keys ↔ other ∈ values.keys := by
  rw [Dictionary.mem_keys_insert]
  constructor
  · rintro (rfl | hother)
    · exact h
    · exact hother
  · exact .inr

theorem mem_keys_equateAlias {a : Alias} (h : t.equateAlias values a = .ok values')
    (hattr : a.attr ∈ values.keys) (htarget : a.targetAttr ∈ values.keys) (attr : String) :
    attr ∈ values'.keys ↔ attr ∈ values.keys := by
  unfold equateAlias at h
  dsimp only at h
  split at h
  · split at h
    · rw [Except.ok.inj h]
    · contradiction
  · rw [← Except.ok.inj h]
    exact mem_keys_insert_of_mem htarget
  · rw [← Except.ok.inj h]
    exact mem_keys_insert_of_mem hattr
  · rw [Except.ok.inj h]

theorem mem_keys_foldlM_equateAlias {aliases : List Alias}
    (h : aliases.foldlM t.equateAlias values = .ok values')
    (hends : ∀ a ∈ aliases, a.attr ∈ values.keys ∧ a.targetAttr ∈ values.keys) (attr : String) :
    attr ∈ values'.keys ↔ attr ∈ values.keys := by
  induction aliases generalizing values with
  | nil => rw [Except.ok.inj h]
  | cons a rest ih =>
    rw [List.foldlM_cons, Outcome.bind_eq_ok] at h
    obtain ⟨next, hnext, hrest⟩ := h
    obtain ⟨hattr, htarget⟩ := hends a List.mem_cons_self
    have hkeys := mem_keys_equateAlias hnext hattr htarget
    rw [ih hrest, hkeys]
    intro b hb
    rw [hkeys, hkeys]
    exact hends b (List.mem_cons_of_mem a hb)

theorem covers_of_ownAttributes {m : AttributeMap} (h : t.ownAttributes tag = .ok m)
    (hlocal : ∀ a ∈ t.localAliases, t.declares a.attr = true ∧ t.declares a.targetAttr = true)
    (hadmits : t.Admits tag) : m.tag = t.name ∧ m.Covers t := by
  obtain ⟨values, hvalues, h⟩ := Outcome.bind_eq_ok.1 h
  obtain rfl := Outcome.pure_eq_ok.1 h
  have hstart : ∀ attr, attr ∈ (t.defaults.insertMany tag.attrs.entries).keys ↔
      t.declares attr = true := by
    intro attr
    rw [Dictionary.mem_keys_insertMany, declares_eq_true_iff]
    apply or_iff_right_of_imp
    intro hattr
    exact declares_eq_true_iff.1 (hadmits attr hattr)
  refine ⟨rfl, fun attr => ?_⟩
  rw [← hstart]
  apply mem_keys_foldlM_equateAlias hvalues
  intro a ha
  rw [hstart, hstart]
  exact hlocal a ha

end TagType

namespace TagRegistry

variable {r : TagRegistry} {t u : TagType} {tag carriedTag c : Tag} {target : String}
  {types : List TagType}

theorem BuiltUp.exists_ownAttributes (h : BuiltUp types) {m : AttributeMap}
    (hmerge : mergeIn types tag target = .ok (some m)) :
    ∃ u c, find? types target = some u ∧ u.Admits c ∧ u.ownAttributes c = .ok m := by
  induction h generalizing tag with
  | nil => simp [mergeIn] at hmerge
  | @cons t earlier ht _ ih =>
    -- what is found among the earlier types has another name than the new one
    have hlift : ∀ u, find? earlier target = some u → find? (t :: earlier) target = some u := by
      intro u hu
      rw [find?_cons_of_ne]
      · exact hu
      · rintro rfl
        have hnew : find? earlier t.name = none := ht.new
        rw [hu] at hnew
        contradiction
    have hearlier : ∀ tag, mergeIn earlier tag target = .ok (some m) →
        ∃ u c, find? (t :: earlier) target = some u ∧ u.Admits c ∧ u.ownAttributes c = .ok m := by
      intro tag hmerge
      obtain ⟨u, c, hu, hc⟩ := ih hmerge
      exact ⟨u, c, hlift u hu, hc⟩
    by_cases hname : t.name = tag.name
    · rw [mergeIn, if_pos hname, Outcome.bind_eq_ok] at hmerge
      obtain ⟨_, hchecked, hmerge⟩ := hmerge
      split at hmerge
      · next htarget =>
        obtain ⟨attributes, hown, hmerge⟩ := Outcome.bind_eq_ok.1 hmerge
        obtain rfl : attributes = m := by simpa [pure, Except.pure] using hmerge
        exact ⟨t, tag, by rw [find?_cons, if_pos htarget],
          TagType.checkDeclared_eq_ok_iff.1 hchecked, hown⟩
      · obtain ⟨carriedTag, -, hcarried⟩ := exists_of_firstResult hmerge
        split at hcarried
        · obtain ⟨c, -, hc⟩ := Outcome.bind_eq_ok.1 hcarried
          exact hearlier c hc
        · simp [pure, Except.pure] at hcarried
    · rw [mergeIn_cons_of_ne hname] at hmerge
      exact hearlier tag hmerge

theorem BuiltUp.declares_of_mem_localAliases (h : BuiltUp r.types) {name : String}
    (hfind : r.get? name = some t) {a : Alias} (ha : a ∈ t.localAliases) :
    t.declares a.attr = true ∧ t.declares a.targetAttr = true := by
  obtain ⟨ha, hown⟩ := List.mem_filter.1 ha
  obtain ⟨hattr, ⟨-, htarget⟩ | ⟨hother, -⟩⟩ := h.aliases hfind ha
  · exact ⟨hattr, htarget⟩
  · exact absurd (beq_iff_eq.1 hown) hother

theorem BuiltUp.covers_of_merge (h : BuiltUp r.types) {m : AttributeMap}
    (hmerge : r.merge tag target = .ok (some m)) :
    m.tag = target ∧ ∃ u, r.get? target = some u ∧ m.Covers u := by
  obtain ⟨u, c, hu, hadmits, hown⟩ := h.exists_ownAttributes hmerge
  have hlocal : ∀ a ∈ u.localAliases, u.declares a.attr = true ∧ u.declares a.targetAttr = true :=
    fun _ ha => h.declares_of_mem_localAliases hu ha
  obtain ⟨htag, hcovers⟩ := TagType.covers_of_ownAttributes hown hlocal hadmits
  exact ⟨htag.trans (name_of_find? hu), u, hu, hcovers⟩

theorem BuiltUp.merge_of_undeclared (h : BuiltUp r.types) (hfind : r.get? tag.name = some t)
    {attr : String} (hattr : t.undeclared? tag = some attr) :
    r.merge tag target = .error (.badAttribute t.name attr .undeclared) := by
  rw [h.merge_eq hfind, TagType.checkDeclared, hattr]
  rfl

theorem BuiltUp.merge_of_not_leads (h : BuiltUp r.types) (hfind : r.get? tag.name = some t)
    (hadmits : t.Admits tag) (hleads : r.isOrCarries tag.name target = false) :
    r.merge tag target = .ok none := by
  have htarget : t.name ≠ target := by
    intro heq
    have hself : tag.name = target := (name_of_find? hfind).symm.trans heq
    rw [isOrCarries, isOrCarriesIn_of_eq r.types hself] at hleads
    contradiction
  have hnext : r.next? target t = none := by
    simpa [h.isOrCarries_eq hfind htarget] using hleads
  exact (h.merge_of_next?_eq_none hfind hadmits htarget hnext).1

/-- A tag that leads to the target comes to the attributes of the target, unless aliases contradict
each other on the way. -/
theorem BuiltUp.merge_of_leads (h : BuiltUp r.types) (hfind : r.get? tag.name = some t)
    (hadmits : t.Admits tag) (hleads : r.isOrCarries tag.name target = true) :
    (∃ name attr other, r.merge tag target = .error (.aliasConflict name attr other)) ∨
      ∃ m, r.merge tag target = .ok (some m) ∧ m.tag = target ∧
        ∃ u, r.get? target = some u ∧ m.Covers u := by
  rcases h.merge_cases target hfind hadmits with ⟨result, hok, hsome, -⟩ | ⟨herror, -⟩
  · rw [hleads, Option.isSome_iff_exists] at hsome
    obtain ⟨m, rfl⟩ := hsome
    exact .inr ⟨m, hok, h.covers_of_merge hok⟩
  · exact .inl herror

theorem BuiltUp.merge_ne_none_of_leads (h : BuiltUp r.types) (hfind : r.get? tag.name = some t)
    (hadmits : t.Admits tag) (hleads : r.isOrCarries tag.name target = true) :
    r.merge tag target ≠ .ok none := by
  rcases h.merge_of_leads hfind hadmits hleads with ⟨name, attr, other, herror⟩ | ⟨m, hok, -⟩
  · simp [herror]
  · simp [hok]

theorem BuiltUp.merge_eq_none_iff (h : BuiltUp r.types) (hfind : r.get? tag.name = some t)
    (hadmits : t.Admits tag) :
    r.merge tag target = .ok none ↔ r.isOrCarries tag.name target = false := by
  cases hleads : r.isOrCarries tag.name target with
  | false => simp [h.merge_of_not_leads hfind hadmits hleads]
  | true => simp [h.merge_ne_none_of_leads hfind hadmits hleads]

/-- A refusal is about what the tag itself sets, never about a tag that it carries. -/
theorem BuiltUp.undeclared_of_refused (h : BuiltUp r.types) (hfind : r.get? tag.name = some t)
    {name attr : String} {fault : AttributeFault}
    (herror : r.merge tag target = .error (.badAttribute name attr fault)) :
    name = t.name ∧ fault = .undeclared ∧ attr ∈ tag.attrs.keys ∧ t.declares attr = false := by
  cases hfirst : t.undeclared? tag with
  | none =>
    rcases h.merge_cases target hfind (TagType.undeclared?_eq_none_iff.1 hfirst) with
      ⟨result, hok, -⟩ | ⟨⟨_, _, _, hconflict⟩, -⟩
    · simp [hok] at herror
    · simp [hconflict] at herror
  | some first =>
    rw [h.merge_of_undeclared hfind hfirst] at herror
    simp only [Except.error.injEq, MappingError.badAttribute.injEq] at herror
    obtain ⟨rfl, rfl, rfl⟩ := herror
    refine ⟨rfl, rfl, List.mem_of_find?_eq_some hfirst, ?_⟩
    simpa using List.find?_some hfirst

theorem BuiltUp.refused_iff (h : BuiltUp r.types) (hfind : r.get? tag.name = some t) :
    (∃ name attr fault, r.merge tag target = .error (.badAttribute name attr fault)) ↔
      ∃ attr ∈ tag.attrs.keys, t.declares attr = false := by
  constructor
  · rintro ⟨name, attr, fault, herror⟩
    obtain ⟨-, -, hattr⟩ := h.undeclared_of_refused hfind herror
    exact ⟨attr, hattr⟩
  · intro hrefused
    cases hfirst : t.undeclared? tag with
    | none =>
      have hadmits : t.Admits tag := TagType.undeclared?_eq_none_iff.1 hfirst
      exact absurd hadmits (TagType.not_admits_iff.2 hrefused)
    | some first => exact ⟨_, _, _, h.merge_of_undeclared hfind hfirst⟩

/-- How merging answers: with nothing for a tag of an unregistered type, with a refusal for one that
sets what its type lacks, with nothing for one that does not lead to the target, and otherwise with
the attributes of the target or a conflict. -/
structure MergesSoundly (r : TagRegistry) (tag : Tag) (target : String) : Prop where
  unregistered : r.get? tag.name = none → r.merge tag target = .ok none
  refused_iff : ∀ t, r.get? tag.name = some t →
    ((∃ name attr fault, r.merge tag target = .error (.badAttribute name attr fault)) ↔
      ∃ attr ∈ tag.attrs.keys, t.declares attr = false)
  refused : ∀ t, r.get? tag.name = some t → ∀ name attr fault,
    r.merge tag target = .error (.badAttribute name attr fault) →
      name = t.name ∧ fault = .undeclared ∧ attr ∈ tag.attrs.keys ∧ t.declares attr = false
  none_iff : ∀ t, r.get? tag.name = some t → t.Admits tag →
    (r.merge tag target = .ok none ↔ r.isOrCarries tag.name target = false)
  covers : ∀ t, r.get? tag.name = some t → t.Admits tag → r.isOrCarries tag.name target = true →
    (∃ name attr other, r.merge tag target = .error (.aliasConflict name attr other)) ∨
      ∃ m, r.merge tag target = .ok (some m) ∧ m.tag = target ∧
        ∃ u, r.get? target = some u ∧ m.Covers u
  carried : ∀ t, r.get? tag.name = some t → ∀ carriedTag ∈ t.metas,
    r.isOrCarries carriedTag.name target = true →
      ∀ c, t.carried (r.get? carriedTag.name) tag carriedTag = .ok c → r.merge c target ≠ .ok none

theorem Reachable.mergesSoundly (hr : r.Reachable) (tag : Tag) (target : String) :
    r.MergesSoundly tag target where
  unregistered hfind := mergeIn_of_find?_eq_none hfind
  refused_iff _ hfind := hr.builtUp.refused_iff hfind
  refused _ hfind _ _ _ herror := hr.builtUp.undeclared_of_refused hfind herror
  none_iff _ hfind hadmits := hr.builtUp.merge_eq_none_iff hfind hadmits
  covers _ hfind hadmits hleads := hr.builtUp.merge_of_leads hfind hadmits hleads
  carried t hfind carriedTag hmem hleads c hc := by
    obtain ⟨u, hu, -⟩ := hr.builtUp.exists_of_mem_metas hfind hmem
    change r.get? carriedTag.name = some u at hu
    rw [hu] at hc
    have hadmits : u.Admits c := hr.builtUp.declares_of_carried hfind hmem hu hc
    rw [← TagType.name_carried hc] at hu hleads
    exact hr.builtUp.merge_ne_none_of_leads hu hadmits hleads

section Both

def pathType (name : String) (method : Method) : TagType where
  name := name
  defaults := .ofList [("path", .texts [])]
  metas := [Tag.requestMapping.set "method" (.methods [method])]
  aliases := [⟨"path", Tag.requestMappingName, "path"⟩]

def bothType : TagType where
  name := "Both"
  defaults := .ofList [("at", .texts [])]
  metas := [.named "Read", .named "Write"]
  aliases := [⟨"at", "Read", "path"⟩, ⟨"at", "Write", "path"⟩]

def bothRegistry : TagRegistry :=
  builtin.registerEach [pathType "Read" .get, pathType "Write" .post, bothType]

def bothTag : Tag := (Tag.named "Both").set "at" (.text "/a")

theorem merge_both : bothRegistry.Reachable ∧
    ∃ m, bothRegistry.merge bothTag Tag.requestMappingName = .ok (some m) ∧
      m.Covers TagType.requestMapping := by
  have hreachable : bothRegistry.Reachable := ⟨_, .inr rfl⟩
  have hsound := hreachable.mergesSoundly bothTag Tag.requestMappingName
  rcases hsound.covers bothType rfl (by decide) rfl with
    ⟨_, _, _, herror⟩ | ⟨m, hm, -, u, hu, hcovers⟩
  · contradiction
  · obtain rfl := Option.some.inj hu
    exact ⟨hreachable, m, hm, hcovers⟩

end Both

end TagRegistry

end RequestRouting
