import RequestRouting.Proofs.Tag.Descent
import RequestRouting.Proofs.Tag.Equating
import RequestRouting.Proofs.Tag.HandingOver

/-! When merging a tag reports that aliases contradict each other. At every tag on the way to the
target only one step is looked at: the aliases that lead to the next tag, or at the target the local
ones. Two values that meet in no single step are never compared, even if they stand for the same
attribute of the target. -/
namespace RequestRouting

namespace TagRegistry

variable {r : TagRegistry} {t u : TagType} {tag carriedTag c : Tag} {target : String}

def next? (r : TagRegistry) (target : String) (t : TagType) : Option Tag :=
  t.metas.find? fun carriedTag => r.isOrCarries carriedTag.name target

def GoesOn (r : TagRegistry) (target : String) (tag c : Tag) : Prop :=
  ∃ t carriedTag u, r.get? tag.name = some t ∧ t.name ≠ target ∧
    r.next? target t = some carriedTag ∧ r.get? carriedTag.name = some u ∧
    u.HandedOver (t.supplied? tag carriedTag.name) carriedTag c

/-- What an attribute stands for in one step: at the target another attribute of the same tag,
before it an attribute of the next tag. -/
def StandsFor (r : TagRegistry) (target : String) (t : TagType) (attr other : String) : Prop :=
  t.name = target ∧ TagType.HandsOn t.localAliases attr other ∨
    t.name ≠ target ∧ ∃ carriedTag, r.next? target t = some carriedTag ∧
      t.AliasOf carriedTag.name attr other

def ConflictAt (r : TagRegistry) (target : String) (tag : Tag) : Prop :=
  ∃ t, r.get? tag.name = some t ∧ Contradicts (t.valueOf? tag) (r.StandsFor target t)

/-- Somewhere on the way from the tag to the target, two different values meet in one step. -/
inductive Conflict (r : TagRegistry) (target : String) : Tag → Prop
  | here {tag : Tag} (h : r.ConflictAt target tag) : Conflict r target tag
  | further {tag c : Tag} (hc : r.GoesOn target tag c) (h : Conflict r target c) :
    Conflict r target tag

theorem standsFor_of_eq (h : t.name = target) :
    r.StandsFor target t = TagType.HandsOn t.localAliases := by
  funext attr other
  simp [StandsFor, h]

theorem standsFor_of_next? (h : t.name ≠ target) (hnext : r.next? target t = some carriedTag) :
    r.StandsFor target t = t.AliasOf carriedTag.name := by
  funext attr other
  simp [StandsFor, h, hnext]

theorem conflictAt_iff (hfind : r.get? tag.name = some t) :
    r.ConflictAt target tag ↔ Contradicts (t.valueOf? tag) (r.StandsFor target t) := by
  simp [ConflictAt, hfind]

theorem GoesOn.unique {c' : Tag} (h : r.GoesOn target tag c) (h' : r.GoesOn target tag c') :
    c = c' := by
  obtain ⟨t, carriedTag, u, ht, -, hnext, hu, hover⟩ := h
  obtain ⟨t', carriedTag', u', ht', -, hnext', hu', hover'⟩ := h'
  obtain rfl := Option.some.inj (ht.symm.trans ht')
  obtain rfl := Option.some.inj (hnext.symm.trans hnext')
  obtain rfl := Option.some.inj (hu.symm.trans hu')
  exact hover.unique hover'

theorem conflict_iff_of_goesOn (hhere : ¬ r.ConflictAt target tag) (hc : r.GoesOn target tag c) :
    r.Conflict target tag ↔ r.Conflict target c := by
  constructor
  · intro h
    cases h with
    | here h => exact absurd h hhere
    | further hc' h =>
      rw [hc.unique hc']
      exact h
  · exact .further hc

theorem conflict_iff_of_stops (hstops : ∀ c, ¬ r.GoesOn target tag c) :
    r.Conflict target tag ↔ r.ConflictAt target tag := by
  constructor
  · intro h
    cases h with
    | here h => exact h
    | further hc _ => exact absurd hc (hstops _)
  · exact .here

theorem BuiltUp.declares_of_carried (h : BuiltUp r.types) (hfind : r.get? tag.name = some t)
    (hmem : carriedTag ∈ t.metas) (hu : r.get? carriedTag.name = some u)
    (hc : t.carried (some u) tag carriedTag = .ok c) :
    ∀ attr ∈ c.attrs.keys, u.declares attr = true := by
  intro attr hattr
  -- an attribute was set before, or an alias names it; both were checked on registering
  rcases TagType.mem_keys_carried hc hattr with hkey | ⟨a, ha, rfl⟩
  · obtain ⟨u', hu', hdeclares⟩ := h.exists_of_mem_metas hfind hmem
    obtain rfl := Option.some.inj (hu.symm.trans hu')
    exact hdeclares attr hkey
  · obtain ⟨ha, htarget⟩ := List.mem_filter.1 ha
    rw [beq_iff_eq] at htarget
    rcases (h.aliases hfind ha).2 with ⟨hown, -⟩ | ⟨-, -, u', hu', hdeclares⟩
    · have hlt := h.rank_lt hfind hmem
      rw [← htarget, hown, name_of_find? hfind] at hlt
      exact absurd hlt (Nat.lt_irrefl _)
    · rw [htarget, hu] at hu'
      obtain rfl := Option.some.inj hu'
      exact hdeclares

theorem mergeCarried_of_not (t : TagType) (tag : Tag)
    (h : r.isOrCarries carriedTag.name target = false) :
    r.mergeCarried target t tag carriedTag = .ok none := by
  unfold mergeCarried
  rw [h]
  rfl

theorem isOrCarries_of_next? (hnext : r.next? target t = some carriedTag) :
    r.isOrCarries carriedTag.name target = true := by
  have hfound := List.find?_some hnext
  exact hfound

theorem mergeCarried_of_next? (hnext : r.next? target t = some carriedTag) :
    r.mergeCarried target t tag carriedTag =
      (t.carried (r.get? carriedTag.name) tag carriedTag).bind (r.merge · target) := by
  unfold mergeCarried
  rw [if_pos (isOrCarries_of_next? hnext)]
  rfl

structure ComesTo (r : TagRegistry) (target : String) (tag c : Tag) : Prop where
  carries : r.Carries tag.name c.name
  leads : r.isOrCarries c.name target = true
  declared : ∃ u, r.get? c.name = some u ∧ ∀ attr ∈ c.attrs.keys, u.declares attr = true
  conflict_iff : r.Conflict target tag ↔ r.Conflict target c
  merge_eq : r.merge c target ≠ .ok none → r.merge tag target = r.merge c target

section Steps

variable (h : BuiltUp r.types) (hfind : r.get? tag.name = some t)
  (hdeclared : ∀ attr ∈ tag.attrs.keys, t.declares attr = true)
include h hfind hdeclared

theorem BuiltUp.merge_of_declared :
    r.merge tag target = if t.name = target then (t.ownAttributes tag).map some
      else firstResult (r.mergeCarried target t tag) t.metas := by
  have hchecked : t.checkDeclared tag = .ok () := by
    unfold TagType.checkDeclared
    rw [TagType.undeclared?_eq_none_iff.2 hdeclared]
  rw [h.merge_eq hfind, hchecked]
  split
  · cases t.ownAttributes tag <;> rfl
  · rfl

theorem BuiltUp.merge_at_target (htarget : t.name = target) :
    (∃ attributes, r.merge tag target = .ok (some attributes) ∧ ¬ r.Conflict target tag) ∨
      (∃ name attr other, r.merge tag target = .error (.aliasConflict name attr other)) ∧
        r.Conflict target tag := by
  have hstops : ∀ c, ¬ r.GoesOn target tag c := by
    rintro c ⟨t', _, _, ht', hne, -⟩
    obtain rfl := Option.some.inj (hfind.symm.trans ht')
    exact hne htarget
  rw [conflict_iff_of_stops hstops, conflictAt_iff hfind, standsFor_of_eq htarget,
    h.merge_of_declared hfind hdeclared, if_pos htarget]
  rcases t.ownAttributes_cases tag with
    ⟨attributes, hok, hnone⟩ | ⟨⟨attr, other, herror⟩, hconflict⟩
  · rw [hok]
    exact .inl ⟨attributes, rfl, hnone⟩
  · rw [herror]
    exact .inr ⟨⟨t.name, attr, other, rfl⟩, hconflict⟩

theorem BuiltUp.merge_of_next?_eq_none (htarget : t.name ≠ target)
    (hnext : r.next? target t = none) :
    r.merge tag target = .ok none ∧ ¬ r.Conflict target tag := by
  have hstops : ∀ c, ¬ r.GoesOn target tag c := by
    rintro c ⟨t', carriedTag, _, ht', -, hnext', -⟩
    obtain rfl := Option.some.inj (hfind.symm.trans ht')
    rw [hnext] at hnext'
    contradiction
  rw [conflict_iff_of_stops hstops, conflictAt_iff hfind, h.merge_of_declared hfind hdeclared,
    if_neg htarget]
  constructor
  · exact firstResult_of_find?_eq_none (fun _ hskip => mergeCarried_of_not t tag hskip) hnext
  · rintro ⟨p, -, attr, -, -, -, -, -, ⟨heq, -⟩ | ⟨-, carriedTag, hnext', -⟩, -⟩
    · exact htarget heq
    · rw [hnext] at hnext'
      contradiction

theorem BuiltUp.merge_before_target (htarget : t.name ≠ target)
    (hnext : r.next? target t = some carriedTag) :
    (∃ c, r.ComesTo target tag c) ∨
      (∃ name attr other, r.merge tag target = .error (.aliasConflict name attr other)) ∧
        r.Conflict target tag := by
  have hmem : carriedTag ∈ t.metas := List.mem_of_find?_eq_some hnext
  obtain ⟨u, hu, -⟩ := h.exists_of_mem_metas hfind hmem
  have hmerge : r.mergeCarried target t tag carriedTag ≠ .ok none →
      r.merge tag target = r.mergeCarried target t tag carriedTag := by
    rw [h.merge_of_declared hfind hdeclared, if_neg htarget]
    exact firstResult_of_find?_eq_some (fun _ hskip => mergeCarried_of_not t tag hskip) hnext
  have hhere : r.ConflictAt target tag ↔
      Contradicts (t.valueOf? tag) (t.AliasOf carriedTag.name) := by
    rw [conflictAt_iff hfind, standsFor_of_next? htarget hnext]
  rw [mergeCarried_of_next? hnext] at hmerge
  -- the next tag is handed values, or two of them meet in this step
  rcases t.carried_cases (r.get? carriedTag.name) tag carriedTag with
    ⟨c, hc, hnone⟩ | ⟨⟨attr, other, herror⟩, hconflict⟩
  · rw [hc] at hmerge
    rw [get?, hu] at hc
    have hname : c.name = carriedTag.name := TagType.name_carried hc
    have hgoes : r.GoesOn target tag c :=
      ⟨t, carriedTag, u, hfind, htarget, hnext, hu, TagType.handedOver_of_carried hc⟩
    refine .inl ⟨c, ?_, ?_, ⟨u, ?_, ?_⟩, ?_, hmerge⟩
    · exact ⟨t, hfind, carriedTag, hmem, hname.symm⟩
    · rw [hname]
      exact isOrCarries_of_next? hnext
    · rw [hname]
      exact hu
    · exact h.declares_of_carried hfind hmem hu hc
    · exact conflict_iff_of_goesOn (hhere.not.2 hnone) hgoes
  · rw [herror] at hmerge
    refine .inr ⟨⟨t.name, attr, other, hmerge ?_⟩, .here (hhere.2 hconflict)⟩
    simp [Except.bind]

end Steps

theorem BuiltUp.isOrCarries_eq (h : BuiltUp r.types) (hfind : r.get? tag.name = some t)
    (htarget : t.name ≠ target) :
    r.isOrCarries tag.name target = (r.next? target t).isSome := by
  have hname : t.name = tag.name := name_of_find? hfind
  unfold isOrCarries next? get? at *
  rw [h.isOrCarriesIn_eq, hfind, Option.any_some, ← hname, beq_false_of_ne htarget, Bool.false_or]
  exact List.isSome_find?.symm

/-- What merging a tag of a registered type comes to: a result, which is there if the type leads to
the target, or a conflict. -/
theorem BuiltUp.merge_cases (h : BuiltUp r.types) (target : String)
    (hfind : r.get? tag.name = some t)
    (hdeclared : ∀ attr ∈ tag.attrs.keys, t.declares attr = true) :
    (∃ result, r.merge tag target = .ok result ∧
        result.isSome = r.isOrCarries tag.name target ∧ ¬ r.Conflict target tag) ∨
      (∃ name attr other, r.merge tag target = .error (.aliasConflict name attr other)) ∧
        r.Conflict target tag := by
  -- the next tag is one that the type carries, with other values
  induction hname : tag.name using h.wellFounded_carries.induction generalizing tag t with
  | _ name ih =>
    rw [← hname]
    by_cases htarget : t.name = target
    · have hself : tag.name = target := (name_of_find? hfind).symm.trans htarget
      rcases h.merge_at_target hfind hdeclared htarget with ⟨attributes, hok, hnone⟩ | herror
      · exact .inl ⟨some attributes, hok, (isOrCarriesIn_of_eq r.types hself).symm, hnone⟩
      · exact .inr herror
    · rw [h.isOrCarries_eq hfind htarget]
      cases hnext : r.next? target t with
      | none =>
        obtain ⟨hok, hnone⟩ := h.merge_of_next?_eq_none hfind hdeclared htarget hnext
        exact .inl ⟨none, hok, rfl, hnone⟩
      | some carriedTag =>
        rcases h.merge_before_target hfind hdeclared htarget hnext with ⟨c, hc⟩ | herror
        · obtain ⟨u, hu, hattrs⟩ := hc.declared
          rw [hc.conflict_iff]
          rcases ih c.name (hname ▸ hc.carries) hu hattrs rfl with
            ⟨result, hok, hsome, hnone⟩ | ⟨⟨name, attr, other, herror⟩, hconflict⟩
          · rw [hc.leads] at hsome
            have hmerge := hc.merge_eq (by rw [hok]; rintro ⟨⟩; contradiction)
            exact .inl ⟨result, hmerge.trans hok, hsome, hnone⟩
          · have hmerge := hc.merge_eq (by rw [herror]; rintro ⟨⟩)
            exact .inr ⟨⟨name, attr, other, hmerge.trans herror⟩, hconflict⟩
        · exact .inr herror

/-- Merging reports that aliases contradict each other exactly when somewhere on the way to the
target two different values meet in one step. -/
theorem merge_conflict_iff (hr : r.Reachable) (hfind : r.get? tag.name = some t)
    (hdeclared : ∀ attr ∈ tag.attrs.keys, t.declares attr = true) (target : String) :
    (∃ name attr other, r.merge tag target = .error (.aliasConflict name attr other)) ↔
      r.Conflict target tag := by
  rcases hr.builtUp.merge_cases target hfind hdeclared with
    ⟨result, hok, -, hnone⟩ | ⟨herror, hconflict⟩
  · constructor
    · rintro ⟨_, _, _, herror⟩
      rw [hok] at herror
      contradiction
    · intro hconflict
      exact absurd hconflict hnone
  · exact iff_of_true herror hconflict

section Chain

def chainType : TagType where
  name := "Chain"
  defaults := .ofList [("first", .text ""), ("middle", .text ""), ("last", .text "")]
  metas := []
  aliases := [⟨"first", "Chain", "middle"⟩, ⟨"middle", "Chain", "last"⟩]

def chainedType : TagType where
  name := "Chained"
  defaults := .ofList [("from", .text ""), ("to", .text "")]
  metas := [.named "Chain"]
  aliases := [⟨"from", "Chain", "first"⟩, ⟨"to", "Chain", "last"⟩]

def chainRegistry : TagRegistry := builtin.registerEach [chainType, chainedType]

def chainedTag : Tag := ((Tag.named "Chained").set "from" (.text "/a")).set "to" (.text "/b")

def handedTag : Tag := ((Tag.named "Chain").set "first" (.text "/a")).set "last" (.text "/b")

theorem merge_chained_conflict : ∃ name attr other,
    chainRegistry.merge chainedTag "Chain" = .error (.aliasConflict name attr other) := by
  have hreachable : chainRegistry.Reachable := ⟨_, .inr rfl⟩
  have hfind : chainRegistry.get? chainedTag.name = some chainedType := rfl
  have hcarried : chainedType.carried (some chainType) chainedTag (.named "Chain") =
      .ok handedTag := rfl
  have hgoes : chainRegistry.GoesOn "Chain" chainedTag handedTag :=
    ⟨chainedType, .named "Chain", chainType, hfind, by decide, rfl, rfl,
      TagType.handedOver_of_carried hcarried⟩
  have hfirst : TagType.HandsOn chainType.localAliases "first" "last" :=
    .inr ⟨"middle", .inl ⟨rfl, rfl⟩, .inr ⟨"last", .inl ⟨rfl, rfl⟩, rfl⟩⟩
  have hlast : TagType.HandsOn chainType.localAliases "last" "last" := TagType.handsOn_self _ _
  have hhere : chainRegistry.ConflictAt "Chain" handedTag :=
    ⟨chainType, rfl, "first", "last", "last", .text "/a", .text "/b", rfl, rfl, by decide,
      .inl ⟨rfl, hfirst⟩, .inl ⟨rfl, hlast⟩⟩
  exact (merge_conflict_iff hreachable hfind (by decide) "Chain").2 (.further hgoes (.here hhere))

end Chain

section Route

def routeType : TagType where
  name := "Route"
  defaults := .ofList [("value", .texts []), ("path", .texts [])]
  metas := [Tag.requestMapping]
  aliases := ["value", "path"].map fun attr => ⟨attr, Tag.requestMappingName, attr⟩

def routeRegistry : TagRegistry := builtin.registerEach [routeType]

def routeTag : Tag :=
  ((Tag.named "Route").set "value" (.texts ["/a"])).set "path" (.texts ["/b"])

/-- Attributes that stand for each other are set to different values on a tag, and one of the values
is lost without a conflict. -/
theorem merge_route_loses_path :
    routeRegistry.Reachable ∧ routeRegistry.get? routeTag.name = some routeType ∧
      routeTag.attrs.get? "value" = some (.texts ["/a"]) ∧
      routeTag.attrs.get? "path" = some (.texts ["/b"]) ∧
      routeType.AliasOf Tag.requestMappingName "value" "value" ∧
      routeType.AliasOf Tag.requestMappingName "path" "path" ∧
      ⟨"value", Tag.requestMappingName, "path"⟩ ∈ TagType.requestMapping.localAliases ∧
      ∃ attributes, routeRegistry.merge routeTag Tag.requestMappingName = .ok (some attributes) ∧
        attributes.get? "value" = some (.texts ["/a"]) ∧
        attributes.get? "path" = some (.texts ["/a"]) := by
  refine ⟨⟨_, .inr rfl⟩, rfl, rfl, rfl, ⟨⟨"value", Tag.requestMappingName, "value"⟩, ?_, rfl, rfl⟩,
    ⟨⟨"path", Tag.requestMappingName, "path"⟩, ?_, rfl, rfl⟩, ?_, _, rfl, rfl, rfl⟩
  · decide
  · decide
  · decide

end Route

end TagRegistry

end RequestRouting
