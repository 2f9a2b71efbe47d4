import RequestRouting.Proofs.Tag.MergedAttributes

/-! The short forms of the routing tag. Each fixes the method and passes all else on: its values
go through its aliases to the routing tag, where the path gets to both attributes that stand for
it. An empty value counts as not set, and only the two attributes for the path can contradict each
other. -/
namespace RequestRouting

namespace TagType

def passedOn : List String := ["path", "params", "headers", "consumes", "produces", "name"]

section SuppliedBy

variable (t : TagType) (tag : Tag)

theorem suppliedBy?_cons (a : Alias) (rest : List Alias) (attr : String) :
    t.suppliedBy? tag (a :: rest) attr =
      (if a.targetAttr = attr then t.valueOf? tag a.attr else none).or
        (t.suppliedBy? tag rest attr) := by
  have hvalue : t.aliasValue? tag a = t.valueOf? tag a.attr := rfl
  unfold suppliedBy?
  rw [List.findSome?_cons, hvalue]
  cases (if a.targetAttr = attr then t.valueOf? tag a.attr else none) <;> rfl

theorem suppliedBy?_map (metaName : String) (names : List String) (attr : String) :
    t.suppliedBy? tag (names.map fun attr => ⟨attr, metaName, attr⟩) attr =
      if attr ∈ names then t.valueOf? tag attr else none := by
  induction names with
  | nil => rfl
  | cons first rest ih =>
    rw [List.map_cons, suppliedBy?_cons, ih]
    by_cases heq : first = attr
    · subst heq
      rw [if_pos rfl, if_pos List.mem_cons_self]
      cases t.valueOf? tag first <;> simp
    · simp [heq, Ne.symm heq]

end SuppliedBy

section HandingOn

variable {name tagName : String} {method : Method} {attrs : Dictionary TagValue}

theorem aliasesTo_shorthand : (shorthand name method).aliasesTo Tag.requestMappingName =
    ⟨"value", Tag.requestMappingName, "path"⟩ ::
      passedOn.map fun attr => ⟨attr, Tag.requestMappingName, attr⟩ := rfl

theorem aliasOf_shorthand_iff {attr other : String} :
    (shorthand name method).AliasOf Tag.requestMappingName attr other ↔
      attr = "value" ∧ other = "path" ∨ attr = other ∧ attr ∈ passedOn := by
  unfold AliasOf
  rw [aliasesTo_shorthand]
  simp only [List.mem_cons, List.mem_map, exists_eq_or_imp]
  apply or_congr
  · simp [eq_comm]
  · constructor
    · rintro ⟨a, ⟨passed, hpassed, rfl⟩, rfl, rfl⟩
      exact ⟨rfl, hpassed⟩
    · rintro ⟨rfl, hpassed⟩
      exact ⟨_, ⟨attr, hpassed, rfl⟩, rfl, rfl⟩

theorem valueOf?_shorthand : (shorthand name method).valueOf? ⟨tagName, attrs⟩ = filled? attrs := by
  have hempty : ∀ entry ∈ (shorthand name method).defaults.entries, entry.2.isEmpty = true := by
    show ∀ entry ∈ (shorthand "" .get).defaults.entries, entry.2.isEmpty = true
    decide
  funext attr
  unfold valueOf? filled?
  cases attrs.get? attr with
  | some v => rfl
  | none =>
    cases hdefault : (shorthand name method).defaults.get? attr with
    | none => rfl
    | some v =>
      have hv := hempty _ (Dictionary.mem_entries_of_get? hdefault)
      simp [hv]

theorem supplied?_shorthand (attr : String) :
    (shorthand name method).supplied? ⟨tagName, attrs⟩ Tag.requestMappingName attr =
      (if "path" = attr then filled? attrs "value" else none).or
        (if attr ∈ passedOn then filled? attrs attr else none) := by
  rw [supplied?, aliasesTo_shorthand, suppliedBy?_cons, suppliedBy?_map, valueOf?_shorthand]

theorem contradicts_shorthand_iff :
    Contradicts ((shorthand name method).valueOf? ⟨tagName, attrs⟩)
      ((shorthand name method).AliasOf Tag.requestMappingName) ↔
        Clashes (filled? attrs) "value" "path" := by
  rw [valueOf?_shorthand]
  unfold Contradicts Clashes
  simp only [aliasOf_shorthand_iff]
  constructor
  · rintro ⟨p, q, attr, v, w, hv, hw, hne, ⟨rfl, rfl⟩ | ⟨rfl, -⟩, ⟨rfl, heq⟩ | ⟨rfl, -⟩⟩
    · rw [hv] at hw
      exact absurd (congrArg _ (Option.some.inj hw)) hne
    · exact ⟨v, w, hv, hw, hne⟩
    · subst heq
      exact ⟨w, v, hw, hv, hne.symm⟩
    · rw [hv] at hw
      exact absurd (congrArg _ (Option.some.inj hw)) hne
  · rintro ⟨v, w, hv, hw, hne⟩
    exact ⟨"value", "path", "path", v, w, hv, hw, hne, .inl ⟨rfl, rfl⟩, .inr ⟨rfl, by decide⟩⟩

end HandingOn

section Routing

variable {supplied? : String → Option TagValue} {carriedTag c : Tag} {attr other : String}

theorem localAliases_requestMapping :
    requestMapping.localAliases = [⟨"value", Tag.requestMappingName, "path"⟩] := rfl

theorem eq_of_mem_partners_requestMapping (h : attr ∈ requestMapping.partners other) :
    attr = "value" ∧ other = "path" ∨ attr = "path" ∧ other = "value" := by
  -- all aliases of the routing tag are local
  have hpartners : requestMapping.partners other =
      requestMapping.localAliases.filterMap (otherEnd? other) := by
    simp [partners, requestMapping]
  rw [hpartners, localAliases_requestMapping, List.mem_filterMap] at h
  obtain ⟨a, ha, hend⟩ := h
  obtain rfl := List.mem_singleton.1 ha
  unfold otherEnd? at hend
  simp only [beq_iff_eq] at hend
  split at hend
  · next heq => exact .inr ⟨(Option.some.inj hend).symm, heq.symm⟩
  · split at hend
    · next heq => exact .inl ⟨(Option.some.inj hend).symm, heq.symm⟩
    · contradiction

theorem HandedOver.get?_requestMapping (h : HandedOver requestMapping supplied? carriedTag c)
    (hsupplied : supplied? "value" = none) (hcarried : carriedTag.attrs.get? "value" = none)
    (attr : String) :
    c.attrs.get? attr = (supplied? attr).or (carriedTag.attrs.get? attr) := by
  by_cases hdisplaced : requestMapping.Displaced supplied? attr
  · obtain ⟨other, hpartner, hother, -⟩ := id hdisplaced
    rcases eq_of_mem_partners_requestMapping hpartner with ⟨rfl, -⟩ | ⟨-, rfl⟩
    · rw [h.displaced _ hdisplaced, hsupplied, hcarried]
      rfl
    · exact absurd hsupplied hother
  · exact h.kept attr hdisplaced

theorem ownAttributes_requestMapping (hvalue : c.attrs.get? "value" = none) :
    ∃ m, requestMapping.ownAttributes c = .ok m ∧ ∀ attr, m.get? attr =
      (if attr = "value" then filled? c.attrs "path" else none).or
        ((c.attrs.get? attr).or (requestMapping.defaults.get? attr)) := by
  have hget : ∀ attr, (requestMapping.defaults.insertMany c.attrs.entries).get? attr =
      (c.attrs.get? attr).or (requestMapping.defaults.get? attr) := by
    intro attr
    rw [Dictionary.get?_insertMany]
    cases c.attrs.get? attr <;> rfl
  have hown : filled? (requestMapping.defaults.insertMany c.attrs.entries) "value" = none := by
    unfold filled?
    rw [hget, hvalue]
    rfl
  have hpath : filled? (requestMapping.defaults.insertMany c.attrs.entries) "path" =
      filled? c.attrs "path" := by
    unfold filled?
    rw [hget]
    cases c.attrs.get? "path" <;> rfl
  -- `value` is empty, so the only alias hands the path on if there is one
  unfold ownAttributes equateAliases
  rw [localAliases_requestMapping, List.foldlM_cons]
  unfold equateAlias
  dsimp only
  rw [← filled?, ← filled?, hown, hpath]
  cases filled? c.attrs "path" with
  | none =>
    refine ⟨_, rfl, fun attr => ?_⟩
    rw [ite_self, Option.none_or]
    exact hget attr
  | some v =>
    refine ⟨_, rfl, fun attr => ?_⟩
    change Dictionary.get? (Dictionary.insert _ "value" v) attr = _
    rw [Dictionary.get?_insert]
    split
    · rfl
    · rw [Option.none_or]
      exact hget attr

end Routing

/-- What a short form with these attributes stands for as the routing tag. -/
structure Routed (method : Method) (attrs : Dictionary TagValue) (m : AttributeMap) : Prop where
  tag : m.tag = Tag.requestMappingName
  covers : m.Covers requestMapping
  method : m.get? "method" = some (.methods [method])
  path : ∀ attr ∈ ["value", "path"], m.get? attr =
    some (((filled? attrs "value").or (filled? attrs "path")).getD (.texts []))
  passed : ∀ attr ∈ ["params", "headers", "consumes", "produces", "name"], m.get? attr =
    (filled? attrs attr).or (requestMapping.defaults.get? attr)

section Composing

variable {name tagName : String} {method : Method} {attrs : Dictionary TagValue} {c : Tag}

def fixing (method : Method) : Tag := Tag.requestMapping.set "method" (.methods [method])

theorem get?_fixing (method : Method) (attr : String) : (fixing method).attrs.get? attr =
    if attr = "method" then some (TagValue.methods [method]) else none :=
  Dictionary.get?_insert ∅ "method" attr (TagValue.methods [method])

def handed? (method : Method) (attrs : Dictionary TagValue) (attr : String) : Option TagValue :=
  ((if "path" = attr then filled? attrs "value" else none).or
    (if attr ∈ passedOn then filled? attrs attr else none)).or
      (if attr = "method" then some (.methods [method]) else none)

theorem handed?_path :
    handed? method attrs "path" = (filled? attrs "value").or (filled? attrs "path") := by
  simp [handed?, passedOn]

theorem handed?_value : handed? method attrs "value" = none := rfl

theorem get?_of_carried
    (h : (shorthand name method).carried (some requestMapping) ⟨tagName, attrs⟩ (fixing method) =
      .ok c) (attr : String) : c.attrs.get? attr = handed? method attrs attr := by
  have hsupplied : ∀ attr, (shorthand name method).supplied? ⟨tagName, attrs⟩
      (fixing method).name attr = _ := supplied?_shorthand
  rw [(handedOver_of_carried h).get?_requestMapping (hsupplied "value") rfl, hsupplied, get?_fixing,
    handed?]

theorem filter_filled?_or (attr other : String) :
    ((filled? attrs attr).or (filled? attrs other)).filter (fun v => !v.isEmpty) =
      (filled? attrs attr).or (filled? attrs other) := by
  cases hattr : filled? attrs attr with
  | some v => simp [isEmpty_of_filled? hattr]
  | none =>
    cases hother : filled? attrs other with
    | some v => simp [isEmpty_of_filled? hother]
    | none => rfl

theorem routed_of_values {m : AttributeMap} (htag : m.tag = Tag.requestMappingName)
    (hcovers : m.Covers requestMapping)
    (hget : ∀ attr, c.attrs.get? attr = handed? method attrs attr)
    (hvalues : ∀ attr, m.get? attr = (if attr = "value" then filled? c.attrs "path" else none).or
      ((c.attrs.get? attr).or (requestMapping.defaults.get? attr))) :
    Routed method attrs m where
  tag := htag
  covers := hcovers
  method := by
    rw [hvalues, hget]
    rfl
  path := by
    have hfilled : filled? c.attrs "path" = (filled? attrs "value").or (filled? attrs "path") := by
      rw [filled?, hget, handed?_path, filter_filled?_or]
    have hdefault : ∀ attr ∈ ["value", "path"],
        requestMapping.defaults.get? attr = some (.texts []) := by decide
    intro attr hattr
    rw [hvalues, hdefault attr hattr, hfilled, hget]
    simp only [List.mem_cons, List.not_mem_nil, or_false] at hattr
    rcases hattr with rfl | rfl
    · rw [if_pos rfl, handed?_value, Option.none_or, Option.or_some]
    · rw [if_neg (by decide), handed?_path, Option.none_or, Option.or_some]
  passed := by
    intro attr hattr
    rw [hvalues, hget]
    simp only [List.mem_cons, List.not_mem_nil, or_false] at hattr
    rcases hattr with rfl | rfl | rfl | rfl | rfl <;> simp [handed?, passedOn]

end Composing

end TagType

namespace TagRegistry

open TagType

theorem builtUp_builtin : BuiltUp builtin.types := Reachable.builtUp ⟨[], .inr rfl⟩

section Shorthand

variable {name : String} {method : Method} {attrs : Dictionary TagValue}
  (hname : Tag.shorthandName? method = some name)
include hname

theorem get?_builtin_shorthand : builtin.get? name = some (shorthand name method) := by
  cases method <;> simp only [Tag.shorthandName?, Option.some.injEq, reduceCtorEq] at hname
  all_goals
    subst hname
    rfl

theorem shorthandName_ne : name ≠ Tag.requestMappingName := by
  cases method <;> simp only [Tag.shorthandName?, Option.some.injEq, reduceCtorEq] at hname
  all_goals
    subst hname
    decide

theorem merge_shorthand_eq (hadmits : (shorthand name method).Admits ⟨name, attrs⟩) :
    builtin.merge ⟨name, attrs⟩ Tag.requestMappingName =
      ((shorthand name method).carried (some requestMapping) ⟨name, attrs⟩
        (fixing method)).bind (builtin.merge · Tag.requestMappingName) := by
  have htarget : (shorthand name method).name ≠ Tag.requestMappingName := shorthandName_ne hname
  have hcarries : builtin.isOrCarries (fixing method).name Tag.requestMappingName = true :=
    isOrCarriesIn_of_eq _ rfl
  rw [builtUp_builtin.merge_of_declared (get?_builtin_shorthand hname) hadmits, if_neg htarget]
  change firstResult _ [fixing method] = _
  rw [firstResult_singleton, mergeCarried, if_pos hcarries]
  rfl

theorem routed_of_carried {c : Tag} (hc : (shorthand name method).carried (some requestMapping)
      ⟨name, attrs⟩ (fixing method) = .ok c) :
    ∃ m, builtin.merge c Tag.requestMappingName = .ok (some m) ∧ Routed method attrs m := by
  have hcname : c.name = Tag.requestMappingName := name_carried hc
  have hroute : builtin.get? c.name = some requestMapping := by
    rw [hcname]
    rfl
  have hcadmits : requestMapping.Admits c :=
    builtUp_builtin.declares_of_carried (get?_builtin_shorthand hname) List.mem_cons_self rfl hc
  have hget := get?_of_carried hc
  obtain ⟨m, hm, hvalues⟩ := ownAttributes_requestMapping (hget "value")
  have hmerge : builtin.merge c Tag.requestMappingName = .ok (some m) := by
    have htarget : requestMapping.name = Tag.requestMappingName := rfl
    rw [builtUp_builtin.merge_of_declared hroute hcadmits, if_pos htarget, hm]
    rfl
  obtain ⟨htag, u, hu, hcovers⟩ := builtUp_builtin.covers_of_merge hmerge
  obtain rfl := Option.some.inj ((rfl : builtin.get? Tag.requestMappingName = _).symm.trans hu)
  exact ⟨m, hmerge, routed_of_values htag hcovers hget hvalues⟩

end Shorthand

/-- The short forms of the routing tag are merged into it as they are meant to be: the method is
the fixed one, the two attributes for the path get the one that is set, and all else is passed on
or left at its default. This fails only if the two attributes for the path are set to different
values. -/
theorem merge_shorthand {name : String} {method : Method}
    (hname : Tag.shorthandName? method = some name) {attrs : Dictionary TagValue}
    (hadmits : (shorthand name method).Admits ⟨name, attrs⟩) :
    ((∃ annotated attr other, builtin.merge ⟨name, attrs⟩ Tag.requestMappingName =
        .error (.aliasConflict annotated attr other)) ↔
          Clashes (filled? attrs) "value" "path") ∧
    (¬ Clashes (filled? attrs) "value" "path" → ∃ m,
      builtin.merge ⟨name, attrs⟩ Tag.requestMappingName = .ok (some m) ∧
        Routed method attrs m) := by
  rw [merge_shorthand_eq hname hadmits, ← contradicts_shorthand_iff]
  rcases (shorthand name method).carried_cases (some requestMapping) ⟨name, attrs⟩
    (fixing method) with ⟨c, hc, hnone⟩ | ⟨⟨attr, other, herror⟩, hcontradicts⟩
  · obtain ⟨m, hm, hrouted⟩ := routed_of_carried hname hc
    rw [hc]
    refine ⟨iff_of_false ?_ hnone, fun _ => ⟨m, hm, hrouted⟩⟩
    rintro ⟨_, _, _, herror⟩
    rw [Except.bind, hm] at herror
    contradiction
  · rw [herror]
    exact ⟨iff_of_true ⟨_, attr, other, rfl⟩ hcontradicts, fun h => absurd hcontradicts h⟩

def postAttrs : Dictionary TagValue := .ofList [("value", .texts ["/a"]), ("path", .text "/a"),
  ("params", .text ""), ("consumes", .flag false)]

theorem merge_shorthand_post : Tag.shorthandName? .post = some "PostMapping" ∧
    (shorthand "PostMapping" .post).Admits ⟨"PostMapping", postAttrs⟩ ∧
    ¬ Clashes (filled? postAttrs) "value" "path" ∧
    ∃ m, builtin.merge ⟨"PostMapping", postAttrs⟩ Tag.requestMappingName = .ok (some m) ∧
      m.get? "method" = some (.methods [.post]) ∧ m.get? "path" = some (.texts ["/a"]) ∧
      m.get? "params" = some (.texts []) ∧ m.get? "consumes" = some (.flag false) := by
  have hadmits : (shorthand "PostMapping" .post).Admits ⟨"PostMapping", postAttrs⟩ := by decide
  have hsame : ¬ Clashes (filled? postAttrs) "value" "path" := by
    rintro ⟨v, w, hv, hw, hne⟩
    have hvalue : filled? postAttrs "value" = some (.texts ["/a"]) := by decide
    have hpath : filled? postAttrs "path" = some (.text "/a") := by decide
    obtain rfl := Option.some.inj (hvalue.symm.trans hv)
    obtain rfl := Option.some.inj (hpath.symm.trans hw)
    exact hne (by decide)
  obtain ⟨m, hm, hrouted⟩ := (merge_shorthand rfl hadmits).2 hsame
  exact ⟨rfl, hadmits, hsame, m, hm, hrouted.method, hrouted.path "path" (by decide),
    hrouted.passed "params" (by decide), hrouted.passed "consumes" (by decide)⟩

end TagRegistry

end RequestRouting
