import Mathlib.Data.List.Forall2
import RequestRouting.Blueprint.MethodMapping
import RequestRouting.Proofs.Condition.Combining
import RequestRouting.Proofs.Mapping.Declarations
import RequestRouting.Proofs.Tag.FirstFound

/-! The mapping of a method put together from what is declared. Its patterns are those of the
method behind those of the type behind the path prefix, its other conditions come from the method
and fall back to or add to those of the type, and its body flag is that of the first body among
the parameters. -/
namespace RequestRouting

namespace Mapping

variable {outer inner m m' : Mapping} {path : String}

def Placed (outer? : Option Path.Pattern) (p q : Path.Pattern) : Prop :=
  match outer? with
  | none => q = p
  | some outer => outer.combine p = .ok q

def outerPatterns : Option Mapping → List (Option Path.Pattern)
  | none => [none]
  | some outer => outer.paths.patterns.map some

/-- The mapping is the inner one inside of the outer one, behind a path prefix. -/
structure Assembles (prefix? : Option Path.Pattern) (outer? : Option Mapping) (inner : Mapping)
    (required : Bool) (m : Mapping) : Prop where
  name : m.name = inner.name
  exists_path : ∀ o ∈ outerPatterns outer?, ∀ p ∈ inner.paths.patterns,
    ∃ q, Placed o p q ∧ ∃ r, Placed prefix? q r
  mem_paths : ∀ r, r ∈ m.paths.patterns ↔ ∃ o ∈ outerPatterns outer?, ∃ p ∈ inner.paths.patterns,
    ∃ q, Placed o p q ∧ Placed prefix? q r
  methods : m.methods =
    if inner.methods.isEmpty then (outer?.map (·.methods)).getD inner.methods else inner.methods
  mem_params : ∀ e, e ∈ m.params.expressions.toList ↔
    (∃ outer ∈ outer?, e ∈ outer.params.expressions.toList) ∨ e ∈ inner.params.expressions.toList
  mem_headers : ∀ e, e ∈ m.headers.expressions.toList ↔
    (∃ outer ∈ outer?, e ∈ outer.headers.expressions.toList) ∨
      e ∈ inner.headers.expressions.toList
  consumes : m.consumes.expressions =
    if inner.consumes.isEmpty then
      (outer?.map (·.consumes.expressions)).getD inner.consumes.expressions
    else inner.consumes.expressions
  produces : m.produces =
    if inner.produces.isEmpty then (outer?.map (·.produces)).getD inner.produces
    else inner.produces
  bodyRequired : m.consumes.bodyRequired = required

theorem assembles_alone (inner : Mapping) (required : Bool) :
    Assembles none none inner required ((inner.withName inner.name).withBodyRequired required) where
  name := rfl
  exists_path _ _ p _ := ⟨p, by simp_all [outerPatterns, Placed], p, rfl⟩
  mem_paths r := by simp [outerPatterns, Placed, withName, withBodyRequired]
  methods := by simp [withName, withBodyRequired]
  mem_params e := by simp [withName, withBodyRequired]
  mem_headers e := by simp [withName, withBodyRequired]
  consumes := by simp [withName, withBodyRequired]
  produces := by simp [withName, withBodyRequired]
  bodyRequired := rfl

theorem assembles_inside (h : outer.combine inner = .ok m) (houter : outer.paths.patterns ≠ [])
    (hinner : inner.paths.patterns ≠ []) (required : Bool) :
    Assembles none (some outer) inner required
      ((m.withName inner.name).withBodyRequired required) := by
  obtain ⟨paths, hpaths, rfl⟩ := combine_eq_ok.1 h
  have hcombines := PathCondition.combines_of_combine hpaths houter hinner
  exact {
    name := rfl
    exists_path := by
      intro o ho p hp
      obtain ⟨t, ht, rfl⟩ := List.mem_map.1 ho
      obtain ⟨q, hq⟩ := hcombines.exists_sum t ht p hp
      exact ⟨q, hq, q, rfl⟩
    mem_paths := by
      intro r
      refine (hcombines.mem_iff r).trans ?_
      simp [outerPatterns, Placed]
    methods := by
      unfold MethodCondition.combine
      rfl
    mem_params := by
      intro e
      refine Order.SortedSet.mem_union.trans ?_
      simp
    mem_headers := by
      intro e
      refine Order.SortedSet.mem_union.trans ?_
      simp
    consumes := by
      unfold ConsumesCondition.combine
      exact apply_ite ConsumesCondition.expressions _ _ _
    produces := by
      unfold ProducesCondition.combine
      rfl
    bodyRequired := rfl }

theorem Assembles.behind {outer? : Option Mapping} {required : Bool}
    (hm : Assembles none outer? inner required m) (hne : m.paths.patterns ≠ [])
    (h : m.behind path = .ok m') :
    ∃ x, Path.Pattern.parse path = .ok x ∧ Assembles (some x) outer? inner required m' := by
  obtain ⟨c, paths, hc, hpaths, rfl⟩ := behind_eq_ok.1 h
  obtain ⟨x, hx, hsingle⟩ := PathCondition.parse_singleton hc
  have hcombines := PathCondition.combines_of_combine hpaths (PathCondition.ne_nil_of_parse hc) hne
  have hmem : ∀ q ∈ m.paths.patterns, ∃ r, x.combine q = .ok r := by
    intro q hq
    exact hcombines.exists_sum x (by rw [hsingle]; exact List.mem_singleton_self x) q hq
  refine ⟨x, hx, { hm with exists_path := ?_, mem_paths := ?_ }⟩
  · intro o ho p hp
    obtain ⟨_, hq, q, rfl⟩ := hm.exists_path o ho p hp
    exact ⟨q, hq, hmem q ((hm.mem_paths q).2 ⟨o, ho, p, hp, q, hq, rfl⟩)⟩
  · intro r
    rw [hcombines.mem_iff r, hsingle]
    simp only [List.mem_singleton, exists_eq_left, hm.mem_paths]
    constructor
    · rintro ⟨q, ⟨o, ho, p, hp, _, hq, rfl⟩, hr⟩
      exact ⟨o, ho, p, hp, q, hq, hr⟩
    · rintro ⟨o, ho, p, hp, q, hq, hr⟩
      exact ⟨q, ⟨o, ho, p, hp, q, hq, rfl⟩, hr⟩

end Mapping

namespace Blueprint

variable {b : Blueprint} {t : HandlerType}

/-- What a template stands for: what the resolver makes of it, or itself without a resolver. -/
inductive Becomes (b : Blueprint) (template : String) : String → Prop
  | itself (h : b.resolver? = none) : Becomes b template template
  | resolved {r : ValueResolver} {path : String} (h : b.resolver? = some r)
      (hpath : (r.resolve template).result = .ok path) : Becomes b template path

/-- What the attributes of a routing tag declare: the paths of `path` or else of `value`, with
their placeholders replaced, and all else as it stands. -/
structure DeclaredBy (b : Blueprint) (attributes : AttributeMap) (spec : MappingSpec) : Prop where
  paths : ∃ own templates, attributes.texts "path" = .ok own ∧
    (if own = [] then attributes.texts "value" else .ok own) = .ok templates ∧
    List.Forall₂ b.Becomes templates spec.paths
  methods : attributes.methods "method" = .ok spec.methods
  params : attributes.texts "params" = .ok spec.params
  headers : attributes.texts "headers" = .ok spec.headers
  consumes : attributes.texts "consumes" = .ok spec.consumes
  produces : attributes.texts "produces" = .ok spec.produces
  name : attributes.text? "name" = .ok spec.name

/-- The mapping that the one routing tag among the tags declares, or none without such a tag. -/
def Routes (b : Blueprint) (tags : List Tag) : Option Mapping → Prop
  | none => ∀ tag ∈ tags, b.tags.merge tag Tag.requestMappingName = .ok none
  | some mapping => ∃ tag attributes spec,
    b.tags.LeadsAlone tags Tag.requestMappingName tag attributes ∧ b.DeclaredBy attributes spec ∧
      Mapping.ofSpec spec = .ok mapping

/-- The template of the first path prefix for the type: of one that was added to the blueprint and
accepts the type, or else of one in the settings whose module the type is in. -/
inductive PrefixTemplate (b : Blueprint) (t : HandlerType) : Option String → Prop
  | absent (hadded : ∀ p ∈ b.prefixes, p.selector.selects b.tags t = .ok false)
      (hsettings : ∀ p ∈ b.config.pathPrefixes, t.isInModule p.baseModule = false) :
      PrefixTemplate b t none
  | added {before : List PathPrefix} {p : PathPrefix} (hfront : before ++ [p] <+: b.prefixes)
      (hbefore : ∀ q ∈ before, q.selector.selects b.tags t = .ok false)
      (hselects : p.selector.selects b.tags t = .ok true) : PrefixTemplate b t (some p.template)
  | settings {before : List ModulePrefix} {p : ModulePrefix}
      (hadded : ∀ p ∈ b.prefixes, p.selector.selects b.tags t = .ok false)
      (hfront : before ++ [p] <+: b.config.pathPrefixes)
      (hbefore : ∀ q ∈ before, t.isInModule q.baseModule = false)
      (hmodule : t.isInModule p.baseModule = true) : PrefixTemplate b t (some p.template)

inductive PrefixOf (b : Blueprint) (t : HandlerType) : Option Path.Pattern → Prop
  | absent (h : b.PrefixTemplate t none) : PrefixOf b t none
  | parsed {template path : String} {x : Path.Pattern} (h : b.PrefixTemplate t (some template))
      (hpath : b.Becomes template path) (hparse : Path.Pattern.parse path = .ok x) :
      PrefixOf b t (some x)

/-- Whether the first body among the parameters needs to be there; true without a body. -/
inductive NeedsBody (r : TagRegistry) (parameters : List Parameter) : Bool → Prop
  | absent (h : ∀ p ∈ parameters, ∀ tag ∈ p.tags, ¬ r.LeadsTo tag Tag.requestBodyName) :
    NeedsBody r parameters true
  | first {before : List Parameter} {p : Parameter} {others : List Tag} {tag : Tag}
      {attributes : AttributeMap} {required : Option Bool}
      (hfront : before ++ [p] <+: parameters)
      (hbefore : ∀ q ∈ before, ∀ tag ∈ q.tags, ¬ r.LeadsTo tag Tag.requestBodyName)
      (htag : others ++ [tag] <+: p.tags)
      (hothers : ∀ other ∈ others, ¬ r.LeadsTo other Tag.requestBodyName)
      (hleads : r.LeadsTo tag Tag.requestBodyName)
      (hmerged : r.merge tag Tag.requestBodyName = .ok (some attributes))
      (hrequired : attributes.flag? "required" = .ok required) :
    NeedsBody r parameters (required.getD true && !p.optional)

structure Parts (b : Blueprint) (t : HandlerType) (m : HandlerMethod)
    (prefix? : Option Path.Pattern) (outer? : Option Mapping) (inner : Mapping)
    (required : Bool) : Prop where
  own : b.Routes m.tags (some inner)
  ofType : b.Routes t.tags outer?
  front : b.PrefixOf t prefix?
  body : NeedsBody b.tags m.parameters required

theorem becomes_iff {template path : String} :
    b.Becomes template path ↔ (b.resolve template).result = .ok path := by
  unfold resolve
  constructor
  · rintro (h | ⟨h, hpath⟩)
    · rw [h]
      rfl
    · rw [h]
      exact hpath
  · intro h
    cases hresolver : b.resolver? with
    | none =>
      rw [hresolver] at h
      obtain rfl : template = path := Except.ok.inj h
      exact .itself hresolver
    | some r =>
      rw [hresolver] at h
      exact .resolved hresolver h

theorem Becomes.unique {template path path' : String} (h : b.Becomes template path)
    (h' : b.Becomes template path') : path = path' := by
  rw [becomes_iff] at h h'
  exact Except.ok.inj (h.symm.trans h')

theorem exists_of_mappingOf {attributes : AttributeMap} {mapping : Mapping}
    (h : (b.mappingOf attributes).result = .ok mapping) :
    ∃ spec, b.DeclaredBy attributes spec ∧ Mapping.ofSpec spec = .ok mapping := by
  unfold mappingOf at h
  simp only [Logged.result_bind, Logged.result_monadLift, Logged.result_ofExcept,
    Outcome.bind_eq_ok] at h
  obtain ⟨templates, htemplates, paths, hpaths, declared, hdeclared, hspec⟩ := h
  rw [resolvePatterns, Logged.result_mapM, Outcome.mapM_eq_ok_iff] at hpaths
  simp only [← becomes_iff] at hpaths
  unfold declaredSpec at hdeclared
  simp only [Outcome.bind_eq_ok, Outcome.pure_eq_ok] at hdeclared
  obtain ⟨methods, hmethods, params, hparams, headers, hheaders, consumes, hconsumes, produces,
    hproduces, name, hname, rfl⟩ := hdeclared
  unfold declaredPaths at htemplates
  obtain ⟨own, hown, htemplates⟩ := Outcome.bind_eq_ok.1 htemplates
  simp only [List.isEmpty_iff] at htemplates
  exact ⟨_, ⟨⟨own, templates, hown, htemplates, hpaths⟩, hmethods, hparams, hheaders, hconsumes,
    hproduces, hname⟩, hspec⟩

theorem routes_of_declaredMapping {element : String} {tags : List Tag} {mapping? : Option Mapping}
    (h : (b.declaredMapping element tags).result = .ok mapping?) : b.Routes tags mapping? := by
  unfold declaredMapping at h
  rw [Logged.result_bind, Outcome.bind_eq_ok] at h
  obtain ⟨found, hfound, h⟩ := h
  rw [Logged.result_monadLift] at hfound
  cases found with
  | none =>
    obtain rfl := Except.ok.inj h
    exact TagRegistry.findMerged_eq_none.1 hfound
  | some attributes =>
    obtain ⟨tag, halone⟩ := TagRegistry.findMerged_eq_some.1 hfound
    rw [Logged.result_bind, Outcome.bind_eq_ok] at h
    obtain ⟨mapping, hmapping, h⟩ := h
    obtain rfl := Except.ok.inj h
    obtain ⟨spec, hdeclared, hspec⟩ := exists_of_mappingOf hmapping
    exact ⟨tag, attributes, spec, halone, hdeclared, hspec⟩

theorem Routes.ne_nil {tags : List Tag} {mapping : Mapping} (h : b.Routes tags (some mapping)) :
    mapping.paths.patterns ≠ [] := by
  obtain ⟨_, _, spec, -, -, hspec⟩ := h
  exact PathCondition.ne_nil_of_parse (Mapping.ofSpec_eq_ok.1 hspec).paths

theorem DeclaredBy.unique {attributes : AttributeMap} {spec other : MappingSpec}
    (h : b.DeclaredBy attributes spec) (h' : b.DeclaredBy attributes other) : spec = other := by
  obtain ⟨⟨own, templates, hown, htemplates, hpaths⟩, hmethods, hparams, hheaders, hconsumes,
    hproduces, hname⟩ := h
  obtain ⟨⟨own', templates', hown', htemplates', hpaths'⟩, hmethods', hparams', hheaders',
    hconsumes', hproduces', hname'⟩ := h'
  obtain rfl := Except.ok.inj (hown.symm.trans hown')
  obtain rfl := Except.ok.inj (htemplates.symm.trans htemplates')
  have hpath : Relator.RightUnique b.Becomes := fun _ _ _ => Becomes.unique
  have hsame : spec.paths = other.paths := List.right_unique_forall₂' hpath hpaths hpaths'
  cases spec
  cases other
  cases hsame
  congr
  · exact Except.ok.inj (hmethods.symm.trans hmethods')
  · exact Except.ok.inj (hparams.symm.trans hparams')
  · exact Except.ok.inj (hheaders.symm.trans hheaders')
  · exact Except.ok.inj (hconsumes.symm.trans hconsumes')
  · exact Except.ok.inj (hproduces.symm.trans hproduces')
  · exact Except.ok.inj (hname.symm.trans hname')

theorem Routes.unique {tags : List Tag} {x y : Option Mapping} (hx : b.Routes tags x)
    (hy : b.Routes tags y) : x = y := by
  cases x with
  | none =>
    cases y with
    | none => rfl
    | some n =>
      obtain ⟨_, _, _, halone, -, -⟩ := hy
      exact absurd hx halone.not_forall_none
  | some m =>
    obtain ⟨_, attributes, spec, halone, hdeclared, hspec⟩ := hx
    cases y with
    | none => exact absurd hy halone.not_forall_none
    | some n =>
      obtain ⟨_, _, other, halone', hdeclared', hspec'⟩ := hy
      obtain rfl := halone.unique halone'
      obtain rfl := hdeclared.unique hdeclared'
      rw [Except.ok.inj (hspec.symm.trans hspec')]

def accepted? (b : Blueprint) (t : HandlerType) (p : PathPrefix) :
    Except MappingError (Option PathPrefix) := do
  return if ← p.selector.selects b.tags t then some p else none

theorem accepted?_eq_none {p : PathPrefix} :
    b.accepted? t p = .ok none ↔ p.selector.selects b.tags t = .ok false := by
  rw [accepted?, Outcome.bind_eq_ok]
  constructor
  · rintro ⟨_ | _, hselected, h⟩
    · exact hselected
    · cases h
  · intro h
    exact ⟨false, h, rfl⟩

theorem accepted?_eq_some {p q : PathPrefix} :
    b.accepted? t p = .ok (some q) ↔ p.selector.selects b.tags t = .ok true ∧ p = q := by
  rw [accepted?, Outcome.bind_eq_ok]
  constructor
  · rintro ⟨_ | _, hselected, h⟩
    · cases h
    · exact ⟨hselected, Option.some.inj (Except.ok.inj h)⟩
  · rintro ⟨h, rfl⟩
    exact ⟨true, h, rfl⟩

theorem selects_modulePrefix (r : TagRegistry) (t : HandlerType) (p : ModulePrefix) :
    p.selector.selects r t = .ok (t.isInModule p.baseModule) := by
  simp [ModulePrefix.selector, Selector.selects]

theorem accepted?_setting_eq_none {p : ModulePrefix} :
    b.accepted? t ⟨p.template, p.selector⟩ = .ok none ↔ t.isInModule p.baseModule = false := by
  rw [accepted?_eq_none, selects_modulePrefix, Except.ok.injEq]

theorem accepted?_setting_eq_some {p : ModulePrefix} {q : PathPrefix} :
    b.accepted? t ⟨p.template, p.selector⟩ = .ok (some q) ↔
      t.isInModule p.baseModule = true ∧ ⟨p.template, p.selector⟩ = q := by
  rw [accepted?_eq_some, selects_modulePrefix, Except.ok.injEq]

theorem prefixFor_eq : b.prefixFor t = firstResult (b.accepted? t) (b.prefixes ++
    b.config.pathPrefixes.map fun p => ⟨p.template, p.selector⟩) := rfl

theorem prefixTemplate_iff {template? : Option String} :
    b.PrefixTemplate t template? ↔
      (b.prefixFor t).map (·.map PathPrefix.template) = .ok template? := by
  rw [prefixFor_eq, Outcome.map_eq_ok]
  constructor
  · intro h
    cases h with
    | absent hadded hsettings =>
      refine ⟨none, ?_, rfl⟩
      rw [firstResult_eq_none, List.forall_mem_append, List.forall_mem_map]
      exact ⟨fun p hp => accepted?_eq_none.2 (hadded p hp),
        fun p hp => accepted?_setting_eq_none.2 (hsettings p hp)⟩
    | @added before p hfront hbefore hselects =>
      refine ⟨some p, firstResult_append_eq_some.2 (.inl ?_), rfl⟩
      rw [firstResult_eq_some]
      exact ⟨before, p, hfront, fun q hq => accepted?_eq_none.2 (hbefore q hq),
        accepted?_eq_some.2 ⟨hselects, rfl⟩⟩
    | @settings before p hadded hfront hbefore hmodule =>
      refine ⟨some ⟨p.template, p.selector⟩, firstResult_append_eq_some.2 (.inr ⟨?_, ?_⟩), rfl⟩
      · rw [firstResult_eq_none]
        exact fun q hq => accepted?_eq_none.2 (hadded q hq)
      · rw [firstResult_map, firstResult_eq_some]
        exact ⟨before, p, hfront, fun q hq => accepted?_setting_eq_none.2 (hbefore q hq),
          accepted?_setting_eq_some.2 ⟨hmodule, rfl⟩⟩
  · rintro ⟨found, hfound, rfl⟩
    cases found with
    | none =>
      rw [firstResult_eq_none, List.forall_mem_append, List.forall_mem_map] at hfound
      exact .absent (fun p hp => accepted?_eq_none.1 (hfound.1 p hp))
        fun p hp => accepted?_setting_eq_none.1 (hfound.2 p hp)
    | some p =>
      rcases firstResult_append_eq_some.1 hfound with hadded | ⟨hnone, hsetting⟩
      · obtain ⟨before, q, hfront, hbefore, hq⟩ := firstResult_eq_some.1 hadded
        obtain ⟨hselects, rfl⟩ := accepted?_eq_some.1 hq
        exact .added hfront (fun z hz => accepted?_eq_none.1 (hbefore z hz)) hselects
      · rw [firstResult_map, firstResult_eq_some] at hsetting
        obtain ⟨before, q, hfront, hbefore, hq⟩ := hsetting
        obtain ⟨hmodule, rfl⟩ := accepted?_setting_eq_some.1 hq
        exact .settings (fun z hz => accepted?_eq_none.1 (firstResult_eq_none.1 hnone z hz)) hfront
          (fun z hz => accepted?_setting_eq_none.1 (hbefore z hz)) hmodule

theorem PrefixTemplate.unique {x? y? : Option String} (hx : b.PrefixTemplate t x?)
    (hy : b.PrefixTemplate t y?) : x? = y? := by
  rw [prefixTemplate_iff] at hx hy
  exact Except.ok.inj (hx.symm.trans hy)

theorem PrefixOf.unique {x? y? : Option Path.Pattern} (hx : b.PrefixOf t x?)
    (hy : b.PrefixOf t y?) : x? = y? := by
  cases hx with
  | absent h =>
    cases hy with
    | absent => rfl
    | parsed h' => cases h.unique h'
  | parsed h hpath hparse =>
    cases hy with
    | absent h' => cases h.unique h'
    | parsed h' hpath' hparse' =>
      obtain rfl := Option.some.inj (h.unique h')
      obtain rfl := hpath.unique hpath'
      rw [Except.ok.inj (hparse.symm.trans hparse')]

theorem NeedsBody.unique {r : TagRegistry} {parameters : List Parameter} {needed needed' : Bool}
    (h : NeedsBody r parameters needed) (h' : NeedsBody r parameters needed') :
    needed = needed' := by
  cases h with
  | absent hnone =>
    cases h' with
    | absent => rfl
    | first hfront _ htag _ hleads =>
      exact absurd hleads (hnone _ (mem_of_first hfront) _ (mem_of_first htag))
  | first hfront hbefore htag hothers hleads hmerged hrequired =>
    have hhere := mem_of_first htag
    cases h' with
    | absent hnone =>
      exact absurd hleads (hnone _ (mem_of_first hfront) _ hhere)
    | first hfront' hbefore' htag' hothers' hleads' hmerged' hrequired' =>
      have hhere' := mem_of_first htag'
      obtain rfl := eq_of_first (P := fun p => ∃ tag ∈ p.tags, r.LeadsTo tag Tag.requestBodyName)
        hfront hfront' (fun q hq ⟨tag, hmem, hto⟩ => hbefore q hq tag hmem hto)
        (fun q hq ⟨tag, hmem, hto⟩ => hbefore' q hq tag hmem hto)
        ⟨_, hhere, hleads⟩ ⟨_, hhere', hleads'⟩
      obtain rfl := eq_of_first (P := fun tag => r.LeadsTo tag Tag.requestBodyName) htag htag'
        hothers hothers' hleads hleads'
      obtain rfl := Option.some.inj (Except.ok.inj (hmerged.symm.trans hmerged'))
      rw [Except.ok.inj (hrequired.symm.trans hrequired')]

def tagBody (b : Blueprint) (p : Parameter) (tag : Tag) : Except MappingError (Option Bool) := do
  match ← b.tags.merge tag Tag.requestBodyName with
  | none => return none
  | some attributes => return some (((← attributes.flag? "required").getD true) && !p.optional)

theorem parameterBody_eq (p : Parameter) :
    b.parameterBody p = firstResult (b.tagBody p) p.tags := rfl

theorem tagBody_of_some {p : Parameter} {tag : Tag} {attributes : AttributeMap}
    (h : b.tags.merge tag Tag.requestBodyName = .ok (some attributes)) :
    b.tagBody p tag = (attributes.flag? "required").map fun required =>
      some (required.getD true && !p.optional) := by
  rw [tagBody, h]
  cases hflag : attributes.flag? "required" with
  | error e => simp [hflag, bind, Except.bind, Except.map]
  | ok required => simp [hflag, bind, Except.bind, Except.map, pure, Except.pure]

theorem tagBody_eq_none {p : Parameter} {tag : Tag} :
    b.tagBody p tag = .ok none ↔ b.tags.merge tag Tag.requestBodyName = .ok none := by
  rcases hmerged : b.tags.merge tag Tag.requestBodyName with e | _ | attributes
  · rw [tagBody, hmerged]
    exact iff_of_false (by rintro ⟨⟩) (by rintro ⟨⟩)
  · rw [tagBody, hmerged]
    exact iff_of_true rfl rfl
  · rw [tagBody_of_some hmerged, Outcome.map_eq_ok]
    exact iff_of_false (by rintro ⟨_, -, ⟨⟩⟩) (by rintro ⟨⟩)

theorem tagBody_eq_some {p : Parameter} {tag : Tag} {needed : Bool} :
    b.tagBody p tag = .ok (some needed) ↔ ∃ attributes required,
      b.tags.merge tag Tag.requestBodyName = .ok (some attributes) ∧
      attributes.flag? "required" = .ok required ∧
      (required.getD true && !p.optional) = needed := by
  rcases hmerged : b.tags.merge tag Tag.requestBodyName with e | _ | attributes
  · rw [tagBody, hmerged]
    exact iff_of_false (by rintro ⟨⟩) (by rintro ⟨_, _, ⟨⟩, -⟩)
  · rw [tagBody, hmerged]
    exact iff_of_false (by rintro ⟨⟩) (by rintro ⟨_, _, ⟨⟩, -⟩)
  · rw [tagBody_of_some hmerged, Outcome.map_eq_ok]
    simp

theorem parameterBody_eq_none {p : Parameter} :
    b.parameterBody p = .ok none ↔
      ∀ tag ∈ p.tags, b.tags.merge tag Tag.requestBodyName = .ok none := by
  rw [parameterBody_eq, firstResult_eq_none]
  exact forall₂_congr fun tag _ => tagBody_eq_none

theorem not_leadsTo_of_merge (hr : b.tags.Reachable) {tag : Tag} {target : String}
    (h : b.tags.merge tag target = .ok none) : ¬ b.tags.LeadsTo tag target := by
  rw [← hr.isSome_merge_iff h]
  simp

theorem needsBody_of_bodyRequired (hr : b.tags.Reachable) {m : HandlerMethod} {needed : Bool}
    (h : b.bodyRequired m = .ok needed) : NeedsBody b.tags m.parameters needed := by
  have hnone : ∀ p : Parameter, b.parameterBody p = .ok none →
      ∀ tag ∈ p.tags, ¬ b.tags.LeadsTo tag Tag.requestBodyName := by
    intro p hp tag htag
    exact not_leadsTo_of_merge hr (parameterBody_eq_none.1 hp tag htag)
  obtain ⟨found, hfound, h⟩ := Outcome.bind_eq_ok.1 h
  obtain rfl := Outcome.pure_eq_ok.1 h
  cases found with
  | none => exact .absent fun p hp => hnone p (firstResult_eq_none.1 hfound p hp)
  | some needed =>
    obtain ⟨before, p, hfront, hbefore, hp⟩ := firstResult_eq_some.1 hfound
    rw [parameterBody_eq] at hp
    obtain ⟨others, tag, htag, hothers, hbody⟩ := firstResult_eq_some.1 hp
    obtain ⟨attributes, required, hmerged, hrequired, rfl⟩ := tagBody_eq_some.1 hbody
    have hleads : b.tags.LeadsTo tag Tag.requestBodyName := (hr.isSome_merge_iff hmerged).1 rfl
    exact .first hfront (fun q hq => hnone q (hbefore q hq)) htag
      (fun other hother => not_leadsTo_of_merge hr (tagBody_eq_none.1 (hothers other hother)))
      hleads hmerged hrequired

theorem assembles_of_behindPrefix {outer? : Option Mapping} {inner m m' : Mapping} {required : Bool}
    (hm : Mapping.Assembles none outer? inner required m) (hne : m.paths.patterns ≠ [])
    (h : (b.behindPrefix t m).result = .ok m') :
    ∃ prefix?, b.PrefixOf t prefix? ∧ Mapping.Assembles prefix? outer? inner required m' := by
  unfold behindPrefix at h
  rw [Logged.result_bind, Outcome.bind_eq_ok] at h
  obtain ⟨found, hfound, h⟩ := h
  rw [Logged.result_monadLift] at hfound
  have htemplate := prefixTemplate_iff.2 (congrArg (·.map (·.map PathPrefix.template)) hfound)
  cases found with
  | none =>
    obtain rfl := Except.ok.inj h
    exact ⟨none, .absent htemplate, hm⟩
  | some p =>
    rw [Logged.result_bind, Outcome.bind_eq_ok] at h
    obtain ⟨path, hpath, h⟩ := h
    have hbehind : m.behind path = .ok m' := h
    obtain ⟨x, hx, hassembles⟩ := hm.behind hne hbehind
    exact ⟨some x, .parsed htemplate (becomes_iff.2 hpath) hx, hassembles⟩

theorem assembles_of_insideType {inner combined : Mapping} (hne : inner.paths.patterns ≠ [])
    (h : (b.insideType t inner).result = .ok combined) (required : Bool) :
    ∃ outer?, b.Routes t.tags outer? ∧ combined.paths.patterns ≠ [] ∧
      Mapping.Assembles none outer? inner required
        ((combined.withName inner.name).withBodyRequired required) := by
  unfold insideType at h
  rw [Logged.result_bind, Outcome.bind_eq_ok] at h
  obtain ⟨outer?, houter, h⟩ := h
  have hroutes := routes_of_declaredMapping houter
  refine ⟨outer?, hroutes, ?_⟩
  cases outer? with
  | none =>
    obtain rfl := Except.ok.inj h
    exact ⟨hne, Mapping.assembles_alone inner required⟩
  | some outer =>
    have hcombine : outer.combine inner = .ok combined := h
    have hassembles := Mapping.assembles_inside hcombine hroutes.ne_nil hne required
    obtain ⟨paths, hpaths, rfl⟩ := Mapping.combine_eq_ok.1 hcombine
    exact ⟨(PathCondition.combines_of_combine hpaths hroutes.ne_nil hne).ne_nil, hassembles⟩

theorem exists_assembles_of_mappingFor (hr : b.tags.Reachable) {m : HandlerMethod}
    {mapping : Mapping} (h : (b.mappingFor t m).result = .ok (some mapping)) :
    ∃ prefix? outer? inner required, b.Parts t m prefix? outer? inner required ∧
      Mapping.Assembles prefix? outer? inner required mapping := by
  unfold mappingFor at h
  rw [Logged.result_bind, Outcome.bind_eq_ok] at h
  obtain ⟨declared, hdeclared, h⟩ := h
  cases declared with
  | none => cases h
  | some inner =>
    have hroutes := routes_of_declaredMapping hdeclared
    simp only [Logged.result_bind, Outcome.bind_eq_ok, Logged.result_monadLift] at h
    obtain ⟨combined, hcombined, required, hrequired, result, hresult, h⟩ := h
    obtain rfl := Option.some.inj (Except.ok.inj h)
    obtain ⟨outer?, houter, hne, hassembles⟩ :=
      assembles_of_insideType hroutes.ne_nil hcombined required
    obtain ⟨prefix?, hfront, hbehind⟩ := assembles_of_behindPrefix hassembles hne hresult
    exact ⟨prefix?, outer?, inner, required,
      ⟨hroutes, houter, hfront, needsBody_of_bodyRequired hr hrequired⟩, hbehind⟩

/-- The mapping of a method is put together from the routing tags of the method and its type, the
path prefix of the type and the body among the parameters, and these leave no choice. -/
theorem mappingFor_assembles (hr : b.tags.Reachable) {m : HandlerMethod} {mapping : Mapping}
    (h : (b.mappingFor t m).result = .ok (some mapping)) :
    (∃ prefix? outer? inner required, b.Parts t m prefix? outer? inner required) ∧
      ∀ prefix? outer? inner required, b.Parts t m prefix? outer? inner required →
        Mapping.Assembles prefix? outer? inner required mapping := by
  obtain ⟨prefix?, outer?, inner, required, hparts, hassembles⟩ :=
    exists_assembles_of_mappingFor hr h
  refine ⟨⟨prefix?, outer?, inner, required, hparts⟩, ?_⟩
  intro prefix?' outer?' inner' required' hparts'
  obtain rfl := hparts.front.unique hparts'.front
  obtain rfl := hparts.ofType.unique hparts'.ofType
  obtain rfl := Option.some.inj (hparts.own.unique hparts'.own)
  obtain rfl := hparts.body.unique hparts'.body
  exact hassembles

def createUser : HandlerMethod where
  name := "create"
  tags := [Tag.shorthand "PostMapping" ""]
  parameters := [{ name := "user", typeName := "User", tags := [Tag.requestBody false] }]

def plainUsers : HandlerType where
  name := "Users"
  modulePath := "app::web"
  tags := [(Tag.requestMapping.set "value" (.texts ["$\x7busers\x7d"])).set
    "consumes" (.text "text/plain")]
  methods := [createUser]

def pathNames : ValueResolver := .ofFunction fun value => match value with
  | "$\x7bbase\x7d" => "/api"
  | "$\x7busers\x7d" => "/users"
  | _ => value

def prefixed : Blueprint where
  config := { pathPrefixes := [⟨"/admin", "app::admin"⟩, ⟨"$\x7bbase\x7d", "app"⟩] }
  resolver? := some pathNames
  prefixes := [⟨"/v2", .negated .any⟩]

theorem mappingFor_createUser :
    ∃ mapping prefix? outer? inner required,
      (prefixed.mappingFor plainUsers createUser).result = .ok (some mapping) ∧
      mapping.paths.texts = ["/api/users"] ∧ mapping.consumes.isEmpty = false ∧
      mapping.consumes.bodyRequired = false ∧
      prefixed.Parts plainUsers createUser prefix? outer? inner required ∧
      Mapping.Assembles prefix? outer? inner required mapping := by
  have hresult : (prefixed.mappingFor plainUsers createUser).result.map
      (·.map fun m => (m.paths.texts, m.consumes.isEmpty, m.consumes.bodyRequired)) =
        .ok (some (["/api/users"], false, false)) := by
    decide +kernel
  obtain ⟨mapping?, hmapping, hsome⟩ := Outcome.map_eq_ok.1 hresult
  obtain ⟨mapping, rfl, hshown⟩ := Option.map_eq_some_iff.1 hsome
  simp only [Prod.mk.injEq] at hshown
  obtain ⟨⟨prefix?, outer?, inner, required, hparts⟩, hassembles⟩ :=
    mappingFor_assembles ⟨[], .inr rfl⟩ hmapping
  exact ⟨mapping, prefix?, outer?, inner, required, hmapping, hshown.1, hshown.2.1, hshown.2.2,
    hparts, hassembles _ _ _ _ hparts⟩

end Blueprint

end RequestRouting
