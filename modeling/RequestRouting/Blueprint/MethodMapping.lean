import RequestRouting.Blueprint.Basic
import RequestRouting.Mapping
import RequestRouting.Tag.Merging

/-! The mapping of a handler method: what its routing tag says, inside what the routing tag of
its type says, behind the first path prefix that selects the type. -/
namespace RequestRouting.Blueprint

def resolve (b : Blueprint) (value : String) : Logged MappingError String :=
  match b.resolver? with
  | some r => r.resolve value
  | none => return value

def resolvePatterns (b : Blueprint) (patterns : List String) : Logged MappingError (List String) :=
  patterns.mapM b.resolve

/-- The declared paths; `value` counts where `path` gives none. -/
def declaredPaths (attributes : AttributeMap) : Except MappingError (List String) := do
  let paths ← attributes.texts "path"
  if paths.isEmpty then attributes.texts "value" else return paths

def declaredSpec (attributes : AttributeMap) : Except MappingError MappingSpec := do
  return {
    methods := ← attributes.methods "method"
    params := ← attributes.texts "params"
    headers := ← attributes.texts "headers"
    consumes := ← attributes.texts "consumes"
    produces := ← attributes.texts "produces"
    name := ← attributes.text? "name" }

def mappingOf (b : Blueprint) (attributes : AttributeMap) : Logged MappingError Mapping := do
  let paths ← b.resolvePatterns (← declaredPaths attributes)
  let spec ← declaredSpec attributes
  Logged.ofExcept (Mapping.ofSpec { spec with paths })

def declaredMapping (b : Blueprint) (element : String) (tags : List Tag) :
    Logged MappingError (Option Mapping) := do
  match ← b.tags.findMerged element tags Tag.requestMappingName with
  | none => return none
  | some attributes => return some (← b.mappingOf attributes)

def parameterBody (b : Blueprint) (p : Parameter) : Except MappingError (Option Bool) :=
  firstResult (fun tag => do
    match ← b.tags.merge tag Tag.requestBodyName with
    | none => return none
    | some attributes =>
      return some (((← attributes.flag? "required").getD true) && !p.optional)) p.tags

/-- Whether requests need a body; the first body among the parameters decides. -/
def bodyRequired (b : Blueprint) (m : HandlerMethod) : Except MappingError Bool := do
  return (← firstResult b.parameterBody m.parameters).getD true

def prefixFor (b : Blueprint) (t : HandlerType) : Except MappingError (Option PathPrefix) :=
  firstResult (fun p => do
    return if ← p.selector.selects b.tags t then some p else none) b.pathPrefixes

def behindPrefix (b : Blueprint) (t : HandlerType) (m : Mapping) : Logged MappingError Mapping := do
  match ← b.prefixFor t with
  | none => return m
  | some p => do
    let path ← b.resolve p.template
    Logged.report (.pathPrefixApplied path p.template t.qualifiedName)
    m.behind path

def insideType (b : Blueprint) (t : HandlerType) (inner : Mapping) :
    Logged MappingError Mapping := do
  match ← b.declaredMapping t.qualifiedName t.tags with
  | none => return inner
  | some outer => outer.combine inner

/-- The mapping of a method; none for a method without a routing tag. Its name is the one that
the method's tag gives. -/
def mappingFor (b : Blueprint) (t : HandlerType) (m : HandlerMethod) :
    Logged MappingError (Option Mapping) := do
  match ← b.declaredMapping (t.qualifiedName ++ "#" ++ m.name) m.tags with
  | none => return none
  | some inner => do
    let combined ← b.insideType t inner
    let required ← b.bodyRequired m
    return some (← b.behindPrefix t ((combined.withName inner.name).withBodyRequired required))

end RequestRouting.Blueprint
