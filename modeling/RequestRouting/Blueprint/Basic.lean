import RequestRouting.Config.Basic
import RequestRouting.Placeholder.Resolver
import RequestRouting.Tag.Builtin
import RequestRouting.Text.Quoted

/-! A blueprint is what a mapping table is built from: settings, tag types, path prefixes and
the handler types in the order of their registration. -/
namespace RequestRouting

structure PathPrefix where
  template : String
  selector : Selector

structure ValueResolver where
  resolve : String → Logged MappingError String

namespace ValueResolver

def ofFunction (f : String → String) : ValueResolver := ⟨fun value => return f value⟩

/-- Resolves by properties, which have to come to an end for every text. -/
noncomputable def ofProperties (r : Placeholder.Resolver)
    (h : ∀ value, (r.resolve value).isSome) : ValueResolver :=
  ⟨fun value => ((r.resolve value).get (h value)).mapError .placeholder⟩

end ValueResolver

structure Blueprint where
  config : RoutingConfig := {}
  tags : TagRegistry := .builtin
  resolver? : Option ValueResolver := none
  /-- Path prefixes beside those of the settings. -/
  prefixes : List PathPrefix := []
  handlerTypes : List HandlerType := []

namespace Blueprint

def withResolver (b : Blueprint) (r : ValueResolver) : Blueprint := { b with resolver? := some r }

def withPrefixes (b : Blueprint) (prefixes : List PathPrefix) : Blueprint := { b with prefixes }

def addPrefix (b : Blueprint) (p : PathPrefix) : Blueprint :=
  { b with prefixes := b.prefixes ++ [p] }

def registerTagType (b : Blueprint) (t : TagType) : Logged MappingError Blueprint := do
  return { b with tags := ← b.tags.register t }

def registerHandlerType (b : Blueprint) (t : HandlerType) : Blueprint :=
  { b with handlerTypes := b.handlerTypes ++ [t] }

def pathPrefixes (b : Blueprint) : List PathPrefix :=
  b.prefixes ++ b.config.pathPrefixes.map fun p => ⟨p.template, p.selector⟩

/-- Handlers are looked for in controllers and in types that are mapped themselves. -/
def isHandler (b : Blueprint) (t : HandlerType) : Bool :=
  b.tags.isPresent t.tags Tag.controllerName || b.tags.isPresent t.tags Tag.requestMappingName

def renderRecord (name : String) (fields : List (String × String)) : String :=
  let shown := fields.map fun (field, value) => field ++ ": " ++ value
  name ++ " \x7b " ++ ", ".intercalate shown ++ " \x7d"

def renderFlag (b : Bool) : String := if b then "true" else "false"

def renderModulePrefix (p : ModulePrefix) : String :=
  renderRecord "PathPrefixConfig"
    [("prefix", Text.quoted p.template), ("base_module", Text.quoted p.baseModule)]

def renderConfig (c : RoutingConfig) : String :=
  renderRecord "MappingConfig"
    [("trailing_slash_match", renderFlag c.trailingSlashMatch),
      ("case_sensitive_match", renderFlag c.caseSensitiveMatch),
      ("path_prefixes", Text.bracketed (c.pathPrefixes.map renderModulePrefix))]

def renderPrefix (p : PathPrefix) : String :=
  renderRecord "PathPrefix"
    [("template", Text.quoted p.template), ("predicate", p.selector.render)]

def render (b : Blueprint) : String :=
  renderRecord "RequestMappingHandlerMapping"
    [("config", renderConfig b.config),
      ("embedded_value_resolver", renderFlag b.resolver?.isSome),
      ("path_prefixes", Text.bracketed (b.prefixes.map renderPrefix)),
      ("handler_types", toString b.handlerTypes.length)]

end Blueprint

end RequestRouting
