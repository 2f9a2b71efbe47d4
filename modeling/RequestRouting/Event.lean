import RequestRouting.Document

/-! Events that building and using a mapping table reports, as values. An event knows its
level, the part of the library that it comes from, and its message. -/
namespace RequestRouting

inductive Level where
  | trace
  | debug
  | info
  | warn
deriving DecidableEq

def Level.label : Level → String
  | .trace => "TRACE"
  | .debug => "DEBUG"
  | .info => "INFO"
  | .warn => "WARN"

inductive Event where
  | headerSkipped (name value : String)
  | tagTypeRegistered (name : String) (metas aliases : Nat)
  | placeholderResolved (placeholder value : String)
  | handlerTypeSkipped (handlerType : String)
  | pathPrefixApplied (path template handlerType : String)
  | mappingRegistered (mapping handler qualifiedHandler : String)
  | tableBuilt (handlerTypes mappings elapsedMicros : Nat)
  | requestMatched (method path handler : String)
deriving DecidableEq

namespace Event

def level : Event → Level
  | headerSkipped .. | handlerTypeSkipped .. => .warn
  | placeholderResolved .. | requestMatched .. => .trace
  | tableBuilt .. => .info
  | tagTypeRegistered .. | pathPrefixApplied .. | mappingRegistered .. => .debug

def source : Event → String
  | headerSkipped .. | requestMatched .. => "routemap::lookup"
  | _ => "routemap::mapping"

def message : Event → String
  | headerSkipped name value => s!"Skipping invalid header {name}: {value}"
  | tagTypeRegistered name metas aliases =>
    s!"Registered annotation type @{name} ({metas} meta-annotations, {aliases} aliases)"
  | placeholderResolved placeholder value =>
    s!"Resolved placeholder '{placeholder}' to \"{value}\""
  | handlerTypeSkipped handlerType =>
    s!"Skipping {handlerType}: not a controller and no type level request mapping"
  | pathPrefixApplied path template handlerType =>
    s!"Applying path prefix '{path}' (from '{template}') to {handlerType}"
  | mappingRegistered mapping _ qualifiedHandler => s!"Mapped {mapping} onto {qualifiedHandler}"
  | tableBuilt handlerTypes mappings elapsedMicros =>
    let summary := Document.record [("elapsed_us", .ofNat elapsedMicros),
      ("event", .text "mapping_table_built"), ("handler_types", .ofNat handlerTypes),
      ("mappings", .ofNat mappings)]
    s!"{mappings} request mappings registered {summary.render}"
  | requestMatched method path handler => s!"{method} {path} matched {handler}"

def fields : Event → List (String × String)
  | mappingRegistered _ handler _ => [("handler", handler)]
  | _ => []

end Event

end RequestRouting
