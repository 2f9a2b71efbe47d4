import RequestRouting.Media.Reader
import RequestRouting.Path.Pattern
import RequestRouting.Text.Quoted

/-! What can go wrong with settings and while a mapping table is built. Every cause has a code for
programs and a message for people. -/
namespace RequestRouting

inductive ConfigError where
  | invalidValue (field value expected : String)
  | unrootedPrefix (template : String)
  | missingModule (template : String)
deriving DecidableEq

namespace ConfigError

def message : ConfigError → String
  | invalidValue field value expected =>
    s!"Invalid value for field '{field}': '{value}'. Expected: {expected}"
  | unrootedPrefix template =>
    s!"Configuration validation failed: Path prefix '{template}' " ++
      "must start with '/' or a placeholder"
  | missingModule template =>
    s!"Configuration validation failed: Path prefix '{template}' must name a base module"

end ConfigError

inductive PlaceholderError where
  | unresolvable (placeholder value : String)
  | circular (placeholder : String)
deriving DecidableEq

def PlaceholderError.message : PlaceholderError → String
  | unresolvable placeholder value =>
    s!"Could not resolve placeholder '{placeholder}' in value \"{value}\""
  | circular placeholder =>
    s!"Circular placeholder reference '{placeholder}' in property definitions"

def PlaceholderError.code : PlaceholderError → String
  | unresolvable .. => "UNRESOLVABLE_PLACEHOLDER"
  | circular .. => "CIRCULAR_PLACEHOLDER"

inductive ExpressionKind where
  | params
  | headers
deriving DecidableEq

def ExpressionKind.label : ExpressionKind → String
  | params => "params"
  | headers => "headers"

inductive DefinitionFault where
  | emptyName
  | alreadyRegistered
  | unregisteredMeta (name : String)
  | undeclaredMetaAttribute (name attr : String)
  | undeclaredAlias (attr : String)
  | foreignAliasTarget (attr target : String)
  | missingAliasTarget (target attr : String)
deriving DecidableEq

def DefinitionFault.message : DefinitionFault → String
  | emptyName => "annotation name must not be empty"
  | alreadyRegistered => "annotation type is already registered"
  | unregisteredMeta name => s!"meta-annotation @{name} is not registered"
  | undeclaredMetaAttribute name attr => s!"meta-annotation @{name} has no attribute '{attr}'"
  | undeclaredAlias attr => s!"alias attribute '{attr}' is not declared"
  | foreignAliasTarget attr target =>
    s!"alias '{attr}' targets @{target}, which is not a declared meta-annotation"
  | missingAliasTarget target attr => s!"alias target @{target}.{attr} does not exist"

inductive AttributeFault where
  | undeclared
  | wrongKind (expected actual : String)
  | notAMethod (name : String)
deriving DecidableEq

def AttributeFault.message : AttributeFault → String
  | undeclared => "a declared attribute"
  | wrongKind expected actual => s!"{expected}, got {actual}"
  | notAMethod name => s!"an HTTP method name, got '{name}'"

inductive MappingError where
  | placeholder (e : PlaceholderError)
  | pattern (text : String) (cause : Path.PatternError)
  | mediaType (e : MediaTypeError)
  | expression (kind : ExpressionKind) (text : String)
  | aliasConflict (tag attr other : String)
  | severalTags (element : String) (tags : List String)
  | definition (tag : String) (fault : DefinitionFault)
  | badAttribute (tag attr : String) (fault : AttributeFault)
  | ambiguousMapping (mapping existingHandler newHandler : String)
  | selectorFailed (handlerType message : String)
  | config (e : ConfigError)
deriving DecidableEq

namespace MappingError

def message : MappingError → String
  | placeholder e => e.message
  | pattern text cause => s!"Invalid route pattern '{text}': {cause.message}"
  | mediaType e => e.message
  | expression kind text => s!"Invalid {kind.label} expression '{text}'"
  | aliasConflict tag attr other =>
    s!"Attribute '{attr}' and its alias '{other}' are declared with different values on @{tag}"
  | severalTags element tags =>
    s!"Multiple routing annotations found on {element}: {Text.quotedList tags}"
  | definition tag fault => s!"Invalid definition of annotation @{tag}: {fault.message}"
  | badAttribute tag attr fault =>
    s!"Invalid value for attribute '{attr}' of @{tag}: expected {fault.message}"
  | ambiguousMapping mapping existingHandler newHandler =>
    s!"Ambiguous mapping. Cannot map '{newHandler}' method\n{mapping}: " ++
      s!"There is already '{existingHandler}' method mapped."
  | selectorFailed handlerType message =>
    s!"Handler type predicate failed for '{handlerType}': {message}"
  | config e => s!"Configuration error: {e.message}"

def code : MappingError → String
  | placeholder e => e.code
  | pattern .. => "INVALID_PATTERN"
  | mediaType .. => "INVALID_MEDIA_TYPE"
  | expression .. => "INVALID_EXPRESSION"
  | aliasConflict .. => "ALIAS_CONFLICT"
  | severalTags .. => "MULTIPLE_MAPPING_ANNOTATIONS"
  | definition .. => "INVALID_ANNOTATION_DEFINITION"
  | badAttribute .. => "INVALID_ATTRIBUTE"
  | ambiguousMapping .. => "AMBIGUOUS_MAPPING"
  | selectorFailed .. => "PREDICATE_FAILED"
  | config .. => "CONFIGURATION_ERROR"

end MappingError

end RequestRouting
