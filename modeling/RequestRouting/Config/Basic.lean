import RequestRouting.Config.ModulePrefix
import RequestRouting.Config.Source
import RequestRouting.Path.Capture

/-! The settings of a mapping table, from environment variables or from a document. -/
namespace RequestRouting

def onWords : List String := ["true", "1", "yes", "on"]

def offWords : List String := ["false", "0", "no", "off"]

def readFlag (field value : String) : Except ConfigError Bool :=
  let word := Text.asciiLower (Text.trim value)
  if onWords.contains word then .ok true
  else if offWords.contains word then .ok false
  else .error (.invalidValue field value "true or false")

structure RoutingConfig where
  /-- A path with a slash at its end also matches a pattern without one. -/
  trailingSlashMatch : Bool := true
  /-- The case of letters in paths counts. -/
  caseSensitiveMatch : Bool := true
  pathPrefixes : List ModulePrefix := []
deriving DecidableEq

structure Setting where
  field : String
  variableName : String
  default : String

namespace Setting

def trailingSlashMatch : Setting :=
  ⟨"trailing_slash_match", "ROUTEMAP_TRAILING_SLASH_MATCH", "true"⟩

def caseSensitiveMatch : Setting :=
  ⟨"case_sensitive_match", "ROUTEMAP_CASE_SENSITIVE_MATCH", "true"⟩

def pathPrefixes : Setting := ⟨"path_prefixes", "ROUTEMAP_PATH_PREFIXES", ""⟩

def all : List Setting := [trailingSlashMatch, caseSensitiveMatch, pathPrefixes]

def read (s : Setting) (vars : Variables) : String := vars.valueOr s.variableName s.default

def source (s : Setting) (vars : Variables) : ConfigSource :=
  .detect vars s.variableName s.default

end Setting

namespace RoutingConfig

/-- Every path prefix has to be in order; the first one that is not decides the error. -/
def check (c : RoutingConfig) : Except ConfigError Unit := c.pathPrefixes.forM ModulePrefix.check

def ofVariables (vars : Variables) : Except ConfigError RoutingConfig := do
  let flag := fun (s : Setting) => readFlag s.field (s.read vars)
  let trailingSlashMatch ← flag .trailingSlashMatch
  let caseSensitiveMatch ← flag .caseSensitiveMatch
  let pathPrefixes ← ModulePrefix.parseList (Setting.pathPrefixes.read vars)
  let config : RoutingConfig := { trailingSlashMatch, caseSensitiveMatch, pathPrefixes }
  config.check
  return config

def sources (vars : Variables) : List (String × ConfigSource) :=
  Setting.all.map fun s => (s.field, s.source vars)

def matchOptions (c : RoutingConfig) : Path.MatchOptions where
  trailingSlash := c.trailingSlashMatch
  caseSensitive := c.caseSensitiveMatch

def toDocument (c : RoutingConfig) : Document :=
  .record [(Setting.trailingSlashMatch.field, .flag c.trailingSlashMatch),
    (Setting.caseSensitiveMatch.field, .flag c.caseSensitiveMatch),
    (Setting.pathPrefixes.field, .list (c.pathPrefixes.map ModulePrefix.toDocument))]

def ofParts? (trailingSlashMatch caseSensitiveMatch pathPrefixes : Document) :
    Option RoutingConfig := do
  return ⟨← trailingSlashMatch.flag?, ← caseSensitiveMatch.flag?,
    ← (← pathPrefixes.list?).mapM ModulePrefix.ofDocument?⟩

/-- Reads a record, or a list of exactly the fields in their order. Fields of a record that
are no settings do not count. -/
def ofDocument? : Document → Option RoutingConfig
  | .list [trailingSlashMatch, caseSensitiveMatch, pathPrefixes] =>
    ofParts? trailingSlashMatch caseSensitiveMatch pathPrefixes
  | .record fields => do
    ofParts? (← fields.lookup Setting.trailingSlashMatch.field)
      (← fields.lookup Setting.caseSensitiveMatch.field)
      (← fields.lookup Setting.pathPrefixes.field)
  | _ => none

theorem mapM_ofDocument?_toDocument (ps : List ModulePrefix) :
    (ps.map ModulePrefix.toDocument).mapM ModulePrefix.ofDocument? = some ps := by
  induction ps with
  | nil => rfl
  | cons p ps ih => simp [ModulePrefix.ofDocument?_toDocument, ih]

/-- What a configuration is written to is read back. -/
theorem ofDocument?_toDocument (c : RoutingConfig) : ofDocument? c.toDocument = some c := by
  show (do
    let pathPrefixes ← (c.pathPrefixes.map ModulePrefix.toDocument).mapM ModulePrefix.ofDocument?
    return ⟨c.trailingSlashMatch, c.caseSensitiveMatch, pathPrefixes⟩ : Option RoutingConfig) = _
  rw [mapM_ofDocument?_toDocument]
  rfl

end RoutingConfig

end RequestRouting
