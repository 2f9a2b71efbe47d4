import RequestRouting.Document
import RequestRouting.Error
import RequestRouting.Handler.Selector
import RequestRouting.Text.Blank
import RequestRouting.Text.Split

/-! Path prefixes for all handler types of a module, as settings list them. -/
namespace RequestRouting

structure ModulePrefix where
  template : String
  baseModule : String
deriving DecidableEq

namespace ModulePrefix

/-- Reads one entry: the path and, behind an equals sign, the module. -/
def parseEntry (entry : List Char) : Except ConfigError ModulePrefix :=
  match Text.splitFirst '=' entry with
  | some (template, baseModule) =>
    .ok ⟨String.ofList (Text.trimChars template), String.ofList (Text.trimChars baseModule)⟩
  | none =>
    .error (.invalidValue "path_prefixes" (String.ofList entry)
      "entries of the form prefix=base::module")

def parseList (text : String) : Except ConfigError (List ModulePrefix) :=
  let entries := (Text.splitAll ';' text.toList).map Text.trimChars
  (entries.filter fun entry => !entry.isEmpty).mapM parseEntry

/-- The path starts at the root or with a placeholder, and there is a module. -/
def check (p : ModulePrefix) : Except ConfigError Unit :=
  if ['/'].isPrefixOf p.template.toList || ['$', '\x7b'].isPrefixOf p.template.toList then
    if p.baseModule.isEmpty then .error (.missingModule p.template) else .ok ()
  else .error (.unrootedPrefix p.template)

def selector (p : ModulePrefix) : Selector := .inModules [p.baseModule]

def toDocument (p : ModulePrefix) : Document :=
  .record [("prefix", .text p.template), ("base_module", .text p.baseModule)]

def ofParts? (template baseModule : Document) : Option ModulePrefix := do
  return ⟨← template.text?, ← baseModule.text?⟩

def ofDocument? : Document → Option ModulePrefix
  | .list [template, baseModule] => ofParts? template baseModule
  | .record fields => do ofParts? (← fields.lookup "prefix") (← fields.lookup "base_module")
  | _ => none

theorem ofDocument?_toDocument (p : ModulePrefix) : ofDocument? p.toDocument = some p := rfl

end ModulePrefix

end RequestRouting
