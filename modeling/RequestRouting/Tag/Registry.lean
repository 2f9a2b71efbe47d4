import RequestRouting.Error
import RequestRouting.Logged
import RequestRouting.Tag.Basic

/-! The registry of tag types. A type can carry only tags of types that were registered
before it, so following carried tags always leads to earlier registrations. -/
namespace RequestRouting

/-- The registered types, latest first. -/
structure TagRegistry where
  types : List TagType

namespace TagRegistry

def empty : TagRegistry := ⟨[]⟩

def find? (types : List TagType) (name : String) : Option TagType :=
  types.find? (·.name == name)

def get? (r : TagRegistry) (name : String) : Option TagType := find? r.types name

def contains (r : TagRegistry) (name : String) : Bool := (r.get? name).isSome

def metaFault? (r : TagRegistry) (tag : Tag) : Option DefinitionFault :=
  match r.get? tag.name with
  | none => some (.unregisteredMeta tag.name)
  | some t => (t.undeclared? tag).map (.undeclaredMetaAttribute tag.name)

def aliasFault? (r : TagRegistry) (t : TagType) (a : Alias) : Option DefinitionFault :=
  let missing := DefinitionFault.missingAliasTarget a.targetTag a.targetAttr
  if !t.declares a.attr then some (.undeclaredAlias a.attr)
  else if a.targetTag == t.name then
    if t.declares a.targetAttr then none else some missing
  else if t.metas.any (·.name == a.targetTag) then
    if (r.get? a.targetTag).any (·.declares a.targetAttr) then none else some missing
  else some (.foreignAliasTarget a.attr a.targetTag)

/-- The first thing that keeps a type from being registered: its name, then the tags it
carries, then its aliases. -/
def fault? (r : TagRegistry) (t : TagType) : Option DefinitionFault :=
  if t.name.isEmpty then some .emptyName
  else if r.contains t.name then some .alreadyRegistered
  else (t.metas.findSome? r.metaFault?).or (t.aliases.findSome? (r.aliasFault? t))

def add (r : TagRegistry) (t : TagType) : TagRegistry := ⟨t :: r.types⟩

def register (r : TagRegistry) (t : TagType) : Logged MappingError TagRegistry :=
  match r.fault? t with
  | some fault => Logged.fail (.definition t.name fault)
  | none => do
    Logged.report (.tagTypeRegistered t.name t.metas.length t.aliases.length)
    return r.add t

/-- Whether a tag of this name is the target or carries it, directly or through others. -/
def isOrCarriesIn : List TagType → (name target : String) → Bool
  | [], name, target => name == target
  | t :: earlier, name, target =>
    name == target ||
      if t.name == name then t.metas.any fun tag => isOrCarriesIn earlier tag.name target
      else isOrCarriesIn earlier name target

def isOrCarries (r : TagRegistry) (name target : String) : Bool :=
  isOrCarriesIn r.types name target

def isPresent (r : TagRegistry) (tags : List Tag) (target : String) : Bool :=
  tags.any fun tag => r.isOrCarries tag.name target

end TagRegistry

end RequestRouting
