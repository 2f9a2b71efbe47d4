import RequestRouting.Tag.AttributeMap
import RequestRouting.Tag.Registry

/-! Merging a tag into the attributes of a tag that it is or carries. On the way to the
target, every value that an alias supplies replaces what the carried tag fixes; at the target,
attributes that stand for each other get the same value. -/
namespace RequestRouting

namespace TagType

/-- The value that an alias of the type supplies: the one set on the tag, else the default,
unless it is empty. -/
def aliasValue? (t : TagType) (tag : Tag) (a : Alias) : Option TagValue :=
  (tag.attrs.get? a.attr <|> t.defaults.get? a.attr).filter fun v => !v.isEmpty

def addOverride (t : TagType) (tag : Tag) (overrides : Dictionary (String × TagValue))
    (a : Alias) : Except MappingError (Dictionary (String × TagValue)) :=
  match t.aliasValue? tag a with
  | none => .ok overrides
  | some value =>
    match overrides.get? a.targetAttr with
    | none => .ok (overrides.insert a.targetAttr (a.attr, value))
    | some (supplier, existing) =>
      if existing.normalized = value.normalized then .ok overrides
      else .error (.aliasConflict t.name supplier a.attr)

/-- The values that the aliases of the type supply for a tag that it carries. -/
def overrides (t : TagType) (tag : Tag) (metaName : String) :
    Except MappingError (Dictionary (String × TagValue)) :=
  (t.aliasesTo metaName).foldlM (t.addOverride tag) ∅

/-- Sets an attribute of a carried tag and unsets all that stand for the same. -/
def override (metaType : Option TagType) (tag : Tag) (attr : String) (value : TagValue) : Tag :=
  let partners := (metaType.map (·.partners attr)).getD []
  (partners.foldl Tag.remove tag).set attr value

def carried (t : TagType) (metaType : Option TagType) (tag carriedTag : Tag) :
    Except MappingError Tag := do
  let values ← t.overrides tag carriedTag.name
  return values.entries.foldl (fun c e => override metaType c e.1 e.2.2) carriedTag

/-- Gives both ends of a local alias the value that one of them has. -/
def equateAlias (t : TagType) (values : Dictionary TagValue) (a : Alias) :
    Except MappingError (Dictionary TagValue) :=
  let valueOf := fun attr => (values.get? attr).filter fun v => !v.isEmpty
  match valueOf a.attr, valueOf a.targetAttr with
  | some v, some w =>
    if v.normalized = w.normalized then .ok values
    else .error (.aliasConflict t.name a.targetAttr a.attr)
  | some v, none => .ok (values.insert a.targetAttr v)
  | none, some w => .ok (values.insert a.attr w)
  | none, none => .ok values

def equateAliases (t : TagType) (values : Dictionary TagValue) :
    Except MappingError (Dictionary TagValue) :=
  t.localAliases.foldlM t.equateAlias values

/-- The attributes of a tag of this type: the defaults, and over them what the tag sets. -/
def ownAttributes (t : TagType) (tag : Tag) : Except MappingError AttributeMap := do
  let values ← t.equateAliases (t.defaults.insertMany tag.attrs.entries)
  return ⟨t.name, values⟩

def checkDeclared (t : TagType) (tag : Tag) : Except MappingError Unit :=
  match t.undeclared? tag with
  | some attr => .error (.badAttribute t.name attr .undeclared)
  | none => .ok ()

end TagType

def firstResult (f : α → Except ε (Option β)) : List α → Except ε (Option β)
  | [] => .ok none
  | x :: xs => do
    match ← f x with
    | some y => return some y
    | none => firstResult f xs

namespace TagRegistry

/-- Merges among the given types. The tags that a type carries are merged among the types
registered before it. -/
def mergeIn : List TagType → Tag → (target : String) → Except MappingError (Option AttributeMap)
  | [], _, _ => .ok none
  | t :: earlier, tag, target =>
    if t.name = tag.name then do
      t.checkDeclared tag
      if t.name = target then return some (← t.ownAttributes tag)
      else firstResult (fun carriedTag => do
        if isOrCarriesIn earlier carriedTag.name target then
          let c ← t.carried (find? earlier carriedTag.name) tag carriedTag
          mergeIn earlier c target
        else return none) t.metas
    else mergeIn earlier tag target

/-- The attributes of `target` that a tag stands for; `none` when the tag neither is nor
carries the target, or its type is not registered. -/
def merge (r : TagRegistry) (tag : Tag) (target : String) :
    Except MappingError (Option AttributeMap) :=
  mergeIn r.types tag target

def mergeAll (r : TagRegistry) (tags : List Tag) (target : String) :
    Except MappingError (List (String × AttributeMap)) := do
  let merged ← tags.mapM fun tag => return (← r.merge tag target).map (tag.name, ·)
  return merged.filterMap id

/-- The attributes of the one tag on an element that resolves to the target. More than one
such tag is an error. -/
def findMerged (r : TagRegistry) (element : String) (tags : List Tag) (target : String) :
    Except MappingError (Option AttributeMap) := do
  match ← r.mergeAll tags target with
  | [] => return none
  | [(_, attributes)] => return some attributes
  | found => throw (.severalTags element (found.map fun f => "@" ++ f.1))

end TagRegistry

end RequestRouting
