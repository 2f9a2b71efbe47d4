import RequestRouting.Dictionary
import RequestRouting.Tag.Value

/-! Tags describe handler types, their methods and the parameters of these. A tag has a name
and attributes; the type of that name says which attributes there are, with their defaults,
which other tags every tag of the type carries, and which attributes stand for each other. -/
namespace RequestRouting

structure Tag where
  name : String
  attrs : Dictionary TagValue
deriving DecidableEq

namespace Tag

def named (name : String) : Tag := ⟨name, ∅⟩

def set (t : Tag) (attr : String) (value : TagValue) : Tag :=
  { t with attrs := t.attrs.insert attr value }

def remove (t : Tag) (attr : String) : Tag := { t with attrs := t.attrs.erase attr }

end Tag

/-- An attribute that stands for an attribute of the same type or of a tag that the type
carries. -/
structure Alias where
  attr : String
  targetTag : String
  targetAttr : String
deriving DecidableEq

structure TagType where
  name : String
  defaults : Dictionary TagValue
  metas : List Tag
  aliases : List Alias

namespace TagType

def declares (t : TagType) (attr : String) : Bool := t.defaults.contains attr

def undeclared? (t : TagType) (tag : Tag) : Option String :=
  tag.attrs.keys.find? fun attr => !t.declares attr

def localAliases (t : TagType) : List Alias := t.aliases.filter (·.targetTag == t.name)

def aliasesTo (t : TagType) (metaName : String) : List Alias :=
  t.aliases.filter (·.targetTag == metaName)

def otherEnd? (attr : String) (a : Alias) : Option String :=
  if a.attr == attr then some a.targetAttr
  else if a.targetAttr == attr then some a.attr
  else none

/-- The attributes that stand for the same as `attr`: through a local alias, or because both
are aliases of one attribute elsewhere. -/
def partners (t : TagType) (attr : String) : List String :=
  let targets := t.aliases.filter fun a => a.attr == attr && a.targetTag != t.name
  let twins := t.aliases.filter fun a => a.attr != attr &&
    targets.any fun b => a.targetTag == b.targetTag && a.targetAttr == b.targetAttr
  t.localAliases.filterMap (otherEnd? attr) ++ twins.map Alias.attr

end TagType

end RequestRouting
