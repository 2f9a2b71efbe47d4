import RequestRouting.Error
import RequestRouting.Tag.Basic

/-! The attributes of one tag type as they count in the end, with typed access. An attribute
that is missing or empty reads as not set. -/
namespace RequestRouting

structure AttributeMap where
  tag : String
  values : Dictionary TagValue
deriving DecidableEq

namespace AttributeMap

def get? (m : AttributeMap) (attr : String) : Option TagValue := m.values.get? attr

def wrongKind (m : AttributeMap) (attr expected : String) (actual : TagValue) : MappingError :=
  .badAttribute m.tag attr (.wrongKind expected actual.kind)

def texts (m : AttributeMap) (attr : String) : Except MappingError (List String) :=
  match m.get? attr with
  | none => .ok []
  | some (.text value) => .ok (if value.isEmpty then [] else [value])
  | some (.texts values) => .ok values
  | some other => .error (m.wrongKind attr "string array" other)

def text? (m : AttributeMap) (attr : String) : Except MappingError (Option String) :=
  match m.get? attr with
  | none => .ok none
  | some (.text value) => .ok (if value.isEmpty then none else some value)
  | some other => .error (m.wrongKind attr "string" other)

def flag? (m : AttributeMap) (attr : String) : Except MappingError (Option Bool) :=
  match m.get? attr with
  | none => .ok none
  | some (.flag value) => .ok (some value)
  | some other => .error (m.wrongKind attr "boolean" other)

def methodNamed (m : AttributeMap) (attr name : String) : Except MappingError Method :=
  match Method.parse? name with
  | some method => .ok method
  | none => .error (.badAttribute m.tag attr (.notAMethod name))

def methods (m : AttributeMap) (attr : String) : Except MappingError (List Method) :=
  match m.get? attr with
  | none => .ok []
  | some (.methods values) => .ok values
  | some (.text name) => if name.isEmpty then .ok [] else [name].mapM (m.methodNamed attr)
  | some (.texts names) => names.mapM (m.methodNamed attr)
  | some other => .error (m.wrongKind attr "method array" other)

end AttributeMap

end RequestRouting
