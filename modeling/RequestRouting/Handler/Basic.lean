import RequestRouting.Document
import RequestRouting.Tag.Basic
import RequestRouting.Text.Unicode.Uppercase

/-! Handler types as data: where they live, what tags them, what they extend, and their
methods. A handler is a method together with its type. -/
namespace RequestRouting

structure Parameter where
  name : String
  typeName : String
  tags : List Tag := []
  /-- The value may be missing. -/
  optional : Bool := false
deriving DecidableEq

structure HandlerMethod where
  name : String
  tags : List Tag := []
  parameters : List Parameter := []
deriving DecidableEq

structure HandlerType where
  name : String
  /-- The names of the modules around the type, with `::` between them. -/
  modulePath : String := ""
  tags : List Tag := []
  supertypes : List String := []
  methods : List HandlerMethod := []
deriving DecidableEq

def trimSeparators (cs : List Char) : List Char := (go cs.reverse).reverse
where
  go : List Char → List Char
    | ':' :: ':' :: cs => go cs
    | cs => cs

def isModuleWithin (modulePath base : List Char) : Bool :=
  let base := trimSeparators base
  modulePath == base || (base ++ [':', ':']).isPrefixOf modulePath

namespace HandlerType

def qualifiedName (t : HandlerType) : String :=
  if t.modulePath.isEmpty then t.name else t.modulePath ++ "::" ++ t.name

def isInModule (t : HandlerType) (base : String) : Bool :=
  isModuleWithin t.modulePath.toList base.toList

/-- Whether the type has this name, with or without its module, or extends what has it. -/
def isAssignableTo (t : HandlerType) (typeName : String) : Bool :=
  t.name == typeName || t.qualifiedName == typeName || t.supertypes.contains typeName

end HandlerType

structure Handler where
  type : HandlerType
  method : HandlerMethod
deriving DecidableEq

namespace Handler

def render (h : Handler) : String := h.type.name ++ "#" ++ h.method.name

def qualifiedName (h : Handler) : String := h.type.qualifiedName ++ "#" ++ h.method.name

/-- The name of a mapping that has no name of its own: the capitals of the type's name, and
the method. -/
def defaultMappingName (h : Handler) : String :=
  String.ofList (h.type.name.toList.filter Text.isUppercase) ++ "#" ++ h.method.name

def toDocument (h : Handler) : Document :=
  .record [("type", .text h.type.qualifiedName), ("method", .text h.method.name)]

end Handler

end RequestRouting
