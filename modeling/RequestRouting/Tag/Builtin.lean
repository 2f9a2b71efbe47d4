import RequestRouting.Tag.Registry

/-! The tag types that every registry starts with: the routing tag, its short forms for single
methods, and the tags for controllers and bodies. -/
namespace RequestRouting

namespace Tag

def requestMappingName : String := "RequestMapping"
def controllerName : String := "Controller"
def restControllerName : String := "RestController"
def responseBodyName : String := "ResponseBody"
def requestBodyName : String := "RequestBody"

def shorthandName? : Method → Option String
  | .get => some "GetMapping"
  | .post => some "PostMapping"
  | .put => some "PutMapping"
  | .delete => some "DeleteMapping"
  | .patch => some "PatchMapping"
  | _ => none

def requestMapping : Tag := .named requestMappingName
def controller : Tag := .named controllerName
def restController : Tag := .named restControllerName
def responseBody : Tag := .named responseBodyName

def requestBody (required : Bool) : Tag :=
  (Tag.named requestBodyName).set "required" (.flag required)

def shorthand (name path : String) : Tag :=
  if path.isEmpty then .named name else (Tag.named name).set "value" (.texts [path])

end Tag

namespace TagType

def requestMapping : TagType where
  name := Tag.requestMappingName
  defaults := .ofList [("name", .text ""), ("value", .texts []), ("path", .texts []),
    ("method", .methods []), ("params", .texts []), ("headers", .texts []),
    ("consumes", .texts []), ("produces", .texts [])]
  metas := []
  aliases := [⟨"value", Tag.requestMappingName, "path"⟩]

def shorthand (name : String) (method : Method) : TagType where
  name := name
  defaults := .ofList [("value", .texts []), ("path", .texts []), ("params", .texts []),
    ("headers", .texts []), ("consumes", .texts []), ("produces", .texts []), ("name", .text "")]
  metas := [Tag.requestMapping.set "method" (.methods [method])]
  aliases := ⟨"value", Tag.requestMappingName, "path"⟩ ::
    ["path", "params", "headers", "consumes", "produces", "name"].map fun attr =>
      ⟨attr, Tag.requestMappingName, attr⟩

def controller : TagType := ⟨Tag.controllerName, .ofList [("value", .text "")], [], []⟩

def responseBody : TagType := ⟨Tag.responseBodyName, ∅, [], []⟩

def restController : TagType where
  name := Tag.restControllerName
  defaults := .ofList [("value", .text "")]
  metas := [Tag.controller, Tag.responseBody]
  aliases := [⟨"value", Tag.controllerName, "value"⟩]

def requestBody : TagType := ⟨Tag.requestBodyName, .ofList [("required", .flag true)], [], []⟩

/-- Every type behind the types of the tags that it carries. -/
def builtins : List TagType :=
  [requestMapping] ++
    (Method.all.filterMap fun method => (Tag.shorthandName? method).map (shorthand · method)) ++
    [controller, responseBody, restController, requestBody]

end TagType

def TagRegistry.builtin : TagRegistry := TagType.builtins.foldl TagRegistry.add .empty

end RequestRouting
