import RequestRouting.Method
import RequestRouting.Text.Quoted

/-! Why a request that reaches the path of some mapping gets no handler. -/
namespace RequestRouting

inductive LookupError where
  | methodNotAllowed (method : Method) (allowed : List Method)
  | unsupportedMediaType (contentType : String) (supported : List String)
  | notAcceptable (producible : List String)
  | unsatisfiedParameters (conditions : List String)
  | ambiguousHandler (path first second : String)
deriving DecidableEq

namespace LookupError

def status : LookupError → Nat
  | methodNotAllowed .. => 405
  | unsupportedMediaType .. => 415
  | notAcceptable _ => 406
  | unsatisfiedParameters _ => 400
  | ambiguousHandler .. => 500

def code : LookupError → String
  | methodNotAllowed .. => "METHOD_NOT_ALLOWED"
  | unsupportedMediaType .. => "UNSUPPORTED_MEDIA_TYPE"
  | notAcceptable _ => "NOT_ACCEPTABLE"
  | unsatisfiedParameters _ => "UNSATISFIED_PARAMETERS"
  | ambiguousHandler .. => "AMBIGUOUS_HANDLER"

def message : LookupError → String
  | methodNotAllowed method allowed =>
    s!"Request method '{method.name}' not supported, allowed: " ++
      Text.bracketed (allowed.map Method.name)
  | unsupportedMediaType contentType supported =>
    s!"Content type '{contentType}' not supported, supported: {Text.quotedList supported}"
  | notAcceptable producible =>
    s!"Could not find acceptable representation, producible: {Text.quotedList producible}"
  | unsatisfiedParameters conditions =>
    s!"Request parameter conditions not met: {Text.quotedList conditions}"
  | ambiguousHandler path first second =>
    s!"Ambiguous handler methods mapped for '{path}': \x7b{first}, {second}\x7d"

end LookupError

end RequestRouting
