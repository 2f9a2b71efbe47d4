import RequestRouting.Request.Basic
import RequestRouting.Request.Target

/-! Requests as a server receives them, before anything is checked. -/
namespace RequestRouting

structure ReceivedRequest where
  method : String
  target : String
  headers : List (String × List UInt8)

inductive ReceiveError where
  | malformed
  | unknownMethod (e : UnknownMethod)

/-- Checks form first, then the method. -/
def ReceivedRequest.toRequest (r : ReceivedRequest) : Except ReceiveError Request :=
  let headers := r.headers.mapM fun (name, value) => Header.make? name value
  if !Text.isToken r.method then .error .malformed
  else match Target.parse? r.target, headers with
    | some target, some headers =>
      match Method.ofToken? r.method with
      | some method =>
        let query := (target.query.map Text.decodeForm).getD []
        .ok { method, path := target.path, query, headers }
      | none => .error (.unknownMethod ⟨r.method⟩)
    | _, _ => .error .malformed

end RequestRouting
