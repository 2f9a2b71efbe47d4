import RequestRouting.Table.Basic
import RequestRouting.Table.Error

/-! Explaining why no mapping takes a request. The mappings that the path reaches are put
through one condition after the other, and the first condition that none of them passes is
the reason. -/
namespace RequestRouting.MappingTable

def reachedBy (t : MappingTable) (r : Request) : List Mapping :=
  (t.registrations.map (·.mapping)).filter fun m => (m.paths.narrow t.options r.path).isSome

def allowingMethod (r : Request) (ms : List Mapping) : List Mapping :=
  ms.filter fun m => (m.methods.narrow r.method).isSome

def consumingBody (r : Request) (ms : List Mapping) : List Mapping :=
  ms.filter fun m => (m.consumes.narrow r).isSome

def producingAccepted (r : Request) (ms : List Mapping) : List Mapping :=
  ms.filter fun m => (m.produces.narrow r).isSome

def meetingParams (r : Request) (ms : List Mapping) : List Mapping :=
  ms.filter fun m => (m.params.narrow r).isSome

def declaredMethods (ms : List Mapping) : List Method :=
  (Order.SortedSet.ofList (ms.flatMap fun m => m.methods.methods.toList)).toList

def consumable (ms : List Mapping) : List String :=
  (Order.SortedSet.ofList ((ms.flatMap fun m => m.consumes.consumable).map MediaType.render)).toList

def producible (ms : List Mapping) : List String :=
  (Order.SortedSet.ofList ((ms.flatMap fun m => m.produces.producible).map MediaType.render)).toList

/-- The reason, or none when the path reaches no mapping or only headers are amiss. -/
def diagnose (t : MappingTable) (r : Request) : Option LookupError :=
  let reached := t.reachedBy r
  let allowing := allowingMethod r reached
  let consuming := consumingBody r allowing
  let producing := producingAccepted r consuming
  if reached.isEmpty then none
  else if allowing.isEmpty then some (.methodNotAllowed r.method (declaredMethods reached))
  else if consuming.isEmpty then
    some (.unsupportedMediaType ((r.header? "content-type").getD MediaType.octetStream.render)
      (consumable allowing))
  else if producing.isEmpty then some (.notAcceptable (producible consuming))
  else if (meetingParams r producing).isEmpty then
    some (.unsatisfiedParameters (producing.map fun m => m.params.render))
  else none

end RequestRouting.MappingTable
