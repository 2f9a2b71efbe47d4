import RequestRouting.Table.Diagnosis

/-! Finding the handler for a request. The mappings that spell out the path are asked first,
and all others only when none of these takes the request. Of several mappings that take it,
the best fit wins; two that fit equally well are an error. -/
namespace RequestRouting

/-- A registration that takes a request: its position, and its mapping narrowed to the
request. -/
structure Candidate where
  index : Nat
  registration : Registration
  narrowed : Mapping

structure HandlerMatch where
  mapping : Mapping
  matched : Mapping
  handler : Handler
  bestPattern : String
  pathParams : Dictionary String

namespace MappingTable

def candidate? (t : MappingTable) (r : Request) (i : Nat) : Option Candidate := do
  let registration ← t.registrations[i]?
  let narrowed ← registration.mapping.narrow t.options r
  return ⟨i, registration, narrowed⟩

def candidatesAt (t : MappingTable) (r : Request) (is : List Nat) : List Candidate :=
  is.filterMap (t.candidate? r)

def directCandidates (t : MappingTable) (r : Request) : List Candidate :=
  t.candidatesAt r (positions t.byPath r.path)

def allCandidates (t : MappingTable) (r : Request) : List Candidate :=
  t.candidatesAt r (List.range t.size)

def candidates (t : MappingTable) (r : Request) : List Candidate :=
  if (t.directCandidates r).isEmpty then t.allCandidates r else t.directCandidates r

def rank (r : Request) (cs : List Candidate) : List Candidate :=
  Order.sortBy (fun c d => Mapping.compareFit r c.narrowed d.narrowed) cs

def answer (t : MappingTable) (r : Request) (c : Candidate) : HandlerMatch :=
  let best := c.narrowed.paths.first?
  { mapping := c.registration.mapping
    matched := c.narrowed
    handler := c.registration.handler
    bestPattern := (best.map (·.canonical)).getD ""
    pathParams := (best.bind (·.capture t.options r.path)).getD ∅ }

/-- Picks the first of ranked candidates, unless the second one fits equally well. -/
def choose (t : MappingTable) (r : Request) :
    List Candidate → Except LookupError (Option HandlerMatch)
  | [] =>
    match t.diagnose r with
    | some e => .error e
    | none => .ok none
  | [c] => .ok (some (t.answer r c))
  | c :: d :: _ =>
    if Mapping.compareFit r c.narrowed d.narrowed = .eq then
      .error (.ambiguousHandler r.path c.registration.handler.qualifiedName
        d.registration.handler.qualifiedName)
    else .ok (some (t.answer r c))

/-- The handler for a request; none when the path reaches no mapping. -/
def lookup (t : MappingTable) (r : Request) : Except LookupError (Option HandlerMatch) :=
  t.choose r (rank r (t.candidates r))

def lookupLogged (t : MappingTable) (r : Request) : Logged LookupError (Option HandlerMatch) := do
  let found ← Logged.ofExcept (t.lookup r)
  match found with
  | some m => Logged.report (.requestMatched r.method.name r.path m.handler.render)
  | none => pure ()
  return found

end MappingTable

end RequestRouting
