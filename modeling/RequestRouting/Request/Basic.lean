import RequestRouting.Logged
import RequestRouting.Media.Preference
import RequestRouting.Media.Reader
import RequestRouting.Method
import RequestRouting.Request.Header
import RequestRouting.Text.Form

/-! Requests, as far as mappings look at them: method, path, query parameters and headers. -/
namespace RequestRouting

structure Request where
  method : Method
  path : String
  query : List (String × String) := []
  headers : List Header := []
deriving DecidableEq

namespace Request

def ofTarget (method : Method) (target : String) : Request :=
  match Text.splitFirst '?' target.toList with
  | some (path, query) =>
    { method, path := String.ofList path, query := Text.decodeForm (String.ofList query) }
  | none => { method, path := target }

/-- Adds a header. One with an unfit name or value is left out and reported. -/
def withHeader {ε : Type} (r : Request) (name value : String) : Logged ε Request :=
  match Header.make? name (Text.encodeUtf8 value) with
  | some h => pure { r with headers := r.headers ++ [h] }
  | none => do
    Logged.report (.headerSkipped name value)
    return r

def withQueryParam (r : Request) (name value : String) : Request :=
  { r with query := r.query ++ [(name, value)] }

def queryValues (r : Request) (name : String) : List String :=
  (r.query.filter (·.1 == name)).map (·.2)

def queryParam? (r : Request) (name : String) : Option String := r.query.lookup name

def hasQueryParam (r : Request) (name : String) : Bool := r.query.any (·.1 == name)

def headersNamed (r : Request) (name : String) : List Header :=
  r.headers.filter (·.name == Text.asciiLower name)

def headerValues (r : Request) (name : String) : List String :=
  (r.headersNamed name).filterMap Header.text?

def header? (r : Request) (name : String) : Option String :=
  (r.headersNamed name).head?.bind Header.text?

def hasHeader (r : Request) (name : String) : Bool := !(r.headersNamed name).isEmpty

def headerText (h : Header) : Except MediaTypeError String :=
  match h.text? with
  | some text => .ok text
  | none => .error ⟨Text.decodeUtf8 h.value, .notText⟩

def contentType? (r : Request) : Option (Except MediaTypeError MediaType) :=
  (r.headersNamed "content-type").head?.map fun h => headerText h >>= MediaType.parse

section Accepting

variable (r : Request) (read : MediaType.Reader)

def declaredMediaTypes : Except MediaTypeError (List MediaType) := do
  let lists ← (r.headersNamed "accept").mapM fun h => headerText h >>= MediaType.parseListWith read
  return lists.flatten

/-- What the client accepts, best first; a client that names nothing accepts everything. -/
def acceptedMediaTypesWith : Except MediaTypeError (List MediaType) := do
  let declared ← r.declaredMediaTypes read
  return MediaType.sortByPreference (if declared.isEmpty then [.all] else declared)

def acceptedMediaTypes : Except MediaTypeError (List MediaType) :=
  r.acceptedMediaTypesWith MediaType.readChars

end Accepting

/-- Whether a length above zero or a transfer coding announces a body. -/
def hasBody (r : Request) : Bool :=
  (((r.header? "content-length").bind fun length => Number.uint64? (Text.trim length)).any
    (0 < ·)) || r.hasHeader "transfer-encoding"

end Request

end RequestRouting
