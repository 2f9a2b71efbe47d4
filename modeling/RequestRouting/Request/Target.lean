import RequestRouting.Text.Character
import RequestRouting.Text.Split

/-! Request targets: a path with a query, or a host, perhaps with a scheme before it and a
path behind it. A target is read from its left end; what it says beyond path and query is
checked and then left out. -/
namespace RequestRouting

structure Target where
  path : String
  query : Option String
deriving DecidableEq

def isPathChar (c : Char) : Bool := 0x21 ≤ c.toNat && c.toNat != 0x7f && !("<>`".toList.contains c)

def isQueryChar (c : Char) : Bool :=
  0x21 ≤ c.toNat && c.toNat != 0x7f && !("\"<>".toList.contains c)

def isAuthorityChar (c : Char) : Bool := c.isAlphanum || "!$&'()*+,-.:;=@[]_~".toList.contains c

def isSchemeChar (c : Char) : Bool := c.isAlphanum || "+-.~".toList.contains c

/-- What has been read of the part that names user, host and port. Colons and percent signs
count anew behind a user and behind a bracketed host. -/
structure Authority where
  colons : Nat := 0
  opened : Bool := false
  closed : Bool := false
  hasPercent : Bool := false
  endsInAt : Bool := false
deriving DecidableEq

namespace Authority

def maxColons : Nat := 8

def read (a : Authority) (c : Char) : Option Authority :=
  let a := { a with endsInAt := c == '@' }
  match c with
  | ':' => if a.colons < maxColons then some { a with colons := a.colons + 1 } else none
  | '[' => if a.hasPercent || a.opened then none else some { a with opened := true }
  | ']' =>
    if a.opened && !a.closed then some { a with closed := true, colons := 0, hasPercent := false }
    else none
  | '@' => some { a with colons := 0, hasPercent := false }
  | '%' => some { a with hasPercent := true }
  | _ => if isAuthorityChar c then some a else none

/-- Whether the part may end here: brackets closed, at most one colon for the port, a host
behind the user, and no percent sign in the host. -/
def isComplete (a : Authority) : Bool :=
  a.opened == a.closed && a.colons ≤ 1 && !a.endsInAt && !a.hasPercent

def isValid (cs : List Char) : Bool := (cs.foldlM read {}).any isComplete

end Authority

def endsAuthority (c : Char) : Bool := c == '/' || c == '?' || c == '#'

namespace Target

def maxBytes : Nat := 65534

def maxSchemeLength : Nat := 64

/-- Reads a path and a query. A fragment is left out, and an empty path stands for the root. -/
def ofPath? (cs : List Char) : Option Target :=
  let cs := cs.takeWhile (· != '#')
  let (path, query) := match Text.splitFirst '?' cs with
    | some (path, query) => (path, some query)
    | none => (cs, none)
  if path.all isPathChar && (query.getD []).all isQueryChar then
    some ⟨if path.isEmpty then "/" else String.ofList path, query.map String.ofList⟩
  else none

def dropScheme? (cs : List Char) : Option (List Char) :=
  match cs.dropWhile isSchemeChar with
  | ':' :: '/' :: '/' :: rest => some rest
  | _ => none

/-- Reads a target. A host without a scheme has to stand alone and has the empty path; behind
a scheme there has to be a host. -/
def parse? (target : String) : Option Target :=
  let cs := target.toList
  if cs.isEmpty || maxBytes < Text.byteLength cs then none
  else if cs = ['*'] then some ⟨"*", none⟩
  else if cs.head? = some '/' then ofPath? cs
  else match dropScheme? cs with
    | some rest =>
      let authority := rest.takeWhile (!endsAuthority ·)
      if maxSchemeLength < (cs.takeWhile isSchemeChar).length || authority.isEmpty ||
        !Authority.isValid authority then none
      else ofPath? (rest.dropWhile (!endsAuthority ·))
    | none =>
      if !cs.any endsAuthority && Authority.isValid cs then some ⟨"", none⟩ else none

example : parse? "Http://u:p@h:80?q#f" = some ⟨"/", some "q"⟩ := by decide +kernel
example : parse? "http://a:b:c/x" = none := by decide +kernel

end Target

end RequestRouting
