import RequestRouting.Error
import RequestRouting.Handler.Basic
import RequestRouting.Logged
import RequestRouting.Table.ConditionIndex

/-! The table of mappings: registrations in their order, with an index by conditions, one by name
and one by the paths that static patterns spell out. Two registrations never have the same
conditions. -/
namespace RequestRouting

structure Registration where
  mapping : Mapping
  handler : Handler
  /-- The mapping's name, or one derived from the handler. -/
  name : String

structure MappingTable where
  options : Path.MatchOptions
  registrations : List Registration
  byConditions : ConditionIndex
  /-- Positions of registrations by the paths that their static patterns spell out. -/
  byPath : Dictionary (List Nat)
  byName : Dictionary (List Nat)

namespace MappingTable

def empty (options : Path.MatchOptions) : MappingTable := ⟨options, [], ∅, ∅, ∅⟩

def size (t : MappingTable) : Nat := t.registrations.length

def isEmpty (t : MappingTable) : Bool := t.registrations.isEmpty

def indexOf? (t : MappingTable) (m : Mapping) : Option Nat := t.byConditions.get? m

def find? (t : MappingTable) (m : Mapping) : Option Registration :=
  (t.indexOf? m).bind fun i => t.registrations[i]?

def positions (index : Dictionary (List Nat)) (key : String) : List Nat :=
  (index.get? key).getD []

def addPosition (i : Nat) (index : Dictionary (List Nat)) (key : String) :
    Dictionary (List Nat) :=
  index.insert key (positions index key ++ [i])

def select (t : MappingTable) (is : List Nat) : List Registration :=
  is.filterMap fun i => t.registrations[i]?

def named (t : MappingTable) (name : String) : List Registration :=
  t.select (positions t.byName name)

def direct (t : MappingTable) (path : String) : List Registration :=
  t.select (positions t.byPath path)

def add (t : MappingTable) (m : Mapping) (h : Handler) : MappingTable :=
  let name := m.name.getD h.defaultMappingName
  { t with
    registrations := t.registrations ++ [⟨m, h, name⟩]
    byConditions := t.byConditions.insert m t.size
    byPath := m.paths.directPaths.foldl (addPosition t.size) t.byPath
    byName := addPosition t.size t.byName name }

/-- Registers a handler for a mapping. The same conditions may come again only with the same
handler, and then change nothing. -/
def register (t : MappingTable) (m : Mapping) (h : Handler) : Logged MappingError MappingTable :=
  match t.find? m with
  | some existing =>
    if existing.handler = h then return t
    else Logged.fail
      (.ambiguousMapping m.render existing.handler.qualifiedName h.qualifiedName)
  | none => do
    Logged.report (.mappingRegistered m.render h.render h.qualifiedName)
    return t.add m h

def toDocument (t : MappingTable) : Document :=
  .list (t.registrations.map fun r => .record [("name", .text r.name),
    ("mapping", r.mapping.diagnostic), ("handler", r.handler.toDocument)])

end MappingTable

end RequestRouting
