import RequestRouting.Blueprint.MethodMapping
import RequestRouting.Table.Basic

/-! Building the mapping table: handler types in the order of their registration, the methods
of each in theirs. The first thing that goes wrong ends the building. -/
namespace RequestRouting.Blueprint

def addMethod (b : Blueprint) (t : HandlerType) (table : MappingTable) (m : HandlerMethod) :
    Logged MappingError MappingTable := do
  match ← b.mappingFor t m with
  | none => return table
  | some mapping => table.register mapping ⟨t, m⟩

def addType (b : Blueprint) (table : MappingTable) (t : HandlerType) :
    Logged MappingError MappingTable :=
  if b.isHandler t then t.methods.foldlM (b.addMethod t) table
  else do
    Logged.report (.handlerTypeSkipped t.qualifiedName)
    return table

def accepted (b : Blueprint) : List HandlerType := b.handlerTypes.filter b.isHandler

/-- Builds the table. The report leaves the time to whoever has a clock. -/
def build (b : Blueprint) : Logged MappingError MappingTable := do
  let table ← b.handlerTypes.foldlM b.addType (.empty b.config.matchOptions)
  Logged.report (.tableBuilt b.accepted.length table.size 0)
  return table

end RequestRouting.Blueprint
