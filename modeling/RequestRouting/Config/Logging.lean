import RequestRouting.Config.Deployment
import RequestRouting.Dictionary
import RequestRouting.Document

/-! How a program logs what building and using its mapping table reports. -/
namespace RequestRouting

structure LogConfig where
  level : String
  jsonFormat : Bool := false
  prettyPrint : Bool := false
  includeLocation : Bool := false
  /-- Fields beside the first event. -/
  globalFields : Dictionary Document := ∅
  /-- Levels by part of the program. -/
  filter : Option String := none
  serviceName : Option String := none

namespace LogConfig

def standard : LogConfig := { level := "info", prettyPrint := true }

def withField (c : LogConfig) (name : String) (value : Document) : LogConfig :=
  { c with globalFields := c.globalFields.insert name value }

def withService (c : LogConfig) (name : String) : LogConfig := { c with serviceName := some name }

def withFilter (c : LogConfig) (filter : String) : LogConfig := { c with filter := some filter }

def labelled (c : LogConfig) (label : String) : LogConfig := c.withField "env" (.text label)

def production : LogConfig :=
  labelled { level := "info", jsonFormat := true, filter := some "routemap=info,axum=warn" }
    "production"

def development : LogConfig :=
  labelled
    { level := "debug", prettyPrint := true, includeLocation := true,
      filter := some "routemap=debug,axum=debug" }
    "development"

def testing : LogConfig :=
  labelled { level := "error", filter := some "routemap=error" } "test"

def ofDeployment : Deployment → LogConfig
  | .development => development
  | .testing => testing
  | .production => production

def directive (c : LogConfig) : String := c.filter.getD c.level

end LogConfig

end RequestRouting
