import RequestRouting.Config.Source
import RequestRouting.Error
import RequestRouting.Text.Character

/-! Where a program runs. -/
namespace RequestRouting

inductive Deployment where
  | development
  | testing
  | production
deriving DecidableEq

namespace Deployment

def all : List Deployment := [development, testing, production]

def name : Deployment → String
  | development => "development"
  | testing => "testing"
  | production => "production"

def shortName : Deployment → String
  | development => "dev"
  | testing => "test"
  | production => "prod"

def isProduction (d : Deployment) : Bool := d == production

def parse (text : String) : Except ConfigError Deployment :=
  match all.find? fun d => [d.name, d.shortName].contains (Text.asciiLower text) with
  | some d => .ok d
  | none => .error (.invalidValue "environment" text "development, testing, or production")

def ofName? (text : String) : Option Deployment := all.find? (·.name == text)

def variableName : String := "ROUTEMAP_ENV"

def ofVariables (vars : Variables) : Except ConfigError Deployment :=
  ((vars.get? variableName).map parse).getD (.ok development)

theorem ofName?_name (d : Deployment) : ofName? d.name = some d := by cases d <;> decide

theorem parse_name (d : Deployment) : parse d.name = .ok d := by cases d <;> rfl

end Deployment

end RequestRouting
