import FeatureFlow.Engine.Basic
import FeatureFlow.Text.Numeral

/-! Settings of the HTTP host, taken from named variables. -/
namespace FeatureFlow

structure Settings where
  /-- Where the application document is found. -/
  application : String
  contract : Option String
  host : String
  portNumber : Nat
  limits : Limits
  deriving Repr, DecidableEq

inductive SettingsError where
  | missingApplication
  | notANumber (name : String)
  deriving Repr, DecidableEq

def SettingsError.message : SettingsError → String
  | missingApplication => "ARO_APPLICATION environment variable is required"
  | notANumber name => s!"{name} must be a number"

namespace Settings

def number (numeral? : List Char → Option Nat) (name text : String) : Except SettingsError Nat :=
  match numeral? text.toList with
  | some n => .ok n
  | none => .error (.notANumber name)

/-- A timeout of zero means none. -/
def read (lookup : String → Option String) : Except SettingsError Settings := do
  let application ← match lookup "ARO_APPLICATION" with
    | some path => pure path
    | none => throw .missingApplication
  let timeout ← (lookup "ARO_REQUEST_TIMEOUT_MS").mapM
    (number Text.word64? "ARO_REQUEST_TIMEOUT_MS")
  let cascade ← (lookup "ARO_MAX_CASCADE").mapM (number Text.word64? "ARO_MAX_CASCADE")
  let portNumber ← number Text.word16? "ARO_PORT" ((lookup "ARO_PORT").getD "8080")
  let defaults : Limits := {}
  return {
    application
    contract := (lookup "ARO_CONTRACT").filter (· ≠ "")
    host := (lookup "ARO_HOST").getD "0.0.0.0"
    portNumber
    limits := {
      timeout := match timeout with
        | some ms => if ms = 0 then none else some ms
        | none => defaults.timeout
      cascade := cascade.getD defaults.cascade } }

def address (s : Settings) : String := s!"{s.host}:{s.portNumber}"

end Settings

end FeatureFlow
