import Attestor.Check
import Attestor.KeyRing

namespace Attestor

structure Registration where
  check : Check
  attest : Bool := true

structure Engine where
  metadata : MetadataService
  keyring : KeyRing
  checks : List (String × Registration) := []
  required : List String := []
  dryRun : Bool := false

namespace Engine

def insert (name : String) (registration : Registration) :
    List (String × Registration) → List (String × Registration)
  | [] => [(name, registration)]
  | (other, old) :: rest =>
    if name = other then (name, registration) :: rest
    else if name < other then (name, registration) :: (other, old) :: rest
    else (other, old) :: insert name registration rest

def register (engine : Engine) (name : String) (check : Check) : Engine :=
  { engine with checks := insert name { check } engine.checks }

def registerWithoutAttestation (engine : Engine) (name : String) (check : Check) : Engine :=
  { engine with checks := insert name { check, attest := false } engine.checks }

def names (engine : Engine) : List String :=
  engine.checks.map (·.1)

def require (engine : Engine) (name : String) : Except Error Engine :=
  if (engine.checks.lookup name).isNone then .error (.requiredCheckNotEnabled name)
  else if engine.required.contains name then .ok engine
  else .ok { engine with required := engine.required ++ [name] }

def withDryRun (engine : Engine) (dryRun : Bool) : Engine :=
  { engine with dryRun }

def canonical (text : String) : Except Error String :=
  match CheckName.ofAnyCase? text with
  | some name => .ok name.name
  | none => .error (.unknownCheck text)

def enable (settings : Settings) (services : Services) (engine : Engine) (text : String) :
    Except Error Engine := do
  let name ← canonical text
  let check ← Check.ofText name settings services
  return engine.register name check

def requireText (engine : Engine) (text : String) : Except Error Engine := do
  engine.require (← canonical text)

def ofSettings (settings : Settings) (services : Services) (keyring : KeyRing) :
    Except Error Engine := do
  let start : Engine :=
    { metadata := services.metadata, keyring, dryRun := settings.checks.dryRun }
  let engine ← settings.checks.enabled.foldlM (enable settings services) start
  settings.checks.required.foldlM requireText engine

end Engine

end Attestor
