import Attestor.Engine
import Attestor.Report

namespace Attestor

inductive Stage where
  | checking
  | submitting (attestation : SignedAttestation)
  | finished (result : CheckResult)
deriving DecidableEq, Repr

structure Task where
  name : String
  registration : Registration
  stage : Stage := .checking

inductive Event where
  | cancel
  | advance (name : String)
deriving DecidableEq, Repr

abbrev Course := List String → List Event

structure Run where
  cancelled : Bool
  store : Store
  tasks : List Task

structure Assignment where
  engine : Engine
  image : ImageReference
  now : Nat

namespace FailureKind

def ofCheckError : CheckError → FailureKind
  | .rejected _ => .rejected
  | .metadata _ => .evidence
  | .repository _ => .evidence
  | .cancelled => .cancelled

end FailureKind

namespace CheckResult

def ofCheckError (name : String) (error : CheckError) : CheckResult :=
  .failed name (.ofCheckError error) error.explanation

def ofAttestError (name : String) (error : Error) : CheckResult :=
  .unsigned name error.explanation

end CheckResult

namespace Assignment

def sign (assignment : Assignment) (name : String) : Except Error SignedAttestation := do
  let body ← (assignment.engine.metadata.payloadBody assignment.image).mapError .metadata
  (assignment.engine.keyring.attest assignment.now name body assignment.image).mapError .keyRing

def attests (assignment : Assignment) (registration : Registration) : Bool :=
  registration.attest && !assignment.engine.dryRun && assignment.engine.metadata.canAttest

def passed (assignment : Assignment) (name : String) (registration : Registration) : Stage :=
  if assignment.attests registration then
    match assignment.sign name with
    | .ok attestation => .submitting attestation
    | .error error => .finished (.ofAttestError name error)
  else .finished (.passed name)

def made (assignment : Assignment) (name : String) (registration : Registration) : Stage :=
  match registration.check.decide assignment.image with
  | .value () => assignment.passed name registration
  | .failure error => .finished (.ofCheckError name error)
  | .never => .checking

def submitted (assignment : Assignment) (name : String) (attestation : SignedAttestation)
    (store : Store) : Stage × Store :=
  match assignment.engine.metadata.submit assignment.image attestation store with
  | .value (record, store) => (.finished (.attestedBy name record), store)
  | .failure error => (.finished (.ofAttestError name (.metadata error)), store)
  | .never => (.submitting attestation, store)

end Assignment

namespace Run

/-- Lets a check go on: a cancelled run ends it, and else it is made or its attestation submitted. -/
def advance (assignment : Assignment) (run : Run) (task : Task) : Task × Bool × Store :=
  match task.stage with
  | .finished _ => (task, run.cancelled, run.store)
  | .checking =>
    if run.cancelled then
      ({ task with stage := .finished (.ofCheckError task.name .cancelled) }, true, run.store)
    else
      ({ task with stage := assignment.made task.name task.registration },
        task.registration.check.cancels, run.store)
  | .submitting attestation =>
    if run.cancelled then
      ({ task with stage := .finished (.ofAttestError task.name .cancelled) }, true, run.store)
    else
      let (stage, store) := assignment.submitted task.name attestation run.store
      ({ task with stage }, false, store)

def advanceNamed (assignment : Assignment) (name : String) (run : Run) : List Task → Run
  | [] => { run with tasks := [] }
  | task :: rest =>
    if task.name = name then
      let (task, cancelled, store) := run.advance assignment task
      { cancelled, store, tasks := task :: rest }
    else
      let later := advanceNamed assignment name run rest
      { later with tasks := task :: later.tasks }

def step (assignment : Assignment) (run : Run) : Event → Run
  | .cancel => { run with cancelled := true }
  | .advance name => advanceNamed assignment name run run.tasks

def follow (assignment : Assignment) (schedule : List Event) (run : Run) : Run :=
  schedule.foldl (step assignment) run

def results? (run : Run) : Option (List CheckResult) :=
  run.tasks.mapM fun task =>
    match task.stage with
    | .finished result => some result
    | _ => none

def start (selected : List (String × Registration)) (cancelled : Bool) (store : Store) : Run :=
  { cancelled, store, tasks := selected.map fun (name, registration) => { name, registration } }

def inTurn (names : List String) : List Event :=
  names.flatMap fun name => [.advance name, .advance name]

/-- The schedule of a run on one thread: one check after the other, and in the end those that still
wait for an answer, in case that the run has been cancelled meanwhile. -/
def onOneThread : Course := fun names =>
  inTurn names ++ inTurn names

end Run

structure RunOutcome where
  report : Report
  cancelled : Bool
  store : Store
deriving DecidableEq, Repr

namespace Engine

def report (engine : Engine) (image : ImageReference) (results : List CheckResult) : Report :=
  { image := image.canonical, success := Report.verdict engine.required results, results }

def runBy (assignment : Assignment) (selected : List (String × Registration))
    (schedule : List Event) (cancelled : Bool) (store : Store) : Option RunOutcome :=
  let last := (Run.start selected cancelled store).follow assignment schedule
  last.results?.map fun results =>
    { report := assignment.engine.report assignment.image results
      cancelled := last.cancelled
      store := last.store }

def runAlong (course : Course) (engine : Engine) (image : ImageReference) (now : Nat)
    (cancelled : Bool) (store : Store) : Option RunOutcome :=
  runBy { engine, image, now } engine.checks (course engine.names) cancelled store

def run (engine : Engine) (image : ImageReference) (now : Nat) (cancelled : Bool) (store : Store) :
    Option RunOutcome :=
  runAlong Run.onOneThread engine image now cancelled store

def distinct (names : List String) : List String :=
  (names.mergeSort (· ≤ ·)).eraseReps

def select (engine : Engine) (names : List String) :
    Except Error (List (String × Registration)) :=
  (distinct names).mapM fun name =>
    match engine.checks.lookup name with
    | some registration => .ok (name, registration)
    | none => .error (.unknownCheck name)

/-- Makes the checks with the given names along a course, each one once; names that are not
registered are refused before any check is made. -/
def runChecksAlong (course : Course) (engine : Engine) (image : ImageReference)
    (names : List String) (now : Nat) (cancelled : Bool) (store : Store) :
    Except Error (Option RunOutcome) := do
  let selected ← engine.select names
  return runBy { engine, image, now } selected (course (selected.map (·.1))) cancelled store

def runChecks (engine : Engine) (image : ImageReference) (names : List String) (now : Nat)
    (cancelled : Bool) (store : Store) : Except Error (Option RunOutcome) :=
  runChecksAlong Run.onOneThread engine image names now cancelled store

end Engine

end Attestor
