/-
SliceFleet.Simulation — a provider of simulated backends.

Targets are kept in memory under their names. A steady target always answers
in the same way; a factory takes its target's behaviour with it when it is
made. A scripted target goes through a list of actions, one an attempt, and
stays at the last; the attempts are counted by script, for all factories of
the script together. An unknown target refuses. A target may have a
decoration, which makes its factories state another capability.

The meters and the log are views of the journal: the meters count what
happened at steady targets, the log lists what happened at scripted ones.
-/
import SliceFleet.Provider

namespace SliceFleet.Simulation

/-! ## Targets -/

/-- How a steady target answers. -/
inductive Behavior where
  | connects
  | refuses
  | answersNothing
deriving DecidableEq, Repr

/-- One step of a script. -/
inductive Action where
  | connect
  | closeFails
  | nothing
  | refuse
  | panic
  | fail (word : String)
deriving DecidableEq, Repr

namespace Action

/-- The action that a word of a script names. -/
def ofWord : String → Action
  | "connect" => .connect
  | "close-fails" => .closeFails
  | "none" => .nothing
  | "refuse" => .refuse
  | "panic" => .panic
  | word => .fail word

def word : Action → String
  | .connect => "connect"
  | .closeFails => "close-fails"
  | .nothing => "none"
  | .refuse => "refuse"
  | .panic => "panic"
  | .fail word => word

theorem word_ofWord (text : String) : (ofWord text).word = text := by
  unfold ofWord
  split <;> rfl

end Action

/-- Whether factories of a scripted target can be made. -/
inductive Making where
  | available
  | unsupported
  | faulty
  | panics
deriving DecidableEq, Repr

/-- What the first word of a script says about making factories. -/
def Making.ofWord : String → Making
  | "factory-unsupported" => .unsupported
  | "factory-internal" => .faulty
  | "factory-panic" => .panics
  | _ => .available

/-- A script with the number under which its attempts are counted. -/
structure Script where
  number : Nat
  making : Making
  actions : List Action
deriving DecidableEq, Repr

/-- How a target conducts itself. -/
inductive Conduct where
  | steady (behavior : Behavior)
  | scripted (script : Script)
deriving DecidableEq, Repr

namespace Conduct

def isSteady : Conduct → Bool
  | .steady _ => true
  | .scripted _ => false

end Conduct

/-- A simulated backend. -/
structure Target where
  conduct : Conduct
  capable : Bool
deriving DecidableEq, Repr

/-- The simulated backends by target. -/
structure Field where
  targets : KeyMap Target
  decorations : KeyMap Bool
  /-- How many attempts each script has seen, by number. -/
  attempts : List Nat

namespace Field

def empty : Field := ⟨∅, ∅, []⟩

instance : Inhabited Field := ⟨empty⟩

def setSteady (field : Field) (target : String) (behavior : Behavior) (capable : Bool) : Field :=
  { field with targets := field.targets.insert target ⟨.steady behavior, capable⟩ }

/-- Sets a scripted target; its attempts are counted from zero. -/
def setScripted (field : Field) (target : String) (words : List String) (capable : Bool) : Field :=
  let making := (words.head?.map Making.ofWord).getD .available
  let script : Script := ⟨field.attempts.length, making, words.map Action.ofWord⟩
  { field with
    targets := field.targets.insert target ⟨.scripted script, capable⟩
    attempts := field.attempts ++ [0] }

/-- Sets the capability that the target's decoration states. -/
def setDecoration (field : Field) (target : String) (capable : Bool) : Field :=
  { field with decorations := field.decorations.insert target capable }

/-- How many attempts a script has seen. -/
def attemptsOf (field : Field) (script : Script) : Nat :=
  field.attempts[script.number]?.getD 0

def countAttempt (field : Field) (script : Script) : Field :=
  { field with attempts := field.attempts.set script.number (field.attemptsOf script + 1) }

end Field

/-! ## Factories and connections -/

/-- A factory of a simulated backend. -/
structure SimulatedFactory where
  target : String
  /-- How the target conducted itself when the factory was made. -/
  conduct : Conduct
  /-- Whether the factory takes part in distributed transactions. -/
  capable : Bool
deriving DecidableEq, Repr

/-- A connection to a simulated backend. -/
structure SimulatedConnection where
  target : String
  steady : Bool
  closeFails : Bool
deriving DecidableEq, Repr

/-- The name under which scripted backends report faults. -/
def scriptedName : String := "scripted"

/-- Makes the factory of a configuration's target. -/
def makeFactory (config : BackendConfig) (field : Field) :
    Outcome BackendFault SimulatedFactory × Field :=
  let target := config.target
  match field.targets.get? target with
  | none => (.done ⟨target, .steady .refuses, false⟩, field)
  | some ⟨.steady behavior, capable⟩ => (.done ⟨target, .steady behavior, capable⟩, field)
  | some ⟨.scripted script, capable⟩ =>
    match script.making with
    | .available => (.done ⟨target, .scripted script, capable⟩, field)
    | .unsupported => (.failed (.unsupportedDriver target), field)
    | .faulty => (.failed (.internal scriptedName "no factory" none), field)
    | .panics => (.panicked "scripted factory panic", field)

/-- Lets the factory state the capability of its target's decoration. -/
def decorate (config : BackendConfig) (factory : SimulatedFactory) (field : Field) :
    SimulatedFactory × Field :=
  match field.decorations.get? config.target with
  | none => (factory, field)
  | some capable => ({ factory with capable }, field)

/-- The action for an attempt, given how many came before it. -/
def actionAt (actions : List Action) (before : Nat) : Action :=
  (actions[min before (actions.length - 1)]?).getD .nothing

def answerSteadily (target : String) : Behavior → Outcome BackendFault (Option SimulatedConnection)
  | .connects => .done (some ⟨target, true, false⟩)
  | .refuses => .failed (.connectionFailed target "connection refused")
  | .answersNothing => .done none

def perform (target : String) : Action → Outcome BackendFault (Option SimulatedConnection)
  | .connect => .done (some ⟨target, false, false⟩)
  | .closeFails => .done (some ⟨target, false, true⟩)
  | .nothing => .done none
  | .refuse => .failed (.connectionFailed target "scripted refusal")
  | .panic => .panicked "scripted panic"
  | .fail word => .failed (.internal scriptedName word none)

def connect (factory : SimulatedFactory) (field : Field) :
    Outcome BackendFault (Option SimulatedConnection) × Field :=
  match factory.conduct with
  | .steady behavior => (answerSteadily factory.target behavior, field)
  | .scripted script =>
    (perform factory.target (actionAt script.actions (field.attemptsOf script)),
      field.countAttempt script)

def close (connection : SimulatedConnection) (field : Field) : Option BackendFault × Field :=
  (if connection.closeFails then
      some (.internal scriptedName ("can not close " ++ connection.target) none)
    else none, field)

def provider : Provider Field SimulatedFactory SimulatedConnection where
  makeFactory := makeFactory
  decorate := decorate
  connect := connect
  close := close
  capable := SimulatedFactory.capable

/-! ## Meters and log -/

/-- The world of simulated backends. -/
abbrev SimulatedWorld := World Field SimulatedFactory SimulatedConnection

/-- What happened at simulated backends. -/
abbrev SimulatedEvent := Event SimulatedFactory SimulatedConnection

/-- Whether a steady target opened a connection. -/
def opensSteadily : SimulatedEvent → Bool
  | .attempted factory (.done (some _)) => factory.conduct.isSteady
  | _ => false

/-- Whether a connection to a steady target was closed. -/
def closesSteadily : SimulatedEvent → Bool
  | .closed link _ => link.handle.steady
  | _ => false

/-- Whether a connection to this steady target was attempted. -/
def probesSteadily (target : String) : SimulatedEvent → Bool
  | .attempted factory _ => factory.conduct.isSteady && factory.target == target
  | _ => false

/-- How many connections the steady targets opened. -/
def openedMeter (world : SimulatedWorld) : Nat :=
  world.journal.countP opensSteadily

/-- How many connections to steady targets were closed. -/
def closedMeter (world : SimulatedWorld) : Nat :=
  world.journal.countP closesSteadily

/-- How many connections to a steady target were attempted. -/
def probesMeter (world : SimulatedWorld) (target : String) : Nat :=
  world.journal.countP (probesSteadily target)

def actionOf : Outcome BackendFault (Option SimulatedConnection) → Action
  | .done (some connection) => if connection.closeFails then .closeFails else .connect
  | .done none => .nothing
  | .failed (.internal _ word _) => .fail word
  | .failed _ => .refuse
  | .panicked _ => .panic

theorem actionOf_perform (target : String) (action : Action) :
    actionOf (perform target action) = action := by
  cases action <;> rfl

/-- The line that an event leaves in the log of the scripted targets. -/
def logLine? : SimulatedEvent → Option String
  | .attempted factory answer =>
    if factory.conduct.isSteady then none
    else some ((actionOf answer).word ++ " " ++ factory.target)
  | .closed link _ => if link.handle.steady then none else some ("close " ++ link.handle.target)
  | .requested _ => none

def log (world : SimulatedWorld) : List String :=
  world.journal.filterMap logLine?

end SliceFleet.Simulation
