/-
SliceFleet.Configuration.Session — a configuration in use.

What changes while a configuration is used is the provider's world, the
board of statuses and three memos: the outcome of composing the slices, be
it a composite or a fault; the policy; and the names of the active slices,
once there are any. Each memo is kept from then on. A call that a panic
leaves makes no memo, so the next call tries again.
-/
import SliceFleet.Configuration
import SliceFleet.Composite

namespace SliceFleet

/-- What changes while a configuration is used. -/
structure Session (σ F C : Type) where
  world : World σ F C
  board : Board
  /-- The outcome of composing the slices, once it is known. -/
  outcome : Option (Except SliceFault (Composite F))
  policy : Option Policy
  /-- The names of the active slices, once there are any. -/
  activeNames : List String

def Session.initial {σ F C : Type} (backend : σ) : Session σ F C where
  world := .initial backend
  board := .blank
  outcome := none
  policy := none
  activeNames := []

namespace Configuration

variable {σ F C : Type}

/-! ## Names and slices -/

def availableNames (config : Configuration) : List String :=
  config.registry.names

/-- The names of the active slices in order, as they were when there first were any. -/
def activeNames (config : Configuration) (session : Session σ F C) :
    List String × Session σ F C :=
  if session.activeNames.isEmpty then
    let names := (config.registry.withStatus session.board [.active]).map (·.name)
    (names, { session with activeNames := names })
  else (session.activeNames, session)

/-- Looks a slice up; the fault for an unknown name lists the active ones. -/
def slice (config : Configuration) (name : String) (session : Session σ F C) :
    Except SliceFault Slice × Session σ F C :=
  match config.registry.get? name with
  | some slice => (.ok slice, session)
  | none =>
    let (active, session) := config.activeNames session
    (.error (.unknownSlice name active), session)

/-- The slices with one of the statuses, or all of them, in order. -/
def slices (config : Configuration) (statuses : Option (List Status)) (session : Session σ F C) :
    List Slice :=
  match statuses with
  | some statuses => config.registry.withStatus session.board statuses
  | none => config.registry.slices

/-! ## The composite -/

/-- The verifier that the controls ask for. -/
def verifier (config : Configuration) (schedule : Schedule) : Verifier :=
  ⟨config.lenient, config.mode, schedule⟩

/-- A verified slice as a member of the composite. -/
def memberOf (verified : Verified F) : Member F :=
  .mk verified.slice.name verified.capable (.leaf verified.factory)

def compose (verified : List (Verified F)) : Except SliceFault (Composite F) :=
  Composite.ofMembers (verified.map memberOf)

/-- The composite of the slices in reach. The first call that is not left by a
panic verifies the slices; its outcome is that of every later call. -/
def connectionFactory (config : Configuration) (provider : Provider σ F C) (schedule : Schedule)
    (session : Session σ F C) : Outcome SliceFault (Composite F) × Session σ F C :=
  match session.outcome with
  | some outcome => (.ofExcept outcome, session)
  | none =>
    let (answer, board, world) :=
      (config.verifier schedule).verify provider config.registry.slices session.board session.world
    let session := { session with board, world }
    match answer with
    | .panicked text => (.panicked text, session)
    | .failed fault => (.failed fault, { session with outcome := some (.error fault) })
    | .done verified =>
      let outcome := compose verified
      (.ofExcept outcome, { session with outcome := some outcome })

/-! ## The policy -/

/-- The distribution policy, made by the first call that succeeds. -/
def distributionPolicy (config : Configuration) (session : Session σ F C) :
    Except SliceFault Policy × Session σ F C :=
  match session.policy with
  | some policy => (.ok policy, session)
  | none =>
    match config.policies.create config.policyName with
    | .ok policy => (.ok policy, { session with policy := some policy })
    | .error fault => (.error fault, session)

def distribute (config : Configuration) (candidates : List String) (masterName : String)
    (session : Session σ F C) : Except SliceFault (Option String) × Session σ F C :=
  match config.distributionPolicy session with
  | (.error fault, session) => (.error fault, session)
  | (.ok policy, session) =>
    let (choice, policy) := policy.distribute candidates masterName
    (.ok choice, { session with policy := some policy })

end Configuration

end SliceFleet
