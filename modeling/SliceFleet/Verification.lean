/-
SliceFleet.Verification — which slices can be reached.

A slice is probed by making its factory and opening one connection, which is
closed at once. What a probe found is settled on the board of statuses and
judged: a slice in reach is verified; a slice out of reach is left out by a
lenient verifier and ends the verification by a strict one.

Sequentially, slices are probed and settled one after the other, so a strict
fault or a panic leaves the later ones untouched. In parallel, all slices
are probed first, in whatever order their threads run (`Schedule`), and then
all are settled in the given order, of several faults the first being
reported; a panic stays within its thread and counts as a fault of the
slice.
-/
import SliceFleet.Slice
import SliceFleet.Provider

namespace SliceFleet

/-! ## How slices are probed -/

/-- How slices are probed. -/
inductive ProbeMode where
  | sequential
  /-- Every slice on a thread of its own. -/
  | parallel
deriving DecidableEq, Repr

namespace ProbeMode

def word : ProbeMode → String
  | .sequential => "sequential"
  | .parallel => "parallel"

/-- The name of a mode in a structural rendering. -/
def label : ProbeMode → String
  | .sequential => "Sequential"
  | .parallel => "Parallel"

/-- The mode that a text names, trimmed and in any case. -/
def ofText? (text : String) : Option ProbeMode :=
  match Text.foldCase (Text.trim text) with
  | "sequential" => some .sequential
  | "parallel" => some .parallel
  | _ => none

/-- The wording for a text that names no mode. -/
def unknownText (text : String) : String :=
  "unknown executor mode: " ++ Text.foldCase (Text.trim text)

end ProbeMode

/-- An order in which the threads of a parallel verification run: a permutation
of the numbered slices. -/
structure Schedule where
  arrange : List (Nat × Slice) → List (Nat × Slice)
  perm : ∀ slices, (arrange slices).Perm slices

/-- The threads run in the order of the slices. -/
def Schedule.inOrder : Schedule := ⟨id, List.Perm.refl⟩

instance : Inhabited Schedule := ⟨.inOrder⟩

/-! ## Probing -/

/-- Probes a slice: its decorated factory if a connection could be obtained. -/
def probe {σ F C : Type} (provider : Provider σ F C) (slice : Slice) (world : World σ F C) :
    Outcome BackendFault F × World σ F C :=
  match provider.request slice.config world with
  | (.failed fault, world) => (.failed fault, world)
  | (.panicked text, world) => (.panicked text, world)
  | (.done raw, world) =>
    let (factory, world) := provider.dress slice.config raw world
    match provider.attempt factory world with
    | (.done (some link), world) => (.done factory, (provider.release link world).2)
    | (.done none, world) => (.failed (.noConnection slice.target), world)
    | (.failed fault, world) => (.failed fault, world)
    | (.panicked text, world) => (.panicked text, world)

/-- The fault of a slice whose thread panicked. -/
def threadPanicked : BackendFault :=
  .internal "verifier" "verification thread panicked" none

/-- What a thread reports of its probe: the factory or a fault. -/
def findingOf {F : Type} : Outcome BackendFault F → Except BackendFault F
  | .done factory => .ok factory
  | .failed fault => .error fault
  | .panicked _ => .error threadPanicked

/-! ## Verifying -/

/-- A slice in reach. -/
structure Verified (F : Type) where
  slice : Slice
  factory : F
  /-- Whether the factory takes part in distributed transactions. -/
  capable : Bool

/-- The rule for slices out of reach. -/
structure Verifier where
  lenient : Bool
  mode : ProbeMode
  schedule : Schedule

namespace Verifier

variable {σ F C : Type}

/-- A slice with its factory and the capability that the factory reports. -/
def record (provider : Provider σ F C) (slice : Slice) (factory : F) : Verified F :=
  ⟨slice, factory, provider.capable factory⟩

/-- The fault that names a slice out of reach. -/
def outOfReach (slice : Slice) (cause : BackendFault) : SliceFault :=
  .unreachable slice.name slice.target cause

/-- Probes and settles one slice after the other. -/
def verifySequentially (lenient : Bool) (provider : Provider σ F C) :
    List Slice → Board → World σ F C → Outcome SliceFault (List (Verified F)) × Board × World σ F C
  | [], board, world => (.done [], board, world)
  | slice :: rest, board, world =>
    match probe provider slice world with
    | (.panicked text, world) => (.panicked text, board, world)
    | (.done factory, world) =>
      let (answer, board, world) :=
        verifySequentially lenient provider rest (board.settle slice true) world
      (answer.map (record provider slice factory :: ·), board, world)
    | (.failed cause, world) =>
      if lenient then verifySequentially lenient provider rest (board.settle slice false) world
      else (.failed (outOfReach slice cause), board.settle slice false, world)

/-- Runs the threads in the given order; each reports under its number. -/
def runThreads (provider : Provider σ F C) :
    List (Nat × Slice) → World σ F C → List (Nat × Except BackendFault F) × World σ F C
  | [], world => ([], world)
  | (number, slice) :: rest, world =>
    let (outcome, world) := probe provider slice world
    let (findings, world) := runThreads provider rest world
    ((number, findingOf outcome) :: findings, world)

/-- Probes all slices and lists what was found, in the order of the slices. -/
def probeAll (schedule : Schedule) (provider : Provider σ F C) (slices : List Slice)
    (world : World σ F C) : List (Except BackendFault F) × World σ F C :=
  let numbered := slices.zipIdx.map fun (slice, number) => (number, slice)
  let (findings, world) := runThreads provider (schedule.arrange numbered) world
  ((findings.mergeSort fun a b => decide (a.1 ≤ b.1)).map (·.2), world)

/-- Settles every slice by what was found; lists the slices in reach and the
first fault that a strict verifier finds. -/
def settleAll (lenient : Bool) (provider : Provider σ F C) :
    List (Slice × Except BackendFault F) → Board → List (Verified F) × Option SliceFault × Board
  | [], board => ([], none, board)
  | (slice, .ok factory) :: rest, board =>
    let (verified, fault, board) := settleAll lenient provider rest (board.settle slice true)
    (record provider slice factory :: verified, fault, board)
  | (slice, .error cause) :: rest, board =>
    let (verified, fault, board) := settleAll lenient provider rest (board.settle slice false)
    (verified, if lenient then fault else some (outOfReach slice cause), board)

def verifyInParallel (lenient : Bool) (schedule : Schedule) (provider : Provider σ F C)
    (slices : List Slice) (board : Board) (world : World σ F C) :
    Outcome SliceFault (List (Verified F)) × Board × World σ F C :=
  let (findings, world) := probeAll schedule provider slices world
  let (verified, fault, board) := settleAll lenient provider (slices.zip findings) board
  match fault with
  | some fault => (.failed fault, board, world)
  | none => (.done verified, board, world)

/-- Verifies the slices: those in reach, in the given order. -/
def verify (verifier : Verifier) (provider : Provider σ F C) (slices : List Slice) (board : Board)
    (world : World σ F C) : Outcome SliceFault (List (Verified F)) × Board × World σ F C :=
  match verifier.mode with
  | .sequential => verifySequentially verifier.lenient provider slices board world
  | .parallel => verifyInParallel verifier.lenient verifier.schedule provider slices board world

end Verifier

end SliceFleet
