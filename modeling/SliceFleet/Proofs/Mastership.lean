/-
SliceFleet.Proofs.Mastership — which slice is the master, and for how long.

An election chooses among the active slices, or among all while none is active
(`Registry.candidates`), so what it comes to depends on what was verified
before. A configuration elects once, when it is built and nothing is verified:
all slices are candidates then, and the master is the slice that the namespace
names, or the first one (`masterName`). A configuration in use (`Deployment`)
never elects again, so its master stays whatever is found of the slices
(`master_stands`), also where another election would choose otherwise.
-/
import SliceFleet.Simulation
import SliceFleet.Proofs.Calls
import SliceFleet.Proofs.RegisteredSlices

namespace SliceFleet

open Text

/-! ## Electing -/

namespace Registry

variable {registry : Registry} {board : Board} {wanted : String} {slice : Slice}

/-- The slices that may be elected: the active ones, or all while none is active. -/
def candidates (registry : Registry) (board : Board) : List Slice :=
  if (registry.withStatus board [.active]).isEmpty then registry.slices
  else registry.withStatus board [.active]

theorem electMaster_some (registry : Registry) (board : Board) (wanted : String) :
    registry.electMaster board (some wanted) =
      ((registry.candidates board).find? fun slice => slice.name == trim wanted).getD
        registry.first := rfl

theorem mem_slices_of_candidate (candidate : slice ∈ registry.candidates board) :
    slice ∈ registry.slices := by
  unfold candidates at candidate
  split at candidate
  · exact candidate
  · exact (List.mem_filter.1 candidate).1

/-- The candidate with the wanted name is elected. -/
theorem electMaster_of_candidate (distinct : registry.names.Nodup)
    (candidate : slice ∈ registry.candidates board) (named : slice.name = trim wanted) :
    registry.electMaster board (some wanted) = slice := by
  rw [electMaster_some]
  cases found : (registry.candidates board).find? fun slice => slice.name == trim wanted with
  | none =>
    have unnamed := List.find?_eq_none.1 found slice candidate
    simp [named] at unnamed
  | some other =>
    have inSlices := mem_slices_of_candidate (List.mem_of_find?_eq_some found)
    have alike : other.name = slice.name := by
      rw [named]
      simpa using List.find?_some found
    exact List.inj_on_of_nodup_map distinct inSlices (mem_slices_of_candidate candidate) alike

/-- Where no candidate has the wanted name, the first slice is elected. -/
theorem electMaster_of_nobody
    (nobody : ∀ slice ∈ registry.candidates board, slice.name ≠ trim wanted) :
    registry.electMaster board (some wanted) = registry.first := by
  have unnamed : (registry.candidates board).find? (fun slice => slice.name == trim wanted) =
      none := by
    rw [List.find?_eq_none]
    intro slice candidate
    simpa using nobody slice candidate
  rw [electMaster_some, unnamed, Option.getD_none]

/-- Before anything is verified every slice is a candidate. -/
theorem candidates_blank (registry : Registry) : registry.candidates .blank = registry.slices := by
  have nobody : registry.withStatus .blank [.active] = [] := by
    rw [withStatus, List.filter_eq_nil_iff]
    intro slice _
    simp [Board.of, Board.blank]
  simp [candidates, nobody]

end Registry

/-! ## The master that a namespace asks for -/

/-- The name of the master among these names: the trimmed value of its control if that is
one of them, else the first. -/
def Keyspace.masterName (keys : Keyspace) (whole : Properties) (names : List String) :
    Option String :=
  match whole.get? (keys.controlKey Control.master.word) with
  | some wanted => if trim wanted ∈ names then some (trim wanted) else names.head?
  | none => names.head?

namespace Configuration

variable {keys : Keyspace} {policies : PolicyBook} {whole : Properties} {config : Configuration}

/-- A configuration is built with the master that its namespace asks for. -/
theorem master_of_build (built : build keys policies whole = .ok config) :
    config.master ∈ config.registry.slices ∧
      keys.masterName whole config.registry.names = some config.master.name := by
  have accepted := accepted_of_build built
  have distinct := nodup_names_of_build built
  have first : config.registry.names.head? = some config.registry.first.name := rfl
  constructor
  · rw [accepted.master]
    exact config.registry.electMaster_mem _ _
  · rw [accepted.master, Keyspace.masterName, control?]
    cases whole.get? (keys.controlKey Control.master.word) with
    | none => exact first
    | some wanted =>
      by_cases listed : trim wanted ∈ config.registry.names
      · obtain ⟨slice, member, named⟩ := List.mem_map.1 listed
        rw [← config.registry.candidates_blank] at member
        rw [Registry.electMaster_of_candidate distinct member named, named]
        simp [listed]
      · have nobody : ∀ slice ∈ config.registry.candidates .blank, slice.name ≠ trim wanted := by
          intro slice candidate named
          rw [← named] at listed
          exact listed (List.mem_map_of_mem (Registry.mem_slices_of_candidate candidate))
        rw [Registry.electMaster_of_nobody nobody]
        simp [listed, first]

end Configuration

/-! ## A configuration in use -/

/-- A configuration with the provider that it asks and with all that changes in use. -/
structure Deployment (σ F C : Type) where
  config : Configuration
  provider : Provider σ F C
  session : Session σ F C

namespace Deployment

variable {σ F C : Type}

/-- The configuration was built, and nothing was asked of it yet. -/
def start (config : Configuration) (provider : Provider σ F C) (backend : σ) :
    Deployment σ F C :=
  ⟨config, provider, .initial backend⟩

def after (deployment : Deployment σ F C) (call : Call σ F C) : Deployment σ F C :=
  { deployment with
    session := deployment.config.afterCall deployment.provider deployment.session call }

def afterAll (deployment : Deployment σ F C) (calls : List (Call σ F C)) : Deployment σ F C :=
  calls.foldl after deployment

/-- The master slice, as it is answered at any time. -/
def master (deployment : Deployment σ F C) : Slice :=
  deployment.config.master

/-- What a name is answered with. -/
def lookUp (deployment : Deployment σ F C) (name : String) : Except SliceFault Slice :=
  (deployment.config.slice name deployment.session).1

/-- A call writes the session and nothing else. -/
theorem afterAll_eq (deployment : Deployment σ F C) (calls : List (Call σ F C)) :
    deployment.afterAll calls = { deployment with
      session := deployment.config.afterCalls deployment.provider deployment.session calls } := by
  induction calls generalizing deployment with
  | nil => rfl
  | cons call rest ih => exact ih (deployment.after call)

end Deployment

namespace Configuration

variable {σ F C : Type} {keys : Keyspace} {policies : PolicyBook} {whole : Properties}
  {config : Configuration}

theorem slice_of_mem (distinct : config.registry.names.Nodup) {slice : Slice}
    (member : slice ∈ config.registry.slices) (session : Session σ F C) :
    (config.slice slice.name session).1 = .ok slice := by
  have found : config.registry.get? slice.name = some slice :=
    (Registry.get?_eq_some_iff distinct).2 ⟨member, rfl⟩
  simp only [Configuration.slice, found]

/-- **The master stands**: whatever is asked of the configuration and whatever the provider
answers, the master is the slice of the registry that the namespace asks for. -/
theorem master_stands (built : build keys policies whole = .ok config)
    (provider : Provider σ F C) (backend : σ) (calls : List (Call σ F C)) :
    let now := (Deployment.start config provider backend).afterAll calls
    now.master = (Deployment.start config provider backend).master ∧
      now.lookUp now.master.name = .ok now.master ∧
      ∃ names, keys.discover whole = .ok names ∧
        keys.masterName whole names = some now.master.name := by
  obtain ⟨member, named⟩ := master_of_build built
  intro now
  have unchanged : now = _ := Deployment.afterAll_eq _ calls
  rw [unchanged]
  refine ⟨rfl, ?_, config.registry.names, (accepted_of_build built).discovered, named⟩
  exact slice_of_mem (nodup_names_of_build built) member _

/-- Two slices in lenient mode, the second one being the master. -/
def headed : Properties := .ofList [
  ("helios.slice.Names", "east,north"),
  ("helios.slice.Master", " north "),
  ("helios.slice.Lenient", "true"),
  ("helios.slice.east.ConnectionURL", "u1"),
  ("helios.slice.north.ConnectionURL", "u2")]

theorem headed_accepted : (build default .standard headed).toOption.isSome = true := by
  decide +kernel

/-- The configuration of the two slices. -/
def headedConfig : Configuration :=
  (build default .standard headed).toOption.get headed_accepted

/-- The master's target panics and then refuses. -/
def balking : Simulation.Field :=
  (Simulation.Field.empty.setSteady "u1" .connects true).setScripted "u2" ["panic", "refuse"] false

/-- The first call for the composite is left by the panic, the second one builds it. -/
def twoBuilds : List (Call Simulation.Field Simulation.SimulatedFactory
    Simulation.SimulatedConnection) :=
  [.compose .inOrder, .lookUp "south", .compose .inOrder, .active]

/-- The master is out of reach by then, and another election would pass it over. -/
theorem headed_stands :
    let now := (Deployment.start headedConfig Simulation.provider balking).afterAll twoBuilds
    build default .standard headed = .ok headedConfig ∧
      now.master.name = "north" ∧ now.lookUp "north" = .ok now.master ∧
      now.session.board.of now.master = .inactive ∧
      (headedConfig.registry.electMaster now.session.board (some " north ")).name = "east" := by
  intro now
  have built : build default .standard headed = .ok headedConfig :=
    eq_ok_get_toOption _ headed_accepted
  have discovered : Keyspace.discover default headed = .ok ["east", "north"] := by decide +kernel
  have asked : Keyspace.masterName default headed ["east", "north"] = some "north" := by
    decide +kernel
  have passedOver : now.session.board.of now.master = .inactive ∧
      (headedConfig.registry.electMaster now.session.board (some " north ")).name = "east" := by
    decide +kernel
  obtain ⟨-, looked, names, listed, named⟩ :=
    master_stands built Simulation.provider balking twoBuilds
  rw [← Except.ok.inj (discovered.symm.trans listed), asked] at named
  have north : now.master.name = "north" := (Option.some.inj named).symm
  rw [north] at looked
  exact ⟨built, north, looked, passedOver⟩

end Configuration

end SliceFleet
