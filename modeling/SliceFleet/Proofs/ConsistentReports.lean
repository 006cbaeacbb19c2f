/-
SliceFleet.Proofs.ConsistentReports — the parts of a report agree with each other.

A report is read off four places: the registry gives its rows, the election its master,
the board behind the verification their statuses, and the outcome of composing the slices
its composite or its fault. `collect_consistent`: on a configuration that was not used
before, with a provider none of whose probes panics (`Calm`), there always is a report.
Its rows are the slices in the order of discovery, one of them marked as the master
(`Report.Lists`); a verified report has a composite or a fault, and the composite is that
of the rows that are active and of the factories that were obtained for them
(`Report.Composed`).
-/
import SliceFleet.Report
import SliceFleet.Proofs.LenientRuns
import SliceFleet.Proofs.Mastership

namespace SliceFleet

open Verifier

variable {σ F C : Type}

/-! ## Providers that do not panic -/

/-- No probe of these slices panics, whichever of them were probed before. -/
def Calm (provider : Provider σ F C) (slices : List Slice) (start : World σ F C) : Prop :=
  ∀ world, ReachedByProbes provider slices start world → ∀ slice ∈ slices,
    (probe provider slice world).1.returns = true

/-- Where verdicts are independent of the order, every probe returns. -/
theorem calm_of_orderIndependent {provider : Provider σ F C} {slices : List Slice}
    {start : World σ F C} {verdict : Slice → Except BackendFault Bool}
    (independent : OrderIndependent provider slices start verdict) :
    Calm provider slices start := by
  intro world reached slice member
  have told := independent world reached slice member
  cases found : (probe provider slice world).1 with
  | done factory => rfl
  | failed cause => rfl
  | panicked text =>
    rw [found] at told
    cases said : verdict slice <;> rw [said] at told <;> cases told

/-- A report of a probe that returns is no panic. -/
theorem FoundBy.returns {provider : Provider σ F C} {slice : Slice} {before : World σ F C}
    {outcome : Outcome BackendFault F} (found : FoundBy provider slice before outcome)
    (returned : (probe provider slice before).1.returns = true) : outcome.returns = true := by
  rcases found with rfl | rfl
  · exact returned
  · cases findingOf (probe provider slice before).1 <;> rfl

/-- A factory that is reported was obtained. -/
theorem FoundBy.obtains {provider : Provider σ F C} {slice : Slice} {before : World σ F C}
    {factory : F} (found : FoundBy provider slice before (.done factory)) :
    Obtains provider slice before factory := by
  rw [← probe_eq_done_iff]
  rcases found with told | told
  · exact told.symm
  · cases probed : (probe provider slice before).1 with
    | done own =>
      rw [probed] at told
      exact told.symm
    | failed cause =>
      rw [probed] at told
      cases told
    | panicked text =>
      rw [probed] at told
      cases told

/-- A verification probes its own slices only. -/
theorem Verifier.slice_mem_of_mem_probes (verifier : Verifier) {provider : Provider σ F C}
    {slices : List Slice} {world : World σ F C} {found : Slice × Outcome BackendFault F}
    (member : found ∈ verifier.probes provider slices world) : found.1 ∈ slices := by
  rw [← verifier.map_fst_probes provider slices world]
  exact List.mem_map_of_mem member

/-- Without a panic a verification returns, strict or not. -/
theorem Verifier.returns_of_calm {provider : Provider σ F C} {slices : List Slice}
    {world : World σ F C} (verifier : Verifier) (calm : Calm provider slices world)
    (board : Board) : (verifier.verify provider slices board world).1.returns = true := by
  rcases verifier.verify_cases provider slices board world with
    ⟨_, _, ends⟩ | ⟨_, _, _, ends⟩ | ⟨ahead, slice, text, behind, _, split, -, -, -⟩
  · rw [ends]
    rfl
  · rw [ends]
    rfl
  · have member : (slice, .panicked text) ∈ verifier.probes provider slices world := by
      rw [split]
      exact List.mem_append_right _ List.mem_cons_self
    obtain ⟨before, reached, found⟩ := probed_of_mem_probes member
    cases found.returns (calm before reached slice (verifier.slice_mem_of_mem_probes member))

/-! ## What probes obtained -/

/-- The slices in reach, each with the factory that its probe found. -/
def reachedOf (probes : List (Slice × Outcome BackendFault F)) : List (Slice × F) :=
  probes.filterMap fun found => found.2.answer?.map (found.1, ·)

theorem mem_reachedOf_iff {probes : List (Slice × Outcome BackendFault F)} {slice : Slice}
    {factory : F} : (slice, factory) ∈ reachedOf probes ↔ (slice, .done factory) ∈ probes := by
  rw [reachedOf, List.mem_filterMap]
  constructor
  · rintro ⟨⟨own, outcome⟩, member, same⟩
    cases outcome with
    | done found =>
      cases same
      exact member
    | failed cause => cases same
    | panicked text => cases same
  · intro member
    exact ⟨_, member, rfl⟩

/-- **What a verification reaches**: slices of its own, each with a factory that a connection
was obtained from in a world that the probes have led to. -/
theorem obtained_of_mem_reachedOf {verifier : Verifier} {provider : Provider σ F C}
    {slices : List Slice} {world : World σ F C} {one : Slice × F}
    (member : one ∈ reachedOf (verifier.probes provider slices world)) :
    one.1 ∈ slices ∧ ∃ before, ReachedByProbes provider slices world before ∧
      Obtains provider one.1 before one.2 := by
  have probed := mem_reachedOf_iff.1 member
  obtain ⟨before, reached, found⟩ := probed_of_mem_probes probed
  exact ⟨verifier.slice_mem_of_mem_probes probed, before, reached, found.obtains⟩

/-- The members are the slices in reach with their factories. -/
theorem membersOf_eq_reachedOf (provider : Provider σ F C)
    (probes : List (Slice × Outcome BackendFault F)) :
    membersOf provider probes = (reachedOf probes).map fun one =>
      .mk one.1.name (provider.capable one.2) (.leaf one.2) := by
  rw [membersOf, reachedOf, List.map_filterMap]
  simp only [Option.map_map]
  rfl

/-! ## Rows -/

namespace Report

/-- The composite of a report, if it has one. -/
def composite? (report : Report) : Option ReportComposite :=
  match report.finding with
  | .composed composite => some composite
  | _ => none

/-- The fault of a report, if it has one. -/
def fault? (report : Report) : Option SliceFault :=
  match report.finding with
  | .failed fault => some fault
  | _ => none

/-- The names of the active rows, in order. -/
def activeRows (report : Report) : List String :=
  (report.rows.filter fun row => row.status == .active).map (·.name)

/-- The rows are the slices of the configuration as they are on the board. -/
structure Lists (report : Report) (keys : Keyspace) (whole : Properties)
    (config : Configuration) (board : Board) : Prop where
  /-- There is one row per discovered name, in the order of discovery. -/
  discovered : keys.discover whole = .ok (report.rows.map (·.name))
  /-- Each row shows its slice's identity, its target and its status. -/
  shown : report.rows.map (fun row => (row.name, row.id, row.target, row.status)) =
    config.registry.slices.map fun slice =>
      (slice.name, config.unit ++ "." ++ slice.name, slice.target, board.of slice)
  /-- One row is marked, that of the master. -/
  marked : ∃ row, report.rows.filter (·.master) = [row] ∧ row.name = report.master
  /-- The master is the one that the namespace asks for. -/
  elected : keys.masterName whole (report.rows.map (·.name)) = some report.master

variable {keys : Keyspace} {policies : PolicyBook} {whole : Properties} {config : Configuration}

theorem rows_names (config : Configuration) (board : Board) (finding : ReportFinding) :
    (ofBoard config board finding).rows.map (·.name) = config.registry.names := by
  rw [ofBoard, Registry.names, List.map_map]
  rfl

/-- The active rows are those of the active slices. -/
theorem activeRows_ofBoard (config : Configuration) (board : Board) (finding : ReportFinding) :
    (ofBoard config board finding).activeRows = config.registry.activeNames board := by
  rw [Registry.activeNames_eq, activeRows, ofBoard, List.filter_map, List.map_map]
  rfl

/-- Slices with names of their own: a name marks the row of one slice. -/
theorem marked_rows (distinct : config.registry.names.Nodup)
    (member : config.master ∈ config.registry.slices) (board : Board) :
    (config.registry.slices.map (rowOf config board)).filter (·.master) =
      [rowOf config board config.master] := by
  have own : ∀ slice ∈ config.registry.slices,
      (slice.name == config.master.name) = (slice == config.master) := by
    intro slice inSlices
    rw [Bool.eq_iff_iff, beq_iff_eq, beq_iff_eq]
    exact ⟨List.inj_on_of_nodup_map distinct inSlices member, congrArg Slice.name⟩
  have once : config.registry.slices.count config.master = 1 :=
    List.count_eq_one_of_mem distinct.of_map member
  calc (config.registry.slices.map (rowOf config board)).filter (·.master)
    _ = (config.registry.slices.filter fun slice => slice.name == config.master.name).map
          (rowOf config board) := List.filter_map
    _ = (config.registry.slices.filter (· == config.master)).map (rowOf config board) := by
        rw [List.filter_congr own]
    _ = [rowOf config board config.master] := by
        rw [List.filter_beq, once]
        rfl

/-- The report on an accepted configuration lists its slices, on whatever board. -/
theorem lists_ofBoard (built : Configuration.build keys policies whole = .ok config)
    (board : Board) (finding : ReportFinding) :
    (ofBoard config board finding).Lists keys whole config board := by
  have accepted := Configuration.accepted_of_build built
  have distinct := Configuration.nodup_names_of_build built
  obtain ⟨member, named⟩ := Configuration.master_of_build built
  refine { discovered := ?_, shown := ?_, marked := ?_, elected := ?_ }
  · rw [rows_names]
    exact accepted.discovered
  · rw [ofBoard, List.map_map]
    refine List.map_congr_left fun slice inSlices => ?_
    rw [← Configuration.id_of_mem accepted inSlices]
    rfl
  · exact ⟨_, marked_rows distinct member board, rfl⟩
  · rw [rows_names]
    exact named

/-! ## The composite of a report -/

/-- The report shows the composite of these slices with these factories, which are the
slices whose rows are active and the decorated factories that their probes obtained. -/
structure Composed (report : Report) (provider : Provider σ F C) (slices : List Slice)
    (start : World σ F C) (composite : Composite F) (reached : List (Slice × F)) : Prop where
  members : composite.members = reached.map fun one =>
    .mk one.1.name (provider.capable one.2) (.leaf one.2)
  obtained : ∀ one ∈ reached, one.1 ∈ slices ∧
    ∃ before, ReachedByProbes provider slices start before ∧ Obtains provider one.1 before one.2
  names : reached.map (·.1.name) = report.activeRows
  slices : ∀ shown, report.composite? = some shown → shown.slices = report.activeRows
  capable : ∀ shown, report.composite? = some shown →
    (shown.capable = true ↔ ∀ one ∈ reached, provider.capable one.2 = true)

/-- The report says what composing the slices came to. -/
structure Tells (report : Report) (provider : Provider σ F C) (slices : List Slice)
    (start : World σ F C) (outcome : Option (Except SliceFault (Composite F))) : Prop where
  /-- It has a composite or a fault, and not both. -/
  either : report.composite?.isSome = !report.fault?.isSome
  fault : ∀ fault, report.fault? = some fault ↔ outcome = some (.error fault)
  composite : report.composite?.isSome = true → ∃ composite reached,
    outcome = some (.ok composite) ∧ report.Composed provider slices start composite reached

/-- The composite of a first verification is that of the active slices. -/
theorem composed_of_verified {provider : Provider σ F C} {schedule : Schedule}
    (distinct : config.registry.names.Nodup) {start after : World σ F C}
    {verified : List (Verified F)} {later : Board} {composite : Composite F}
    (done : (config.verifier schedule).verify provider config.registry.slices .blank start =
      (.done verified, later, after))
    (composed : Configuration.compose verified = .ok composite) :
    ∃ reached, (ofBoard config later (.composed (compositeOf composite))).Composed provider
      config.registry.slices start composite reached := by
  obtain ⟨-, rfl, rfl⟩ := passes_of_done done
  have composes := composes_of_compose composed
  have all := (config.verifier schedule).map_fst_probes provider config.registry.slices start
  have fresh : FoundAsSettled .blank
      ((config.verifier schedule).probes provider config.registry.slices start) :=
    fun _ _ => .inl rfl
  have active := (slices_eq_activeNames_iff .blank distinct all composes).2 fresh
  have members := composes.members
  rw [membersOf_eq_reachedOf] at members
  refine ⟨reachedOf ((config.verifier schedule).probes provider config.registry.slices start), {
    members
    obtained := fun one => obtained_of_mem_reachedOf
    names := ?_
    slices := ?_
    capable := ?_ }⟩
  · rw [activeRows_ofBoard, ← active, Composite.slices, members, List.map_map]
    rfl
  · rintro _ ⟨⟩
    rw [activeRows_ofBoard]
    exact active
  · rintro _ ⟨⟩
    refine composes.capable.trans ?_
    simp only [Prod.forall, mem_reachedOf_iff]

/-! ## Collecting -/

section Collecting

variable {provider : Provider σ F C} {schedule : Schedule} {session after : Session σ F C}

theorem collect_of_done {composite : Composite F}
    (answered : config.connectionFactory provider schedule session = (.done composite, after)) :
    collect config provider schedule true session =
      (.done (ofBoard config after.board (.composed (compositeOf composite))), after) := by
  rw [collect, if_pos rfl, answered]

theorem collect_of_failed {fault : SliceFault}
    (answered : config.connectionFactory provider schedule session = (.failed fault, after)) :
    collect config provider schedule true session =
      (.done (ofBoard config after.board (.failed fault)), after) := by
  rw [collect, if_pos rfl, answered]

end Collecting

/-- A report with a fault tells the fault that is kept. -/
theorem tells_of_fault (provider : Provider σ F C) (slices : List Slice) (start : World σ F C)
    (board : Board) (fault : SliceFault) :
    (ofBoard config board (.failed fault)).Tells provider slices start (some (.error fault)) where
  either := rfl
  fault other := by simp [fault?, ofBoard]
  composite := nofun

/-- A first verification that no panic leaves has a report, which tells what it came to. -/
theorem collect_verified (distinct : config.registry.names.Nodup) (provider : Provider σ F C)
    (schedule : Schedule) (backend : σ)
    (calm : Calm provider config.registry.slices (.initial backend)) :
    ∃ finding after, collect config provider schedule true (.initial backend) =
        (.done (ofBoard config after.board finding), after) ∧
      (ofBoard config after.board finding).Tells provider config.registry.slices
        (.initial backend) after.outcome := by
  rcases config.connectionFactory_cases provider schedule (.initial backend) with
    ⟨known, before, -⟩ |
    ⟨-, ⟨verified, _, _, ends, call⟩ | ⟨fault, _, _, -, call⟩ | ⟨text, _, _, ends, -⟩⟩
  · cases before
  · cases composed : Configuration.compose verified with
    | ok composite =>
      rw [composed] at call
      obtain ⟨reached, shows⟩ := composed_of_verified distinct ends composed
      refine ⟨_, _, collect_of_done call, ?_⟩
      exact {
        either := rfl
        fault := fun _ => ⟨nofun, nofun⟩
        composite := fun _ => ⟨composite, reached, rfl, shows⟩ }
    | error fault =>
      rw [composed] at call
      exact ⟨_, _, collect_of_failed call, tells_of_fault provider _ _ _ fault⟩
  · exact ⟨_, _, collect_of_failed call, tells_of_fault provider _ _ _ fault⟩
  · have returned := (config.verifier schedule).returns_of_calm calm .blank
    have left := congrArg Prod.fst ends
    rw [show ((config.verifier schedule).verify provider config.registry.slices .blank
      (.initial backend)).1 = .panicked text from left] at returned
    cases returned

/-- **A report is a consistent view**: of an accepted configuration that was not used before,
with a provider that does not panic, there is a report; its rows are the slices with their
statuses behind it, one of them the master's; verified, it has either the composite of the
active rows or a fault; not verified, it has neither, and nothing was done. -/
theorem collect_consistent (built : Configuration.build keys policies whole = .ok config)
    (provider : Provider σ F C) (schedule : Schedule) (verify : Bool) (backend : σ)
    (calm : Calm provider config.registry.slices (.initial backend)) :
    ∃ report after, collect config provider schedule verify (.initial backend) =
        (.done report, after) ∧
      report.Lists keys whole config after.board ∧
      (verify = true →
        report.Tells provider config.registry.slices (.initial backend) after.outcome) ∧
      (verify = false → report.composite? = none ∧ report.fault? = none ∧
        (∀ row ∈ report.rows, row.status = .uninitialized) ∧ after = .initial backend) := by
  cases verify with
  | false =>
    refine ⟨_, _, rfl, lists_ofBoard built _ _, Bool.noConfusion, fun _ => ?_⟩
    refine ⟨rfl, rfl, fun row member => ?_, rfl⟩
    obtain ⟨slice, -, rfl⟩ := List.mem_map.1 member
    rfl
  | true =>
    obtain ⟨finding, after, collected, tells⟩ := collect_verified
      (Configuration.nodup_names_of_build built) provider schedule backend calm
    exact ⟨_, after, collected, lists_ofBoard built _ _, fun _ => tells, Bool.noConfusion⟩

/-- Of the targets of the three regions the first one connects by a factory that is decorated
as capable, the second one refuses, and the third one connects by one that is not capable. -/
def decorated : Simulation.Field :=
  (((Simulation.Field.empty.setSteady "u1" .connects false).setDecoration "u1" true).setSteady
    "u2" .refuses true).setSteady "u3" .connects false

/-- The three regions, leniently: two of them are reported as composed, not capable together. -/
theorem regions_consistent :
    ∃ report after, collect (Configuration.regions true) Simulation.provider .inOrder true
        (.initial decorated) = (.done report, after) ∧
      report.activeRows = ["east", "west"] ∧ report.master = "east" ∧
      report.composite? = some ⟨["east", "west"], false⟩ ∧
      report.Lists default (Configuration.regionProperties true) (Configuration.regions true)
        after.board ∧
      report.Tells Simulation.provider (Configuration.regions true).registry.slices
        (.initial decorated) after.outcome := by
  have steady : ∀ slice ∈ (Configuration.regions true).registry.slices,
      (decorated.targets.get? slice.target).all (·.conduct.isSteady) = true := by decide +kernel
  obtain ⟨report, after, collected, lists, tells, -⟩ :=
    collect_consistent (Configuration.build_regions true) Simulation.provider .inOrder true
      decorated (calm_of_orderIndependent (Simulation.orderIndependent_of_steady steady))
  have evaluated : (collect (Configuration.regions true) Simulation.provider .inOrder true
        (.initial decorated)).1.map (fun report =>
      (report.activeRows, report.master, report.composite?)) =
        .done (["east", "west"], "east", some ⟨["east", "west"], false⟩) := by decide +kernel
  rw [collected] at evaluated
  obtain ⟨active, master, composite⟩ : report.activeRows = ["east", "west"] ∧
      report.master = "east" ∧ report.composite? = some ⟨["east", "west"], false⟩ := by
    simpa [Outcome.map] using evaluated
  exact ⟨report, after, collected, active, master, composite, lists, tells rfl⟩

end Report

end SliceFleet
