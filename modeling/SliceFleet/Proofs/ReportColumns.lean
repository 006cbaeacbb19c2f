/-
SliceFleet.Proofs.ReportColumns — where the fields of a row stand in a text report.

A row has the mark of the master, the name, the status and the target. Names are padded,
so behind a name that fits the status always begins at one column
(`rowText_eq_front_append`). Statuses are not padded, so the target begins where the word
of the status leaves off: too early for a column of its own (`endsFrom_rowText_iff`), and
at one column only in rows with one status (`rows_in_columns`).
-/
import SliceFleet.Report
import SliceFleet.Simulation
import SliceFleet.Proofs.DistinctNames

namespace SliceFleet

/-! ## Words of statuses -/

/-- Statuses are told apart by the lengths of their words. -/
theorem Status.eq_of_length_word {status other : Status}
    (same : status.word.length = other.word.length) : status = other := by
  revert same
  cases status <;> cases other <;> decide

theorem Status.length_word_le (status : Status) : status.word.length ≤ 13 := by
  cases status <;> decide

namespace Report

variable {report : Report} {row : ReportRow} {line part front : String} {column : Nat}

/-! ## Columns -/

/-- Part of the line begins at this column, counted in characters from zero. -/
def BeginsAt (line part : String) (column : Nat) : Prop :=
  ∃ front rest, line = front ++ part ++ rest ∧ front.length = column

/-- The last part of the line begins at this column. -/
def EndsFrom (line part : String) (column : Nat) : Prop :=
  ∃ front, line = front ++ part ∧ front.length = column

theorem endsFrom_append_iff : EndsFrom (front ++ part) part column ↔ column = front.length := by
  constructor
  · rintro ⟨other, same, rfl⟩
    have lengths := congrArg String.length same
    rw [String.length_append, String.length_append] at lengths
    omega
  · rintro rfl
    exact ⟨front, rfl, rfl⟩

/-- The column at which statuses are meant to begin. -/
def statusColumn : Nat := 21

/-- The column at which targets are meant to begin. -/
def targetColumn : Nat := 36

/-- The name of the row is no longer than what names are padded to. -/
def Fits (row : ReportRow) : Prop :=
  row.name.length ≤ 16

instance (row : ReportRow) : Decidable (Fits row) :=
  inferInstanceAs (Decidable (_ ≤ _))

/-- The rows whose names fit have their statuses and their targets in the columns that are
meant for them. -/
def InColumns (report : Report) : Prop :=
  ∀ row ∈ report.rows, Fits row →
    BeginsAt (rowText row) row.status.word statusColumn ∧
      EndsFrom (rowText row) row.target targetColumn

/-- The targets of the rows whose names fit begin at one column. -/
def TargetsLineUp (report : Report) : Prop :=
  ∃ column, ∀ row ∈ report.rows, Fits row → EndsFrom (rowText row) row.target column

/-! ## Rows -/

theorem length_padded {width : Nat} {text : String} (fits : text.length ≤ width) :
    (padded width text).length = width := by
  unfold padded
  rw [String.length_append, String.length_ofList, List.length_replicate]
  omega

/-- What stands in front of the status. -/
def rowFront (row : ReportRow) : String :=
  "  " ++ (if row.master then "*" else " ") ++ " " ++ padded nameWidth row.name ++ " "

theorem rowText_eq_front_append (row : ReportRow) :
    rowText row = rowFront row ++ row.status.word ++ " " ++ row.target := rfl

theorem length_rowFront (fits : Fits row) : (rowFront row).length = statusColumn := by
  have named : (padded nameWidth row.name).length = 16 := length_padded fits
  have marked : (if row.master then "*" else " " : String).length = 1 := by
    cases row.master <;> rfl
  unfold rowFront
  simp only [String.length_append, named, marked]
  rfl

theorem beginsAt_statusColumn (fits : Fits row) :
    BeginsAt (rowText row) row.status.word statusColumn := by
  refine ⟨rowFront row, " " ++ row.target, ?_, length_rowFront fits⟩
  rw [rowText_eq_front_append, String.append_assoc]

/-- **Where the target begins**: one blank behind the word of the status. -/
theorem endsFrom_rowText_iff (fits : Fits row) :
    EndsFrom (rowText row) row.target column ↔
      column = statusColumn + row.status.word.length + 1 := by
  rw [rowText_eq_front_append, endsFrom_append_iff, String.length_append, String.length_append,
    length_rowFront fits]
  rfl

theorem not_endsFrom_targetColumn (fits : Fits row) :
    ¬ EndsFrom (rowText row) row.target targetColumn := by
  rw [endsFrom_rowText_iff fits]
  have short := row.status.length_word_le
  unfold targetColumn statusColumn
  omega

/-! ## The text -/

/-- Lines behind a line are found behind a line end. -/
theorem exists_front_of_lines (front : String) (rows : List ReportRow) :
    ∃ above, front ++ "\n" ++ String.join (rows.map fun row => Report.line (rowText row)) =
      above ++ "\n" := by
  induction rows generalizing front with
  | nil => exact ⟨front, by simp⟩
  | cons row rest ih =>
    obtain ⟨above, same⟩ := ih (front ++ "\n" ++ rowText row)
    refine ⟨above, ?_⟩
    rw [← same]
    simp [Report.line, String.append_assoc]

/-- Each row has a line of the text, or more if its fields have line feeds. -/
theorem toText_of_mem (member : row ∈ report.rows) :
    ∃ above below, report.toText = above ++ "\n" ++ rowText row ++ "\n" ++ below := by
  obtain ⟨before, after, split⟩ := List.append_of_mem member
  obtain ⟨above, same⟩ := exists_front_of_lines
    (line ("unit:     " ++ report.unit) ++ line ("root:     " ++ report.root) ++
      line ("policy:   " ++ report.policy ++ " (lenient: " ++ boolText report.lenient ++
        ", executor: " ++ report.mode.word ++ ")") ++ "slices:") before
  refine ⟨above, String.join (after.map fun row => line (rowText row)) ++
    line (findingText report.finding), ?_⟩
  rw [← same]
  unfold toText
  rw [split]
  simp [Report.line, String.append_assoc]

/-- **Rows have a column for the status and none for the target.** Each row stands on a line of
its own; if its name fits, its status begins at the column that is meant for statuses, and its
target one blank behind the word of the status. So the targets are in their column only where
no name fits, and they line up only where all statuses are the same. -/
theorem rows_in_columns (report : Report) :
    (∀ row ∈ report.rows,
      (∃ above below, report.toText = above ++ "\n" ++ rowText row ++ "\n" ++ below) ∧
      (row.name.length ≤ 16 → BeginsAt (rowText row) row.status.word 21 ∧
        ∀ column, EndsFrom (rowText row) row.target column ↔
          column = 22 + row.status.word.length)) ∧
    (report.InColumns ↔ ∀ row ∈ report.rows, 16 < row.name.length) ∧
    (report.TargetsLineUp ↔ ∀ row ∈ report.rows, ∀ other ∈ report.rows,
      row.name.length ≤ 16 → other.name.length ≤ 16 → row.status = other.status) := by
  refine ⟨fun row member => ⟨toText_of_mem member, fun fits => ?_⟩, ?_, ?_⟩
  · refine ⟨beginsAt_statusColumn fits, fun column => ?_⟩
    rw [endsFrom_rowText_iff fits, Nat.add_right_comm]
    rfl
  · constructor
    · intro inColumns row member
      refine Nat.lt_of_not_le fun fits => ?_
      exact not_endsFrom_targetColumn fits (inColumns row member fits).2
    · intro long row member fits
      exact absurd fits (Nat.not_le_of_lt (long row member))
  · constructor
    · rintro ⟨column, lineUp⟩ row member other otherMember fits otherFits
      have first := (endsFrom_rowText_iff fits).1 (lineUp row member fits)
      have second := (endsFrom_rowText_iff otherFits).1 (lineUp other otherMember otherFits)
      exact Status.eq_of_length_word (by omega)
    · intro same
      by_cases found : ∃ row ∈ report.rows, Fits row
      · obtain ⟨row, member, fits⟩ := found
        refine ⟨statusColumn + row.status.word.length + 1, fun other otherMember otherFits => ?_⟩
        rw [endsFrom_rowText_iff otherFits, same row member other otherMember fits otherFits]
      · exact ⟨0, fun row member fits => absurd ⟨row, member, fits⟩ found⟩

/-- The report on the three regions when only the first one connects. -/
def lopsided : Report where
  unit := "?"
  root := "helios"
  master := "east"
  lenient := true
  mode := .sequential
  policy := "master"
  rows := [
    ⟨"east", "?.east", "u1", .active, true⟩,
    ⟨"north", "?.north", "u2", .inactive, false⟩,
    ⟨"west", "?.west", "u3", .inactive, false⟩]
  finding := .composed ⟨["east"], false⟩

/-- Its first target begins at column 28 and the others at column 30. -/
theorem lopsided_in_columns :
    (∀ row ∈ lopsided.rows, row.name.length ≤ 16 ∧
      BeginsAt (rowText row) row.status.word 21 ∧
      EndsFrom (rowText row) row.target (if row.name = "east" then 28 else 30)) ∧
    ¬ lopsided.InColumns ∧ ¬ lopsided.TargetsLineUp := by
  obtain ⟨stands, inColumns, lineUp⟩ := rows_in_columns lopsided
  have fits : ∀ row ∈ lopsided.rows, row.name.length ≤ 16 := by decide
  have widths : ∀ row ∈ lopsided.rows,
      (if row.name = "east" then 28 else 30) = 22 + row.status.word.length := by decide
  refine ⟨fun row member => ?_, ?_, ?_⟩
  · obtain ⟨begins, ends⟩ := (stands row member).2 (fits row member)
    exact ⟨fits row member, begins, (ends _).2 (widths row member)⟩
  · rw [inColumns]
    decide
  · rw [lineUp]
    decide

/-- The first of the three regions connects, and the others are unknown. -/
def lonely : Simulation.Field :=
  Simulation.Field.empty.setSteady "u1" .connects false

/-- A report that the three regions have is out of its columns: no target is in the column
that is meant for targets, and the targets do not line up. -/
theorem regions_out_of_columns :
    (collect (Configuration.regions true) Simulation.provider .inOrder true
      (.initial lonely)).1 = .done lopsided ∧
    (∀ row ∈ lopsided.rows, Fits row ∧ ¬ EndsFrom (rowText row) row.target targetColumn) ∧
    ¬ lopsided.InColumns ∧ ¬ lopsided.TargetsLineUp := by
  have fits : ∀ row ∈ lopsided.rows, Fits row := by decide
  have first : ⟨"east", "?.east", "u1", .active, true⟩ ∈ lopsided.rows := List.mem_cons_self
  have last : ⟨"west", "?.west", "u3", .inactive, false⟩ ∈ lopsided.rows := by decide
  refine ⟨by decide +kernel, fun row member => ?_, fun inColumns => ?_, ?_⟩
  · exact ⟨fits row member, not_endsFrom_targetColumn (fits row member)⟩
  · exact not_endsFrom_targetColumn (fits _ first) (inColumns _ first (fits _ first)).2
  · rintro ⟨column, lineUp⟩
    have narrow := (endsFrom_rowText_iff (fits _ first)).1 (lineUp _ first (fits _ first))
    have wide := (endsFrom_rowText_iff (fits _ last)).1 (lineUp _ last (fits _ last))
    exact absurd (narrow.symm.trans wide) (by decide)

end Report

end SliceFleet
