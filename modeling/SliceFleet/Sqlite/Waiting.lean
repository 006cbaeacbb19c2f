/-
SliceFleet.Sqlite.Waiting — slices that wait for one another.

An attempt at a connection is repeated until its time is up. Of slices that
are probed in parallel, one can therefore wait for what another one brings
about, be it a file that the other one creates or a database that it shares;
it is connected in the end wherever it stands among the slices. The order in
which the threads come through (`schedule`) is found in rounds: in each round
everyone who waits makes an attempt, and the rounds end when nobody comes
through any more.
-/
import SliceFleet.Sqlite
import SliceFleet.Verification

namespace SliceFleet.Sqlite

/-- An attempt of a slice: the host afterwards, if it comes through. -/
def arrive? (slice : Slice) (host : Host) : Option Host :=
  match makeFactory slice.config with
  | .done factory => factory.request?.bind host.open?
  | _ => none

/-- Those who came through in a round and those who wait for the next one. -/
structure Round where
  arrived : List (Nat × Slice)
  waiting : List (Nat × Slice)
  host : Host

/-- A round: everyone makes an attempt in turn. -/
def Round.run : List (Nat × Slice) → Host → Round
  | [], host => ⟨[], [], host⟩
  | entry :: rest, host =>
    match arrive? entry.2 host with
    | some host =>
      let round := Round.run rest host
      { round with arrived := entry :: round.arrived }
    | none =>
      let round := Round.run rest host
      { round with waiting := entry :: round.waiting }

/-- In a round everyone comes through or waits. -/
theorem Round.run_perm (slices : List (Nat × Slice)) (host : Host) :
    ((Round.run slices host).arrived ++ (Round.run slices host).waiting).Perm slices := by
  induction slices generalizing host with
  | nil => exact .refl _
  | cons entry rest ih =>
    rw [Round.run]
    split
    · exact (ih _).cons entry
    · exact List.perm_middle.trans ((ih _).cons entry)

/-- The order in which slices come through; those who never do are last. -/
def arrivals (slices : List (Nat × Slice)) (host : Host) : List (Nat × Slice) :=
  let round := Round.run slices host
  if round.waiting.length < slices.length then round.arrived ++ arrivals round.waiting round.host
  else slices
termination_by slices.length

theorem arrivals_perm (slices : List (Nat × Slice)) (host : Host) :
    (arrivals slices host).Perm slices := by
  fun_induction arrivals slices host with
  | case1 slices host round _ ih =>
    exact (ih.append_left round.arrived).trans (Round.run_perm slices host)
  | case2 => exact .refl _

/-- The order in which the threads of a parallel verification come through. -/
def schedule (host : Host) : Schedule where
  arrange slices := arrivals slices host
  perm slices := arrivals_perm slices host

end SliceFleet.Sqlite
