/-
SliceFleet.Proofs.Mirrors — two providers that are asked alike.

One provider mirrors another if it answers, about images of the slices and in
mirrored worlds, just as the other answers about the slices (`Mirrors`). That is
asked call by call. Then the probes are mirrored (`Mirrors.probe_eq`), and
everything that is made of probes: both verifications find and settle the same, and
leave the mirrored world. Where the slices are their own images the answers are
the same altogether (`Mirrors.verify_eq`).
-/
import SliceFleet.Proofs.ParallelVerification

namespace SliceFleet

open Verifier

variable {σ F C : Type}

/-- The other provider is asked of the images, and in the mirrored worlds, as this provider is
asked of the slices. -/
structure Mirrors (provider other : Provider σ F C) (image : Slice → Slice)
    (mirror : World σ F C → World σ F C) : Prop where
  place : ∀ slice, (image slice).place = slice.place
  name : ∀ slice, (image slice).name = slice.name
  target : ∀ slice, (image slice).target = slice.target
  capable : other.capable = provider.capable
  request : ∀ slice world, other.request (image slice).config (mirror world) =
    Prod.map id mirror (provider.request slice.config world)
  dress : ∀ slice factory world, other.dress (image slice).config factory (mirror world) =
    Prod.map id mirror (provider.dress slice.config factory world)
  attempt : ∀ factory world, other.attempt factory (mirror world) =
    Prod.map id mirror (provider.attempt factory world)
  /-- What closing reports may differ. -/
  release : ∀ link world, (other.release link (mirror world)).2 =
    mirror (provider.release link world).2

/-- The verified slice with its slice's image. -/
def Verified.image (image : Slice → Slice) (verified : Verified F) : Verified F :=
  { verified with slice := image verified.slice }

/-- What a verification ends with, mirrored. -/
def mirroredEnd (image : Slice → Slice) (mirror : World σ F C → World σ F C)
    (ends : Outcome SliceFault (List (Verified F)) × Board × World σ F C) :
    Outcome SliceFault (List (Verified F)) × Board × World σ F C :=
  (ends.1.map (List.map (Verified.image image)), ends.2.1, mirror ends.2.2)

@[simp] theorem mirroredEnd_id (mirror : World σ F C → World σ F C)
    (ends : Outcome SliceFault (List (Verified F)) × Board × World σ F C) :
    mirroredEnd id mirror ends = (ends.1, ends.2.1, mirror ends.2.2) := by
  have same : List.map (Verified.image id) = (id : List (Verified F) → List (Verified F)) :=
    List.map_id_fun
  rw [mirroredEnd, same]
  exact congrArg (·, _) (Outcome.map_self ends.1)

namespace Mirrors

variable {provider other : Provider σ F C} {image : Slice → Slice}
  {mirror : World σ F C → World σ F C}

/-! ## Probes -/

/-- **Probes are mirrored**: of an image the same is found. -/
theorem probe_eq (mirrors : Mirrors provider other image mirror) (slice : Slice)
    (world : World σ F C) :
    probe other (image slice) (mirror world) = Prod.map id mirror (probe provider slice world) := by
  simp only [probe, mirrors.request]
  rcases provider.request slice.config world with ⟨raw | fault | text, requested⟩
  · simp only [Prod.map_apply, Prod.map_fst, Prod.map_snd, id_eq, mirrors.dress, mirrors.attempt]
    rcases provider.attempt _ (provider.dress slice.config raw requested).2 with
      ⟨(_ | link) | fault | text, attempted⟩ <;> simp [mirrors.release, mirrors.target]
  · rfl
  · rfl

/-! ## Verifications -/

theorem settle_eq (mirrors : Mirrors provider other image mirror) (board : Board) (slice : Slice)
    (reachable : Bool) : board.settle (image slice) reachable = board.settle slice reachable := by
  simp only [Board.settle, mirrors.place]

theorem record_eq (mirrors : Mirrors provider other image mirror) (slice : Slice) (factory : F) :
    record other (image slice) factory = (record provider slice factory).image image := by
  simp only [record, mirrors.capable, Verified.image]

theorem outOfReach_eq (mirrors : Mirrors provider other image mirror) (slice : Slice)
    (cause : BackendFault) : outOfReach (image slice) cause = outOfReach slice cause := by
  simp only [outOfReach, mirrors.name, mirrors.target]

theorem verifySequentially_eq (mirrors : Mirrors provider other image mirror) (lenient : Bool)
    (slices : List Slice) (board : Board) (world : World σ F C) :
    verifySequentially lenient other (slices.map image) board (mirror world) =
      mirroredEnd image mirror (verifySequentially lenient provider slices board world) := by
  induction slices generalizing board world with
  | nil => rfl
  | cons slice rest ih =>
    simp only [List.map_cons, verifySequentially, mirrors.probe_eq]
    rcases probe provider slice world with ⟨factory | cause | text, after⟩
    · simp only [Prod.map_apply, id_eq, mirrors.settle_eq, ih]
      rcases verifySequentially lenient provider rest (board.settle slice true) after with
        ⟨verified | fault | text, board, world⟩ <;>
      simp [mirroredEnd, Outcome.map, mirrors.record_eq]
    · simp only [Prod.map_apply, id_eq, mirrors.settle_eq, mirrors.outOfReach_eq, ih]
      cases lenient <;> rfl
    · rfl

theorem runThreads_eq (mirrors : Mirrors provider other image mirror)
    (threads : List (Nat × Slice)) (world : World σ F C) :
    runThreads other (threads.map (Prod.map id image)) (mirror world) =
      Prod.map id mirror (runThreads provider threads world) := by
  induction threads generalizing world with
  | nil => rfl
  | cons thread rest ih => simp [runThreads, mirrors.probe_eq, ih]

theorem settleAll_eq (mirrors : Mirrors provider other image mirror) (lenient : Bool)
    (reports : List (Slice × Except BackendFault F)) (board : Board) :
    settleAll lenient other (reports.map (Prod.map image id)) board =
      Prod.map (List.map (Verified.image image)) id (settleAll lenient provider reports board) := by
  induction reports generalizing board with
  | nil => rfl
  | cons report rest ih =>
    obtain ⟨slice, cause | factory⟩ := report
    · simp only [List.map_cons, Prod.map_apply, id_eq, settleAll, mirrors.settle_eq,
        mirrors.outOfReach_eq, ih]
      rfl
    · simp only [List.map_cons, Prod.map_apply, id_eq, settleAll, mirrors.settle_eq,
        mirrors.record_eq, ih]
      rfl

/-! ## Slices that are their own images -/

theorem probeAll_eq (mirrors : Mirrors provider other id mirror) (schedule : Schedule)
    (slices : List Slice) (world : World σ F C) :
    probeAll schedule other slices (mirror world) =
      Prod.map id mirror (probeAll schedule provider slices world) := by
  have ran := mirrors.runThreads_eq (schedule.arrange (numbered slices)) world
  rw [Prod.map_id, List.map_id] at ran
  obtain ⟨findings, after⟩ := Prod.ext_iff.1 ran
  refine Prod.ext ?_ after
  exact congrArg (fun findings => (byNumber findings).map Prod.snd) findings

/-- **The same verification**, where the slices are their own images: it ends alike, with the
same board, in the mirrored world. -/
theorem verify_eq (mirrors : Mirrors provider other id mirror) (verifier : Verifier)
    (slices : List Slice) (board : Board) (world : World σ F C) :
    verifier.verify other slices board (mirror world) =
      let ends := verifier.verify provider slices board world
      (ends.1, ends.2.1, mirror ends.2.2) := by
  refine Eq.trans ?_ (mirroredEnd_id mirror _)
  obtain ⟨lenient, mode, schedule⟩ := verifier
  cases mode with
  | sequential =>
    have same := mirrors.verifySequentially_eq lenient slices board world
    rw [List.map_id] at same
    exact same
  | parallel =>
    have settled := mirrors.settleAll_eq lenient
      (slices.zip (probeAll schedule provider slices world).1) board
    rw [Prod.map_id, List.map_id] at settled
    simp only [verify, verifyInParallel, mirrors.probeAll_eq, Prod.map_fst, Prod.map_snd, id_eq,
      settled]
    rcases settleAll lenient provider (slices.zip (probeAll schedule provider slices world).1)
      board with ⟨verified, _ | fault, board⟩ <;> rfl

end Mirrors

end SliceFleet
