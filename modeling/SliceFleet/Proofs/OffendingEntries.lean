/-
SliceFleet.Proofs.OffendingEntries — where an invalid value stands.

A value that building reports as invalid always stands in the namespace. It
stands under the reported key if something is wrong that concerns all slices;
but a slice's own timeout is reported under the key of the default, where the
namespace holds something else or nothing (`invalidValue_stands_iff`).
-/
import SliceFleet.Proofs.Acceptance

namespace SliceFleet.Configuration

open Text Requirement

variable {keys : Keyspace} {policies : PolicyBook} {whole : Properties} {key value : String}
  {expected : Expected}

/-- A value that is read under the key that its fault names stands there. -/
theorem stands_of_readable {read : String} {wanted : Expected} {Readable : String → Prop}
    (unmet : ¬ (readable whole read read wanted Readable).met)
    (same : (readable whole read read wanted Readable).fault = .invalidValue key value expected) :
    whole.get? key = some value := by
  obtain ⟨text, stated, -, fault⟩ := exists_of_unreadable unmet
  rw [fault] at same
  cases same
  exact stated

/-- An invalid value that concerns all slices stands under the reported key. -/
theorem stands_of_shared
    (first : FirstUnmet (sharedRequirements keys whole) (.invalidValue key value expected)) :
    whole.get? key = some value := by
  obtain ⟨requirement, member, unmet, same⟩ := first.exists_unmet
  simp only [sharedRequirements, List.mem_cons, List.not_mem_nil, or_false] at member
  rcases member with rfl | rfl | rfl | rfl | rfl
  · exact stands_of_readable unmet same
  · exact stands_of_readable unmet same
  · exact stands_of_readable unmet same
  · exact stands_of_readable unmet same
  · cases same

/-- **Where an invalid value stands.** -/
theorem invalidValue_stands_iff
    (failed : build keys policies whole = .error (.invalidValue key value expected)) :
    (whole.get? key = some value ↔ ¬ AllMet (sharedRequirements keys whole)) ∧
    ∃ entry, whole.get? entry = some value ∧
      (entry = key ∨ key = keys.settingKey .timeout ∧ expected = .timeout ∧
        ∃ name ∈ keys.nominees whole, entry = keys.sliceKey name Setting.timeout.word) := by
  rcases firstUnmet_append_iff.1 ((build_checks keys policies whole).reports_iff.1 failed) with
    shared | ⟨met, own⟩
  · have stands := stands_of_shared shared
    obtain ⟨requirement, member, unmet, -⟩ := shared.exists_unmet
    exact ⟨⟨fun _ met => unmet (met requirement member), fun _ => stands⟩, key, stands, .inl rfl⟩
  · obtain ⟨requirement, member, unmet, same⟩ := own.exists_unmet
    obtain ⟨name, nominated, rfl⟩ := List.mem_map.1 member
    obtain ⟨text, stated, illegible, fault⟩ := exists_of_unreadable unmet
    rw [ownTimeout, fault] at same
    cases same
    have legible : (globalTimeout keys whole).met := met _ (by simp [sharedRequirements])
    refine ⟨⟨fun stands => absurd (legible value stands) illegible, fun some => absurd met some⟩, ?_⟩
    exact ⟨_, stated, .inr ⟨rfl, rfl, name, nominated, rfl⟩⟩

/-- A default that is legible, and a timeout of a slice's own that is not. -/
def hasty : Properties := .ofList [
  ("helios.slice.Names", "east"),
  ("helios.ConnectTimeout", "250"),
  ("helios.slice.east.ConnectTimeout", "soon")]

theorem build_hasty : build default .standard hasty =
    .error (.invalidValue "helios.ConnectTimeout" "soon" .timeout) := by
  have reported : (build default .standard hasty).map (fun _ => ()) =
      .error (.invalidValue "helios.ConnectTimeout" "soon" .timeout) := by decide +kernel
  cases ended : build default .standard hasty with
  | ok config =>
    rw [ended] at reported
    cases reported
  | error fault =>
    rw [ended] at reported
    cases reported
    rfl

theorem hasty_stands_elsewhere :
    build default .standard hasty =
      .error (.invalidValue "helios.ConnectTimeout" "soon" .timeout) ∧
    (hasty.get? "helios.ConnectTimeout" = some "soon" ↔
      ¬ AllMet (sharedRequirements default hasty)) ∧
    ∃ entry, hasty.get? entry = some "soon" ∧
      (entry = "helios.ConnectTimeout" ∨
        "helios.ConnectTimeout" = Keyspace.settingKey default .timeout ∧
          Expected.timeout = .timeout ∧ ∃ name ∈ Keyspace.nominees default hasty,
            entry = Keyspace.sliceKey default name Setting.timeout.word) :=
  ⟨build_hasty, invalidValue_stands_iff build_hasty⟩

/-- The reported key holds another value, which is legible. -/
theorem hasty_names_sound_entry :
    build default .standard hasty =
      .error (.invalidValue "helios.ConnectTimeout" "soon" .timeout) ∧
    hasty.get? "helios.ConnectTimeout" = some "250" ∧
    hasty.get? "helios.slice.east.ConnectTimeout" = some "soon" :=
  ⟨build_hasty, by decide +kernel, by decide +kernel⟩

end SliceFleet.Configuration
