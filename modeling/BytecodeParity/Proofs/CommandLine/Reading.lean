import BytecodeParity.CommandLine.Programs
import BytecodeParity.Proofs.Outcome
/-!
# Command lines that are read

A program gets to run a command only if its arguments are read. Then whatever the command requires
was given (`isSome_of_readWithCommands`), and the program leaves behind what the command does
(`runComparing_of_read`), with a status that tells whether there was a failure and nothing else.
-/

namespace BytecodeParity

namespace Arguments

variable {g : Grammar} {below : String → Grammar} {arguments : List String} {above given : Given}
  {command : String}

/-- When the reading of arguments ends well, nothing that is required is left out. -/
theorem isSome_of_finish {progress : Progress} (h : finish g progress = .ok given) {p : Parameter}
    (hp : p ∈ g.options) (hrequired : p.required = true) :
    (OrderedMap.find? p.name given).isSome = true := by
  obtain ⟨taken, -, h⟩ := bind_eq_ok_iff.mp h
  split at h
  · cases h
  next hall =>
    obtain rfl := Except.ok.inj h
    rw [Bool.not_eq_true, List.any_eq_false] at hall
    simpa [hrequired, Option.isSome_iff_ne_none] using hall p hp

/-- **A command that is read was given whatever it requires.** -/
theorem isSome_of_readWithCommands
    (h : readWithCommands g below arguments = .ok (above, some (command, given)))
    {p : Parameter} (hp : p ∈ (below command).options) (hrequired : p.required = true) :
    (OrderedMap.find? p.name given).isSome = true := by
  obtain ⟨reading, -, h⟩ := bind_eq_ok_iff.mp h
  split at h
  · obtain ⟨_, -, h⟩ := bind_eq_ok_iff.mp h
    cases h
  · split at h
    · cases h
    · obtain ⟨_, hread, h⟩ := bind_eq_ok_iff.mp h
      obtain ⟨_, -, h⟩ := bind_eq_ok_iff.mp h
      cases h
      obtain ⟨_, -, hfinish⟩ := bind_eq_ok_iff.mp hread
      exact isSome_of_finish hfinish hp hrequired

end Arguments

namespace Ending

variable {e : Ending}

/-- The status tells whether there was a failure. -/
theorem status_eq_zero_iff : e.status = 0 ↔ e.failure = none := by
  cases h : e.failure with
  | none => simp [status, h]
  | some f => simp [status, h]

theorem status_eq_zero_or_one (e : Ending) : e.status = 0 ∨ e.status = 1 := by
  rw [status]
  split
  · exact Or.inr rfl
  · exact Or.inl rfl

end Ending

namespace Program

open Arguments

variable {w : World} {arguments : List String} {above : Given} {command : Option (String × Given)}

@[simp] theorem status_ended (invalidInput : String) (e : Ending) :
    (ended invalidInput e).status = e.status := rfl

/-- What the comparing program leaves behind once its arguments are read. -/
theorem runComparing_of_read (h : readComparing w.files arguments = .ok (above, command)) :
    runComparing w arguments = ended comparisonFailed (runCommand w above command) := by
  rw [runComparing, h]

end Program

end BytecodeParity
