import Backplane.Host.Fault
import Backplane.Host.Path

/-!
# Refusals

What building or configuring a machine can be refused for.  No running program can cause any of
these: the bus never fails, and the disk controller reports through its status register.  They
are answers to the person at the host, so each has a wording; the causes are kept apart, because
callers act on them and not on their text.

Building a machine can also end without an answer.  Sizes are 64-bit words, and an operation on
sizes whose result is none *panics*: the program stops there.  `BuildFailure` keeps the two apart.
-/

namespace Backplane

/-- Why a disk was not mounted or unmounted.  The drives keep what they had. -/
inductive MountError where
  /-- There is no drive of this number. -/
  | invalidDrive (number : Nat)
  /-- This is no bare name. -/
  | invalidName (name : String)
  /-- The image is not a regular file. -/
  | notFound (path : Path)
deriving DecidableEq, Repr

/-- The wording of each refusal. -/
def MountError.message : MountError → String
  | .invalidDrive number => "no drive " ++ toString number
  | .invalidName name => "'" ++ name ++ "' is not a valid disk name"
  | .notFound path => "'" ++ path.text ++ "' not found"

/-- Why a machine was not built or not configured as asked. -/
inductive MachineError where
  /-- The program image is not a regular file. -/
  | notFound (path : Path)
  /-- This is no bare name. -/
  | invalidName (name : String)
  /-- The program image is longer than program storage. -/
  | programTooLarge (size capacity : Nat)
  /-- The storage does not fit into the address space. -/
  | invalidLayout (reason : String)
  /-- A disk was not mounted or unmounted. -/
  | mount (cause : MountError)
  /-- The host refused an access. -/
  | io (cause : Fault)
deriving DecidableEq, Repr

namespace MachineError

/-- The wording of each refusal. -/
def message : MachineError → String
  | .notFound path => "'" ++ path.text ++ "' not found"
  | .invalidName name =>
    "'" ++ name ++ "' is not a valid file name (1-8 characters, no '.' or '/')"
  | .programTooLarge size capacity =>
    s!"program is {size} bytes but program storage only holds {capacity}"
  | .invalidLayout reason => "invalid memory layout: " ++ reason
  | .mount cause => "mount failed: " ++ cause.message
  | .io cause => "IO error: " ++ cause.message

/-- The wording of the cause below the refusal, where it has one of its own. -/
def causeMessage? : MachineError → Option String
  | .mount cause => some cause.message
  | .io cause => some cause.message
  | _ => none

end MachineError

/-- Why the program stops without an answer. -/
inductive Panic where
  /-- A sum of sizes is no 64-bit word. -/
  | sumOverflow
  /-- A block of memory is to be longer than any can be. -/
  | capacityOverflow
deriving DecidableEq, Repr

/-- The wording of each panic. -/
def Panic.message : Panic → String
  | .sumOverflow => "attempt to add with overflow"
  | .capacityOverflow => "capacity overflow"

/-- How building ends when it gives nothing. -/
inductive BuildFailure where
  /-- It answers with an error. -/
  | refused (cause : MachineError)
  | panicked (cause : Panic)
deriving DecidableEq, Repr

/-! ## Errors with another cause -/

variable {ε ε' α : Type} {result : Except ε α} {change : ε → ε'}

@[simp]
theorem mapError_eq_ok_iff {value : α} :
    result.mapError change = .ok value ↔ result = .ok value := by
  cases result with
  | ok found =>
    show Except.ok found = .ok value ↔ Except.ok found = .ok value
    simp
  | error _ => exact iff_of_false nofun nofun

@[simp]
theorem mapError_eq_error_iff {error : ε'} :
    result.mapError change = .error error ↔
      ∃ cause, result = .error cause ∧ change cause = error := by
  cases result with
  | ok _ => exact iff_of_false nofun nofun
  | error cause =>
    show Except.error (change cause) = .error error ↔ _
    simp

end Backplane
