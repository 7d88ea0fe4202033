import Backplane.Host.Path

/-!
# The two drives

The controller has two drives.  A drive holds at most one disk, which is the path of its image:
the image itself is opened anew for every transfer, so it may change or vanish while the drive
keeps its path.
-/

namespace Backplane.Disk

/-- One of the two drives. -/
inductive Drive where
  | first
  | second
deriving DecidableEq, Repr

namespace Drive

/-- The number a drive is known by. -/
def number : Drive → Nat
  | .first => 0
  | .second => 1

/-- The drive of a number. -/
def ofNumber? : Nat → Option Drive
  | 0 => some .first
  | 1 => some .second
  | _ => none

@[simp]
theorem ofNumber?_number (d : Drive) : ofNumber? d.number = some d := by
  cases d <;> rfl

theorem ofNumber?_eq_none_iff {n : Nat} : ofNumber? n = none ↔ 2 ≤ n := by
  match n with
  | 0 | 1 => simp [ofNumber?]
  | n + 2 => simp [ofNumber?]

end Drive

/-- What the drives hold. -/
structure Drives where
  first : Option Path := none
  second : Option Path := none
deriving DecidableEq, Repr

namespace Drives

/-- The image in a drive. -/
def get (drives : Drives) : Drive → Option Path
  | .first => drives.first
  | .second => drives.second

/-- Replaces what a drive holds. -/
def set (drives : Drives) (drive : Drive) (image : Option Path) : Drives :=
  match drive with
  | .first => { drives with first := image }
  | .second => { drives with second := image }

@[simp]
theorem get_set (drives : Drives) (d e : Drive) (image : Option Path) :
    (drives.set d image).get e = if e = d then image else drives.get e := by
  cases d <;> cases e <;> rfl

end Drives

end Backplane.Disk
