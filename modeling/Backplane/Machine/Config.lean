import Backplane.Memory
import Backplane.Name

/-!
# Machine configuration

What a machine is built from.  The default map has 4 KiB of program storage and working storage
up to the reserved page.
-/

namespace Backplane

/-- What a machine is built from. -/
structure Config where
  /-- Bytes of program storage at the bottom of the address space. -/
  programSize : Nat := 0x1000
  /-- Bytes of working storage directly above it. -/
  workingSize : Nat := 0xEF00
  /-- Whether the top page is reserved. -/
  reservedPage : Bool := true
  /-- Where disk images are looked for. -/
  volumesDirectory : Path := ⟨"DISKS80"⟩
  /-- Where program images are looked for. -/
  programsDirectory : Path := ⟨"CODE80"⟩
  /-- The image file of working storage, if it is to outlast the machine. -/
  persistentPath : Option Path := none
  /-- What the front panel shows at first. -/
  frontPanel : UInt8 := floatingBus
deriving DecidableEq, Repr

end Backplane
