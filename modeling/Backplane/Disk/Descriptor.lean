import Backplane.Disk.Status

/-!
# Disk geometry and the transfer descriptor

A disk has 77 tracks of 26 sectors of 128 bytes, and an image is all sectors one after the other
without a header.  What a transfer moves is given by a four-byte *descriptor* in memory: track,
sector, and the address of a 128-byte window, low byte first.  Sectors count from one.

A descriptor can be wrong in three ways, and one that is wrong in several is reported for the
first of them.
-/

namespace Backplane.Disk

/-- Bytes in a sector. -/
def sectorSize : Nat := 128

/-- Sectors on a track. -/
def sectorsPerTrack : Nat := 26

/-- Tracks on a disk. -/
def tracks : Nat := 77

/-- Bytes in a descriptor. -/
def descriptorSize : Nat := 4

/-- Where a sector starts in an image. -/
def sectorOffset (track sector : UInt8) : Nat :=
  (track.toNat * sectorsPerTrack + sector.toNat - 1) * sectorSize

/-- An address from its low and its high byte. -/
def wordOfBytes (low high : UInt8) : UInt16 := UInt16.ofNat (low.toNat + 256 * high.toNat)

/-- What a transfer is asked to move. -/
structure Descriptor where
  track : UInt8
  sector : UInt8
  /-- The first address of the window in memory. -/
  window : UInt16
deriving DecidableEq, Repr

namespace Descriptor

/-- Takes a descriptor from its bytes.  There are always four; what a shorter list lacks is read
as zero. -/
def ofBytes (bytes : List UInt8) : Descriptor where
  track := bytes.getD 0 0
  sector := bytes.getD 1 0
  window := wordOfBytes (bytes.getD 2 0) (bytes.getD 3 0)

/-- What can be wrong with a descriptor. -/
inductive Defect where
  /-- The disk has no such track. -/
  | track
  /-- A track has no such sector. -/
  | sector
  /-- The window runs past the top of the address space. -/
  | window
deriving DecidableEq, Repr

/-- How the status register reports a defect. -/
def Defect.status : Defect → Status
  | .track => .track
  | .sector => .sector
  | .window => .dmaAddress

/-- The first defect of a descriptor, if it has one. -/
def defect? (d : Descriptor) : Option Defect :=
  if tracks ≤ d.track.toNat then some .track
  else if d.sector.toNat < 1 ∨ sectorsPerTrack < d.sector.toNat then some .sector
  else if 0x10000 < d.window.toNat + sectorSize then some .window
  else none

/-- Where the addressed sector starts in an image. -/
def offset (d : Descriptor) : Nat := sectorOffset d.track d.sector

end Descriptor

end Backplane.Disk
