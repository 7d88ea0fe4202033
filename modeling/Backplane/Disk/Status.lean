/-!
# Status of the disk controller

The status register holds the outcome of the last transfer as a number.  Software for the
machine knows these numbers, so they are fixed; the short names are for the log.
-/

namespace Backplane.Disk

/-- The outcome of a transfer. -/
inductive Status where
  | ok
  /-- There is no such drive. -/
  | disk
  /-- The drive is empty, or its image cannot be opened. -/
  | noDisk
  /-- The sector's position lies outside the image. -/
  | seek
  /-- The sector cannot be read from the image. -/
  | read
  /-- The sector cannot be written to the image. -/
  | write
  /-- A byte could not be moved to or from memory, or no descriptor was latched. -/
  | dma
  /-- The window in memory runs past the top of the address space. -/
  | dmaAddress
  /-- There is no such track. -/
  | track
  /-- There is no such sector. -/
  | sector
deriving DecidableEq, Repr

namespace Status

/-- The number the status register shows. -/
def code : Status → UInt8
  | .ok => 0
  | .disk => 1
  | .noDisk => 2
  | .seek => 3
  | .read => 4
  | .write => 5
  | .dma => 6
  | .dmaAddress => 7
  | .track => 8
  | .sector => 9

/-- The name the log uses. -/
def name : Status → String
  | .ok => "OK"
  | .disk => "DISK"
  | .noDisk => "NODISK"
  | .seek => "SEEK"
  | .read => "READ"
  | .write => "WRITE"
  | .dma => "DMA"
  | .dmaAddress => "DMAADR"
  | .track => "TRACK"
  | .sector => "SEC"

/-- Different outcomes show different numbers. -/
theorem code_injective {a b : Status} (h : a.code = b.code) : a = b := by
  cases a <;> cases b <;> simp_all [code]

end Status

end Backplane.Disk
