import Backplane.Logged

/-!
# The port table

Ports are a second, small address space: 256 numbers, each of which can be bound to a register of
a device.  The table is as long as the highest port that was ever bound; a port beyond it is
bound to nothing, like one within it that was never bound or was freed again.  The table never
shrinks.

A machine starts with this map:

| port | device      | register         |
|------|-------------|------------------|
| 0    | console     | status           |
| 1    | console     | data             |
| 2    | lamp        | lamp             |
| 4    | controller  | command, status  |
| 255  | front panel | value            |

Binding a port never looks at the device, so a port can be bound to a register that its device does
not know, and two ports to the same register.  What an access through such a port does is up to the
device.
-/

namespace Backplane

/-- The devices a port can be bound to. -/
inductive DeviceId where
  | console
  | led
  | controller
  | frontPanel
deriving DecidableEq, Repr

/-- A register of a device. -/
structure Binding where
  device : DeviceId
  register : UInt8
deriving DecidableEq, Repr

/-- Which port is bound to what.  The array is as long as the highest port needs that was ever
bound, and a place in it may be free again. -/
structure PortTable where
  entries : Array (Option Binding) := #[]
deriving DecidableEq, Repr

namespace PortTable

/-- A table in which every port is free. -/
def empty : PortTable := {}

/-- The length of the table: one more than the highest port that was ever bound. -/
def extent (table : PortTable) : Nat := table.entries.size

/-- What a port is bound to. -/
def binding? (table : PortTable) (port : UInt8) : Option Binding :=
  (table.entries[port.toNat]?).join

/-- Makes the table long enough for a port. -/
def cover (table : PortTable) (port : UInt8) : Array (Option Binding) :=
  if port.toNat < table.extent then table.entries
  else table.entries ++ Array.replicate (port.toNat + 1 - table.extent) none

/-- Binds a port, whatever it was bound to before. -/
def assign (table : PortTable) (port : UInt8) (binding : Binding) : PortTable :=
  ⟨(table.cover port).setIfInBounds port.toNat (some binding)⟩

/-- Frees a port.  Freeing one beyond the table changes nothing. -/
def unassign (table : PortTable) (port : UInt8) : PortTable :=
  ⟨table.entries.setIfInBounds port.toNat none⟩

/-- Looks up a port for an access, and reports one that reaches nothing. -/
def lookup (table : PortTable) (port : UInt8) : Logged (Option Binding) :=
  match table.binding? port with
  | some binding => pure (some binding)
  | none => do
    Logged.report (.unassignedPort port)
    pure none

/-- The port of the console's status register. -/
def consoleStatus : UInt8 := 0

/-- The port of the console's data register. -/
def consoleData : UInt8 := 1

/-- The port of the lamp. -/
def led : UInt8 := 2

/-- The port of the disk controller. -/
def controller : UInt8 := 4

/-- The port of the front panel. -/
def frontPanel : UInt8 := 255

/-- The map a machine starts with. -/
def standard : PortTable :=
  ((((empty.assign consoleStatus ⟨.console, 0⟩).assign consoleData ⟨.console, 1⟩).assign
    led ⟨.led, 0⟩).assign controller ⟨.controller, 0⟩).assign frontPanel ⟨.frontPanel, 0⟩

end PortTable

end Backplane
