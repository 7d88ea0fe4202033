import Backplane.Console.Line
import Backplane.Logged

/-!
# The console

The console shows the serial line to the processor through two registers.  The status register is
active low: bit 0 is clear while a byte waits, bit 7 is clear while the line is ready.  The data
register takes the waiting byte, and when none waits it shows the last one again; what is written
to it is sent with the top bit cleared.
-/

namespace Backplane

/-- A serial line behind two registers. -/
structure Console where
  line : Console.Line
  /-- The last byte that the data register delivered. -/
  last : UInt8 := 0
deriving DecidableEq, Repr

namespace Console

/-- The number of the status register. -/
def statusRegister : UInt8 := 0

/-- The number of the data register. -/
def dataRegister : UInt8 := 1

/-- Set while no byte waits. -/
def noInput : UInt8 := 0x01

/-- Set while the line is not ready. -/
def transmitterBusy : UInt8 := 0x80

/-- What the status register shows. -/
def status (console : Console) : UInt8 :=
  (if console.line.isAvailable then 0 else noInput) |||
    (if console.line.isReady then 0 else transmitterBusy)

/-- Reads the data register. -/
def dataIn (console : Console) : UInt8 × Console :=
  match console.line.take with
  | (some value, line) => (value, { line, last := value })
  | (none, line) => (console.last, { console with line })

/-- Writes the data register. -/
def dataOut (console : Console) (value : UInt8) : Console :=
  match console with
  | ⟨line, last⟩ => ⟨line.send (value &&& 0x7F), last⟩

/-- Reads a register.  Other registers have no input side. -/
def input (console : Console) (register : UInt8) : Option UInt8 × Console :=
  if register = statusRegister then (some console.status, console)
  else if register = dataRegister then
    match console.dataIn with
    | (value, console) => (some value, console)
  else (none, console)

/-- Writes a register.  Only the data register has an output side. -/
def output (console : Console) (register value : UInt8) : Logged Console :=
  if register = dataRegister then pure (console.dataOut value)
  else do
    Logged.report (.readOnlyRegister register)
    pure console

end Console

end Backplane
