/-!
# The serial line

The console talks over a byte-oriented line.  Bytes that arrive wait in order until they are
taken, and bytes that are sent leave in order.  Nothing here waits: taking a byte from an empty
queue gives none, and sending never looks at the ready signal, which exists only to be shown.

A line without a ready signal can always take a byte.
-/

namespace Backplane.Console

/-- A serial line. -/
structure Line where
  /-- The bytes that wait to be taken, oldest first. -/
  input : List UInt8 := []
  /-- The bytes that were sent and not yet collected. -/
  output : Array UInt8 := #[]
  /-- The state of the ready signal, on lines that have one. -/
  ready? : Option Bool := none
deriving DecidableEq, Repr

namespace Line

/-- Whether a byte waits. -/
def isAvailable (line : Line) : Bool := !line.input.isEmpty

/-- Whether the line can take a byte right now. -/
def isReady (line : Line) : Bool := line.ready?.getD true

/-- The next waiting byte, if there is one, and the line without it. -/
def take (line : Line) : Option UInt8 × Line :=
  match line.input with
  | [] => (none, line)
  | value :: rest => (some value, { line with input := rest })

/-- Sends a byte. -/
def send (line : Line) (value : UInt8) : Line :=
  match line with
  | ⟨input, output, ready?⟩ => ⟨input, output.push value, ready?⟩

/-- Sends bytes in order. -/
def sendAll (line : Line) (values : List UInt8) : Line :=
  match line with
  | ⟨input, output, ready?⟩ => ⟨input, output ++ values, ready?⟩

/-- Bytes arrive behind those that wait already. -/
def receive (line : Line) (values : List UInt8) : Line :=
  { line with input := line.input ++ values }

/-- Sets the ready signal, on lines that have one. -/
def setReady (line : Line) (ready : Bool) : Line :=
  { line with ready? := line.ready?.map fun _ => ready }

/-- Takes everything that was sent. -/
def collect (line : Line) : Array UInt8 × Line := (line.output, { line with output := #[] })

end Line

end Backplane.Console
