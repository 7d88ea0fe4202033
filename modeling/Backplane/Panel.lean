import Backplane.Memory

/-!
# The lamp and the front panel

Two devices of one register each.  The signal lamp can only be written: any value but zero lights
it.  The front panel holds a value that the person at the host sets and that software reads and
writes; it has no other effect.
-/

namespace Backplane

/-- The signal lamp. -/
structure Led where
  lit : Bool := false
deriving DecidableEq, Repr

namespace Led

/-- The lamp's register cannot be read. -/
def input (_led : Led) : Option UInt8 := none

/-- Lights the lamp or puts it out, and reports it if that is a change. -/
def output (led : Led) (value : UInt8) : Logged Led := do
  let lit := value != 0
  if lit != led.lit then Logged.report (.lampChanged lit)
  pure { lit }

end Led

/-- The front panel. -/
structure FrontPanel where
  value : UInt8 := floatingBus
deriving DecidableEq, Repr

namespace FrontPanel

/-- What software reads from the panel. -/
def input (panel : FrontPanel) : Option UInt8 := some panel.value

/-- Replaces the panel's value. -/
def output (_panel : FrontPanel) (value : UInt8) : FrontPanel := { value }

end FrontPanel

end Backplane
