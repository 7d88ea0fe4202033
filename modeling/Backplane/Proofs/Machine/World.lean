import Backplane.Proofs.Machine.Operation

/-!
# Several machines on one host

Machines share nothing but the host's files, and they are not the only ones there.  A `World` is a
host with the machines that were built on it, and a run of a world is any list of actions: another
machine is built, one of them does something, or somebody else changes the host.  The actions of
different machines may come in any order.

## What a world does not model

Actions are carried out one after the other, and an access to a file takes effect as a whole.
Machines that use one file at the same moment, and a host that carries out a part of an access, are
outside the model; so is the time between actions.
-/

namespace Backplane

/-- A host and the machines on it. -/
structure World where
  host : Host
  machines : List Machine := []

/-- What can happen in a world. -/
inductive Action where
  /-- A machine is built, or is refused. -/
  | build (config : Config) (line : Console.Line)
  /-- One of the machines carries out an operation. -/
  | operate (index : Nat) (operation : Operation)
  /-- Others change the host. -/
  | outside (host : Host)

namespace World

/-- The world after an action.  An operation of a machine that is not there does nothing. -/
def step (world : World) : Action → World
  | .build config line =>
    match (Machine.build config line world.host).value with
    | (.ok machine, host) => { host, machines := world.machines ++ [machine] }
    | (.error _, host) => { world with host }
  | .operate index operation =>
    match world.machines[index]? with
    | some machine =>
      match (machine.perform world.host operation).value with
      | (_, machine, host) => { host, machines := world.machines.set index machine }
    | none => world
  | .outside host => { world with host }

/-- The world after actions in a row. -/
def after (world : World) : List Action → World
  | [] => world
  | action :: rest => (world.step action).after rest

theorem step_operate {world : World} {index : Nat} {machine : Machine}
    (h : world.machines[index]? = some machine) (operation : Operation) :
    world.step (.operate index operation) =
      { host := (machine.perform world.host operation).value.2.2,
        machines :=
          world.machines.set index (machine.perform world.host operation).value.2.1 } := by
  rw [step, h]

end World

end Backplane
