import Backplane.Proofs.Memory.Blocks

/-!
# Warnings, and memory

Two kinds of lines in the log are counted: warnings, and lines that report the status of a disk
transfer.  `Reports` says which of them a computation reports, and they add up when computations
follow one another (`Reports.bind`).  Most computations are *quiet*, which is to say that they
report none of either.  `Tells` is for a computation in which something may fail: one warning if it
does and none otherwise.

Memory is where devices fail.  On the bus an access that is refused is reported, once
(`tells_read`, `tells_write`).  An access for a disk transfer is quiet even when it is refused,
because it is answered with the fault, and whoever asked reports it.
-/

namespace Backplane

namespace Event

/-- The warnings among some events. -/
def warnings (events : List Event) : List Event := events.filter (·.level = .warn)

/-- The status that an event reports, if it reports one. -/
def status? : Event → Option Disk.Status
  | .statusSet status => some status
  | _ => none

/-- The statuses that are reported by some events. -/
def statuses (events : List Event) : List Disk.Status := events.filterMap status?

theorem warnings_append (first second : List Event) :
    warnings (first ++ second) = warnings first ++ warnings second :=
  List.filter_append _ _

theorem statuses_append (first second : List Event) :
    statuses (first ++ second) = statuses first ++ statuses second :=
  List.filterMap_append

theorem level_of_status? {event : Event} {status : Disk.Status}
    (h : event.status? = some status) : event.level = .debug := by
  unfold status? at h
  split at h
  · rfl
  · exact absurd h (by simp)

end Event

namespace Logged

variable {α β : Type} {x : Logged α} {y : Logged β} {f : α → Logged β} {event : Event}
  {fails : Prop} {first second : List Event} {shown later : List Disk.Status}

/-- A computation that reports these warnings and these statuses. -/
structure Reports (x : Logged α) (warned : List Event) (shown : List Disk.Status) : Prop where
  warnings : Event.warnings x.events = warned
  statuses : Event.statuses x.events = shown

/-- A computation that reports no warning and no status. -/
abbrev Quiet (x : Logged α) : Prop := Reports x [] []

/-- What a computation reports in which something may fail, with the statuses that are due. -/
structure Tells (x : Logged α) (fails : Prop) (shown : List Disk.Status) : Prop where
  /-- A failure is one warning, -/
  warned : fails → ∃ event, Reports x [event] shown
  /-- and nothing else is one. -/
  silent : ¬fails → Reports x [] shown

theorem Reports.of_events_eq (h : Reports x first shown) (hevents : y.events = x.events) :
    Reports y first shown :=
  ⟨hevents ▸ h.warnings, hevents ▸ h.statuses⟩

theorem Reports.bind (hx : Reports x first shown) (hf : Reports (f x.value) second later) :
    Reports (x >>= f) (first ++ second) (shown ++ later) := by
  constructor
  · rw [events_bind, Event.warnings_append, hx.warnings, hf.warnings]
  · rw [events_bind, Event.statuses_append, hx.statuses, hf.statuses]

theorem Reports.bind_pure (hx : Reports x first shown) (g : α → β) :
    Reports (x >>= fun a => pure (g a)) first shown :=
  hx.of_events_eq (by rw [events_bind, events_pure, List.append_nil])

theorem Quiet.pure (a : α) : Quiet (Pure.pure a) := ⟨rfl, rfl⟩

theorem Quiet.bind (hx : Quiet x) (hf : ∀ a, Quiet (f a)) : Quiet (x >>= f) :=
  Reports.bind hx (hf x.value)

theorem Quiet.of_events
    (h : ∀ event ∈ x.events, event.level ≠ .warn ∧ event.status? = none) : Quiet x := by
  constructor
  · apply List.filter_eq_nil_iff.2
    intro event hmem
    simpa using (h event hmem).1
  · exact List.filterMap_eq_nil_iff.2 fun event hmem => (h event hmem).2

theorem Tells.of_events_eq (h : Tells x fails shown) (hevents : y.events = x.events) :
    Tells y fails shown := by
  constructor
  · intro hfails
    obtain ⟨event, hreports⟩ := h.warned hfails
    exact ⟨event, hreports.of_events_eq hevents⟩
  · exact fun hno => (h.silent hno).of_events_eq hevents

theorem Reports.tells (h : Reports x [] shown) (hno : ¬fails) : Tells x fails shown :=
  ⟨fun hfails => absurd hfails hno, fun _ => h⟩

theorem Tells.statuses (h : Tells x fails shown) : Event.statuses x.events = shown := by
  by_cases hfails : fails
  · obtain ⟨event, hreports⟩ := h.warned hfails
    exact hreports.statuses
  · exact (h.silent hfails).statuses

/-- What comes after a quiet computation tells for both. -/
theorem Quiet.bind_tells (hx : Quiet x) (hf : Tells (f x.value) fails shown) :
    Tells (x >>= f) fails shown := by
  constructor
  · intro hfails
    obtain ⟨event, hreports⟩ := hf.warned hfails
    exact ⟨event, Reports.bind hx hreports⟩
  · exact fun hno => Reports.bind hx (hf.silent hno)

end Logged

namespace Memory

open Logged (Quiet Tells)

variable (memory : Memory) (host : Host) (address : UInt16)

/-! ## For a transfer -/

theorem quiet_load : Quiet (memory.load host address) := by
  refine .of_events ?_
  unfold load loadEvents
  split <;> simp [Event.level, Event.status?]

theorem quiet_store (value : UInt8) : Quiet (memory.store host address value) := by
  have hevents : ∀ event ∈ memory.storeEvents address,
      event.level ≠ .warn ∧ event.status? = none := by
    unfold storeEvents
    split <;> simp [Event.level, Event.status?]
  unfold store
  dsimp only
  split <;> exact .of_events hevents

theorem quiet_loadBlock (count : Nat) : Quiet (memory.loadBlock host address count) := by
  induction count generalizing address with
  | zero => exact .pure _
  | succ count ih =>
    refine (memory.quiet_load host address).bind fun loaded => ?_
    cases loaded with
    | error fault => exact .pure _
    | ok value =>
      refine (ih (address + 1)).bind fun rest => ?_
      cases rest <;> exact .pure _

theorem quiet_storeBlock (bytes : List UInt8) : Quiet (memory.storeBlock host address bytes) := by
  induction bytes generalizing memory host address with
  | nil => exact .pure _
  | cons value rest ih =>
    refine (memory.quiet_store host address value).bind fun stored => ?_
    rcases stored with ⟨_ | _, after, hostAfter⟩
    · exact .pure _
    · exact ih after hostAfter (address + 1)

/-! ## On the bus -/

theorem tells_read : Tells (memory.read host address) (memory.RefusesLoad host address) [] := by
  refine (memory.quiet_load host address).bind_tells ?_
  unfold RefusesLoad
  cases (memory.load host address).value with
  | ok value => exact (Quiet.pure value).tells (by simp)
  | error fault =>
    exact ⟨fun _ => ⟨.readFailed address fault, rfl, rfl⟩, fun hno => absurd ⟨fault, rfl⟩ hno⟩

theorem tells_write (value : UInt8) :
    Tells (memory.write host address value) (memory.RefusesStore host address) [] := by
  refine (memory.quiet_store host address value).bind_tells ?_
  rw [refusesStore_iff, value_store]
  cases memory.storeFault? host address with
  | none => exact (Quiet.pure _).tells (by simp)
  | some fault =>
    exact ⟨fun _ => ⟨.writeFailed address fault, rfl, rfl⟩, fun hno => absurd ⟨fault, rfl⟩ hno⟩

end Memory

end Backplane
