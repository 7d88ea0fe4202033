import Backplane.Proofs.Machine.Operation
import Mathlib.Data.List.Induction

/-!
# Ports that are bound and freed

The port table is an array that grows when a port beyond it is bound.  To those who use it, it is a
map from all ports: each is bound to what it was bound to last, unless it was freed since, and how
long the array happens to be makes no difference.  `standsForMap` says so for any requests, made to
the table that is empty or to the one a machine starts with, and says how long the array is: long
enough for the highest port that was ever bound, and no longer.

What was bound last can be read off the requests alone (`LastBound`), and so can the highest port
that was bound (`Spans`).  Each is followed through one request first
(`binding?_perform_eq_some_iff`, `Spans.perform`) and then through a row of them, from its end.

## Length

The length of the table cannot be observed through a port, but it is what the table costs.  It is
one more than the highest port that was ever bound, and zero if none was.  Freeing the highest port
does not make the table shorter, and looking a port up beyond its end does not make it longer
(`StandsForMap.extent_perform`).
-/

namespace Backplane

namespace PortTable

variable {port : UInt8} {binding : Binding}

/-! ## One request -/

theorem size_cover (table : PortTable) (port : UInt8) :
    (table.cover port).size = max table.extent (port.toNat + 1) := by
  unfold cover extent
  split
  · omega
  · rw [Array.size_append, Array.size_replicate]
    omega

/-- The places that a table gets when it grows are free. -/
theorem join_getElem?_cover (table : PortTable) (port : UInt8) (i : Nat) :
    ((table.cover port)[i]?).join = (table.entries[i]?).join := by
  unfold cover
  split
  · rfl
  · rw [Array.getElem?_append]
    split
    · rfl
    · rename_i hbeyond
      rw [Array.getElem?_replicate, Array.getElem?_eq_none (Nat.le_of_not_lt hbeyond)]
      split <;> rfl

theorem binding?_assign (table : PortTable) (port : UInt8) (binding : Binding) (other : UInt8) :
    (table.assign port binding).binding? other =
      if other = port then some binding else table.binding? other := by
  have hplace : port.toNat < (table.cover port).size := by
    rw [size_cover]
    omega
  rw [binding?, assign, Array.getElem?_setIfInBounds, if_pos hplace]
  by_cases h : other = port
  · rw [if_pos h, if_pos (by rw [h])]
    rfl
  · rw [if_neg h, if_neg fun heq => h (UInt8.toNat_inj.1 heq).symm]
    exact join_getElem?_cover table port other.toNat

theorem binding?_unassign (table : PortTable) (port other : UInt8) :
    (table.unassign port).binding? other =
      if other = port then none else table.binding? other := by
  rw [binding?, unassign, Array.getElem?_setIfInBounds]
  by_cases h : other = port
  · rw [if_pos h, if_pos (by rw [h])]
    split <;> rfl
  · rw [if_neg h, if_neg fun heq => h (UInt8.toNat_inj.1 heq).symm]
    rfl

@[simp]
theorem extent_assign (table : PortTable) (port : UInt8) (binding : Binding) :
    (table.assign port binding).extent = max table.extent (port.toNat + 1) := by
  rw [extent, assign, Array.size_setIfInBounds, size_cover]

@[simp]
theorem extent_unassign (table : PortTable) (port : UInt8) :
    (table.unassign port).extent = table.extent :=
  Array.size_setIfInBounds

/-! ## Requests in a row -/

/-- One thing that can be asked of the table. -/
inductive Request where
  /-- A port is bound. -/
  | assign (port : UInt8) (binding : Binding)
  /-- A port is freed. -/
  | unassign (port : UInt8)
  /-- A port is looked up for an access. -/
  | lookup (port : UInt8)

/-- The table after a request. -/
def Request.perform (table : PortTable) : Request → PortTable
  | .assign port binding => table.assign port binding
  | .unassign port => table.unassign port
  | .lookup _ => table

/-- The table after requests in a row. -/
def performAll (table : PortTable) (requests : List Request) : PortTable :=
  requests.foldl Request.perform table

/-- The requests that lead from the empty table to the one a machine starts with. -/
def standardRequests : List Request :=
  [.assign 0 ⟨.console, 0⟩, .assign 1 ⟨.console, 1⟩, .assign 2 ⟨.led, 0⟩,
    .assign 4 ⟨.controller, 0⟩, .assign 255 ⟨.frontPanel, 0⟩]

theorem standard_eq_performAll : standard = empty.performAll standardRequests := rfl

theorem performAll_append (table : PortTable) (first second : List Request) :
    table.performAll (first ++ second) = (table.performAll first).performAll second :=
  List.foldl_append

/-! ## The binding that was made last -/

/-- A request neither binds nor frees a port. -/
def Request.Spares (port : UInt8) (request : Request) : Prop :=
  (∀ binding, request ≠ .assign port binding) ∧ request ≠ .unassign port

/-- A port was bound to this last, and was not freed since. -/
def LastBound (requests : List Request) (port : UInt8) (binding : Binding) : Prop :=
  ∃ before later, requests = before ++ .assign port binding :: later ∧
    ∀ request ∈ later, request.Spares port

theorem not_lastBound_nil : ¬LastBound [] port binding := by
  rintro ⟨before, later, hcut, -⟩
  simp at hcut

theorem lastBound_append_singleton_iff {request : Request} :
    LastBound (requests ++ [request]) port binding ↔
      request = .assign port binding ∨
        request.Spares port ∧ LastBound requests port binding := by
  constructor
  · rintro ⟨before, later, hcut, hspares⟩
    rcases List.eq_nil_or_concat later with rfl | ⟨earlier, newest, rfl⟩
    · exact .inl (List.singleton_inj.1 (List.append_inj' hcut rfl).2)
    · rw [List.concat_eq_append] at hcut hspares
      rw [← List.cons_append, ← List.append_assoc] at hcut
      obtain ⟨hbefore, hnewest⟩ := List.append_inj' hcut rfl
      obtain rfl := List.singleton_inj.1 hnewest
      exact .inr ⟨hspares _ (by simp), before, earlier, hbefore, fun between hmem =>
        hspares between (List.mem_append_left _ hmem)⟩
  · rintro (rfl | ⟨hrequest, before, later, rfl, hspares⟩)
    · exact ⟨requests, [], rfl, by simp⟩
    · refine ⟨before, later ++ [request], by simp, ?_⟩
      intro other hmem
      rcases List.mem_append.1 hmem with hlater | hnewest
      · exact hspares other hlater
      · exact List.mem_singleton.1 hnewest ▸ hrequest

/-- A request binds the port it is made for, frees it, or leaves its binding as it was. -/
theorem binding?_perform_eq_some_iff {table : PortTable}
    (h : table.binding? port = some binding ↔ LastBound requests port binding)
    (request : Request) :
    (request.perform table).binding? port = some binding ↔
      LastBound (requests ++ [request]) port binding := by
  rw [lastBound_append_singleton_iff, ← h]
  cases request with
  | assign other newer =>
    rw [Request.perform, binding?_assign]
    by_cases hport : port = other
    · subst hport
      simp [Request.Spares]
    · simp [Request.Spares, hport, Ne.symm hport]
  | unassign other =>
    rw [Request.perform, binding?_unassign]
    by_cases hport : port = other
    · subst hport
      simp [Request.Spares]
    · simp [Request.Spares, hport, Ne.symm hport]
  | lookup other => simp [Request.perform, Request.Spares]

/-- After requests in a row each port is bound as it was bound last. -/
theorem binding?_performAll_eq_some_iff :
    (empty.performAll requests).binding? port = some binding ↔
      LastBound requests port binding := by
  induction requests using List.reverseRecOn with
  | nil =>
    have hempty : (empty.performAll []).binding? port = none := rfl
    simp [hempty, not_lastBound_nil]
  | append_singleton requests request ih =>
    rw [performAll_append]
    exact binding?_perform_eq_some_iff ih request

/-! ## The length of the table -/

/-- The table is as long as the highest port needs that was ever bound. -/
structure Spans (requests : List Request) (table : PortTable) : Prop where
  /-- Every port that was ever bound has its place in the table. -/
  lt_extent : ∀ port binding, .assign port binding ∈ requests → port.toNat < table.extent
  /-- The last place is that of a port that was bound. -/
  extent_eq : table.extent = 0 ∨
    ∃ port binding, .assign port binding ∈ requests ∧ table.extent = port.toNat + 1

/-- Only binding a port can change the length. -/
theorem extent_perform_of_ne_assign (table : PortTable) {request : Request}
    (h : ∀ port binding, request ≠ .assign port binding) :
    (request.perform table).extent = table.extent := by
  cases request with
  | assign port binding => exact absurd rfl (h port binding)
  | unassign port => exact extent_unassign table port
  | lookup port => rfl

theorem extent_le_perform (table : PortTable) (request : Request) :
    table.extent ≤ (request.perform table).extent := by
  cases request with
  | assign port binding =>
    rw [Request.perform, extent_assign]
    exact Nat.le_max_left _ _
  | unassign port => exact Nat.le_of_eq (extent_unassign table port).symm
  | lookup port => exact Nat.le_refl _

/-- The table never gets shorter. -/
theorem extent_le_performAll (table : PortTable) (requests : List Request) :
    table.extent ≤ (table.performAll requests).extent := by
  induction requests generalizing table with
  | nil => exact Nat.le_refl _
  | cons request rest ih => exact Nat.le_trans (extent_le_perform table request) (ih _)

theorem Spans.perform {table : PortTable} (h : Spans requests table) (request : Request) :
    Spans (requests ++ [request]) (request.perform table) := by
  constructor
  · -- Every assigned port is in the table, and an assigned one is never dropped.
    intro port binding hmem
    rcases List.mem_append.1 hmem with hearlier | hnewest
    · exact Nat.lt_of_lt_of_le (h.lt_extent port binding hearlier) (extent_le_perform table request)
    · rw [← List.mem_singleton.1 hnewest, Request.perform, extent_assign]
      omega
  · -- The last place of the table belongs to a port that was assigned.
    cases request with
    | assign port binding =>
      rw [Request.perform, extent_assign]
      rcases Nat.lt_or_ge port.toNat table.extent with hwithin | hbeyond
      · -- The table stays as long as it is, and its last place belongs to an earlier port.
        rcases h.extent_eq with hzero | ⟨last, bound, hmem, hlast⟩
        · omega
        · exact .inr ⟨last, bound, List.mem_append_left _ hmem, by omega⟩
      · exact .inr ⟨port, binding, by simp, by omega⟩
    | unassign port =>
      rw [Request.perform, extent_unassign]
      exact h.extent_eq.imp_right fun ⟨last, bound, hmem, hlast⟩ =>
        ⟨last, bound, List.mem_append_left _ hmem, hlast⟩
    | lookup port =>
      exact h.extent_eq.imp_right fun ⟨last, bound, hmem, hlast⟩ =>
        ⟨last, bound, List.mem_append_left _ hmem, hlast⟩

theorem spans_performAll (requests : List Request) :
    Spans requests (empty.performAll requests) := by
  induction requests using List.reverseRecOn with
  | nil => exact ⟨by simp, .inl rfl⟩
  | append_singleton requests request ih =>
    rw [performAll_append]
    exact ih.perform request

/-! ## The map -/

/-- The table after some requests, the first of which was made to the empty one, is a map: each port
is bound as the requests say that concern it, whatever was asked for other ports, and the table is
as long as it has to be. -/
structure StandsForMap (requests : List Request) (table : PortTable) : Prop
    extends Spans requests table where
  /-- A port is bound to what it was bound to last, if it was not freed since. -/
  lookup_eq_some_iff : ∀ port binding,
    (table.lookup port).value = some binding ↔ LastBound requests port binding
  /-- All other ports are free, within the table and beyond it. -/
  lookup_eq_none_iff : ∀ port,
    (table.lookup port).value = none ↔ ∀ binding, ¬LastBound requests port binding
  /-- The table has never been longer. -/
  extent_le : ∀ before later, requests = before ++ later →
    (empty.performAll before).extent ≤ table.extent
  /-- Freeing a port does not make it longer, and nor does looking one up. -/
  extent_perform : ∀ request : Request, (∀ port binding, request ≠ .assign port binding) →
    (request.perform table).extent = table.extent

theorem standsForMap_performAll (requests : List Request) :
    StandsForMap requests (empty.performAll requests) := by
  refine ⟨spans_performAll requests, ?_, ?_, ?_, ?_⟩
  · intro port binding
    rw [Machine.value_lookup, binding?_performAll_eq_some_iff]
  · intro port
    rw [Machine.value_lookup, Option.eq_none_iff_forall_ne_some]
    exact forall_congr' fun binding => not_congr binding?_performAll_eq_some_iff
  · rintro before later rfl
    rw [performAll_append]
    exact extent_le_performAll _ later
  · intro request hrequest
    exact extent_perform_of_ne_assign _ hrequest

/-- Whatever is asked of it, the table stands for a map from all ports, whether it was empty at
first or the one a machine starts with, which was made of the empty one by five requests. -/
theorem standsForMap (requests : List Request) :
    StandsForMap requests (empty.performAll requests) ∧
      StandsForMap (standardRequests ++ requests) (standard.performAll requests) := by
  refine ⟨standsForMap_performAll requests, ?_⟩
  rw [standard_eq_performAll, ← performAll_append]
  exact standsForMap_performAll _

end PortTable

end Backplane
