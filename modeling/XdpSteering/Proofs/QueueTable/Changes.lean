import Mathlib.Data.Set.Card
import XdpSteering.Proofs.KeyedList
import XdpSteering.QueueTable

/-!
# Changes of a table

What a registration and a removal answer, and what a look-up finds after them. The number of entries
is the number of queues that a look-up finds.
-/

namespace XdpSteering.QueueTable

variable {table next : QueueTable} {queue other : QueueIndex} {endpoint : Endpoint}
  {previous : Option Endpoint} {error : TableError}

/-- Everything an accepted registration does. -/
theorem register_eq_ok_iff :
    table.register queue endpoint = .ok (previous, next) ↔
      (table.get? queue = none → table.size < table.capacity.toNat) ∧
        previous = table.get? queue ∧
        next = { table with entries := table.entries.insert queue endpoint } := by
  unfold register isFull
  cases hget : table.get? queue with
  | none =>
    by_cases hfull : table.capacity.toNat ≤ table.size
    · simp [hfull]
    · have hroom : table.size < table.capacity.toNat := by omega
      simp [hfull, hroom, eq_comm]
  | some found => simp [eq_comm]

/-- A queue that is there or finds room is registered. -/
theorem exists_register_eq_ok
    (h : table.get? queue = none → table.size < table.capacity.toNat) (endpoint : Endpoint) :
    ∃ next, table.register queue endpoint = .ok (table.get? queue, next) :=
  ⟨_, register_eq_ok_iff.mpr ⟨h, rfl, rfl⟩⟩

/-- A registration is rejected only for want of room, and the answer says so. -/
theorem register_eq_error_iff :
    table.register queue endpoint = .error error ↔
      table.get? queue = none ∧ table.capacity.toNat ≤ table.size ∧
        error = .capacityExceeded queue table.capacity := by
  unfold register isFull
  cases hget : table.get? queue with
  | none =>
    by_cases hfull : table.capacity.toNat ≤ table.size
    · simp [hfull, eq_comm]
    · simp [hfull]
  | some found => simp

theorem get?_of_register (h : table.register queue endpoint = .ok (previous, next)) :
    next.get? other = if other = queue then some endpoint else table.get? other := by
  obtain ⟨-, -, rfl⟩ := register_eq_ok_iff.mp h
  unfold get?
  split
  · next heq =>
    rw [heq]
    exact KeyedList.find?_insert_self queue endpoint table.entries
  · next hne => exact KeyedList.find?_insert_of_ne endpoint table.entries hne

theorem get?_unregister :
    (table.unregister queue).2.get? other = if other = queue then none else table.get? other := by
  unfold unregister get?
  split
  · next heq =>
    rw [heq]
    exact KeyedList.find?_erase_self queue table.entries
  · next hne => exact KeyedList.find?_erase_of_ne table.entries hne

theorem capacity_of_register (h : table.register queue endpoint = .ok (previous, next)) :
    next.capacity = table.capacity := by
  obtain ⟨-, -, rfl⟩ := register_eq_ok_iff.mp h
  rfl

theorem capacity_unregister : (table.unregister queue).2.capacity = table.capacity := rfl

theorem ascending_of_register (h : table.register queue endpoint = .ok (previous, next))
    (hasc : table.entries.Ascending) : next.entries.Ascending := by
  obtain ⟨-, -, rfl⟩ := register_eq_ok_iff.mp h
  exact hasc.insert queue endpoint

theorem ascending_unregister (hasc : table.entries.Ascending) :
    (table.unregister queue).2.entries.Ascending :=
  hasc.erase queue

theorem get?_eq_some_iff_mem (hasc : table.entries.Ascending) :
    table.get? queue = some endpoint ↔ (queue, endpoint) ∈ table.entries :=
  hasc.find?_eq_some_iff_mem

theorem size_eq_ncard (hasc : table.entries.Ascending) :
    table.size = {queue | ∃ endpoint, table.get? queue = some endpoint}.ncard := by
  have hkeys : {queue | ∃ endpoint, table.get? queue = some endpoint}
      = ((table.entries.map Prod.fst).toFinset : Set QueueIndex) := by
    ext queue
    simp [get?_eq_some_iff_mem hasc]
  rw [hkeys, Set.ncard_coe_finset, List.toFinset_card_of_nodup hasc.nodup_keys, List.length_map]
  rfl

/-- Tables of one capacity with the same look-ups are equal. -/
theorem eq_of_get?_eq {a b : QueueTable} (hcapacity : a.capacity = b.capacity)
    (ha : a.entries.Ascending) (hb : b.entries.Ascending)
    (hget : ∀ queue, a.get? queue = b.get? queue) : a = b := by
  have hentries : a.entries = b.entries := ha.ext hb hget
  cases a
  cases b
  simp_all

theorem size_of_register (h : table.register queue endpoint = .ok (previous, next))
    (hasc : table.entries.Ascending) :
    next.size = if (table.get? queue).isSome then table.size else table.size + 1 := by
  obtain ⟨-, -, rfl⟩ := register_eq_ok_iff.mp h
  exact hasc.length_insert queue endpoint

theorem unregister_of_absent (h : table.get? queue = none) :
    table.unregister queue = (none, table) := by
  have herase : table.entries.erase queue = table.entries := KeyedList.erase_eq_self h
  rw [unregister, h, herase]

theorem size_unregister_lt (h : table.get? queue = some endpoint) :
    (table.unregister queue).2.size < table.size :=
  KeyedList.length_erase_lt h

theorem size_unregister_le : (table.unregister queue).2.size ≤ table.size :=
  List.length_filter_le _ _

end XdpSteering.QueueTable
