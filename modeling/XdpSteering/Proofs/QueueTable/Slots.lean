import Mathlib.Data.FinEnum
import XdpSteering.Proofs.QueueTable.Bound
import XdpSteering.SteerError

/-!
# Queues that have a slot

A socket map has one slot for each queue below its capacity, and a table holds as many queues as its
capacity says. A table that is only given queues with a slot therefore has room for each of them,
and once it holds all of them it has no room for another.
-/

namespace XdpSteering

variable {capacity : UInt32} {queue : QueueIndex} {error : SteerError}

theorem checkQueue_eq_ok_iff : checkQueue queue capacity = .ok () ↔ queue < capacity := by
  unfold checkQueue
  split
  · next h => simpa using h
  · next h => simpa using h

theorem checkQueue_eq_error_iff :
    checkQueue queue capacity = .error error ↔
      capacity ≤ queue ∧ error = .capacityExceeded queue capacity := by
  unfold checkQueue
  split
  · next h => simp [h, eq_comm]
  · next h => simp [h]

end XdpSteering

namespace XdpSteering.QueueTable

variable {capacity : UInt32} {table next : QueueTable} {session : Session} {queue : QueueIndex}
  {endpoint : Endpoint} {previous : Option Endpoint}

/-! ## Counting slots -/

/-- There are as many slots as the capacity says. -/
theorem ncard_slots (capacity : UInt32) :
    {queue : QueueIndex | queue < capacity}.ncard = capacity.toNat := by
  have himage : UInt32.toNat '' {queue : QueueIndex | queue < capacity}
      = (Finset.range capacity.toNat : Set Nat) := by
    ext number
    simp only [Set.mem_image, Set.mem_ofPred_eq, Finset.coe_range, Set.mem_Iio]
    constructor
    · rintro ⟨queue, hlt, rfl⟩
      exact UInt32.lt_iff_toNat_lt.mp hlt
    · intro hlt
      have hsize : number < UInt32.size := hlt.trans capacity.toNat_lt_size
      have hnumber : (UInt32.ofNat number).toNat = number := UInt32.toNat_ofNat_of_lt' hsize
      refine ⟨UInt32.ofNat number, UInt32.lt_iff_toNat_lt.mpr ?_, hnumber⟩
      rw [hnumber]
      exact hlt
  rw [← Set.ncard_image_of_injective _ fun a b => UInt32.toNat_inj.mp, himage,
    Set.ncard_coe_finset, Finset.card_range]

structure Slotted (capacity : UInt32) (table : QueueTable) : Prop
    extends Bounded capacity table where
  slot {queue : QueueIndex} {endpoint : Endpoint} (h : table.get? queue = some endpoint) :
    queue < capacity

namespace Slotted

/-- A queue that is missing leaves a slot empty. -/
theorem size_lt (h : Slotted capacity table) (hslot : queue < capacity)
    (habsent : table.get? queue = none) : table.size < capacity.toNat := by
  have hsubset : {other | ∃ endpoint, table.get? other = some endpoint}
      ⊂ {other | other < capacity} := by
    refine ⟨fun other ⟨endpoint, hget⟩ => h.slot hget, fun hall => ?_⟩
    obtain ⟨endpoint, hget⟩ := hall hslot
    rw [habsent] at hget
    nomatch hget
  rw [size_eq_ncard h.ascending, ← ncard_slots capacity]
  exact Set.ncard_lt_ncard hsubset

theorem size_eq_of_all (h : Slotted capacity table)
    (hall : ∀ queue < capacity, ∃ endpoint, table.get? queue = some endpoint) :
    table.size = capacity.toNat := by
  have hslots : {other | ∃ endpoint, table.get? other = some endpoint}
      = {other | other < capacity} :=
    Set.Subset.antisymm (fun other ⟨endpoint, hget⟩ => h.slot hget) hall
  rw [size_eq_ncard h.ascending, hslots, ncard_slots]

theorem empty (capacity : UInt32) : Slotted capacity (QueueTable.empty capacity) where
  toBounded := Bounded.empty capacity
  slot h := nomatch h

/-! ## One request -/

/-- A queue with a slot is never turned down. -/
theorem exists_register_eq_ok (h : Slotted capacity table) (hslot : queue < capacity)
    (endpoint : Endpoint) :
    ∃ next, table.register queue endpoint = .ok (table.get? queue, next) := by
  apply QueueTable.exists_register_eq_ok
  intro habsent
  rw [h.capacity_eq]
  exact h.size_lt hslot habsent

theorem register (h : Slotted capacity table) (hslot : queue < capacity)
    (hregister : table.register queue endpoint = .ok (previous, next)) :
    Slotted capacity next where
  toBounded := h.toBounded.register hregister
  slot {other _} hget := by
    rw [get?_of_register hregister] at hget
    split at hget
    · next heq =>
      rw [heq]
      exact hslot
    · exact h.slot hget

theorem unregister (h : Slotted capacity table) (queue : QueueIndex) :
    Slotted capacity (table.unregister queue).2 where
  toBounded := h.toBounded.unregister queue
  slot {other _} hget := by
    rw [get?_unregister] at hget
    split at hget
    · nomatch hget
    · exact h.slot hget

theorem step {request : Request} (h : Slotted capacity session.table)
    (hslot : ∀ queue endpoint, request = .register queue endpoint → queue < capacity) :
    Slotted capacity (session.step request).2.table := by
  obtain hsame | ⟨queue, endpoint, previous, hrequest, hregister⟩ | ⟨queue, -, hunregister⟩ :=
    table_step_cases session request
  · rw [hsame]
    exact h
  · exact h.register (hslot queue endpoint hrequest) hregister
  · rw [hunregister]
    exact h.unregister queue

theorem step_ne_rejected {request : Request} (h : Slotted capacity session.table)
    (hslot : ∀ queue endpoint, request = .register queue endpoint → queue < capacity)
    (error : TableError) : (session.step request).1 ≠ .rejected error := by
  intro hrejected
  obtain ⟨queue, endpoint, hrequest, herror⟩ := step_eq_rejected hrejected
  obtain ⟨next, hok⟩ := h.exists_register_eq_ok (hslot queue endpoint hrequest) endpoint
  rw [herror] at hok
  nomatch hok

/-! ## Runs -/

theorem run {requests : List Request} (h : Slotted capacity session.table)
    (hslots : ∀ queue endpoint, .register queue endpoint ∈ requests → queue < capacity) :
    Slotted capacity (session.run requests).2.table ∧
      ∀ answer ∈ (session.run requests).1, ∀ error, answer ≠ .rejected error := by
  induction requests generalizing session with
  | nil => exact ⟨h, fun answer hanswer => nomatch hanswer⟩
  | cons request rest ih =>
    have hslot : ∀ queue endpoint, request = .register queue endpoint → queue < capacity :=
      fun queue endpoint heq => hslots queue endpoint (heq ▸ List.mem_cons_self)
    have hrest : ∀ queue endpoint, .register queue endpoint ∈ rest → queue < capacity :=
      fun queue endpoint hmem => hslots queue endpoint (List.mem_cons_of_mem _ hmem)
    obtain ⟨hlast, hanswers⟩ := ih (h.step hslot) hrest
    refine ⟨hlast, fun answer hanswer error => ?_⟩
    rcases List.mem_cons.mp hanswer with rfl | hanswer
    · exact h.step_ne_rejected hslot error
    · exact hanswers answer hanswer error

end Slotted

def Request.ofRegistration (registration : QueueIndex × Endpoint) : Request :=
  .register registration.1 registration.2

theorem register_mem_map_ofRegistration {registrations : List (QueueIndex × Endpoint)} :
    Request.register queue endpoint ∈ registrations.map .ofRegistration ↔
      (queue, endpoint) ∈ registrations := by
  simp [Request.ofRegistration]

/-- What has a slot and is registered stays registered while more such queues come. -/
theorem Slotted.get?_run_registrations {registrations : List (QueueIndex × Endpoint)}
    (h : Slotted capacity session.table)
    (hslots : ∀ queue ∈ registrations.map Prod.fst, queue < capacity)
    (hpresent : queue ∈ registrations.map Prod.fst ∨
      ∃ endpoint, session.table.get? queue = some endpoint) :
    ∃ endpoint,
      (session.run (registrations.map .ofRegistration)).2.table.get? queue = some endpoint := by
  induction registrations generalizing session with
  | nil => exact hpresent.resolve_left (by simp)
  | cons registration rest ih =>
    obtain ⟨first, value⟩ := registration
    rw [List.map_cons, List.forall_mem_cons] at hslots
    obtain ⟨next, hregister⟩ := h.exists_register_eq_ok hslots.1 value
    have hstep := step_of_register_ok hregister
    have hget : next.get? queue = if queue = first then some value else session.table.get? queue :=
      get?_of_register hregister
    have hnext : Slotted capacity { session with table := next }.table :=
      h.register hslots.1 hregister
    rw [List.map_cons, Session.run, Request.ofRegistration, hstep]
    apply ih hnext hslots.2
    by_cases heq : queue = first
    · right
      exact ⟨value, by rw [hget, if_pos heq]⟩
    · rw [List.map_cons, List.mem_cons, or_assoc] at hpresent
      rw [hget, if_neg heq]
      exact hpresent.resolve_left heq

/-- The rule of the map and the rule of the table agree: queues that have a slot are never turned
down, in whatever order they come and go, and when all of them are registered, a queue without a
slot is. -/
theorem slots_are_what_fits (capacity : UInt32) :
    (∀ requests : List Request,
      (∀ queue endpoint, .register queue endpoint ∈ requests →
        checkQueue queue capacity = .ok ()) →
      ∀ answer ∈ ((Session.start capacity).run requests).1, ∀ error, answer ≠ .rejected error) ∧
    (∀ (registrations : List (QueueIndex × Endpoint)) (queue : QueueIndex) (endpoint : Endpoint)
        (error : SteerError),
      (∀ other, other ∈ registrations.map Prod.fst ↔ checkQueue other capacity = .ok ()) →
      checkQueue queue capacity = .error error →
      let filled := ((Session.start capacity).run (registrations.map .ofRegistration)).2
      filled.step (.register queue endpoint)
        = (.rejected (.capacityExceeded queue capacity), filled)) := by
  have hstart : Slotted capacity (Session.start capacity).table := Slotted.empty capacity
  constructor
  · intro requests haccepted
    exact (hstart.run fun queue endpoint hmem =>
      checkQueue_eq_ok_iff.mp (haccepted queue endpoint hmem)).2
  · intro registrations queue endpoint error hall hrefused filled
    have hslots : ∀ other ∈ registrations.map Prod.fst, other < capacity :=
      fun other hmem => checkQueue_eq_ok_iff.mp ((hall other).mp hmem)
    have hfilled : Slotted capacity filled.table :=
      (hstart.run fun other value hmem =>
        hslots other (List.mem_map_of_mem (register_mem_map_ofRegistration.mp hmem))).1
    have hfull : filled.table.size = capacity.toNat := by
      apply hfilled.size_eq_of_all
      intro other hlt
      exact hstart.get?_run_registrations hslots
        (.inl ((hall other).mpr (checkQueue_eq_ok_iff.mpr hlt)))
    have habsent : filled.table.get? queue = none := by
      cases hget : filled.table.get? queue with
      | none => rfl
      | some found =>
        have hlt : queue < capacity := hfilled.slot hget
        have hle : capacity ≤ queue := (checkQueue_eq_error_iff.mp hrefused).1
        exact absurd hlt (UInt32.not_lt.mpr hle)
    apply step_of_register_error
    exact hfilled.register_eq_error_iff_full.mpr ⟨habsent, hfull, rfl⟩

/-- Two queues with a slot come, go and come back, and a third one without finds no room. -/
theorem two_slots_are_what_fits :
    (∀ answer ∈ ((Session.start 2).run
        [.register 1 11, .register 0 10, .unregister 1, .register 1 12, .register 1 13]).1,
      ∀ error, answer ≠ .rejected error) ∧
    (((Session.start 2).run [.register 1 11, .register 0 10]).2.step (.register 2 12)).1
      = .rejected (.capacityExceeded 2 2) := by
  refine ⟨(slots_are_what_fits 2).1 _ fun queue endpoint hmem => ?_,
    congrArg Prod.fst ((slots_are_what_fits 2).2 [(1, 11), (0, 10)] 2 12
      (.capacityExceeded 2 2) (fun other => ?_) rfl)⟩
  · have hqueue : queue = 1 ∨ queue = 0 := by
      simp only [List.mem_cons, Request.register.injEq, reduceCtorEq, List.not_mem_nil] at hmem
      tauto
    rcases hqueue with rfl | rfl <;> rfl
  · rw [checkQueue_eq_ok_iff, UInt32.lt_iff_toNat_lt]
    have hone : other = 1 ↔ other.toNat = 1 := UInt32.toNat_inj.symm
    have hzero : other = 0 ↔ other.toNat = 0 := UInt32.toNat_inj.symm
    have htwo : (2 : UInt32).toNat = 2 := rfl
    simp only [List.map_cons, List.map_nil, List.mem_cons, List.not_mem_nil, or_false, hone, hzero,
      htwo]
    omega

end XdpSteering.QueueTable
