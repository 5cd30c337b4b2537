import Mathlib.Logic.Function.Basic
import XdpSteering.Proofs.QueueTable.Changes
import XdpSteering.QueueTable.Session

/-!
# The bound on the number of queues

A request changes the table of a session by a registration, by a removal, or not at all. Both
changes keep the order of the queues and the bound on their number, so every table that a run of
requests leads to has them. At such a table a new queue is turned down exactly when no room is left,
and nothing but the entry of the named queue ever changes.
-/

namespace XdpSteering.QueueTable

variable {capacity : UInt32} {table next : QueueTable} {session : Session} {queue : QueueIndex}
  {endpoint : Endpoint} {previous : Option Endpoint} {error : TableError}

/-! ## One request -/

theorem step_of_register_ok (h : session.table.register queue endpoint = .ok (previous, next)) :
    session.step (.register queue endpoint)
      = (.registered previous, { session with table := next }) := by
  simp [Session.step, h]

theorem step_of_register_error (h : session.table.register queue endpoint = .error error) :
    session.step (.register queue endpoint) = (.rejected error, session) := by
  simp [Session.step, h]

/-- The first request of a run is answered, and the others go on from where it leads. -/
theorem run_cons (session : Session) (request : Request) (rest : List Request) :
    session.run (request :: rest)
      = ((session.step request).1 :: ((session.step request).2.run rest).1,
        ((session.step request).2.run rest).2) :=
  rfl

/-- Everything a request can do to the table. -/
theorem table_step_cases (session : Session) (request : Request) :
    (session.step request).2.table = session.table ∨
      (∃ queue endpoint previous, request = .register queue endpoint ∧
        session.table.register queue endpoint = .ok (previous, (session.step request).2.table)) ∨
      (∃ queue, request = .unregister queue ∧
        (session.step request).2.table = (session.table.unregister queue).2) := by
  cases request with
  | register queue endpoint =>
    cases hregister : session.table.register queue endpoint with
    | error error =>
      rw [step_of_register_error hregister]
      exact .inl rfl
    | ok result =>
      obtain ⟨previous, next⟩ := result
      rw [step_of_register_ok hregister]
      exact .inr (.inl ⟨queue, endpoint, previous, rfl, hregister⟩)
  | unregister queue => exact .inr (.inr ⟨queue, rfl, rfl⟩)
  | held number =>
    cases hheld : session.held[number]? <;> simp [Session.step, hheld]
  | _ => exact .inl rfl

/-- Only a registration is turned down, and then nothing changes. -/
theorem step_eq_rejected {request : Request} (h : (session.step request).1 = .rejected error) :
    ∃ queue endpoint, request = .register queue endpoint ∧
      session.table.register queue endpoint = .error error := by
  cases request with
  | register queue endpoint =>
    cases hregister : session.table.register queue endpoint with
    | error fault =>
      rw [step_of_register_error hregister] at h
      injection h with hfault
      exact ⟨queue, endpoint, rfl, hfault ▸ hregister⟩
    | ok result =>
      obtain ⟨previous, next⟩ := result
      rw [step_of_register_ok hregister] at h
      nomatch h
  | held number =>
    cases hheld : session.held[number]? <;> simp [Session.step, hheld] at h
  | _ => nomatch h

theorem register_eq_error_of_rejected
    (h : (session.step (.register queue endpoint)).1 = .rejected error) :
    session.table.register queue endpoint = .error error := by
  obtain ⟨_, _, hrequest, herror⟩ := step_eq_rejected h
  obtain ⟨rfl, rfl⟩ := Request.register.inj hrequest
  exact herror

/-! ## Tables within their bound -/

/-- The table has this capacity, lists its queues in order, and holds no more than it may. -/
structure Bounded (capacity : UInt32) (table : QueueTable) : Prop where
  capacity_eq : table.capacity = capacity
  ascending : table.entries.Ascending
  size_le : table.size ≤ capacity.toNat

namespace Bounded

theorem empty (capacity : UInt32) : Bounded capacity (QueueTable.empty capacity) where
  capacity_eq := rfl
  ascending := List.Pairwise.nil
  size_le := Nat.zero_le _

theorem register (h : Bounded capacity table)
    (hregister : table.register queue endpoint = .ok (previous, next)) :
    Bounded capacity next where
  capacity_eq := (capacity_of_register hregister).trans h.capacity_eq
  ascending := ascending_of_register hregister h.ascending
  size_le := by
    have hsize := size_of_register hregister h.ascending
    have hle := h.size_le
    obtain ⟨hroom, -, -⟩ := register_eq_ok_iff.mp hregister
    rw [h.capacity_eq] at hroom
    cases hget : table.get? queue with
    | none =>
      have hlt := hroom hget
      simp only [hget, Option.isSome_none, Bool.false_eq_true, if_false] at hsize
      omega
    | some found =>
      simp only [hget, Option.isSome_some, if_true] at hsize
      omega

theorem unregister (h : Bounded capacity table) (queue : QueueIndex) :
    Bounded capacity (table.unregister queue).2 where
  capacity_eq := h.capacity_eq
  ascending := ascending_unregister h.ascending
  size_le := size_unregister_le.trans h.size_le

theorem step (h : Bounded capacity session.table) (request : Request) :
    Bounded capacity (session.step request).2.table := by
  obtain hsame | ⟨queue, endpoint, previous, -, hregister⟩ | ⟨queue, -, hunregister⟩ :=
    table_step_cases session request
  · rw [hsame]
    exact h
  · exact h.register hregister
  · rw [hunregister]
    exact h.unregister queue

theorem run (h : Bounded capacity session.table) (requests : List Request) :
    Bounded capacity (session.run requests).2.table := by
  induction requests generalizing session with
  | nil => exact h
  | cons request rest ih => exact ih (h.step request)

/-- A new queue is turned down exactly when the table is as full as it may be. -/
theorem register_eq_error_iff_full (h : Bounded capacity table) :
    table.register queue endpoint = .error error ↔
      table.get? queue = none ∧ table.size = capacity.toNat ∧
        error = .capacityExceeded queue capacity := by
  have hle := h.size_le
  rw [register_eq_error_iff, h.capacity_eq]
  constructor
  · rintro ⟨habsent, hfull, rfl⟩
    exact ⟨habsent, by omega, rfl⟩
  · rintro ⟨habsent, hfull, rfl⟩
    exact ⟨habsent, by omega, rfl⟩

end Bounded

/-! ## Every table a run leads to -/

/-- What the next registration and the next removal may do to a table of a capacity. -/
structure KeepsBound (capacity : UInt32) (session : Session) : Prop where
  size_le : session.table.size ≤ capacity.toNat
  rejected_iff (queue : QueueIndex) (endpoint : Endpoint) :
    (session.step (.register queue endpoint)).1 = .rejected (.capacityExceeded queue capacity) ↔
      session.table.get? queue = none ∧ session.table.size = capacity.toNat
  of_rejected {queue : QueueIndex} {endpoint : Endpoint} {error : TableError} {after : Session}
    (h : session.step (.register queue endpoint) = (.rejected error, after)) :
    error = .capacityExceeded queue capacity ∧ after = session
  of_registered {queue : QueueIndex} {endpoint : Endpoint} {previous : Option Endpoint}
    {after : Session}
    (h : session.step (.register queue endpoint) = (.registered previous, after)) :
    after.table.get? = Function.update session.table.get? queue (some endpoint)
  of_absent {queue : QueueIndex} (h : session.table.get? queue = none) :
    session.step (.unregister queue) = (.unregistered none, session)
  of_unregistered {queue : QueueIndex} {removed : Option Endpoint} {after : Session}
    (h : session.step (.unregister queue) = (.unregistered removed, after)) :
    after.table.get? = Function.update session.table.get? queue none

theorem Bounded.keepsBound (h : Bounded capacity session.table) : KeepsBound capacity session where
  size_le := h.size_le
  rejected_iff queue endpoint := by
    constructor
    · intro hanswer
      have herror := register_eq_error_of_rejected hanswer
      obtain ⟨habsent, hfull, -⟩ := h.register_eq_error_iff_full.mp herror
      exact ⟨habsent, hfull⟩
    · rintro ⟨habsent, hfull⟩
      rw [step_of_register_error (h.register_eq_error_iff_full.mpr ⟨habsent, hfull, rfl⟩)]
  of_rejected {queue endpoint error after} hstep := by
    have hregister := register_eq_error_of_rejected (congrArg Prod.fst hstep)
    rw [step_of_register_error hregister] at hstep
    obtain ⟨-, hafter⟩ := Prod.mk.inj hstep
    obtain ⟨-, -, herror⟩ := h.register_eq_error_iff_full.mp hregister
    exact ⟨herror, hafter.symm⟩
  of_registered {queue endpoint previous after} hstep := by
    cases hregister : session.table.register queue endpoint with
    | error fault =>
      rw [step_of_register_error hregister] at hstep
      nomatch hstep
    | ok result =>
      obtain ⟨replaced, next⟩ := result
      rw [step_of_register_ok hregister] at hstep
      obtain ⟨-, rfl⟩ := Prod.mk.inj hstep
      funext other
      rw [get?_of_register hregister, Function.update_apply]
  of_absent {queue} habsent := by
    have hunregister := unregister_of_absent habsent
    simp [Session.step, hunregister]
  of_unregistered {queue removed after} hstep := by
    obtain ⟨-, rfl⟩ := Prod.mk.inj hstep
    funext other
    rw [Function.update_apply]
    exact get?_unregister

/-- From a table without entries, whatever its capacity, no run of requests leads beyond the bound,
turns down a queue that has room, or touches another entry than the one it names. -/
theorem every_run_keeps_its_bound (capacity : UInt32) (requests : List Request) :
    KeepsBound capacity ((Session.start capacity).run requests).2 := by
  have hstart : Bounded capacity (Session.start capacity).table := Bounded.empty capacity
  exact (hstart.run requests).keepsBound

/-- A full table takes another endpoint for a queue it has, and turns down a queue it has not. -/
example :
    let full : Session := ((Session.start 1).run [.register 3 30]).2
    (full.run [.register 4 40, .register 3 31, .unregister 3, .register 4 40]).1
      = [.rejected (.capacityExceeded 4 1), .registered (some 30), .unregistered (some 31),
        .registered none] := by
  decide

end XdpSteering.QueueTable
