import XdpSteering.Proofs.QueueTable.Bound
import XdpSteering.Proofs.QueueTable.History

/-!
# Taking a run back

The answer to a registration or a removal says what the queue had before, so it is enough to take
the change back. A run is taken back by taking its changes back, the last one first. There is room
for each of these requests even if the table was full, since each one leads to a table that the run
went through.
-/

namespace XdpSteering.QueueTable

variable {capacity : UInt32} {table next : QueueTable} {session : Session} {queue : QueueIndex}
  {endpoint old : Endpoint}

/-! ## One change of a table -/

theorem unregister_of_register (hasc : table.entries.Ascending)
    (h : table.register queue endpoint = .ok (none, next)) :
    (next.unregister queue).2 = table := by
  obtain ⟨-, habsent, -⟩ := register_eq_ok_iff.mp h
  have hnext : next.entries.Ascending := ascending_of_register h hasc
  have hcapacity : (next.unregister queue).2.capacity = table.capacity :=
    capacity_unregister.trans (capacity_of_register h)
  apply eq_of_get?_eq hcapacity (ascending_unregister hnext) hasc
  intro other
  rw [get?_unregister, get?_of_register h]
  by_cases heq : other = queue
  · rw [if_pos heq, heq, habsent]
  · rw [if_neg heq, if_neg heq]

/-- A table that differs from another one at a single queue becomes that one when the queue gets
its endpoint. -/
theorem eq_of_register_eq {changed restored : QueueTable} {previous : Option Endpoint}
    (h : changed.register queue old = .ok (previous, restored))
    (hcapacity : changed.capacity = table.capacity) (hchanged : changed.entries.Ascending)
    (hasc : table.entries.Ascending) (hpresent : table.get? queue = some old)
    (hsame : ∀ other ≠ queue, changed.get? other = table.get? other) : restored = table := by
  apply eq_of_get?_eq ((capacity_of_register h).trans hcapacity)
    (ascending_of_register h hchanged) hasc
  intro other
  rw [get?_of_register h]
  by_cases heq : other = queue
  · rw [if_pos heq, heq, hpresent]
  · rw [if_neg heq, hsame other heq]

theorem register_of_register (hasc : table.entries.Ascending)
    (h : table.register queue endpoint = .ok (some old, next)) :
    next.register queue old = .ok (some endpoint, table) := by
  obtain ⟨-, hpresent, -⟩ := register_eq_ok_iff.mp h
  have hget : next.get? queue = some endpoint := by rw [get?_of_register h, if_pos rfl]
  have hroom : next.get? queue = none → next.size < next.capacity.toNat := by simp [hget]
  obtain ⟨restored, hrestored⟩ := exists_register_eq_ok hroom old
  have heq : restored = table := by
    apply eq_of_register_eq hrestored (capacity_of_register h) (ascending_of_register h hasc) hasc
      hpresent.symm
    intro other hne
    rw [get?_of_register h, if_neg hne]
  rw [hrestored, hget, heq]

/-- A removal leaves the room that the queue needs to come back. -/
theorem register_of_unregister (h : Bounded capacity table)
    (hpresent : table.get? queue = some old) :
    (table.unregister queue).2.register queue old = .ok (none, table) := by
  have hget : (table.unregister queue).2.get? queue = none := by rw [get?_unregister, if_pos rfl]
  have hroom : (table.unregister queue).2.size < table.capacity.toNat := by
    have hless := size_unregister_lt hpresent
    have hle := h.size_le
    rw [h.capacity_eq]
    omega
  obtain ⟨restored, hrestored⟩ := exists_register_eq_ok (fun _ => hroom) old
  have heq : restored = table := by
    apply eq_of_register_eq hrestored capacity_unregister (ascending_unregister h.ascending)
      h.ascending hpresent
    intro other hne
    rw [get?_unregister, if_neg hne]
  rw [hrestored, hget, heq]

/-! ## The log of a run -/

/-- The request that takes a change back: the queue gets what it had, or goes if it had nothing.
There is none for what changed nothing. -/
def undoing : Exchange → Option Request
  | (.register queue _, .registered none) => some (.unregister queue)
  | (.register queue _, .registered (some old)) => some (.register queue old)
  | (.unregister queue, .unregistered (some old)) => some (.register queue old)
  | _ => none

/-- The requests that take a history back, those for its last exchanges first. -/
def undoLog (history : History) : List Request := history.reverse.filterMap undoing

theorem undoLog_cons (exchange : Exchange) (history : History) :
    undoLog (exchange :: history) = undoLog history ++ (undoing exchange).toList := by
  cases h : undoing exchange <;> simp [undoLog, List.filterMap_append, h]

/-- The requests lead from a table to another one, and none of them is turned down. -/
structure Leads (requests : List Request) (start last : QueueTable) : Prop where
  table_eq {session : Session} (h : session.table = start) : (session.run requests).2.table = last
  accepted {session : Session} (h : session.table = start) :
    ∀ answer ∈ (session.run requests).1, ∀ error, answer ≠ .rejected error

theorem run_append (session : Session) (a b : List Request) :
    session.run (a ++ b)
      = ((session.run a).1 ++ ((session.run a).2.run b).1, ((session.run a).2.run b).2) := by
  induction a generalizing session with
  | nil => rfl
  | cons request rest ih => simp [Session.run, ih]

namespace Leads

theorem nil (table : QueueTable) : Leads [] table table where
  table_eq h := h
  accepted _ _ hanswer := nomatch hanswer

theorem register {previous : Option Endpoint}
    (h : table.register queue endpoint = .ok (previous, next)) :
    Leads [.register queue endpoint] table next where
  table_eq {session} hsession := by
    subst hsession
    rw [Session.run, step_of_register_ok h]
    rfl
  accepted {session} hsession answer hanswer error := by
    subst hsession
    rw [Session.run, step_of_register_ok h] at hanswer
    rw [List.mem_singleton.mp hanswer]
    intro heq
    cases heq

theorem unregister (table : QueueTable) (queue : QueueIndex) :
    Leads [.unregister queue] table (table.unregister queue).2 where
  table_eq {session} hsession := by
    subst hsession
    rfl
  accepted {session} _ answer hanswer error := by
    rw [List.mem_singleton.mp hanswer]
    intro heq
    cases heq

theorem append {a b : List Request} {start middle last : QueueTable}
    (ha : Leads a start middle) (hb : Leads b middle last) : Leads (a ++ b) start last where
  table_eq {session} hsession := by
    rw [run_append]
    exact hb.table_eq (ha.table_eq hsession)
  accepted {session} hsession answer hanswer := by
    rw [run_append] at hanswer
    rcases List.mem_append.mp hanswer with hanswer | hanswer
    · exact ha.accepted hsession answer hanswer
    · exact hb.accepted (ha.table_eq hsession) answer hanswer

end Leads

/-- The step lemma: what a request did to the table is taken back. -/
theorem leads_undoing (h : Bounded capacity session.table) (request : Request) :
    Leads (undoing (request, (session.step request).1)).toList (session.step request).2.table
      session.table := by
  cases request with
  | register queue endpoint =>
    cases hregister : session.table.register queue endpoint with
    | error error =>
      rw [step_of_register_error hregister]
      exact .nil session.table
    | ok result =>
      obtain ⟨previous, next⟩ := result
      rw [step_of_register_ok hregister]
      cases previous with
      | none =>
        have hleads := Leads.unregister next queue
        rw [unregister_of_register h.ascending hregister] at hleads
        exact hleads
      | some old => exact .register (register_of_register h.ascending hregister)
  | unregister queue =>
    cases hget : session.table.get? queue with
    | none =>
      have hstep := h.keepsBound.of_absent hget
      rw [hstep]
      exact .nil session.table
    | some old =>
      have hanswer : (session.step (.unregister queue)).1 = .unregistered (some old) :=
        congrArg Answer.unregistered hget
      rw [hanswer]
      exact .register (register_of_unregister h hget)
  | held number =>
    cases hheld : session.held[number]? <;> simp only [Session.step, hheld] <;>
      exact .nil session.table
  | _ => exact .nil session.table

theorem leads_undoLog (h : Bounded capacity session.table) (requests : List Request) :
    Leads (undoLog (requests.zip (session.run requests).1)) (session.run requests).2.table
      session.table := by
  induction requests generalizing session with
  | nil => exact .nil session.table
  | cons request rest ih =>
    rw [Session.run, List.zip_cons_cons, undoLog_cons]
    exact (ih (h.step request)).append (leads_undoing h request)

/-- From every table that a run leads to, what further requests change is taken back by their
answers: the table is the one before them, and none of the requests of the log is turned down. -/
theorem undoLog_restores_table (capacity : UInt32) (requests changes : List Request) :
    let session := ((Session.start capacity).run requests).2
    let changed := session.run changes
    let restored := changed.2.run (undoLog (changes.zip changed.1))
    restored.2.table = session.table ∧
      ∀ answer ∈ restored.1, ∀ error, answer ≠ .rejected error := by
  intro session changed restored
  have hbounded : Bounded capacity session.table := (Bounded.empty capacity).run requests
  have hleads := leads_undoLog hbounded changes
  exact ⟨hleads.table_eq rfl, hleads.accepted rfl⟩

/-- A full table gets back an endpoint that was replaced and a queue whose place was taken. -/
example :
    let full : Session := ((Session.start 2).run [.register 1 11, .register 2 12]).2
    let changes : List Request :=
      [.register 1 21, .register 3 13, .unregister 2, .register 3 13, .unregister 5]
    undoLog (changes.zip (full.run changes).1)
      = [.unregister 3, .register 2 12, .register 1 11] := by
  decide

end XdpSteering.QueueTable
