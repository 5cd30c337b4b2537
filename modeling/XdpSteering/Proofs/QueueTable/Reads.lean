import Mathlib.Data.List.Forall2
import XdpSteering.Proofs.QueueTable.Bound

/-!
# Held snapshots and reads

The snapshots that a session holds only grow in number, and none of them changes once it is held. A
request that reads leaves the session as it is, so a run in which some of the reads are left out
answers the other requests in the same way and ends in the same state.
-/

namespace XdpSteering.QueueTable

variable {session : Session} {request : Request}

/-! ## One request -/

/-- Whether a request leaves the table and the held snapshots alone whatever they are. -/
def Request.isRead : Request → Bool
  | .get _ | .size | .isEmpty | .capacity | .snapshot | .held _ | .decide _ _ => true
  | .register _ _ | .unregister _ | .hold => false

theorem step_of_isRead (h : request.isRead) : (session.step request).2 = session := by
  cases request with
  | held number =>
    cases hheld : session.held[number]? <;> simp [Session.step, hheld]
  | register | unregister | hold => exact absurd h Bool.false_ne_true
  | _ => rfl

/-- A snapshot is held when that is asked for, and no request touches those held before. -/
theorem held_step (session : Session) (request : Request) :
    (session.step request).2.held
      = session.held ++ if request = .hold then [session.table.entries] else [] := by
  cases request with
  | register queue endpoint =>
    cases hregister : session.table.register queue endpoint with
    | error error => simp [step_of_register_error hregister]
    | ok result => simp [step_of_register_ok hregister]
  | unregister | hold => simp [Session.step]
  | _ =>
    rw [step_of_isRead (by rfl)]
    simp

/-! ## Held snapshots -/

theorem held_prefix_run (session : Session) (requests : List Request) :
    session.held <+: (session.run requests).2.held := by
  induction requests generalizing session with
  | nil => exact List.prefix_rfl
  | cons request rest ih =>
    have hstep : session.held <+: (session.step request).2.held := by
      rw [held_step]
      exact List.prefix_append _ _
    exact hstep.trans (ih _)

theorem length_held_run (session : Session) (requests : List Request) :
    (session.run requests).2.held.length = session.held.length + requests.count .hold := by
  induction requests generalizing session with
  | nil => rfl
  | cons request rest ih =>
    rw [run_cons, ih, held_step, List.length_append, List.count_cons]
    by_cases hhold : request = .hold
    · simp only [hhold, if_true, List.length_singleton, beq_self_eq_true]
      omega
    · simp [hhold]

/-- What was held is read back after any further requests. -/
theorem step_held_run_hold (session : Session) (requests : List Request) :
    ((session.run (.hold :: requests)).2.step (.held session.held.length)).1
      = .entries session.table.entries := by
  have htaken : (session.step .hold).2.held = session.held ++ [session.table.entries] := rfl
  obtain ⟨further, hfurther⟩ := held_prefix_run (session.step .hold).2 requests
  have hheld : (session.run (.hold :: requests)).2.held[session.held.length]?
      = some session.table.entries := by
    rw [run_cons, ← hfurther, htaken, List.append_assoc, List.getElem?_append_right le_rfl,
      Nat.sub_self]
    rfl
  simp [Session.step, hheld]

/-! ## Runs without some of their reads -/

def masked {α : Type} (mask : List Bool) (items : List α) : List α :=
  ((mask.zip items).filter Prod.fst).map Prod.snd

theorem masked_true {α : Type} (mask : List Bool) (item : α) (items : List α) :
    masked (true :: mask) (item :: items) = item :: masked mask items :=
  rfl

theorem masked_false {α : Type} (mask : List Bool) (item : α) (items : List α) :
    masked (false :: mask) (item :: items) = masked mask items :=
  rfl

/-- The mask has one mark for each request, and leaves out nothing but reads. -/
def OmitsReads : List Bool → List Request → Prop :=
  List.Forall₂ fun stays request => stays = false → request.isRead

/-- The run lemma: what is left of a run without some of its reads is answered as before. -/
theorem run_masked {mask : List Bool} {requests : List Request} (h : OmitsReads mask requests) :
    session.run (masked mask requests)
      = (masked mask (session.run requests).1, (session.run requests).2) := by
  induction h generalizing session with
  | nil => rfl
  | @cons stays request mask rest hread _ ih =>
    cases stays with
    | true => rw [masked_true, run_cons, run_cons, masked_true, ih]
    | false =>
      -- The others find the session that the read would have left to them.
      rw [masked_false, run_cons, masked_false, step_of_isRead (hread rfl), ih]

/-- A held snapshot is read back as the table was when it was taken, after whatever requests; and a
run without some of its reads gives the same answers to the other requests and ends with the same
table and the same held snapshots. -/
theorem snapshots_last_and_reads_leave_no_trace (capacity : UInt32) :
    (∀ before after : List Request,
      let taken := ((Session.start capacity).run before).2
      let later := (taken.run (.hold :: after)).2
      let number := before.count .hold
      (taken.step .hold).1 = .index number ∧
        (later.step (.held number)).1 = .entries taken.table.entries) ∧
    ∀ (mask : List Bool) (requests : List Request), OmitsReads mask requests →
      let whole := (Session.start capacity).run requests
      (Session.start capacity).run (masked mask requests) = (masked mask whole.1, whole.2) := by
  constructor
  · intro before after taken later number
    have hnumber : taken.held.length = number := by
      rw [length_held_run, Session.start, List.length_nil, Nat.zero_add]
    rw [← hnumber]
    exact ⟨rfl, step_held_run_hold taken after⟩
  · intro mask requests homits whole
    exact run_masked homits

/-- The reads between a registration, its replacement and its removal are left out, those of the two
held snapshots stay. -/
theorem snapshots_outlast_a_masked_run :
    let requests : List Request :=
      [.register 1 11, .hold, .get 1, .register 1 21, .size, .hold, .decide 1 4, .unregister 1,
        .snapshot, .held 0, .held 1]
    let mask := [true, true, false, true, false, true, false, true, false, true, true]
    OmitsReads mask requests ∧
      (Session.start 4).run (masked mask requests)
        = (masked mask ((Session.start 4).run requests).1, ((Session.start 4).run requests).2) := by
  have homits : OmitsReads
      [true, true, false, true, false, true, false, true, false, true, true]
      [.register 1 11, .hold, .get 1, .register 1 21, .size, .hold, .decide 1 4, .unregister 1,
        .snapshot, .held 0, .held 1] := by
    simp [OmitsReads, Request.isRead]
  exact ⟨homits, (snapshots_last_and_reads_leave_no_trace 4).2 _ _ homits⟩

end XdpSteering.QueueTable
