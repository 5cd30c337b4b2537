import XdpSteering.Proofs.Decision
import XdpSteering.Proofs.QueueTable.Changes
import XdpSteering.QueueTable.Session

/-!
# Answers and the history behind them

A history is what was asked of a table and what it answered. It says by itself which endpoint a
queue has: the one of the last accepted registration, unless the queue was removed since. Every
answer of a session is one that the history before it allows.
-/

namespace XdpSteering.QueueTable

abbrev Exchange := Request × Answer

/-- Requests and their answers, oldest first. -/
abbrev History := List Exchange

namespace History

/-! ## What a history says -/

/-- An exchange changes what a queue has: it is an accepted registration or a removal of it. -/
inductive Touches (queue : QueueIndex) : Exchange → Prop where
  | registered (endpoint : Endpoint) (previous : Option Endpoint) :
      Touches queue (.register queue endpoint, .registered previous)
  | unregistered (answer : Answer) : Touches queue (.unregister queue, answer)

/-- The last accepted registration of the queue stored the endpoint, and the queue was not removed
afterwards. -/
def Registered (history : History) (queue : QueueIndex) (endpoint : Endpoint) : Prop :=
  ∃ earlier previous later,
    history = earlier ++ (.register queue endpoint, .registered previous) :: later ∧
      ∀ exchange ∈ later, ¬ Touches queue exchange

def Found (history : History) (queue : QueueIndex) (found : Option Endpoint) : Prop :=
  ∀ endpoint, found = some endpoint ↔ Registered history queue endpoint

/-- The entries are those of the registered queues, in ascending order and each queue once. -/
structure Lists (history : History) (content : KeyedList QueueIndex Endpoint) : Prop where
  ascending : content.Ascending
  mem_iff (queue : QueueIndex) (endpoint : Endpoint) :
    (queue, endpoint) ∈ content ↔ Registered history queue endpoint

/-- The number of the registered queues. -/
noncomputable def registeredCount (history : History) : Nat :=
  {queue | ∃ endpoint, Registered history queue endpoint}.ncard

def holdCount (history : History) : Nat := history.countP fun exchange => exchange.1 = .hold

inductive Allows (capacity : UInt32) (history : History) : Request → Answer → Prop where
  | registered {queue : QueueIndex} {endpoint : Endpoint} {previous : Option Endpoint}
      (found : Found history queue previous)
      (room : previous = none → registeredCount history < capacity.toNat) :
      Allows capacity history (.register queue endpoint) (.registered previous)
  | rejected {queue : QueueIndex} {endpoint : Endpoint}
      (absent : Found history queue none)
      (full : capacity.toNat ≤ registeredCount history) :
      Allows capacity history (.register queue endpoint)
        (.rejected (.capacityExceeded queue capacity))
  | unregistered {queue : QueueIndex} {removed : Option Endpoint}
      (found : Found history queue removed) :
      Allows capacity history (.unregister queue) (.unregistered removed)
  | endpoint {queue : QueueIndex} {answer : Option Endpoint} (found : Found history queue answer) :
      Allows capacity history (.get queue) (.endpoint answer)
  | count : Allows capacity history .size (.count (registeredCount history))
  | flag {value : Bool} (empty : value = true ↔ registeredCount history = 0) :
      Allows capacity history .isEmpty (.flag value)
  | bound : Allows capacity history .capacity (.bound capacity)
  | entries {content : KeyedList QueueIndex Endpoint} (lists : Lists history content) :
      Allows capacity history .snapshot (.entries content)
  | index : Allows capacity history .hold (.index (holdCount history))
  | held {number : Nat} {content : KeyedList QueueIndex Endpoint} {earlier later : History}
      (taken : history = earlier ++ (.hold, .index number) :: later)
      (lists : Lists earlier content) :
      Allows capacity history (.held number) (.entries content)
  | notHeld {number : Nat} (missing : holdCount history ≤ number) :
      Allows capacity history (.held number) .notHeld
  | decided {queue : QueueIndex} {status : Verdict} {decision : Decision}
      {records : List TraceRecord} (same : decision.queue = queue)
      (found : Found history queue decision.endpoint) :
      Allows capacity history (.decide queue status) (.decided decision records)

/-! ## One exchange more -/

theorem not_registered_nil {queue : QueueIndex} {endpoint : Endpoint} :
    ¬ Registered [] queue endpoint := by
  rintro ⟨earlier, previous, later, h, -⟩
  simp at h

theorem registered_concat_iff {history : History} {exchange : Exchange} {queue : QueueIndex}
    {endpoint : Endpoint} :
    Registered (history ++ [exchange]) queue endpoint ↔
      (∃ previous, exchange = (.register queue endpoint, .registered previous)) ∨
        (Registered history queue endpoint ∧ ¬ Touches queue exchange) := by
  constructor
  · rintro ⟨earlier, previous, later, h, hlater⟩
    rcases List.eq_nil_or_concat later with rfl | ⟨middle, last, rfl⟩
    · obtain ⟨-, hlast⟩ := List.append_inj' h rfl
      exact .inl ⟨previous, List.singleton_inj.mp hlast⟩
    · have hsplit : history ++ [exchange]
          = (earlier ++ (.register queue endpoint, .registered previous) :: middle) ++ [last] := by
        simpa using h
      obtain ⟨hinit, hlast⟩ := List.append_inj' hsplit rfl
      obtain rfl := List.singleton_inj.mp hlast
      refine .inr ⟨⟨earlier, previous, middle, hinit, fun x hx => ?_⟩, ?_⟩
      · exact hlater x (by simp [hx])
      · exact hlater exchange (by simp)
  · rintro (⟨previous, rfl⟩ | ⟨⟨earlier, previous, later, rfl, hlater⟩, hexchange⟩)
    · exact ⟨history, previous, [], rfl, by simp⟩
    · refine ⟨earlier, previous, later ++ [exchange], by simp, fun x hx => ?_⟩
      rcases List.mem_append.mp hx with hx | hx
      · exact hlater x hx
      · rw [List.mem_singleton.mp hx]
        exact hexchange

/-- An exchange that touches no queue leaves what is registered. -/
theorem registered_concat_of_not_touches {history : History} {exchange : Exchange}
    (h : ∀ queue, ¬ Touches queue exchange) (queue : QueueIndex) (endpoint : Endpoint) :
    Registered (history ++ [exchange]) queue endpoint ↔ Registered history queue endpoint := by
  rw [registered_concat_iff]
  constructor
  · rintro (⟨previous, rfl⟩ | ⟨hregistered, -⟩)
    · exact absurd (.registered endpoint previous) (h queue)
    · exact hregistered
  · exact fun hregistered => .inr ⟨hregistered, h queue⟩

theorem registered_concat_register {history : History} {queue other : QueueIndex}
    {endpoint found : Endpoint} {previous : Option Endpoint} :
    Registered (history ++ [(.register queue endpoint, .registered previous)]) other found ↔
      if other = queue then found = endpoint else Registered history other found := by
  rw [registered_concat_iff]
  split
  · next heq =>
    subst heq
    constructor
    · rintro (⟨p, hp⟩ | ⟨-, hnot⟩)
      · injection hp with hrequest
        injection hrequest with _ hendpoint
        exact hendpoint.symm
      · exact absurd (.registered endpoint previous) hnot
    · rintro rfl
      exact .inl ⟨previous, rfl⟩
  · next hne =>
    constructor
    · rintro (⟨p, hp⟩ | ⟨hregistered, -⟩)
      · injection hp with hrequest
        injection hrequest with hqueue
        exact absurd hqueue.symm hne
      · exact hregistered
    · intro hregistered
      refine .inr ⟨hregistered, fun htouches => ?_⟩
      cases htouches
      exact hne rfl

theorem registered_concat_unregister {history : History} {queue other : QueueIndex}
    {found : Endpoint} {answer : Answer} :
    Registered (history ++ [(.unregister queue, answer)]) other found ↔
      other ≠ queue ∧ Registered history other found := by
  rw [registered_concat_iff]
  constructor
  · rintro (⟨p, hp⟩ | ⟨hregistered, hnot⟩)
    · injection hp with hrequest
      nomatch hrequest
    · refine ⟨fun heq => hnot ?_, hregistered⟩
      rw [heq]
      exact .unregistered answer
  · rintro ⟨hne, hregistered⟩
    refine .inr ⟨hregistered, fun htouches => ?_⟩
    cases htouches
    exact hne rfl

/-! ## Sessions and their histories -/

structure Recalls (capacity : UInt32) (history : History) (session : Session) : Prop where
  capacity_eq : session.table.capacity = capacity
  lists : Lists history session.table.entries
  held_length : session.held.length = holdCount history
  held {number : Nat} {content : KeyedList QueueIndex Endpoint}
    (h : session.held[number]? = some content) :
    ∃ earlier later, history = earlier ++ (.hold, .index number) :: later ∧ Lists earlier content

namespace Recalls

variable {capacity : UInt32} {history : History} {session : Session}

theorem found (h : Recalls capacity history session) (queue : QueueIndex) :
    Found history queue (session.table.get? queue) := by
  intro endpoint
  rw [get?_eq_some_iff_mem h.lists.ascending, h.lists.mem_iff]

theorem size_eq (h : Recalls capacity history session) :
    session.table.size = registeredCount history := by
  rw [size_eq_ncard h.lists.ascending, registeredCount]
  congr 1
  ext queue
  exact exists_congr fun endpoint => h.found queue endpoint

theorem start : Recalls capacity [] (Session.start capacity) where
  capacity_eq := rfl
  lists := ⟨List.Pairwise.nil, fun _ _ => by
    simp [Session.start, QueueTable.empty, not_registered_nil]⟩
  held_length := rfl
  held h := by simp [Session.start] at h

/-- A request after which the table is what the longer history describes. -/
theorem concat {exchange : Exchange} {table : QueueTable} (h : Recalls capacity history session)
    (hcapacity : table.capacity = capacity)
    (hlists : Lists (history ++ [exchange]) table.entries) (hhold : exchange.1 ≠ .hold) :
    Recalls capacity (history ++ [exchange]) { session with table } where
  capacity_eq := hcapacity
  lists := hlists
  held_length := by
    rw [h.held_length]
    simp [holdCount, hhold]
  held hget := by
    obtain ⟨earlier, later, rfl, hearlier⟩ := h.held hget
    exact ⟨earlier, later ++ [exchange], by simp, hearlier⟩

/-- What is listed stays the same after an exchange that touches no queue. -/
theorem lists_concat {exchange : Exchange} (h : Recalls capacity history session)
    (hread : ∀ queue, ¬ Touches queue exchange) :
    Lists (history ++ [exchange]) session.table.entries where
  ascending := h.lists.ascending
  mem_iff queue endpoint := by
    rw [h.lists.mem_iff, registered_concat_of_not_touches hread]

/-- A request that only reads leaves the session as it is. -/
theorem concat_of_read {exchange : Exchange} (h : Recalls capacity history session)
    (hread : ∀ queue, ¬ Touches queue exchange) (hhold : exchange.1 ≠ .hold) :
    Recalls capacity (history ++ [exchange]) session :=
  h.concat h.capacity_eq (h.lists_concat hread) hhold

theorem concat_hold (h : Recalls capacity history session) :
    Recalls capacity (history ++ [(.hold, .index session.held.length)])
      { session with held := session.held ++ [session.table.entries] } where
  capacity_eq := h.capacity_eq
  lists := h.lists_concat fun queue htouches => nomatch htouches
  held_length := by
    rw [List.length_append, h.held_length]
    simp [holdCount]
  held {number content} hget := by
    rw [List.getElem?_append] at hget
    split at hget
    · obtain ⟨earlier, later, heq, hlists⟩ := h.held hget
      exact ⟨earlier, later ++ [(.hold, .index session.held.length)], by simp [heq], hlists⟩
    · rw [List.getElem?_singleton] at hget
      split at hget
      · next hlt hzero =>
        have hnumber : number = session.held.length := by omega
        have hcontent : session.table.entries = content := by simpa using hget
        exact ⟨history, [], by rw [hnumber], hcontent ▸ h.lists⟩
      · simp at hget

end Recalls

/-! ## One request -/

variable {capacity : UInt32} {history : History} {session : Session}

/-- A request is answered as the history allows, and the session goes on as the longer history
describes it. -/
def Continues (capacity : UInt32) (history : History) (request : Request)
    (outcome : Answer × Session) : Prop :=
  Allows capacity history request outcome.1 ∧
    Recalls capacity (history ++ [(request, outcome.1)]) outcome.2

theorem continues_of_read {request : Request} {answer : Answer}
    (h : Recalls capacity history session) (hallows : Allows capacity history request answer)
    (hread : ∀ queue, ¬ Touches queue (request, answer)) (hhold : request ≠ .hold) :
    Continues capacity history request (answer, session) :=
  ⟨hallows, h.concat_of_read hread hhold⟩

theorem step_register (h : Recalls capacity history session) (queue : QueueIndex)
    (endpoint : Endpoint) :
    Continues capacity history (.register queue endpoint)
      (session.step (.register queue endpoint)) := by
  cases hregister : session.table.register queue endpoint with
  | error error =>
    have hstep : session.step (.register queue endpoint) = (.rejected error, session) := by
      simp [Session.step, hregister]
    obtain ⟨habsent, hfull, rfl⟩ := register_eq_error_iff.mp hregister
    rw [hstep, h.capacity_eq]
    rw [h.size_eq, h.capacity_eq] at hfull
    refine continues_of_read h (.rejected ?_ hfull) (fun _ htouches => nomatch htouches) (by simp)
    rw [← habsent]
    exact h.found queue
  | ok result =>
    obtain ⟨previous, table⟩ := result
    have hstep : session.step (.register queue endpoint)
        = (.registered previous, { session with table }) := by
      simp [Session.step, hregister]
    obtain ⟨hroom, hprevious, -⟩ := register_eq_ok_iff.mp hregister
    rw [hstep]
    refine ⟨.registered ?_ fun hnone => ?_, h.concat ?_ ⟨?_, fun other found => ?_⟩ (by simp)⟩
    · rw [hprevious]
      exact h.found queue
    · rw [← h.size_eq, ← h.capacity_eq]
      exact hroom (hprevious ▸ hnone)
    · rw [capacity_of_register hregister, h.capacity_eq]
    · exact ascending_of_register hregister h.lists.ascending
    · rw [← get?_eq_some_iff_mem (ascending_of_register hregister h.lists.ascending),
        get?_of_register hregister, registered_concat_register]
      split
      · simp [eq_comm]
      · exact h.found other found

theorem step_unregister (h : Recalls capacity history session) (queue : QueueIndex) :
    Continues capacity history (.unregister queue) (session.step (.unregister queue)) := by
  have hstep : session.step (.unregister queue)
      = (.unregistered (session.table.get? queue),
        { session with table := (session.table.unregister queue).2 }) := rfl
  rw [hstep]
  refine ⟨.unregistered (h.found queue), h.concat h.capacity_eq ?_ (by simp)⟩
  refine ⟨ascending_unregister h.lists.ascending, fun other found => ?_⟩
  rw [← get?_eq_some_iff_mem (ascending_unregister h.lists.ascending), get?_unregister,
    registered_concat_unregister]
  split
  · next heq => simp [heq]
  · next hne => simpa [hne] using h.found other found

theorem step_held (h : Recalls capacity history session) (number : Nat) :
    Continues capacity history (.held number) (session.step (.held number)) := by
  cases hheld : session.held[number]? with
  | none =>
    have hstep : session.step (.held number) = (.notHeld, session) := by
      simp [Session.step, hheld]
    have hle := List.getElem?_eq_none_iff.mp hheld
    rw [h.held_length] at hle
    rw [hstep]
    exact continues_of_read h (.notHeld hle) (fun _ htouches => nomatch htouches) (by simp)
  | some content =>
    have hstep : session.step (.held number) = (.entries content, session) := by
      simp [Session.step, hheld]
    obtain ⟨earlier, later, htaken, hlists⟩ := h.held hheld
    rw [hstep]
    exact continues_of_read h (.held htaken hlists) (fun _ htouches => nomatch htouches) (by simp)

theorem step_decide (h : Recalls capacity history session) (queue : QueueIndex)
    (status : Verdict) :
    Continues capacity history (.decide queue status) (session.step (.decide queue status)) := by
  have hdecide := Ports.decide_recording session.table.get? (fun _ => status) queue {}
  have hfollows := Ports.decisionOn_follows session.table.get? (fun _ => status) queue
  simp only [Session.step, hdecide]
  refine continues_of_read h (.decided hfollows.queue_eq ?_) (fun _ htouches => nomatch htouches)
    (by simp)
  rw [hfollows.endpoint_eq]
  exact h.found queue

/-- The step lemma: a request keeps session and history in agreement. -/
theorem step_continues (h : Recalls capacity history session) (request : Request) :
    Continues capacity history request (session.step request) := by
  cases request with
  | register queue endpoint => exact step_register h queue endpoint
  | unregister queue => exact step_unregister h queue
  | get queue =>
    exact continues_of_read h (.endpoint (h.found queue)) (fun _ htouches => nomatch htouches)
      (by simp)
  | size =>
    have hcount : Allows capacity history .size (.count session.table.size) := by
      rw [h.size_eq]
      exact .count
    exact continues_of_read h hcount (fun _ htouches => nomatch htouches) (by simp)
  | isEmpty =>
    have hempty : session.table.isEmpty = true ↔ registeredCount history = 0 := by
      rw [← h.size_eq, QueueTable.isEmpty, QueueTable.size, List.isEmpty_iff,
        List.length_eq_zero_iff]
    exact continues_of_read h (.flag hempty) (fun _ htouches => nomatch htouches) (by simp)
  | capacity =>
    have hbound : Allows capacity history .capacity (.bound session.table.capacity) := by
      rw [h.capacity_eq]
      exact .bound
    exact continues_of_read h hbound (fun _ htouches => nomatch htouches) (by simp)
  | snapshot =>
    exact continues_of_read h (.entries h.lists) (fun _ htouches => nomatch htouches) (by simp)
  | hold =>
    refine ⟨?_, h.concat_hold⟩
    simp only [Session.step, h.held_length]
    exact .index
  | held number => exact step_held h number
  | decide queue status => exact step_decide h queue status

/-! ## Runs -/

theorem length_run (session : Session) (requests : List Request) :
    (session.run requests).1.length = requests.length := by
  induction requests generalizing session with
  | nil => rfl
  | cons request rest ih => simp [Session.run, ih]

/-- Every answer of a run is allowed by what came before the run and by the run up to it. -/
theorem run_allows (requests : List Request) (h : Recalls capacity history session) :
    ∀ earlier request answer later,
      requests.zip (session.run requests).1 = earlier ++ (request, answer) :: later →
        Allows capacity (history ++ earlier) request answer := by
  induction requests generalizing history session with
  | nil =>
    intro earlier request answer later hzip
    simp at hzip
  | cons first rest ih =>
    intro earlier request answer later hzip
    obtain ⟨hallows, hrecalls⟩ := step_continues h first
    have hrun : (first :: rest).zip (session.run (first :: rest)).1
        = (first, (session.step first).1) :: rest.zip ((session.step first).2.run rest).1 := rfl
    rw [hrun] at hzip
    cases earlier with
    | nil =>
      rw [List.nil_append] at hzip
      obtain ⟨hexchange, -⟩ := List.cons.inj hzip
      obtain ⟨rfl, rfl⟩ := Prod.mk.inj hexchange
      rw [List.append_nil]
      exact hallows
    | cons head middle =>
      rw [List.cons_append] at hzip
      obtain ⟨rfl, hrest⟩ := List.cons.inj hzip
      rw [List.append_cons]
      exact ih hrecalls middle request answer later hrest

/-- A session that starts with an empty table answers every request, and each answer is the one that
the requests and answers before it allow. -/
theorem answers_agree_with_history (capacity : UInt32) (requests : List Request) :
    ((Session.start capacity).run requests).1.length = requests.length ∧
      ∀ earlier request answer later,
        requests.zip ((Session.start capacity).run requests).1
            = earlier ++ (request, answer) :: later →
          Allows capacity earlier request answer :=
  ⟨length_run _ requests, run_allows requests Recalls.start⟩

end History

end XdpSteering.QueueTable
