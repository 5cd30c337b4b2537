import XdpSteering.Proofs.QueueTable.Bound

/-!
# Changes in any order

A change gives a queue an endpoint or takes the queue out. Changes of different queues for which
there is room even if no removal comes first can be made in any order: each of them is told what its
queue had before all of them, and they lead to the same table.
-/

namespace XdpSteering.QueueTable

variable {capacity : UInt32} {session : Session} {table before after : QueueTable}

/-- What a queue is to have: an endpoint, or no entry. -/
structure Change where
  queue : QueueIndex
  endpoint : Option Endpoint
  deriving DecidableEq, Repr

namespace Change

def request (change : Change) : Request :=
  match change.endpoint with
  | some endpoint => .register change.queue endpoint
  | none => .unregister change.queue

def answer (change : Change) (table : QueueTable) : Answer :=
  match change.endpoint with
  | some _ => .registered (table.get? change.queue)
  | none => .unregistered (table.get? change.queue)

def addsTo (change : Change) (table : QueueTable) : Bool :=
  change.endpoint.isSome && (table.get? change.queue).isNone

theorem answer_ne_rejected (change : Change) (table : QueueTable) (error : TableError) :
    change.answer table ≠ .rejected error := by
  unfold answer
  cases change.endpoint <;> simp

theorem answer_eq_of_get?_eq {change : Change}
    (h : after.get? change.queue = before.get? change.queue) :
    change.answer after = change.answer before := by
  rw [answer, answer, h]

theorem addsTo_eq_of_get?_eq {change : Change}
    (h : after.get? change.queue = before.get? change.queue) :
    change.addsTo after = change.addsTo before := by
  rw [addsTo, addsTo, h]

end Change

/-! ## One change -/

/-- A table is another one with a change made, at the cost of one place if the queue is new. -/
structure Made (change : Change) (before after : QueueTable) : Prop where
  get?_eq (queue : QueueIndex) :
    after.get? queue = if queue = change.queue then change.endpoint else before.get? queue
  size_le : after.size ≤ before.size + if change.addsTo before then 1 else 0

namespace Made

variable {change : Change} {others : List Change}

/-- Changes of other queues find what was there before. -/
theorem get?_of_mem (h : Made change before after)
    (hnew : change.queue ∉ others.map Change.queue) :
    ∀ other ∈ others, after.get? other.queue = before.get? other.queue := by
  intro other hmem
  rw [h.get?_eq, if_neg]
  exact fun heq => hnew (List.mem_map.mpr ⟨other, hmem, heq⟩)

/-- What the change takes is what it was counted for, so the others keep the places they need. -/
theorem places_le (h : Made change before after)
    (hnew : change.queue ∉ others.map Change.queue) :
    after.size + others.countP (·.addsTo after)
      ≤ before.size + (change :: others).countP (·.addsTo before) := by
  have hothers : others.countP (·.addsTo after) = others.countP (·.addsTo before) :=
    List.countP_congr fun other hmem => by
      rw [Change.addsTo_eq_of_get?_eq (h.get?_of_mem hnew other hmem)]
  have hsize := h.size_le
  rw [hothers, List.countP_cons]
  omega

end Made

/-- The step lemma: a change that finds room is made. -/
theorem step_change (h : Bounded capacity session.table) (change : Change)
    (hroom : change.addsTo session.table → session.table.size < capacity.toNat) :
    ∃ next,
      session.step change.request
        = (change.answer session.table, { session with table := next }) ∧
      Bounded capacity next ∧ Made change session.table next := by
  obtain ⟨queue, endpoint⟩ := change
  cases endpoint with
  | none =>
    have hsize : (session.table.unregister queue).2.size ≤ session.table.size := size_unregister_le
    exact ⟨_, rfl, h.unregister queue, fun other => get?_unregister,
      hsize.trans (Nat.le_add_right _ _)⟩
  | some endpoint =>
    have hfits : session.table.get? queue = none →
        session.table.size < session.table.capacity.toNat := by
      intro habsent
      rw [h.capacity_eq]
      exact hroom (by simp [Change.addsTo, habsent])
    obtain ⟨next, hregister⟩ := exists_register_eq_ok hfits endpoint
    have hsize := size_of_register hregister h.ascending
    refine ⟨next, step_of_register_ok hregister, h.register hregister,
      fun other => get?_of_register hregister, ?_⟩
    cases hget : session.table.get? queue with
    | none => simp [Change.addsTo, hget, hsize]
    | some found => simp [Change.addsTo, hget, hsize]

/-! ## Changes of different queues -/

/-- A table has what the changes ask for, and elsewhere what another table has. -/
structure Applied (changes : List Change) (before after : QueueTable) : Prop where
  changed {change : Change} (h : change ∈ changes) : after.get? change.queue = change.endpoint
  unchanged {queue : QueueIndex} (h : queue ∉ changes.map Change.queue) :
    after.get? queue = before.get? queue

namespace Applied

variable {change : Change} {changes order : List Change} {other : QueueTable}

theorem cons (h : Applied changes other after) (hmade : Made change before other)
    (hnew : change.queue ∉ changes.map Change.queue) :
    Applied (change :: changes) before after where
  changed hmem := by
    rcases List.mem_cons.mp hmem with rfl | hmem
    · rw [h.unchanged hnew, hmade.get?_eq, if_pos rfl]
    · exact h.changed hmem
  unchanged hnot := by
    rw [List.map_cons, List.mem_cons, not_or] at hnot
    rw [h.unchanged hnot.2, hmade.get?_eq, if_neg hnot.1]

theorem perm (h : Applied order before after) (horder : order.Perm changes) :
    Applied changes before after where
  changed hmem := h.changed (horder.mem_iff.mpr hmem)
  unchanged hnot := h.unchanged fun hmem => hnot ((horder.map Change.queue).mem_iff.mp hmem)

/-- The changes leave no choice for what a look-up finds. -/
theorem get?_eq (h : Applied changes before after) (hother : Applied changes before other)
    (queue : QueueIndex) : after.get? queue = other.get? queue := by
  by_cases hqueue : queue ∈ changes.map Change.queue
  · obtain ⟨change, hmem, rfl⟩ := List.mem_map.mp hqueue
    rw [h.changed hmem, hother.changed hmem]
  · rw [h.unchanged hqueue, hother.unchanged hqueue]

end Applied

/-- The run lemma: changes of different queues that find room are all made, each of them as if it
were the first one. -/
theorem run_changes {changes : List Change} (h : Bounded capacity session.table)
    (hdistinct : (changes.map Change.queue).Nodup)
    (hroom : session.table.size + changes.countP (·.addsTo session.table) ≤ capacity.toNat) :
    ∃ last,
      session.run (changes.map Change.request)
        = (changes.map fun change => change.answer session.table, { session with table := last }) ∧
      Bounded capacity last ∧ Applied changes session.table last := by
  induction changes generalizing session with
  | nil => exact ⟨session.table, rfl, h, ⟨fun hmem => (nomatch hmem), fun _ => rfl⟩⟩
  | cons change rest ih =>
    obtain ⟨hnew, hrest⟩ := List.nodup_cons.mp hdistinct
    have hplace : change.addsTo session.table → session.table.size < capacity.toNat := by
      intro hadds
      rw [List.countP_cons, if_pos hadds] at hroom
      omega
    obtain ⟨next, hstep, hnext, hmade⟩ := step_change h change hplace
    obtain ⟨last, hrun, hlast, happlied⟩ :=
      @ih { session with table := next } hnext hrest ((hmade.places_le hnew).trans hroom)
    have hanswers : (rest.map fun other => other.answer next)
        = rest.map fun other => other.answer session.table :=
      List.map_congr_left fun other hmem =>
        Change.answer_eq_of_get?_eq (hmade.get?_of_mem hnew other hmem)
    refine ⟨last, ?_, hlast, happlied.cons hmade hnew⟩
    rw [List.map_cons, run_cons, hstep, hrun, hanswers, List.map_cons]

/-- From every table that a run leads to, changes of different queues whose new queues all find room
have the same outcome in every order: the last state is the same, and each change is answered as the
table before all of them says, which is no refusal. -/
theorem changes_agree_in_every_order (capacity : UInt32) (requests : List Request)
    (changes : List Change) :
    let session := ((Session.start capacity).run requests).2
    (changes.map Change.queue).Nodup →
    session.table.size + changes.countP (·.addsTo session.table) ≤ capacity.toNat →
    ∃ last : Session,
      Applied changes session.table last.table ∧
        ∀ order : List Change, order.Perm changes →
          let outcome := session.run (order.map Change.request)
          outcome = (order.map fun change => change.answer session.table, last) ∧
            ∀ answer ∈ outcome.1, ∀ error, answer ≠ .rejected error := by
  intro session hdistinct hroom
  have hbounded : Bounded capacity session.table := (Bounded.empty capacity).run requests
  obtain ⟨last, -, hlast, happlied⟩ := run_changes hbounded hdistinct hroom
  refine ⟨{ session with table := last }, happlied, ?_⟩
  intro order horder outcome
  have hqueues : (order.map Change.queue).Nodup :=
    (horder.map Change.queue).nodup_iff.mpr hdistinct
  have hplaces : session.table.size + order.countP (·.addsTo session.table) ≤ capacity.toNat := by
    rw [horder.countP_eq]
    exact hroom
  obtain ⟨reached, hrun, hreached, hsettled⟩ := run_changes hbounded hqueues hplaces
  have hsame : reached = last :=
    eq_of_get?_eq (hreached.capacity_eq.trans hlast.capacity_eq.symm) hreached.ascending
      hlast.ascending ((hsettled.perm horder).get?_eq happlied)
  have houtcome : outcome = (order.map fun change => change.answer session.table,
      { session with table := last }) := by
    rw [← hsame]
    exact hrun
  refine ⟨houtcome, fun answer hanswer error => ?_⟩
  rw [houtcome] at hanswer
  obtain ⟨change, -, rfl⟩ := List.mem_map.mp hanswer
  exact change.answer_ne_rejected session.table error

/-- A new queue that takes the last place, a queue that leaves and a queue whose endpoint is
replaced. -/
theorem three_changes_agree_in_every_order :
    let session := ((Session.start 3).run [.register 1 11, .register 2 12]).2
    let changes : List Change := [⟨3, some 13⟩, ⟨2, none⟩, ⟨1, some 21⟩]
    ((changes.map Change.queue).Nodup ∧
      session.table.size + changes.countP (·.addsTo session.table) ≤ (3 : UInt32).toNat) ∧
    ∃ last : Session,
      Applied changes session.table last.table ∧
        ∀ order : List Change, order.Perm changes →
          let outcome := session.run (order.map Change.request)
          outcome = (order.map fun change => change.answer session.table, last) ∧
            ∀ answer ∈ outcome.1, ∀ error, answer ≠ .rejected error :=
  ⟨by decide, changes_agree_in_every_order 3 [.register 1 11, .register 2 12] _ (by decide)
    (by decide)⟩

/-- Where a new queue needs the place of one that leaves, the order decides. -/
example :
    let full : Session := ((Session.start 1).run [.register 1 11]).2
    (full.run [.register 2 12, .unregister 1]).1
        = [.rejected (.capacityExceeded 2 1), .unregistered (some 11)] ∧
      (full.run [.unregister 1, .register 2 12]).1
        = [.unregistered (some 11), .registered none] := by
  decide

end XdpSteering.QueueTable
