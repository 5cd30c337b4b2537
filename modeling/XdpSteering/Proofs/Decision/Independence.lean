import XdpSteering.KeyedList
import XdpSteering.Proofs.Decision

/-!
# What decisions depend on

Two runs over the same frames are compared. They are the same if the tables agree on the queues of
the frames, whatever else the tables hold. If the transports answer differently, the runs differ in
these answers only: what is done with a frame, and what the transport is asked for, is settled by
the table. The sink has no say at all.
-/

namespace XdpSteering

/-- What a run of decisions meets outside: a table, a transport whose answers may depend on what it
was asked for before, and a sink that makes of the records what it likes. -/
structure Surroundings where
  table : QueueIndex → Option Endpoint
  transport : List QueueIndex → QueueIndex → Verdict
  sink : List TraceRecord → TraceRecord → List TraceRecord

namespace Surroundings

def keepAll (records : List TraceRecord) (record : TraceRecord) : List TraceRecord :=
  records ++ [record]

def keepNone (records : List TraceRecord) (_ : TraceRecord) : List TraceRecord := records

def ports (around : Surroundings) : Ports (StateM Traffic) where
  lookup queue := fun traffic =>
    (around.table queue, { traffic with lookups := traffic.lookups ++ [queue] })
  redirect queue := fun traffic =>
    (around.transport traffic.redirects queue,
      { traffic with redirects := traffic.redirects ++ [queue] })
  emit record := fun traffic =>
    ((), { traffic with records := around.sink traffic.records record })

def observe (around : Surroundings) (frames : List QueueIndex) : List Decision × Traffic :=
  (around.ports.decideAll frames).run {}

end Surroundings

/-! ## Likeness -/

/-- Decisions that differ at most in what the transport answered for a diverted frame. -/
structure Decision.SameButVerdict (one other : Decision) : Prop where
  queue_eq : one.queue = other.queue
  action_eq : one.action = other.action
  eq_of_pass (h : one.action = .pass) : one = other

inductive TraceRecord.SameButStatus : TraceRecord → TraceRecord → Prop where
  | redirect (queue : QueueIndex) (status other : Verdict) (endpoint : Endpoint) :
      SameButStatus (.redirect queue status endpoint) (.redirect queue other endpoint)
  | pass (queue : QueueIndex) : SameButStatus (.pass queue) (.pass queue)

structure Traffic.SameRequests (one other : Traffic) : Prop where
  lookups_eq : one.lookups = other.lookups
  redirects_eq : one.redirects = other.redirects

structure Traffic.SameButStatus (one other : Traffic) : Prop
    extends Traffic.SameRequests one other where
  records : List.Forall₂ TraceRecord.SameButStatus one.records other.records

/-! ## One frame -/

variable {table : QueueIndex → Option Endpoint}
  {transport otherTransport : List QueueIndex → QueueIndex → Verdict}
  {sink otherSink : List TraceRecord → TraceRecord → List TraceRecord}
  {queue : QueueIndex} {endpoint : Endpoint} {before otherBefore : Traffic}

namespace Surroundings

theorem decide_of_match (h : table queue = some endpoint) :
    ((ports ⟨table, transport, sink⟩).decide queue).run before
      = let verdict := transport before.redirects queue
        (⟨queue, .redirect endpoint, verdict⟩,
          { lookups := before.lookups ++ [queue]
            redirects := before.redirects ++ [queue]
            records := sink before.records (.redirect queue verdict endpoint) }) := by
  unfold Ports.decide ports
  simp only [bind, StateT.bind, StateT.run, h]
  rfl

theorem decide_of_miss (h : table queue = none) :
    ((ports ⟨table, transport, sink⟩).decide queue).run before
      = (⟨queue, .pass, Verdict.pass⟩,
          { before with
            lookups := before.lookups ++ [queue]
            records := sink before.records (.pass queue) }) := by
  unfold Ports.decide ports
  simp only [bind, StateT.bind, StateT.run, h]
  rfl

/-- Only the entry of its own queue counts for a frame. -/
theorem decide_eq_of_table_eq {other : QueueIndex → Option Endpoint}
    (h : table queue = other queue) :
    ((ports ⟨table, transport, sink⟩).decide queue).run before
      = ((ports ⟨other, transport, sink⟩).decide queue).run before := by
  cases htable : table queue with
  | none => rw [decide_of_miss htable, decide_of_miss (h.symm.trans htable)]
  | some endpoint => rw [decide_of_match htable, decide_of_match (h.symm.trans htable)]

/-- The answers of the transport reach the verdict and the status of its own frame only. -/
theorem decide_sameButVerdict (h : before.SameButStatus otherBefore) :
    let one := ((ports ⟨table, transport, keepAll⟩).decide queue).run before
    let other := ((ports ⟨table, otherTransport, keepAll⟩).decide queue).run otherBefore
    one.1.SameButVerdict other.1 ∧ one.2.SameButStatus other.2 := by
  cases htable : table queue with
  | none =>
    rw [decide_of_miss htable, decide_of_miss htable]
    refine ⟨⟨rfl, rfl, fun _ => rfl⟩, ⟨?_, h.redirects_eq⟩, ?_⟩
    · rw [h.lookups_eq]
    · exact List.rel_append h.records (.cons (.pass queue) .nil)
  | some endpoint =>
    rw [decide_of_match htable, decide_of_match htable]
    refine ⟨⟨rfl, rfl, fun hpass => nomatch hpass⟩, ⟨?_, ?_⟩, ?_⟩
    · rw [h.lookups_eq]
    · rw [h.redirects_eq]
    · exact List.rel_append h.records (.cons (.redirect queue _ _ endpoint) .nil)

/-- What the sink does with the records reaches no decision and no request. -/
theorem decide_eq_of_sameRequests (h : before.SameRequests otherBefore) :
    let one := ((ports ⟨table, transport, sink⟩).decide queue).run before
    let other := ((ports ⟨table, transport, otherSink⟩).decide queue).run otherBefore
    one.1 = other.1 ∧ one.2.SameRequests other.2 := by
  cases htable : table queue with
  | none =>
    rw [decide_of_miss htable, decide_of_miss htable]
    refine ⟨rfl, ⟨?_, h.redirects_eq⟩⟩
    rw [h.lookups_eq]
  | some endpoint =>
    rw [decide_of_match htable, decide_of_match htable, h.redirects_eq]
    refine ⟨rfl, ⟨?_, rfl⟩⟩
    rw [h.lookups_eq]

end Surroundings

/-! ## Runs -/

/-- The run lemma: if every frame leads from like states to like decisions and like states, so does
the run. -/
theorem Ports.decideAll_related {σ τ : Type} {ports : Ports (StateM σ)} {others : Ports (StateM τ)}
    {like : Decision → Decision → Prop} {alike : σ → τ → Prop} {frames : List QueueIndex}
    (hstep : ∀ queue ∈ frames, ∀ (s : σ) (t : τ), alike s t →
      let one := (ports.decide queue).run s
      let other := (others.decide queue).run t
      like one.1 other.1 ∧ alike one.2 other.2)
    {s : σ} {t : τ} (h : alike s t) :
    let one := (ports.decideAll frames).run s
    let other := (others.decideAll frames).run t
    List.Forall₂ like one.1 other.1 ∧ alike one.2 other.2 := by
  induction frames generalizing s t with
  | nil => exact ⟨.nil, h⟩
  | cons queue rest ih =>
    obtain ⟨hfirst, hrest⟩ := List.forall_mem_cons.mp hstep
    obtain ⟨hlike, halike⟩ := hfirst s t h
    obtain ⟨hlikes, hlast⟩ := ih hrest halike
    rw [run_decideAll_cons, run_decideAll_cons]
    exact ⟨.cons hlike hlikes, hlast⟩

namespace Surroundings

theorem observe_eq_of_table_eq {other : QueueIndex → Option Endpoint} {frames : List QueueIndex}
    (h : ∀ queue ∈ frames, table queue = other queue) :
    observe ⟨table, transport, sink⟩ frames = observe ⟨other, transport, sink⟩ frames := by
  have hrun : List.Forall₂ Eq (observe ⟨table, transport, sink⟩ frames).1
        (observe ⟨other, transport, sink⟩ frames).1 ∧
      (observe ⟨table, transport, sink⟩ frames).2
        = (observe ⟨other, transport, sink⟩ frames).2 := by
    apply Ports.decideAll_related _ rfl
    intro queue hmem state _ hsame
    rw [← hsame, decide_eq_of_table_eq (h queue hmem)]
    exact ⟨rfl, rfl⟩
  rw [List.forall₂_eq_eq_eq] at hrun
  exact Prod.ext hrun.1 hrun.2

theorem observe_sameButVerdict (frames : List QueueIndex) :
    List.Forall₂ Decision.SameButVerdict (observe ⟨table, transport, keepAll⟩ frames).1
        (observe ⟨table, otherTransport, keepAll⟩ frames).1 ∧
      (observe ⟨table, transport, keepAll⟩ frames).2.SameButStatus
        (observe ⟨table, otherTransport, keepAll⟩ frames).2 :=
  Ports.decideAll_related (fun _ _ _ _ => decide_sameButVerdict) ⟨⟨rfl, rfl⟩, .nil⟩

theorem decisions_eq_of_sink (frames : List QueueIndex) :
    (observe ⟨table, transport, sink⟩ frames).1
      = (observe ⟨table, transport, otherSink⟩ frames).1 := by
  have hrun : List.Forall₂ Eq (observe ⟨table, transport, sink⟩ frames).1
        (observe ⟨table, transport, otherSink⟩ frames).1 ∧
      (observe ⟨table, transport, sink⟩ frames).2.SameRequests
        (observe ⟨table, transport, otherSink⟩ frames).2 :=
    Ports.decideAll_related (fun _ _ _ _ => decide_eq_of_sameRequests) ⟨rfl, rfl⟩
  rw [List.forall₂_eq_eq_eq] at hrun
  exact hrun.1

/-- Nothing of the table but the entries of the frames' queues reaches a run. What the transport
answers reaches verdicts and statuses of diverted frames, and nothing else. What the sink makes of
the records reaches no decision. -/
theorem decisions_leak_nothing (frames : List QueueIndex) :
    (∀ table other transport sink, (∀ queue ∈ frames, table queue = other queue) →
      observe ⟨table, transport, sink⟩ frames = observe ⟨other, transport, sink⟩ frames) ∧
    (∀ table transport otherTransport,
      let one := observe ⟨table, transport, keepAll⟩ frames
      let other := observe ⟨table, otherTransport, keepAll⟩ frames
      List.Forall₂ Decision.SameButVerdict one.1 other.1 ∧ one.2.SameButStatus other.2) ∧
    ∀ table transport sink,
      (observe ⟨table, transport, sink⟩ frames).1
        = (observe ⟨table, transport, keepNone⟩ frames).1 :=
  ⟨fun _ _ _ _ => observe_eq_of_table_eq, fun _ _ _ => observe_sameButVerdict frames,
    fun _ _ _ => decisions_eq_of_sink frames⟩

/-- Two tables that agree on two queues and not on a third, with a transport that turns every
request but the first one down. -/
theorem tables_beyond_the_frames_leak_nothing :
    let table : QueueIndex → Option Endpoint := fun queue => KeyedList.find? queue [(2, 7)]
    let other : QueueIndex → Option Endpoint := fun queue => KeyedList.find? queue [(2, 7), (9, 1)]
    let transport : List QueueIndex → QueueIndex → Verdict :=
      fun asked _ => if asked = [] then Verdict.redirect else Verdict.pass
    (∀ queue ∈ [2, 5, 2], table queue = other queue) ∧
      observe ⟨table, transport, keepAll⟩ [2, 5, 2]
        = observe ⟨other, transport, keepAll⟩ [2, 5, 2] := by
  intro table other transport
  have hagree : ∀ queue ∈ [2, 5, 2], table queue = other queue := by
    simp [table, other, KeyedList.find?]
  exact ⟨hagree, (decisions_leak_nothing [2, 5, 2]).1 table other transport keepAll hagree⟩

end Surroundings

end XdpSteering
