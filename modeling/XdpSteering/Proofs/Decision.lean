import Mathlib.Data.List.Forall2
import XdpSteering.Decision

/-!
# What a run of decisions does

The decision on a frame is fixed by what the table and the transport say about its queue, and so is
what it does to the outside: one lookup, one record, and one request to the transport if the lookup
matched. A run does this frame by frame.
-/

namespace XdpSteering

/-- The decision on a frame of a queue that a table and a transport ask for. -/
structure Decision.Follows (table : QueueIndex → Option Endpoint)
    (transport : QueueIndex → Verdict) (queue : QueueIndex) (decision : Decision) : Prop where
  queue_eq : decision.queue = queue
  /-- A match stays a redirect whatever the transport answers. -/
  of_match {endpoint : Endpoint} (h : table queue = some endpoint) :
    decision.action = .redirect endpoint ∧ decision.verdict = transport queue
  of_miss (h : table queue = none) :
    decision.action = .pass ∧ decision.verdict = Verdict.pass

theorem Decision.Follows.endpoint_eq {table : QueueIndex → Option Endpoint}
    {transport : QueueIndex → Verdict} {queue : QueueIndex} {decision : Decision}
    (h : decision.Follows table transport queue) : decision.endpoint = table queue := by
  unfold Decision.endpoint
  cases htable : table queue with
  | none => rw [(h.of_miss htable).1]
  | some endpoint => rw [(h.of_match htable).1]

namespace Ports

variable (table : QueueIndex → Option Endpoint) (transport : QueueIndex → Verdict)

/-- The first frame of a run is decided, and the others are decided in the state that it leaves. -/
theorem run_decideAll_cons {σ : Type} (ports : Ports (StateM σ)) (queue : QueueIndex)
    (rest : List QueueIndex) (state : σ) :
    (ports.decideAll (queue :: rest)).run state
      = (((ports.decide queue).run state).1
            :: ((ports.decideAll rest).run ((ports.decide queue).run state).2).1,
          ((ports.decideAll rest).run ((ports.decide queue).run state).2).2) := by
  unfold decideAll
  rw [List.mapM_cons, StateT.run_bind]
  rfl

def decisionOn (queue : QueueIndex) : Decision :=
  match table queue with
  | some endpoint => ⟨queue, .redirect endpoint, transport queue⟩
  | none => ⟨queue, .pass, Verdict.pass⟩

theorem decisionOn_follows (queue : QueueIndex) :
    (decisionOn table transport queue).Follows table transport queue := by
  unfold decisionOn
  cases htable : table queue with
  | none => exact ⟨rfl, by simp [htable], fun _ => ⟨rfl, rfl⟩⟩
  | some endpoint => exact ⟨rfl, fun h => by simpa [htable] using h, by simp [htable]⟩

/-- What the decisions on frames add to the traffic before them. -/
def trafficAfter (before : Traffic) (frames : List QueueIndex) : Traffic where
  lookups := before.lookups ++ frames
  redirects := before.redirects ++ frames.filter fun queue => (table queue).isSome
  records := before.records ++ (frames.map (decisionOn table transport)).map Decision.traceRecord

theorem decide_recording (queue : QueueIndex) (before : Traffic) :
    ((recording table transport).decide queue).run before
      = (decisionOn table transport queue, trafficAfter table transport before [queue]) := by
  unfold decisionOn trafficAfter decide recording
  cases htable : table queue with
  | none =>
    simp only [bind, StateT.bind, StateT.run, htable, List.filter_cons, Option.isSome_none,
      Bool.false_eq_true, if_false, List.filter_nil, List.append_nil, List.map_cons, List.map_nil,
      decisionOn]
    rfl
  | some endpoint =>
    simp only [bind, StateT.bind, StateT.run, htable, List.filter_cons, Option.isSome_some,
      if_true, List.filter_nil, List.map_cons, List.map_nil, decisionOn]
    rfl

theorem trafficAfter_trafficAfter (before : Traffic) (frames others : List QueueIndex) :
    trafficAfter table transport (trafficAfter table transport before frames) others
      = trafficAfter table transport before (frames ++ others) := by
  simp [trafficAfter]

theorem decideAll_recording (frames : List QueueIndex) (before : Traffic) :
    ((recording table transport).decideAll frames).run before
      = (frames.map (decisionOn table transport), trafficAfter table transport before frames) := by
  induction frames generalizing before with
  | nil =>
    simp only [decideAll, List.mapM_nil, StateT.run_pure, trafficAfter, List.filter_nil,
      List.map_nil, List.append_nil]
    rfl
  | cons queue rest ih =>
    have hafter := trafficAfter_trafficAfter table transport before [queue] rest
    rw [run_decideAll_cons, decide_recording, ih, hafter]
    rfl

/-- The account of a run, from whatever traffic was before it. -/
theorem run_accounts_for_every_frame (frames : List QueueIndex) (before : Traffic) :
    ∃ decisions after,
      ((recording table transport).decideAll frames).run before = (decisions, after) ∧
        List.Forall₂ (Decision.Follows table transport) frames decisions ∧
        after.lookups = before.lookups ++ frames ∧
        after.records = before.records ++ decisions.map Decision.traceRecord ∧
        after.redirects = before.redirects ++ frames.filter fun queue => (table queue).isSome := by
  refine ⟨_, _, decideAll_recording table transport frames before, ?_, rfl, rfl, rfl⟩
  rw [List.forall₂_map_right_iff, List.forall₂_same]
  exact fun queue _ => decisionOn_follows table transport queue

end Ports

end XdpSteering
