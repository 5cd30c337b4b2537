import XdpSteering.Decision
import XdpSteering.Proofs.Text.Numeral

/-!
# What a trace line tells

The line of a record has a fixed text in front of each number, and these texts start with no digit,
so the numbers are read off the line. A record leaves out only the verdict of a passed frame, and
that is always the same; so the line tells the whole decision.
-/

namespace XdpSteering

/-! ## Lines -/

namespace TraceRecord

open Text.Numeral

theorem toList_text_redirect (queue : QueueIndex) (status : Verdict) (endpoint : Endpoint) :
    (redirect queue status endpoint).text.toList
      = "XDP_REDIRECT queue=".toList ++ (Nat.toDigits 10 queue.toNat ++ ','
        :: (" ret=".toList ++ (Nat.toDigits 10 status.toNat ++ ','
          :: (" val=".toList ++ Nat.toDigits 10 endpoint.toNat)))) := by
  have htext : (redirect queue status endpoint).text
      = "XDP_REDIRECT queue=" ++ toString queue.toNat ++ ", ret=" ++ toString status.toNat
        ++ ", val=" ++ toString endpoint.toNat := rfl
  have hstatus : ", ret=".toList = ',' :: " ret=".toList := rfl
  have hendpoint : ", val=".toList = ',' :: " val=".toList := rfl
  simp only [htext, String.toList_append, Nat.toString_eq_repr, Nat.toList_repr, hstatus, hendpoint,
    List.append_assoc, List.cons_append]

theorem toList_text_pass (queue : QueueIndex) :
    (pass queue).text.toList
      = "XDP_PASS queue=".toList
        ++ (Nat.toDigits 10 queue.toNat ++ ' ' :: "val=NULL".toList) := by
  have htext : (pass queue).text = "XDP_PASS queue=" ++ toString queue.toNat ++ " val=NULL" := rfl
  have hend : " val=NULL".toList = ' ' :: "val=NULL".toList := rfl
  simp only [htext, String.toList_append, Nat.toString_eq_repr, Nat.toList_repr, hend,
    List.append_assoc]

theorem text_redirect_ne_text_pass (queue other : QueueIndex) (status : Verdict)
    (endpoint : Endpoint) : (redirect queue status endpoint).text ≠ (pass other).text := by
  intro h
  have hchars := congrArg String.toList h
  rw [toList_text_redirect, toList_text_pass] at hchars
  nomatch hchars

/-- A record is read off its line. -/
theorem text_injective : Function.Injective text := by
  have hcomma : ¬ ','.isDigit := by decide
  have hblank : ¬ ' '.isDigit := by decide
  intro record other h
  have hchars := congrArg String.toList h
  cases record with
  | redirect queue status endpoint =>
    cases other with
    | redirect queue' status' endpoint' =>
      rw [toList_text_redirect, toList_text_redirect] at hchars
      -- Each number ends where its comma stands, and the last one with the line.
      obtain ⟨hqueue, hrest⟩ := toDigits_append_cons_inj hcomma (List.append_cancel_left hchars)
      obtain ⟨hstatus, hrest⟩ := toDigits_append_cons_inj hcomma (List.append_cancel_left hrest)
      have hendpoint := toDigits_ten_injective (List.append_cancel_left hrest)
      rw [UInt32.toNat_inj.mp hqueue, UInt32.toNat_inj.mp hstatus, UInt32.toNat_inj.mp hendpoint]
    | pass queue' => exact absurd h (text_redirect_ne_text_pass queue queue' status endpoint)
  | pass queue =>
    cases other with
    | redirect queue' status' endpoint' =>
      exact absurd h.symm (text_redirect_ne_text_pass queue' queue status' endpoint')
    | pass queue' =>
      rw [toList_text_pass, toList_text_pass] at hchars
      obtain ⟨hqueue, -⟩ := toDigits_append_cons_inj hblank (List.append_cancel_left hchars)
      rw [UInt32.toNat_inj.mp hqueue]

end TraceRecord

/-! ## Decisions -/

/-- A passed frame has the one verdict that stands for that. -/
def Decision.KnownIfPassed (decision : Decision) : Prop :=
  decision.action = .pass → decision.verdict = Verdict.pass

/-- Whatever stands behind the ports, only the table's answer decides whether a frame is passed, and
then the verdict does not come from outside. -/
theorem Ports.decide_knownIfPassed {σ : Type} (ports : Ports (StateM σ)) (queue : QueueIndex)
    (state : σ) : ((ports.decide queue).run state).1.KnownIfPassed := by
  unfold Ports.decide
  rw [StateT.run_bind]
  rcases (ports.lookup queue).run state with ⟨found, asked⟩
  cases found with
  | none => exact fun _ => rfl
  | some endpoint => exact fun hpass => nomatch hpass

/-- The record leaves out nothing that is not known. -/
theorem Decision.KnownIfPassed.eq_of_traceRecord_eq {decision other : Decision}
    (h : decision.KnownIfPassed) (hother : other.KnownIfPassed)
    (hrecord : decision.traceRecord = other.traceRecord) : decision = other := by
  obtain ⟨queue, action, verdict⟩ := decision
  obtain ⟨queue', action', verdict'⟩ := other
  cases action with
  | redirect endpoint =>
    cases action' with
    | redirect endpoint' =>
      obtain ⟨rfl, rfl, rfl⟩ := TraceRecord.redirect.inj hrecord
      rfl
    | pass => nomatch hrecord
  | pass =>
    cases action' with
    | redirect endpoint' => nomatch hrecord
    | pass =>
      have hqueue : queue = queue' := TraceRecord.pass.inj hrecord
      have hverdict : verdict = verdict' := (h rfl).trans (hother rfl).symm
      rw [hqueue, hverdict]

/-- Passed frames with different verdicts would have one record. -/
example : (⟨5, .pass, Verdict.drop⟩ : Decision).traceRecord
    = (⟨5, .pass, Verdict.pass⟩ : Decision).traceRecord := by
  decide

/-- No two records have the same line, and the lines of two decisions, each made with any ports in
any state, are the same only if the decisions are. -/
theorem trace_line_tells_decision :
    Function.Injective TraceRecord.text ∧
      ∀ {σ τ : Type} (ports : Ports (StateM σ)) (others : Ports (StateM τ))
        (queue other : QueueIndex) (state : σ) (before : τ),
        let decision := ((ports.decide queue).run state).1
        let second := ((others.decide other).run before).1
        decision.traceRecord.text = second.traceRecord.text ↔ decision = second := by
  refine ⟨TraceRecord.text_injective, ?_⟩
  intro σ τ ports others queue other state before decision second
  have hdecision : decision.KnownIfPassed := ports.decide_knownIfPassed queue state
  have hsecond : second.KnownIfPassed := others.decide_knownIfPassed other before
  constructor
  · intro hline
    exact hdecision.eq_of_traceRecord_eq hsecond (TraceRecord.text_injective hline)
  · intro hsame
    rw [hsame]

end XdpSteering
