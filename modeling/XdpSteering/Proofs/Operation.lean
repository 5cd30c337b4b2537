import Mathlib.Tactic.Common
import XdpSteering.Operation

/-!
# What operations do

An operation comes to a result and leaves a world behind, whether it fails or not. The equations
here run the single steps; the laws for files are kept by any sequence of steps.
-/

namespace XdpSteering

def World.wrote (world : World) (pieces : List Output) : World :=
  { world with output := world.output ++ pieces }

@[simp] theorem World.files_wrote (world : World) (pieces : List Output) :
    (world.wrote pieces).files = world.files := rfl

theorem World.wrote_wrote (world : World) (first second : List Output) :
    (world.wrote first).wrote second = world.wrote (first ++ second) := by
  rw [wrote, wrote, wrote, List.append_assoc]

theorem World.wrote_nil (world : World) : world.wrote [] = world := by
  rw [wrote, List.append_nil]

namespace Capability

/-- A process is known to lack a capability that nothing stands in for. -/
def Lacks (status : Except SteerError String) (capability : Capability) : Prop :=
  ∃ mask, heldMask status = .ok mask ∧ capability.isIn mask = false ∧
    capability.hasFallback = false

theorem inspect_iff (status : Except SteerError String) (capability : Capability) :
    (capability.inspect (heldMask status)).1 = true ↔ Lacks status capability := by
  unfold inspect Lacks
  cases heldMask status with
  | error error => simp
  | ok mask =>
    by_cases hheld : capability.isIn mask = true
    · simp [hheld]
    by_cases hfallback : capability.hasFallback = true
    · simp [hheld, hfallback]
    · simp [hheld, hfallback]

instance (status : Except SteerError String) : DecidablePred (Lacks status) := fun capability =>
  decidable_of_iff _ (inspect_iff status capability)

def lacking (status : Except SteerError String) (required : List Capability) : List Capability :=
  required.filter fun capability => Lacks status capability

def reports (status : Except SteerError String) (required : List Capability) : List Output :=
  (check status required).1.map .event

theorem check_result (status : Except SteerError String) (required : List Capability) :
    (check status required).2 =
      if lacking status required = [] then .ok ()
      else .error (.internal (missingMessage (lacking status required))) := by
  have hmissing : (required.filter fun capability => (capability.inspect (heldMask status)).1)
      = lacking status required := by
    refine List.filter_congr fun capability _ => ?_
    simp [← inspect_iff]
  simp only [check, hmissing, List.isEmpty_iff]

end Capability

namespace Operation

variable {A B : Type} {operation : Operation A} {next : A → Operation B} {world after : World}
  {value : A} {error : SteerError}

/-! ## Steps -/

theorem bind_ok (h : operation world = .ok value after) :
    (operation >>= next) world = next value after := by
  simp only [bind, EStateM.bind, h]

theorem bind_error (h : operation world = .error error after) :
    (operation >>= next) world = .error error after := by
  simp only [bind, EStateM.bind, h]

/-- Operations that do the same, and then go on in the same way, come to the same. -/
theorem bind_congr {other : Operation A} {onward : A → Operation B}
    (h : operation world = other world)
    (hnext : ∀ value after, operation world = .ok value after →
      next value after = onward value after) :
    (operation >>= next) world = (other >>= onward) world := by
  cases hrun : operation world with
  | ok value after => rw [bind_ok hrun, bind_ok (h ▸ hrun), hnext value after hrun]
  | error error after => rw [bind_error hrun, bind_error (h ▸ hrun)]

theorem attempt_ok (h : operation world = .ok value after) :
    attempt operation world = .ok (.ok value) after := by
  simp only [attempt, h]

theorem attempt_error (h : operation world = .error error after) :
    attempt operation world = .ok (.error error) after := by
  simp only [attempt, h]

theorem attempt_bind_ok (h : operation world = .ok value after) :
    attempt (operation >>= next) world = attempt (next value) after := by
  simp only [attempt, bind_ok h]

theorem ofExcept_ok (value : A) (world : World) :
    (ofExcept (.ok value) : Operation A) world = .ok value world := rfl

theorem request_run (port : FileSystem → FileSystem × A) (world : World) :
    request port world = .ok (port world.files).2 { world with files := (port world.files).1 } :=
  rfl

theorem report_run (event : Event) (world : World) :
    report event world = .ok () (world.wrote [.event event]) := rfl

theorem reportAll_run (events : List Event) (world : World) :
    reportAll events world = .ok () (world.wrote (events.map .event)) := by
  induction events generalizing world with
  | nil => exact congrArg (EStateM.Result.ok ()) world.wrote_nil.symm
  | cons event rest ih =>
    calc reportAll (event :: rest) world
        = reportAll rest (world.wrote [.event event]) := bind_ok (report_run event world)
      _ = .ok () ((world.wrote [.event event]).wrote (rest.map .event)) := ih _
      _ = .ok () (world.wrote ((event :: rest).map .event)) := by
        rw [World.wrote_wrote, List.singleton_append, List.map_cons]

/-- Insisting on capabilities only writes reports. -/
theorem require_run (host : Host) (required : List Capability) (world : World) :
    require host required world =
      if Capability.lacking host.status required = [] then
        .ok () (world.wrote (Capability.reports host.status required))
      else .error (.internal (Capability.missingMessage (Capability.lacking host.status required)))
        (world.wrote (Capability.reports host.status required)) := by
  have hreports := reportAll_run (Capability.check host.status required).1 world
  have hresult := Capability.check_result host.status required
  unfold require
  simp only [bind_ok hreports, hresult, Capability.reports]
  split <;> rfl

/-! ## Files -/

/-- The files that an operation leaves, whether it fails or not. -/
def filesAfter (operation : Operation A) (world : World) : FileSystem :=
  match operation world with
  | .ok _ after => after.files
  | .error _ after => after.files

/-- Whatever an operation starts with, the files it leaves stand in a relation to those it found. -/
def Respects (relation : FileSystem → FileSystem → Prop) (operation : Operation A) : Prop :=
  ∀ world, relation world.files (filesAfter operation world)

def Keeps (operation : Operation A) : Prop :=
  Respects (fun before after => after = before) operation

variable {relation : FileSystem → FileSystem → Prop}

theorem filesAfter_of_ok (h : operation world = .ok value after) :
    filesAfter operation world = after.files := by
  rw [filesAfter, h]

theorem filesAfter_of_error (h : operation world = .error error after) :
    filesAfter operation world = after.files := by
  rw [filesAfter, h]

theorem Keeps.files_eq (h : Keeps operation) (hrun : operation world = .ok value after) :
    after.files = world.files := (filesAfter_of_ok hrun).symm.trans (h world)

theorem Keeps.bind_congr (h : Keeps operation) {other : Operation A} {onward : A → Operation B}
    (hsame : operation world = other world)
    (hnext : ∀ value after, after.files = world.files → next value after = onward value after) :
    (operation >>= next) world = (other >>= onward) world :=
  Operation.bind_congr hsame fun value after hrun => hnext value after (h.files_eq hrun)

theorem Respects.bind_of_keeps (h : Keeps operation)
    (hnext : ∀ value, Respects relation (next value)) (hrefl : ∀ files, relation files files) :
    Respects relation (operation >>= next) := by
  intro world
  cases hrun : operation world with
  | ok value after =>
    have hkept := h.files_eq hrun
    have hafter := hnext value after
    rw [hkept] at hafter
    rwa [filesAfter, bind_ok hrun]
  | error error after =>
    have hkept : after.files = world.files := (filesAfter_of_error hrun).symm.trans (h world)
    rw [filesAfter_of_error (bind_error hrun), hkept]
    exact hrefl world.files

theorem Respects.bind_keeps (h : Respects relation operation)
    (hnext : ∀ value, Keeps (next value)) : Respects relation (operation >>= next) := by
  intro world
  have hfiles := h world
  cases hrun : operation world with
  | ok value after =>
    have hkept : filesAfter (next value) after = after.files := hnext value after
    rw [filesAfter_of_ok hrun, ← hkept] at hfiles
    rwa [filesAfter, bind_ok hrun]
  | error error after =>
    rw [filesAfter_of_error hrun] at hfiles
    rwa [filesAfter_of_error (bind_error hrun)]

theorem Keeps.bind (h : Keeps operation) (hnext : ∀ value, Keeps (next value)) :
    Keeps (operation >>= next) := Respects.bind_keeps h hnext

theorem Keeps.respects (h : Keeps operation) (hrefl : ∀ files, relation files files) :
    Respects relation operation := fun world => (h world).symm ▸ hrefl world.files

theorem keeps_pure (value : A) : Keeps (pure value) := fun _ => rfl

theorem keeps_throw (error : SteerError) : Keeps (throw error : Operation A) := fun _ => rfl

theorem keeps_files : Keeps files := fun _ => rfl

theorem keeps_report (event : Event) : Keeps (report event) := fun _ => rfl

theorem keeps_print (text : String) : Keeps (print text) := fun _ => rfl

theorem keeps_reportAll (events : List Event) : Keeps (reportAll events) := fun world => by
  rw [filesAfter, reportAll_run]
  rfl

theorem keeps_ofExcept (result : Except SteerError A) : Keeps (ofExcept result) := by
  cases result with
  | ok value => exact keeps_pure value
  | error error => exact keeps_throw error

theorem keeps_require (host : Host) (required : List Capability) : Keeps (require host required) :=
  (keeps_reportAll _).bind fun _ => keeps_ofExcept _

theorem filesAfter_attempt (operation : Operation A) (world : World) :
    filesAfter (attempt operation) world = filesAfter operation world := by
  unfold filesAfter attempt
  cases operation world <;> rfl

theorem Keeps.attempt (h : Keeps operation) : Keeps (attempt operation) := fun world =>
  (filesAfter_attempt operation world).trans (h world)

theorem Respects.attempt (h : Respects relation operation) :
    Respects relation (attempt operation) := fun world =>
  (filesAfter_attempt operation world).symm ▸ h world

end Operation

end XdpSteering
