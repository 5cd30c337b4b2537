import XdpSteering.Proofs.Operation

/-!
# What a check of capabilities tells

Every capability of a list is looked at, whatever was found of those before it. A check fails with
all that are missing, in their order; a process whose capabilities are unknown passes it.
-/

namespace XdpSteering.Capability

variable {status : Except SteerError String} {mask : UInt64} {capability : Capability}
  {required : List Capability} {error : SteerError}

/-- An event of this level and name is about a capability. -/
structure Tells (event : Event) (level : Level) (name : String) (capability : Capability) :
    Prop where
  level : event.level = level
  name : event.name = name
  capability : ("capability", .text capability.name) ∈ event.fields

/-- What a process that holds a mask is told of the capabilities that it needs, one after the other,
and which of them it is missing. -/
inductive Inspected (mask : UInt64) : List Capability → List Event → List Capability → Prop where
  | nothing : Inspected mask [] [] []
  | held {capability : Capability} {others missing : List Capability} {first second : Event}
      {events : List Event} (bit : capability.isIn mask = true)
      (checking : Tells first .debug "capabilities.checking" capability)
      (present : Tells second .debug "capabilities.present" capability)
      (rest : Inspected mask others events missing) :
      Inspected mask (capability :: others) (first :: second :: events) missing
  /-- An older kernel grants the same in another way. -/
  | spared {capability : Capability} {others missing : List Capability} {first second : Event}
      {events : List Event} (bit : capability.isIn mask = false)
      (split : capability = .bpf ∨ capability = .perfmon)
      (checking : Tells first .debug "capabilities.checking" capability)
      (fallback : Tells second .warn "capabilities.missing_fallback" capability)
      (rest : Inspected mask others events missing) :
      Inspected mask (capability :: others) (first :: second :: events) missing
  | lacked {capability : Capability} {others missing : List Capability} {first : Event}
      {events : List Event} (bit : capability.isIn mask = false)
      (whole : capability ≠ .bpf ∧ capability ≠ .perfmon)
      (checking : Tells first .debug "capabilities.checking" capability)
      (rest : Inspected mask others events missing) :
      Inspected mask (capability :: others) (first :: events) (capability :: missing)

/-- What a process is told of the capabilities that it needs when nothing is known of it but the
reason why. -/
inductive Warned (reason : String) : List Capability → List Event → Prop where
  | nothing : Warned reason [] []
  | unknown {capability : Capability} {others : List Capability} {first second : Event}
      {events : List Event} (checking : Tells first .debug "capabilities.checking" capability)
      (failed : Tells second .warn "capabilities.check_failed" capability)
      (told : ("error", .shown reason) ∈ second.fields) (rest : Warned reason others events) :
      Warned reason (capability :: others) (first :: second :: events)

/-! ## What the events tell -/

theorem name_injective : Function.Injective name := by
  intro first second h
  revert h
  cases first <;> cases second <;> decide

theorem tells_checkingEvent (capability : Capability) :
    Tells capability.checkingEvent .debug "capabilities.checking" capability :=
  ⟨rfl, rfl, List.mem_singleton_self _⟩

theorem tells_presentEvent (capability : Capability) :
    Tells capability.presentEvent .debug "capabilities.present" capability :=
  ⟨rfl, rfl, List.mem_singleton_self _⟩

theorem tells_fallbackEvent (capability : Capability) :
    Tells capability.fallbackEvent .warn "capabilities.missing_fallback" capability :=
  ⟨rfl, rfl, List.mem_cons_self⟩

theorem tells_uncheckedEvent (capability : Capability) (error : SteerError) :
    Tells (capability.uncheckedEvent error) .warn "capabilities.check_failed" capability :=
  ⟨rfl, rfl, List.mem_cons_self⟩

/-! ## What is missing -/

theorem hasFallback_iff :
    capability.hasFallback = true ↔ capability = .bpf ∨ capability = .perfmon := by
  cases capability <;> decide

theorem hasFallback_eq_false_iff :
    capability.hasFallback = false ↔ capability ≠ .bpf ∧ capability ≠ .perfmon := by
  rw [← Bool.not_eq_true, hasFallback_iff, not_or]

theorem lacks_iff (hmask : heldMask status = .ok mask) :
    Lacks status capability ↔
      capability.isIn mask = false ∧ capability ≠ .bpf ∧ capability ≠ .perfmon := by
  rw [← hasFallback_eq_false_iff, Lacks]
  constructor
  · rintro ⟨found, hfound, hlacks⟩
    obtain rfl := Except.ok.inj (hmask.symm.trans hfound)
    exact hlacks
  · exact fun hlacks => ⟨mask, hmask, hlacks⟩

/-! ## A process whose mask is known -/

theorem lacking_of_mask (hmask : heldMask status = .ok mask) (required : List Capability) :
    lacking status required = required.filter fun capability =>
      capability.isIn mask = false ∧ capability ≠ .bpf ∧ capability ≠ .perfmon := by
  refine List.filter_congr fun capability _ => ?_
  simp only [lacks_iff hmask]

theorem lacking_eq_nil_iff (hmask : heldMask status = .ok mask) :
    lacking status required = [] ↔ ∀ capability ∈ required, capability ≠ .bpf →
      capability ≠ .perfmon → capability.isIn mask = true := by
  rw [lacking_of_mask hmask, List.filter_eq_nil_iff]
  refine forall₂_congr fun capability _ => ?_
  rw [decide_eq_true_iff, not_and, not_and]
  cases capability.isIn mask <;> simp

/-- The step from each capability to the next does not depend on what was found. -/
theorem inspected_check (hmask : heldMask status = .ok mask) (required : List Capability) :
    Inspected mask required (check status required).1 (lacking status required) := by
  induction required with
  | nil => exact .nothing
  | cons capability others ih =>
    have hevents : (check status (capability :: others)).1
        = capability.checkingEvent :: (capability.inspect (heldMask status)).2
          ++ (check status others).1 := by
      simp only [check, List.flatMap_cons]
    have hlacks : Lacks status capability ↔ _ := lacks_iff hmask
    rw [hevents, hmask]
    cases hbit : capability.isIn mask with
    | true =>
      have hkept : ¬ Lacks status capability := by simp [hlacks, hbit]
      rw [lacking, List.filter_cons_of_neg (by simpa using hkept)]
      simp only [inspect, hbit, if_true]
      exact .held hbit (tells_checkingEvent _) (tells_presentEvent _) ih
    | false =>
      by_cases hsplit : capability = .bpf ∨ capability = .perfmon
      · have hkept : ¬ Lacks status capability := by
          rw [hlacks, ← not_or]
          exact fun h => h.2 hsplit
        rw [lacking, List.filter_cons_of_neg (by simpa using hkept)]
        simp only [inspect, hbit, hasFallback_iff.mpr hsplit, if_true, Bool.false_eq_true, if_false]
        exact .spared hbit hsplit (tells_checkingEvent _) (tells_fallbackEvent _) ih
      · have hwhole := not_or.mp hsplit
        have hlacked : Lacks status capability := hlacks.mpr ⟨hbit, hwhole⟩
        rw [lacking, List.filter_cons_of_pos (by simpa using hlacked)]
        simp only [inspect, hbit, hasFallback_eq_false_iff.mpr hwhole, Bool.false_eq_true, if_false]
        exact .lacked hbit hwhole (tells_checkingEvent _) ih

/-! ## A process whose mask is unknown -/

theorem check_of_unknown (hunknown : heldMask status = .error error) (required : List Capability) :
    Warned error.message required (check status required).1 ∧
      (check status required).2 = .ok () := by
  have hmissing : ∀ capability : Capability, (capability.inspect (heldMask status)).1 = false := by
    simp [hunknown, inspect]
  constructor
  · induction required with
    | nil => exact .nothing
    | cons capability others ih =>
      have hevents : (check status (capability :: others)).1
          = capability.checkingEvent :: capability.uncheckedEvent error
            :: (check status others).1 := by
        simp only [check, List.flatMap_cons, hunknown, inspect, List.cons_append, List.nil_append]
      rw [hevents]
      exact .unknown (tells_checkingEvent _) (tells_uncheckedEvent _ _)
        (List.mem_cons_of_mem _ List.mem_cons_self) ih
  · simp [check, hmissing]

theorem heldMask_eq_error_iff :
    heldMask status = .error error ↔
      status = .error error ∨ ∃ text, status = .ok text ∧ effectiveMask text = .error error := by
  cases status with
  | error reason => simp [heldMask, Except.bind]
  | ok text => simp [heldMask, Except.bind]

/-! ## The message -/

def afterName (capability : Capability) : List Char :=
  " - required to ".toList ++ (capability.description.toList ++ "\n".toList)

def missingLine (capability : Capability) : List Char :=
  "  ❌ ".toList ++ (capability.name.toList ++ capability.afterName)

theorem toList_append_five (first second third fourth fifth : String) :
    (first ++ second ++ third ++ fourth ++ fifth).toList
      = first.toList ++ (second.toList ++ (third.toList ++ (fourth.toList ++ fifth.toList))) := by
  simp only [String.toList_append, List.append_assoc]

theorem flatMap_missingLine_of_missingMessage {first second : List Capability}
    (h : missingMessage first = missingMessage second) :
    first.flatMap missingLine = second.flatMap missingLine := by
  have hline : (fun capability : Capability => ("  ❌ " ++ capability.name ++ " - required to "
      ++ capability.description ++ "\n").toList) = missingLine :=
    funext fun capability => toList_append_five ..
  -- What stands around the lines is the same in all messages.
  unfold missingMessage at h
  iterate 5 replace h := (String.append_left_inj _).mp h
  have hlines := congrArg String.toList ((String.append_right_inj _).mp h)
  rwa [String.toList_join, String.toList_join, List.flatMap_map, List.flatMap_map, hline] at hlines

theorem notMem_name (capability : Capability) : ' ' ∉ capability.name.toList := by
  cases capability <;> decide

theorem missingLine_append (capability : Capability) (rest : List Char) :
    missingLine capability ++ rest
      = "  ❌ ".toList ++ (capability.name.toList ++ (capability.afterName ++ rest)) := by
  rw [missingLine]
  -- The mark must not be computed.
  generalize "  ❌ ".toList = mark
  rw [List.append_assoc, List.append_assoc]

theorem takeWhile_name_append (capability : Capability) (rest : List Char) :
    (capability.name.toList ++ (capability.afterName ++ rest)).takeWhile (· ≠ ' ')
      = capability.name.toList := by
  have hafter : capability.afterName ++ rest
      = ' ' :: (capability.afterName.tail ++ rest) := rfl
  have hnone : ∀ char ∈ capability.name.toList, decide (char ≠ ' ') = true := by
    intro char hmem
    exact decide_eq_true fun heq => notMem_name capability (heq ▸ hmem)
  rw [hafter, List.takeWhile_append_of_pos hnone, List.takeWhile_cons_of_neg (by simp),
    List.append_nil]

/-- A line is told from any other by the name in it. -/
theorem eq_of_missingLine_append {first second : Capability} {more others : List Char}
    (h : missingLine first ++ more = missingLine second ++ others) : first = second := by
  rw [missingLine_append, missingLine_append] at h
  have hnames := congrArg (List.takeWhile (· ≠ ' ')) (List.append_cancel_left h)
  rw [takeWhile_name_append, takeWhile_name_append] at hnames
  exact name_injective (String.toList_injective hnames)

theorem missingLine_append_ne_nil (capability : Capability) (more : List Char) :
    missingLine capability ++ more ≠ [] :=
  List.append_ne_nil_of_left_ne_nil (List.append_ne_nil_of_left_ne_nil (by decide) _) more

/-- A message tells which capabilities are missing, how often and in which order. -/
theorem missingMessage_injective : Function.Injective missingMessage := by
  intro first second h
  replace h := flatMap_missingLine_of_missingMessage h
  induction first generalizing second with
  | nil =>
    cases second with
    | nil => rfl
    | cons other others => exact absurd h.symm (missingLine_append_ne_nil other _)
  | cons capability rest ih =>
    cases second with
    | nil => exact absurd h (missingLine_append_ne_nil capability _)
    | cons other others =>
      rw [List.flatMap_cons, List.flatMap_cons] at h
      obtain rfl := eq_of_missingLine_append h
      rw [ih (List.append_cancel_left h)]

/-- A check succeeds exactly when the mask has all capabilities of the list but those that an older
kernel grants in another way, and else fails with those that it has not, each as often as it is
listed. It tells what it finds of each of them in turn. Where the mask cannot be read it warns of
each of them and succeeds. What is told of one capability is not told of another, and the message of
a failure tells what is missing. -/
theorem check_tells_all_that_is_missing (status : Except SteerError String)
    (required : List Capability) :
    (∀ text mask, status = .ok text → effectiveMask text = .ok mask →
      let missing := required.filter fun capability =>
        capability.isIn mask = false ∧ capability ≠ .bpf ∧ capability ≠ .perfmon
      Inspected mask required (check status required).1 missing ∧
        ((check status required).2 = .ok () ↔ ∀ capability ∈ required, capability ≠ .bpf →
          capability ≠ .perfmon → capability.isIn mask = true) ∧
        ((check status required).2 ≠ .ok () →
          (check status required).2 = .error (.internal (missingMessage missing)))) ∧
    (∀ error,
      (status = .error error ∨ ∃ text, status = .ok text ∧ effectiveMask text = .error error) →
      Warned error.message required (check status required).1 ∧
        (check status required).2 = .ok ()) ∧
    Function.Injective name ∧ Function.Injective missingMessage := by
  refine ⟨?_, ?_, name_injective, missingMessage_injective⟩
  · rintro text mask rfl hread missing
    have hmask : heldMask (.ok text) = .ok mask := hread
    have hresult := check_result (.ok text) required
    have hmissing : lacking (.ok text) required = missing := lacking_of_mask hmask required
    refine ⟨hmissing ▸ inspected_check hmask required, ?_, fun hfails => ?_⟩
    · rw [hresult, ← lacking_eq_nil_iff hmask]
      split <;> simp_all
    · rw [hresult] at hfails ⊢
      split at hfails
      · exact absurd rfl hfails
      · next hsome => rw [if_neg hsome, hmissing]
  · intro error hunknown
    exact check_of_unknown (heldMask_eq_error_iff.mpr hunknown) required

/-- Six capabilities, one of them listed twice, for a process that holds a single one. -/
theorem six_capabilities_are_looked_at :
    let text := "Name:\txsksteer\nCapEff:\t0000000000080000\n"
    let required := [bpf, netAdmin, sysPtrace, netAdmin, perfmon, sysAdmin]
    let missing := [netAdmin, netAdmin, sysAdmin]
    (effectiveMask text = .ok 0x80000 ∧
      Inspected 0x80000 required (check (.ok text) required).1 missing ∧
      (check (.ok text) required).2 = .error (.internal (missingMessage missing))) ∧
    (check (.ok "CapEff:\tnone") [netAdmin]).2 = .ok () := by
  intro text required missing
  have hread : effectiveMask "Name:\txsksteer\nCapEff:\t0000000000080000\n" = .ok 0x80000 := rfl
  obtain ⟨hinspected, hok, hfails⟩ :=
    (check_tells_all_that_is_missing (.ok text) required).1 text 0x80000 rfl hread
  have hnotHeld : (check (.ok text) required).2 ≠ .ok () := fun h =>
    absurd (hok.mp h netAdmin (by decide) (by decide) (by decide)) (by decide)
  have hunread := (check_tells_all_that_is_missing (.ok "CapEff:\tnone") [netAdmin]).2.1 _
    (.inr ⟨_, rfl, rfl⟩)
  exact ⟨⟨hread, hinspected, hfails hnotHeld⟩, hunread.2⟩

end XdpSteering.Capability
