import Mathlib.Tactic.Common
import XdpSteering.Program
import XdpSteering.Proofs.Capability.Check

/-!
# What a failed run tells

The text of a failure begins with its message, and the causes follow. Although a message may hold
text of others, with line ends in it, the text of a failure comes from one message only.
-/

namespace XdpSteering.Program

/-! ## Beginnings -/

def initial? (text : String) : Option Char := text.toList.head?

theorem initial?_append {text : String} {char : Char} (h : initial? text = some char)
    (more : String) : initial? (text ++ more) = some char := by
  unfold initial? at h ⊢
  rw [String.toList_append, List.head?_append, h]
  rfl

/-- A text is cut in one way only if what follows a longer beginning is no shorter. -/
theorem eq_of_append_eq {first second more others : String} (h : first ++ more = second ++ others)
    (hfront : first.toList <+: second.toList → more.length ≤ others.length)
    (hback : second.toList <+: first.toList → others.length ≤ more.length) : first = second := by
  have hlists := congrArg String.toList h
  have hlengths := congrArg String.length h
  rw [String.toList_append, String.toList_append] at hlists
  rw [String.length_append, String.length_append] at hlengths
  refine String.toList_injective ?_
  rcases List.prefix_or_prefix_of_prefix ⟨_, hlists⟩ ⟨_, rfl⟩ with hbegins | hbegins
  · have hle := hfront hbegins
    refine hbegins.eq_of_length_le ?_
    rw [String.length_toList, String.length_toList]
    omega
  · have hle := hback hbegins
    refine (hbegins.eq_of_length_le ?_).symm
    rw [String.length_toList, String.length_toList]
    omega

theorem length_marked_le {text other : String} (mark : String) (h : text.toList <+: other.toList) :
    (marked mark text).length ≤ (marked mark other).length := by
  obtain ⟨more, hmore⟩ := h
  simp only [marked, String.length_append, String.length_join, ← hmore, List.map_append,
    List.sum_append]
  omega

/-! ## The messages of a configuration -/

variable {error other : Conf.Error} {source : String} {missing lacked : List Capability}

theorem message_of_source? (h : error.source? = some source) :
    error.message = "configuration error: " ++ source := by
  cases error with
  | extraction fault origin => rw [← Option.some.inj h]; rfl
  | _ => cases h

theorem initial?_message (error : Conf.Error) :
    ∃ char, initial? error.message = some char ∧ char ≠ 'M' ∧
      (error.source? = none → char ≠ 'c') := by
  cases error with
  | noConfigFile => exact ⟨'n', rfl, by decide, fun _ => by decide⟩
  | invalidConfigPath path =>
    exact ⟨'p', initial?_append (initial?_append rfl _) _, by decide, fun _ => by decide⟩
  | invalidExtension extension =>
    exact ⟨'i', initial?_append (initial?_append rfl _) _, by decide, fun _ => by decide⟩
  | invalidCapacity capacity =>
    exact ⟨'s', initial?_append (initial?_append (initial?_append rfl _) _) _, by decide,
      fun _ => by decide⟩
  | emptyInterface => exact ⟨'i', rfl, by decide, fun _ => by decide⟩
  | extraction fault origin => exact ⟨'c', initial?_append rfl _, by decide, fun h => by cases h⟩

theorem not_prefix_of_source? (h : error.source? = none) (hother : other.source? = some source) :
    ¬ error.message.toList <+: other.message.toList ∧
      ¬ other.message.toList <+: error.message.toList := by
  obtain ⟨char, hinitial, -, hchar⟩ := initial?_message error
  have hconf : initial? other.message = some 'c' := by
    rw [message_of_source? hother]
    exact initial?_append rfl source
  unfold initial? at hinitial hconf
  constructor
  · rintro ⟨more, hmore⟩
    rw [← hmore, List.head?_append, hinitial] at hconf
    exact hchar h (Option.some.inj hconf)
  · rintro ⟨more, hmore⟩
    rw [← hmore, List.head?_append, hconf] at hinitial
    exact hchar h (Option.some.inj hinitial).symm

/-! ## The texts of failures -/

def causesText (error : Conf.Error) : String :=
  match error.source? with
  | none => "\n" ++ marked "    " error.message ++ "\n"
  | some source =>
    "\n" ++ marked (causeMark 0) error.message ++ ("\n" ++ marked (causeMark 1) source) ++ "\n"

theorem failureText_confCauses (error : Conf.Error) :
    failureText error.message (confCauses error)
      = "Error: " ++ (error.message ++ ("\n\nCaused by:" ++ causesText error)) := by
  have hcaused : "\n\nCaused by:\n" = "\n\nCaused by:" ++ "\n" := rfl
  unfold failureText confCauses causesText
  cases error.source? with
  | none => simp only [Option.toList_none, hcaused, String.append_assoc]
  | some source =>
    simp only [Option.toList_some, List.zipIdx_cons, List.zipIdx_nil, List.map_cons, List.map_nil,
      String.join_cons, String.join_nil, String.append_empty, String.append_assoc]

theorem length_causesText_le (h : error.message.toList <+: other.message.toList) :
    (causesText error).length ≤ (causesText other).length := by
  unfold causesText
  cases hsource : error.source? with
  | none =>
    cases hother : other.source? with
    | none =>
      have hle := length_marked_le "    " h
      simp only [String.length_append]
      omega
    | some source => exact absurd h (not_prefix_of_source? hsource hother).1
  | some source =>
    cases hother : other.source? with
    | none => exact absurd h (not_prefix_of_source? hother hsource).2
    | some cause =>
      have hle := length_marked_le (causeMark 0) h
      rw [message_of_source? hsource, message_of_source? hother, String.toList_append,
        String.toList_append, List.prefix_append_right_inj] at h
      have hcause := length_marked_le (causeMark 1) h
      simp only [String.length_append]
      omega

/-- The text of a failed configuration tells its message. -/
theorem message_eq_of_failureText
    (h : failureText error.message (confCauses error)
      = failureText other.message (confCauses other)) : error.message = other.message := by
  rw [failureText_confCauses, failureText_confCauses, String.append_right_inj] at h
  refine eq_of_append_eq h (fun hfront => ?_) fun hback => ?_
  · have hle := length_causesText_le hfront
    rw [String.length_append, String.length_append]
    omega
  · have hle := length_causesText_le hback
    rw [String.length_append, String.length_append]
    omega

theorem failureText_nil (message : String) :
    failureText message [] = "Error: " ++ (message ++ "\n") := by
  rw [failureText, String.append_empty, String.append_assoc]

theorem missing_eq_of_failureText
    (h : failureText (Capability.missingMessage missing) []
      = failureText (Capability.missingMessage lacked) []) : missing = lacked := by
  rw [failureText_nil, failureText_nil, String.append_right_inj, String.append_left_inj] at h
  exact Capability.missingMessage_injective h

/-- What keeps a configuration from being used is told from a missing capability. -/
theorem failureText_confCauses_ne (error : Conf.Error) (missing : List Capability) :
    failureText error.message (confCauses error)
      ≠ failureText (Capability.missingMessage missing) [] := by
  intro h
  rw [failureText_confCauses, failureText_nil, String.append_right_inj] at h
  obtain ⟨char, hinitial, hchar, -⟩ := initial?_message error
  have hmissing : initial? (Capability.missingMessage missing) = some 'M' := by
    unfold Capability.missingMessage
    iterate 6 refine initial?_append ?_ _
    rfl
  have hboth := congrArg initial? h
  rw [initial?_append hinitial, initial?_append hmissing] at hboth
  exact hchar (Option.some.inj hboth)

end XdpSteering.Program
