import XdpSteering.Diagnosis
import XdpSteering.Proofs.Text.Numeral

/-!
# What the summary of a diagnosis tells

The name of an interface is any text, and stands near the start of the summary. Everything behind it
is of a form that can be read from the end: the last line says whether there is a warning, each line
in front of it has one of a few endings, and a number ends where its label does. So the summary is
that of one diagnosis and one kernel only, even if the name holds lines that look like the others.
-/

namespace XdpSteering

/-! ## Texts that are read from the end -/

/-- What is written at the end of a text tells what it says, and what stands in front of it. -/
structure EndTells {A : Type} (write : A → String) : Prop where
  split : ∀ {front back : String} {a b : A}, front ++ write a = back ++ write b →
    front = back ∧ a = b

namespace EndTells

variable {A B : Type} {write : A → String}

/-- Different endings are told apart if none of them is the end of another one. -/
theorem of_suffix (h : ∀ a b, (write a).toList <:+ (write b).toList → a = b) :
    EndTells write := by
  refine ⟨fun {front back a b} heq => ?_⟩
  have hab : a = b := by
    have hfirst : (write a).toList <:+ (front ++ write a).toList := by simp
    have hsecond : (write b).toList <:+ (front ++ write a).toList := by simp [heq]
    rcases List.suffix_or_suffix_of_suffix hfirst hsecond with hsuffix | hsuffix
    · exact h a b hsuffix
    · exact (h b a hsuffix).symm
  subst hab
  exact ⟨(String.append_left_inj _).mp heq, rfl⟩

theorem behind (h : EndTells write) (label : String) : EndTells fun a => label ++ write a := by
  refine ⟨fun heq => ?_⟩
  rw [← String.append_assoc, ← String.append_assoc] at heq
  obtain ⟨hfront, hab⟩ := h.split heq
  exact ⟨(String.append_left_inj label).mp hfront, hab⟩

theorem before (h : EndTells write) (rest : String) : EndTells fun a => write a ++ rest := by
  refine ⟨fun heq => ?_⟩
  rw [← String.append_assoc, ← String.append_assoc, String.append_left_inj] at heq
  exact h.split heq

theorem line (h : EndTells write) (label : String) :
    EndTells fun a => Summary.line label (write a) :=
  (h.behind label).before "\n"

/-- Two things are told that are written one after the other. -/
theorem append {rest : B → String} (h : EndTells write) (hrest : EndTells rest) :
    EndTells fun pair : A × B => write pair.1 ++ rest pair.2 := by
  refine ⟨fun heq => ?_⟩
  rw [← String.append_assoc, ← String.append_assoc] at heq
  obtain ⟨heq, hsecond⟩ := hrest.split heq
  obtain ⟨hfront, hfirst⟩ := h.split heq
  exact ⟨hfront, Prod.ext hfirst hsecond⟩

theorem comp {parts : B → A} (h : EndTells write) (hparts : Function.Injective parts) :
    EndTells fun b => write (parts b) := by
  refine ⟨fun heq => ?_⟩
  obtain ⟨hfront, hab⟩ := h.split heq
  exact ⟨hfront, hparts hab⟩

/-- A number is told if its label does not end in a digit. -/
theorem number {label : String} (stop : Char) (hlabel : label.toList.getLast? = some stop)
    (hstop : ¬ stop.isDigit) : EndTells fun number : Nat => label ++ toString number := by
  refine ⟨fun {front back a b} heq => ?_⟩
  obtain ⟨start, hstart⟩ := List.getLast?_eq_some_iff.mp hlabel
  have hchars := congrArg String.toList heq
  simp only [String.toList_append, hstart, Nat.toString_eq_repr, Nat.toList_repr,
    List.append_assoc, List.singleton_append] at hchars
  rw [← List.append_assoc, ← List.append_assoc] at hchars
  obtain ⟨hfront, hnumber⟩ := Text.Numeral.append_cons_toDigits_inj hstop hchars
  exact ⟨String.toList_inj.mp (List.append_cancel_right hfront), hnumber⟩

end EndTells

/-! ## Lines -/

theorem Summary.toList_rule : Summary.rule.toList = List.replicate 56 '━' ++ ['\n'] := by
  have hbreak : "\n".toList = ['\n'] := by decide
  unfold Summary.rule
  generalize List.replicate 56 '━' = bar
  rw [String.toList_append, hbreak, String.toList_ofList]

theorem Summary.line_inj {label text other : String} :
    Summary.line label text = Summary.line label other ↔ text = other := by
  rw [Summary.line, Summary.line, String.append_left_inj, String.append_right_inj]

theorem endTells_kernel : EndTells fun kernel : KernelVersion => "Kernel: " ++ kernel.text := by
  have hmajor : EndTells fun number : Nat => "Kernel: " ++ toString number :=
    .number ' ' rfl (by decide)
  have hfurther : EndTells fun number : Nat => "." ++ toString number :=
    .number '.' rfl (by decide)
  have hparts : Function.Injective fun kernel : KernelVersion =>
      ((kernel.major, kernel.minor), kernel.patch) := by
    rintro ⟨major, minor, patch⟩ ⟨major', minor', patch'⟩ heq
    simpa [and_assoc] using heq
  have hpair := ((hmajor.append hfurther).append hfurther).comp hparts
  refine ⟨fun {front back kernel version} heq => hpair.split ?_⟩
  simpa only [KernelVersion.text, String.append_assoc] using heq

namespace Diagnosis

theorem endTells_mark : EndTells mark :=
  .of_suffix fun a b => by cases a <;> cases b <;> decide

theorem endTells_linkMark : EndTells linkMark :=
  .of_suffix fun a b => by rcases a with _ | _ | _ <;> rcases b with _ | _ | _ <;> decide

theorem endTells_mode : EndTells AttachMode.name :=
  .of_suffix fun a b => by cases a <;> cases b <;> decide

/-- A warning ends otherwise than the line in front of it. -/
theorem endTells_warning : EndTells fun pinsWritable => Summary.rule ++ warning pinsWritable := by
  refine .of_suffix fun a b hsuffix => ?_
  rw [String.toList_append, String.toList_append, Summary.toList_rule] at hsuffix
  cases a <;> cases b
  · rfl
  · revert hsuffix
    decide +kernel
  · revert hsuffix
    decide +kernel
  · rfl

/-- Two summaries are the same just if the diagnoses are the same in all they found, and the kernels
are the same too, whatever the interfaces are called. -/
theorem summary_tells_diagnosis_and_kernel (diagnosis other : Diagnosis)
    (kernel version : KernelVersion) :
    diagnosis.render kernel = other.render version ↔ diagnosis = other ∧ kernel = version := by
  constructor
  · intro heq
    unfold render at heq
    rw [@String.append_assoc _ Summary.rule, @String.append_assoc _ Summary.rule] at heq
    obtain ⟨hrows, hwritable⟩ := endTells_warning.split heq
    obtain ⟨hrows, hdetached⟩ := (endTells_mark.line _).split hrows
    obtain ⟨hrows, hpinned⟩ := (endTells_linkMark.line _).split hrows
    obtain ⟨hrows, hattached⟩ := (endTells_mark.line _).split hrows
    obtain ⟨hrows, hloaded⟩ := (endTells_mark.line _).split hrows
    obtain ⟨hrows, -⟩ := (endTells_mark.line _).split hrows
    obtain ⟨hrows, hheld⟩ := (endTells_mark.line _).split hrows
    obtain ⟨hrows, hmode⟩ := (endTells_mode.line _).split ((String.append_left_inj _).mp hrows)
    obtain ⟨hrows, hkernel⟩ := (endTells_kernel.before "\n").split hrows
    have hinterface := Summary.line_inj.mp ((String.append_right_inj _).mp hrows)
    cases diagnosis
    cases other
    subst hinterface hmode hheld hwritable hloaded hattached hpinned hdetached
    exact ⟨rfl, hkernel⟩
  · rintro ⟨rfl, rfl⟩
    rfl

end Diagnosis

end XdpSteering
