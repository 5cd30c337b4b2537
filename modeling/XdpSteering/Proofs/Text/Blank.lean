import Mathlib.Data.List.DropRight
import XdpSteering.Text.Blank

/-!
# Blanks around a text

Trimming takes the blanks from both ends of a text, and nothing else.
-/

namespace XdpSteering.Text

variable {left core right text : List Char}

def Blanks (text : List Char) : Prop := ∀ char ∈ text, isBlank char = true

instance (text : List Char) : Decidable (Blanks text) :=
  inferInstanceAs (Decidable (∀ char ∈ text, isBlank char = true))

theorem trim_append_right (hright : Blanks right) (text : List Char) :
    trim (text ++ right) = trim text := by
  unfold trim trimEnd
  rw [List.dropWhile_append]
  split
  · next hempty =>
    have hblank : right.dropWhile isBlank = [] := List.dropWhile_eq_nil_iff.mpr hright
    rw [hblank, List.isEmpty_iff.mp hempty]
  · have hreversed : ∀ char ∈ right.reverse, isBlank char = true := fun char hmem =>
      hright char (List.mem_reverse.mp hmem)
    rw [List.reverse_append, List.dropWhile_append_of_pos hreversed]

/-- Blanks around a text without any are trimmed. -/
theorem trim_between (hleft : Blanks left) (hright : Blanks right)
    (hcore : ∀ char ∈ core, isBlank char = false) : trim (left ++ core ++ right) = core := by
  have hfirst : core.dropWhile isBlank = core :=
    List.dropWhile_eq_self_iff.mpr fun hlength => by
      rw [hcore _ (List.getElem_mem hlength)]
      exact Bool.false_ne_true
  have hlast : core.rdropWhile isBlank = core :=
    List.rdropWhile_eq_self_iff.mpr fun hne => by
      rw [hcore _ (List.getLast_mem hne)]
      exact Bool.false_ne_true
  rw [trim_append_right hright, trim, List.dropWhile_append_of_pos hleft, hfirst]
  exact hlast

/-- What is trimmed are blanks. -/
theorem exists_blanks_trim (text : List Char) :
    ∃ left right, text = left ++ trim text ++ right ∧ Blanks left ∧ Blanks right := by
  refine ⟨text.takeWhile isBlank, (text.dropWhile isBlank).rtakeWhile isBlank, ?_, ?_, ?_⟩
  · have hrest : trim text ++ (text.dropWhile isBlank).rtakeWhile isBlank
        = text.dropWhile isBlank := List.rdropWhile_append_rtakeWhile
    rw [List.append_assoc, hrest, List.takeWhile_append_dropWhile]
  · exact fun char hmem => List.mem_takeWhile_imp hmem
  · exact fun char hmem => List.mem_rtakeWhile_imp hmem

end XdpSteering.Text
