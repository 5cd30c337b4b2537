import XdpSteering.Level
import XdpSteering.Proofs.Text.Numeral

/-!
# What names a level

A level is named by its word, each letter in either case, or by its number in decimal notation. The
texts that are read as a level are these, whatever the reader of numbers makes of a text first.
-/

namespace XdpSteering

open XdpSteering.Text

/-! ## Letters in either case -/

section Letters

variable {char letter : Char}

theorem toNat_toUpper (char : Char) :
    char.toUpper.toNat =
      if 97 ≤ char.toNat ∧ char.toNat ≤ 122 then char.toNat - 32 else char.toNat := by
  have hlow : 'a'.val ≤ char.val ↔ 97 ≤ char.toNat := UInt32.le_iff_toNat_le
  have hhigh : char.val ≤ 'z'.val ↔ char.toNat ≤ 122 := UInt32.le_iff_toNat_le
  unfold Char.toUpper
  simp only [hlow, hhigh]
  split
  · next hlower =>
    have hshift : ('A'.val - 'a'.val).toNat = 4294967264 := by decide
    have hval : char.val.toNat = char.toNat := rfl
    show (char.val + ('A'.val - 'a'.val)).toNat = char.toNat - 32
    rw [UInt32.toNat_add]
    omega
  · rfl

/-- A lower-case letter is in upper case what two characters are: itself and its capital. -/
theorem toUpper_eq_toUpper_iff (hletter : letter.isLower) :
    char.toUpper = letter.toUpper ↔ char = letter ∨ char = letter.toUpper := by
  have hlower : 97 ≤ letter.toNat ∧ letter.toNat ≤ 122 := by
    have hbounds : ('a'.val ≤ letter.val && letter.val ≤ 'z'.val) = true := hletter
    simpa [UInt32.le_iff_toNat_le] using hbounds
  simp only [← Char.toNat_inj, toNat_toUpper]
  rw [if_pos hlower]
  split <;> omega

def SpellsInEitherCase (chars word : List Char) : Prop :=
  List.Forall₂ (fun char letter => char = letter ∨ char = letter.toUpper) chars word

theorem map_toUpper_eq_iff {chars word : List Char} (hword : ∀ letter ∈ word, letter.isLower) :
    chars.map Char.toUpper = word.map Char.toUpper ↔ SpellsInEitherCase chars word := by
  induction chars generalizing word with
  | nil => cases word <;> simp [SpellsInEitherCase]
  | cons char rest ih =>
    cases word with
    | nil => simp [SpellsInEitherCase]
    | cons letter others =>
      obtain ⟨hletter, hothers⟩ := List.forall_mem_cons.mp hword
      rw [List.map_cons, List.map_cons, List.cons_eq_cons, toUpper_eq_toUpper_iff hletter,
        ih hothers, SpellsInEitherCase, SpellsInEitherCase, List.forall₂_cons]

end Letters

/-! ## Levels -/

namespace Level

variable {text : String} {level other : Level}

def word : Level → String
  | .error => "error"
  | .warn => "warn"
  | .info => "info"
  | .debug => "debug"
  | .trace => "trace"

/-- The text names the level. No number of a level has a minus sign. -/
inductive Names (text : String) (level : Level) : Prop where
  | word (spells : SpellsInEitherCase text.toList level.word.toList) : Names text level
  | number (decimal : Numeral.IsDecimal text.toList level.rank) : Names text level

theorem isLower_of_mem_word (level : Level) : ∀ letter ∈ level.word.toList, letter.isLower := by
  cases level <;> simp [word]

theorem toList_name (level : Level) :
    level.name.toList = level.word.toList.map Char.toUpper := by
  cases level <;> decide

theorem name_eq_map_toUpper_iff :
    level.name.toList = text.toList.map Char.toUpper ↔
      SpellsInEitherCase text.toList level.word.toList := by
  rw [toList_name, eq_comm, map_toUpper_eq_iff level.isLower_of_mem_word]

theorem mem_all (level : Level) : level ∈ all := by
  cases level <;> decide

theorem find?_all_eq_some_iff {p : Level → Bool} (hunique : ∀ a b, p a → p b → a = b) :
    all.find? p = some level ↔ p level := by
  refine ⟨List.find?_some, fun hlevel => ?_⟩
  cases hfind : all.find? p with
  | none => exact absurd hlevel (List.find?_eq_none.mp hfind level (mem_all level))
  | some found => rw [hunique found level (List.find?_some hfind) hlevel]

theorem rank_inj (h : level.rank = other.rank) : level = other := by
  revert h
  cases level <;> cases other <;> decide

theorem name_inj (h : level.name.toList = other.name.toList) : level = other := by
  revert h
  cases level <;> cases other <;> decide

/-- A word begins with a letter, and no number does. -/
theorem not_isDecimal_of_spells {number : Int}
    (hspells : SpellsInEitherCase text.toList level.word.toList) :
    ¬ Numeral.IsDecimal text.toList number := by
  intro hdecimal
  have hletters : ∀ letter ∈ level.word.toList, ∀ char ∈ [letter, letter.toUpper],
      ¬ char.isDigit ∧ char ≠ '+' ∧ char ≠ '-' := by
    cases level <;> simp [word]
  obtain ⟨first, rest, hchars, hfirst⟩ := hdecimal.exists_first
  rw [hchars] at hspells
  obtain ⟨letter, others, hletter, -, hword⟩ := List.forall₂_cons_left_iff.mp hspells
  obtain ⟨hdigit, hplus, hminus⟩ := hletters letter (by simp [hword]) first (by simpa using hletter)
  rcases hfirst with hfirst | hfirst | ⟨hfirst, -⟩
  · exact hdigit hfirst
  · exact hplus hfirst
  · exact hminus hfirst

theorem readUnsigned_eq_ok (hdecimal : Numeral.IsDecimal text.toList level.rank) :
    Numeral.readUnsigned 10 Numeral.max64 text.toList = .ok level.rank := by
  have hrank : 0 < level.rank ∧ level.rank ≤ Numeral.max64 := by cases level <;> decide
  refine Numeral.readUnsigned_eq_ok_iff.mpr ⟨hdecimal, ?_, hrank.2⟩
  obtain ⟨first, rest, hchars, hdigit | rfl | ⟨-, hnegative⟩⟩ := hdecimal.exists_first
  · rw [hchars, List.head?_cons]
    simpa using Numeral.ne_of_isDigit hdigit (by decide)
  · simp [hchars]
  · omega

/-- What is read as a level is what names it. -/
theorem read?_eq_some_iff : read? text = some level ↔ Names text level := by
  unfold read?
  cases hread : Numeral.readUnsigned 10 Numeral.max64 text.toList with
  | ok number =>
    obtain ⟨hdecimal, -, -⟩ := Numeral.readUnsigned_eq_ok_iff.mp hread
    dsimp only
    rw [find?_all_eq_some_iff fun a b ha hb =>
      rank_inj ((of_decide_eq_true ha).trans (of_decide_eq_true hb).symm), decide_eq_true_iff]
    constructor
    · rintro rfl
      exact .number hdecimal
    · rintro (hspells | hrank)
      · exact absurd hdecimal (not_isDecimal_of_spells hspells)
      · exact Int.ofNat_inj.mp (hrank.unique hdecimal)
  | error fault =>
    dsimp only
    rw [find?_all_eq_some_iff fun a b ha hb =>
      name_inj ((of_decide_eq_true ha).trans (of_decide_eq_true hb).symm), decide_eq_true_iff,
      name_eq_map_toUpper_iff]
    constructor
    · exact .word
    · rintro (hspells | hrank)
      · exact hspells
      · cases hread.symm.trans (readUnsigned_eq_ok hrank)

end Level

end XdpSteering
