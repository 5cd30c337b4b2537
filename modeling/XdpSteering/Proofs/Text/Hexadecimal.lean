import Mathlib.Data.Nat.Digits.Defs
import Mathlib.Tactic.IntervalCases
import Mathlib.Tactic.Ring
import XdpSteering.Proofs.Text.Blank
import XdpSteering.Proofs.Text.Numeral

/-!
# Hexadecimal numbers

A number in hexadecimal notation is one or more digits of either case, perhaps behind a plus sign
and with zeros in front. Each digit is four bits of the number.
-/

namespace XdpSteering.Text.Numeral

def IsHexDigit (char : Char) (value : Nat) : Prop :=
  "0123456789abcdef".toList[value]? = some char ∨ "0123456789ABCDEF".toList[value]? = some char

instance (char : Char) (value : Nat) : Decidable (IsHexDigit char value) :=
  inferInstanceAs (Decidable (_ ∨ _))

/-- The characters spell hexadecimal digits of these values, the first of them the highest. -/
inductive IsHexadecimal : List Char → List Nat → Prop where
  | unsigned {chars : List Char} {values : List Nat} (ne_nil : chars ≠ [])
      (digits : List.Forall₂ IsHexDigit chars values) : IsHexadecimal chars values
  | plus {chars : List Char} {values : List Nat} (ne_nil : chars ≠ [])
      (digits : List.Forall₂ IsHexDigit chars values) : IsHexadecimal ('+' :: chars) values

def ofHex (values : List Nat) : Nat := Nat.ofDigits 16 values.reverse

variable {char : Char} {chars : List Char} {value number limit high : Nat} {values : List Nat}
  {overflow : NumeralFault}

/-! ## Digits -/

theorem IsHexDigit.lt (h : IsHexDigit char value) : value < 16 := by
  rcases h with h | h
  · exact (List.getElem?_eq_some_iff.mp h).1
  · exact (List.getElem?_eq_some_iff.mp h).1

/-- There are twenty-two digits, as letters count in either case. -/
theorem IsHexDigit.mem (h : IsHexDigit char value) : char ∈ "0123456789abcdefABCDEF".toList := by
  have hlower : "0123456789abcdef".toList ⊆ "0123456789abcdefABCDEF".toList := by decide
  have hupper : "0123456789ABCDEF".toList ⊆ "0123456789abcdefABCDEF".toList := by decide
  rcases h with h | h
  · exact hlower (List.mem_of_getElem? h)
  · exact hupper (List.mem_of_getElem? h)

theorem IsHexDigit.not_blank (h : IsHexDigit char value) : isBlank char = false := by
  have hall : "0123456789abcdefABCDEF".toList.all (fun char => !isBlank char) = true := by decide
  simpa using List.all_eq_true.mp hall char h.mem

theorem toNat_lt_of_digit?_sixteen (h : digit? 16 char = some value) :
    char.toNat < 128 ∧ value < 16 := by
  obtain ⟨hvalue, hlt⟩ := Option.filter_eq_some_iff.mp h
  refine ⟨?_, by simpa using hlt⟩
  by_contra hlarge
  have hdigit : (decide (48 ≤ char.toNat) && decide (char.toNat ≤ 57)) = false := by simp; omega
  have hlower : (decide (97 ≤ char.toNat) && decide (char.toNat ≤ 122)) = false := by simp; omega
  have hupper : (decide (65 ≤ char.toNat) && decide (char.toNat ≤ 90)) = false := by simp; omega
  simp [hdigit, hlower, hupper] at hvalue

theorem isHexDigit_iff : IsHexDigit char value ↔ digit? 16 char = some value := by
  have hascii : ∀ code < 128, ∀ value < 16,
      (IsHexDigit (Char.ofNat code) value ↔ digit? 16 (Char.ofNat code) = some value) := by
    decide +kernel
  constructor
  · intro h
    have hall : "0123456789abcdefABCDEF".toList.all (fun char => char.toNat < 128) = true := by
      decide
    have hchar : char.toNat < 128 := by simpa using List.all_eq_true.mp hall char h.mem
    simpa using (hascii char.toNat hchar value h.lt).mp (by simpa using h)
  · intro h
    obtain ⟨hchar, hvalue⟩ := toNat_lt_of_digit?_sixteen h
    simpa using (hascii char.toNat hchar value hvalue).mpr (by simpa using h)

/-! ## Numbers -/

theorem forall₂_isHexDigit (h : List.Forall₂ IsHexDigit chars values) :
    (∀ char ∈ chars, ∃ value, IsHexDigit char value) ∧
      ∀ value ∈ values, ∃ char, IsHexDigit char value := by
  induction h with
  | nil => simp
  | cons hdigit _ ih =>
    exact ⟨List.forall_mem_cons.mpr ⟨⟨_, hdigit⟩, ih.1⟩,
      List.forall_mem_cons.mpr ⟨⟨_, hdigit⟩, ih.2⟩⟩

theorem IsHexadecimal.exists_digit (h : IsHexadecimal chars values) (hmem : value ∈ values) :
    ∃ char, IsHexDigit char value := by
  cases h with
  | unsigned _ digits | plus _ digits => exact (forall₂_isHexDigit digits).2 value hmem

theorem IsHexadecimal.not_blank (h : IsHexadecimal chars values) :
    ∀ char ∈ chars, isBlank char = false := by
  have hdigits {chars : List Char} (digits : List.Forall₂ IsHexDigit chars values) :
      ∀ char ∈ chars, isBlank char = false := fun char hmem => by
    obtain ⟨value, hdigit⟩ := (forall₂_isHexDigit digits).1 char hmem
    exact hdigit.not_blank
  cases h with
  | unsigned _ digits => exact hdigits digits
  | plus _ digits => exact List.forall_mem_cons.mpr ⟨by decide, hdigits digits⟩

/-! ## Reading -/

theorem foldl_eq_ofHex (values : List Nat) :
    values.foldl (fun sum value => sum * 16 + value) 0 = ofHex values := by
  induction values using List.reverseRecOn with
  | nil => rfl
  | append_singleton front last ih =>
    rw [List.foldl_append, ih, ofHex, ofHex, List.reverse_append, List.reverse_singleton,
      List.singleton_append, Nat.ofDigits_cons, List.foldl_cons, List.foldl_nil]
    omega

theorem readDigits_sixteen_eq_ok_iff :
    readDigits 16 limit overflow 0 chars = .ok number ↔
      ∃ values, List.Forall₂ IsHexDigit chars values ∧ number = ofHex values ∧ number ≤ limit := by
  simp only [readDigits_eq_ok_iff_values (by omega : 0 < 16) (Nat.zero_le limit), foldl_eq_ofHex,
    ← isHexDigit_iff]

theorem readSome_sixteen_eq_ok_iff :
    readSome 16 limit overflow chars = .ok number ↔
      chars ≠ [] ∧ ∃ values, List.Forall₂ IsHexDigit chars values ∧ number = ofHex values ∧
        number ≤ limit := by
  cases chars with
  | nil => simp [readSome]
  | cons char rest =>
    rw [readSome, readDigits_sixteen_eq_ok_iff]
    · simp
    · exact List.cons_ne_nil _ _

/-- The reader takes the hexadecimal notations of the numbers up to the highest one. -/
theorem readUnsigned_sixteen_eq_ok_iff :
    readUnsigned 16 high chars = .ok number ↔
      ∃ values, IsHexadecimal chars values ∧ number = ofHex values ∧ number ≤ high := by
  constructor
  · intro h
    unfold readUnsigned at h
    split at h
    · cases h
    · obtain ⟨hne, values, hdigits, hnumber, hle⟩ := readSome_sixteen_eq_ok_iff.mp h
      exact ⟨values, .plus hne hdigits, hnumber, hle⟩
    · obtain ⟨hne, values, hdigits, hnumber, hle⟩ := readSome_sixteen_eq_ok_iff.mp h
      exact ⟨values, .unsigned hne hdigits, hnumber, hle⟩
  · rintro ⟨values, hwritten, hnumber, hle⟩
    cases hwritten with
    | plus hne hdigits =>
      exact readSome_sixteen_eq_ok_iff.mpr ⟨hne, values, hdigits, hnumber, hle⟩
    | unsigned hne hdigits =>
      have hread : readSome 16 high .tooLarge chars = .ok number :=
        readSome_sixteen_eq_ok_iff.mpr ⟨hne, values, hdigits, hnumber, hle⟩
      cases hdigits with
      | nil => exact absurd rfl hne
      | @cons char value rest others hfirst hothers =>
        have hplus : char ≠ '+' := by
          rintro rfl
          have hnone : digit? 16 '+' = none := rfl
          rw [isHexDigit_iff, hnone] at hfirst
          cases hfirst
        rw [readUnsigned]
        · exact hread
        · simp
        · simpa using hplus

/-! ## Bits -/

theorem testBit_ofDigits_sixteen {values : List Nat} (hvalues : ∀ value ∈ values, value < 16)
    (bit : Nat) :
    (Nat.ofDigits 16 values).testBit bit
      = (values[bit / 4]?).any fun value => value.testBit (bit % 4) := by
  induction values generalizing bit with
  | nil => simp
  | cons value rest ih =>
    obtain ⟨hvalue, hrest⟩ := List.forall_mem_cons.mp hvalues
    have hsplit : Nat.ofDigits 16 (value :: rest) = 2 ^ 4 * Nat.ofDigits 16 rest + value := by
      rw [Nat.ofDigits_cons]
      omega
    rw [hsplit, Nat.testBit_two_pow_mul_add _ hvalue]
    split
    · next hlow => simp [Nat.div_eq_of_lt hlow, Nat.mod_eq_of_lt hlow]
    · next hhigh =>
      have hplace : bit / 4 = (bit - 4) / 4 + 1 := by omega
      have hbit : bit % 4 = (bit - 4) % 4 := by omega
      rw [ih hrest, hplace, hbit, List.getElem?_cons_succ]

/-- Each digit is four bits of the number. -/
theorem IsHexadecimal.testBit (h : IsHexadecimal chars values) (bit : Nat) :
    (ofHex values).testBit bit
      = (values.reverse[bit / 4]?).any fun value => value.testBit (bit % 4) := by
  refine testBit_ofDigits_sixteen (fun value hmem => ?_) bit
  obtain ⟨char, hdigit⟩ := h.exists_digit (List.mem_reverse.mp hmem)
  exact hdigit.lt

end XdpSteering.Text.Numeral
