import Mathlib.Data.List.Forall2
import XdpSteering.Proofs.Fallible
import XdpSteering.Text.Numeral

/-!
# Decimal numbers

A number in decimal notation is one or more digits, perhaps behind a sign and with zeros in front.
The digits that a number is written with tell it, also where other text follows. The reader of
integers takes every decimal notation whose number lies in its range, and nothing else. What it does
with digits is said for every radix first.
-/

namespace XdpSteering.Text.Numeral

inductive IsDecimal : List Char → Int → Prop where
  | unsigned {digits : List Char} (ne_nil : digits ≠ [])
      (all_digits : ∀ digit ∈ digits, digit.isDigit) :
      IsDecimal digits (Nat.ofDigitChars 10 digits 0)
  | plus {digits : List Char} (ne_nil : digits ≠ [])
      (all_digits : ∀ digit ∈ digits, digit.isDigit) :
      IsDecimal ('+' :: digits) (Nat.ofDigitChars 10 digits 0)
  | minus {digits : List Char} (ne_nil : digits ≠ [])
      (all_digits : ∀ digit ∈ digits, digit.isDigit) :
      IsDecimal ('-' :: digits) (-(Nat.ofDigitChars 10 digits 0 : Int))

theorem isDigit_of_mem_toDigits {number : Nat} {digit : Char}
    (h : digit ∈ Nat.toDigits 10 number) : digit.isDigit :=
  Nat.isDigit_of_mem_toDigits (by omega) (by omega) h

/-- The usual notation of an integer is one of its decimal notations. -/
theorem isDecimal_toString (number : Int) : IsDecimal (toString number).toList number := by
  have hne (magnitude : Nat) : Nat.toDigits 10 magnitude ≠ [] := Nat.toDigits_ne_nil
  have hall (magnitude : Nat) : ∀ digit ∈ Nat.toDigits 10 magnitude, digit.isDigit :=
    fun _ => isDigit_of_mem_toDigits
  have hvalue (magnitude : Nat) : Nat.ofDigitChars 10 (Nat.toDigits 10 magnitude) 0 = magnitude :=
    Nat.ofDigitChars_ten_toDigits
  cases number with
  | ofNat magnitude =>
    have hdecimal := IsDecimal.unsigned (hne magnitude) (hall magnitude)
    rw [hvalue] at hdecimal
    rw [Int.toString_eq_repr, Int.repr, Nat.toList_repr]
    exact hdecimal
  | negSucc less =>
    have hdecimal := IsDecimal.minus (hne (less + 1)) (hall (less + 1))
    rw [hvalue] at hdecimal
    rw [Int.toString_eq_repr, Int.repr, String.toList_append, Nat.toList_repr]
    exact hdecimal

variable {digits chars : List Char} {digit : Char} {acc limit low high : Nat} {number : Int}
  {overflow : NumeralFault}

/-! ## Digits -/

theorem toDigits_ten_injective : Function.Injective (Nat.toDigits 10) := by
  have hread : Function.LeftInverse (Nat.ofDigitChars 10 · 0) (Nat.toDigits 10) :=
    fun _ => Nat.ofDigitChars_ten_toDigits
  exact hread.injective

/-- A character that is no digit ends the digits in front of it. -/
theorem takeWhile_digits_append_cons (hall : ∀ digit ∈ digits, digit.isDigit) {stop : Char}
    (hstop : ¬ stop.isDigit) (rest : List Char) :
    (digits ++ stop :: rest).takeWhile Char.isDigit = digits := by
  rw [List.takeWhile_append_of_pos hall, List.takeWhile_cons_of_neg hstop, List.append_nil]

/-- Digits and what follows them are told from the text if no digit follows. -/
theorem digits_append_cons_inj {others rest after : List Char}
    (hall : ∀ digit ∈ digits, digit.isDigit) (hothers : ∀ digit ∈ others, digit.isDigit)
    {stop : Char} (hstop : ¬ stop.isDigit) (h : digits ++ stop :: rest = others ++ stop :: after) :
    digits = others ∧ rest = after := by
  have hdigits : digits = others := by
    rw [← takeWhile_digits_append_cons hall hstop rest, h,
      takeWhile_digits_append_cons hothers hstop after]
  rw [hdigits] at h
  exact ⟨hdigits, List.tail_eq_of_cons_eq (List.append_cancel_left h)⟩

/-- A number and what follows it are told from the text if no digit follows. -/
theorem toDigits_append_cons_inj {number other : Nat} {stop : Char} (hstop : ¬ stop.isDigit)
    {rest others : List Char}
    (h : Nat.toDigits 10 number ++ stop :: rest = Nat.toDigits 10 other ++ stop :: others) :
    number = other ∧ rest = others := by
  obtain ⟨hdigits, hrest⟩ := digits_append_cons_inj (fun _ => isDigit_of_mem_toDigits)
    (fun _ => isDigit_of_mem_toDigits) hstop h
  exact ⟨toDigits_ten_injective hdigits, hrest⟩

/-- A number and what stands in front of it are told from the text if no digit is next to it. -/
theorem append_cons_toDigits_inj {number other : Nat} {stop : Char} (hstop : ¬ stop.isDigit)
    {front back : List Char}
    (h : front ++ stop :: Nat.toDigits 10 number = back ++ stop :: Nat.toDigits 10 other) :
    front = back ∧ number = other := by
  have hreverse := congrArg List.reverse h
  simp only [List.reverse_append, List.reverse_cons, List.append_assoc, List.singleton_append]
    at hreverse
  have hall (value : Nat) : ∀ digit ∈ (Nat.toDigits 10 value).reverse, digit.isDigit :=
    fun _ hmem => isDigit_of_mem_toDigits (List.mem_reverse.mp hmem)
  obtain ⟨hdigits, hfront⟩ := digits_append_cons_inj (hall number) (hall other) hstop hreverse
  exact ⟨List.reverse_injective hfront,
    toDigits_ten_injective (List.reverse_injective hdigits)⟩

/-! ## Reading -/

/-- A further digit never makes the value smaller. -/
theorem le_foldl_values {radix : Nat} (hradix : 0 < radix) (values : List Nat) (acc : Nat) :
    acc ≤ values.foldl (fun sum value => sum * radix + value) acc := by
  induction values generalizing acc with
  | nil => exact Nat.le_refl acc
  | cons value rest ih =>
    calc acc ≤ acc * radix := Nat.le_mul_of_pos_right acc hradix
      _ ≤ acc * radix + value := Nat.le_add_right _ _
      _ ≤ _ := ih _

/-- Digits are read when all of them have a value in the radix and the last sum, which is the
largest, is within the limit. -/
theorem readDigits_eq_ok_iff_values {radix value : Nat} (hradix : 0 < radix) (hacc : acc ≤ limit) :
    readDigits radix limit overflow acc chars = .ok value ↔
      ∃ values, List.Forall₂ (fun char value => digit? radix char = some value) chars values ∧
        value = values.foldl (fun sum value => sum * radix + value) acc ∧ value ≤ limit := by
  induction chars generalizing acc with
  | nil =>
    simp only [readDigits, Except.ok.injEq, List.forall₂_nil_left_iff, exists_eq_left,
      List.foldl_nil]
    constructor
    · rintro rfl
      exact ⟨rfl, hacc⟩
    · exact fun h => h.1.symm
  | cons char rest ih =>
    simp only [List.forall₂_cons_left_iff]
    rw [readDigits]
    cases hdigit : digit? radix char with
    | none => simp
    | some first =>
      dsimp only
      split
      · next hover =>
        -- What is too large already only grows.
        refine iff_of_false (by simp) ?_
        rintro ⟨_, ⟨_, others, hfirst, -, rfl⟩, rfl, hlimit⟩
        obtain rfl := Option.some.inj hfirst
        have hgrows := le_foldl_values hradix others (acc * radix + first)
        rw [List.foldl_cons] at hlimit
        omega
      · next hle =>
        rw [ih (Nat.not_lt.mp hle)]
        constructor
        · rintro ⟨others, hothers, hvalue, hlimit⟩
          exact ⟨_, ⟨first, others, rfl, hothers, rfl⟩, hvalue, hlimit⟩
        · rintro ⟨_, ⟨_, others, hfirst, hothers, rfl⟩, hvalue, hlimit⟩
          obtain rfl := Option.some.inj hfirst
          exact ⟨others, hothers, hvalue, hlimit⟩

/-! ### Decimal digits -/

theorem digit?_ten (h : digit.isDigit) : digit? 10 digit = some (digit.toNat - '0'.toNat) := by
  have hzero : '0'.toNat = 48 := rfl
  have hnine : '9'.toNat = 57 := rfl
  rw [Char.isDigit_iff_toNat, hzero, hnine] at h
  have hvalue : digit.toNat - 48 < 10 := by omega
  simp [digit?, h, hzero, Option.filter, hvalue]

theorem isDigit_of_digit?_ten {value : Nat} (h : digit? 10 digit = some value) :
    digit.isDigit ∧ value = digit.toNat - '0'.toNat := by
  have hzero : '0'.toNat = 48 := rfl
  have hnine : '9'.toNat = 57 := rfl
  rw [Char.isDigit_iff_toNat, hzero, hnine]
  obtain ⟨hvalue, hlt⟩ := Option.filter_eq_some_iff.mp h
  have hlt : value < 10 := by simpa using hlt
  split at hvalue
  · next hbounds =>
    have hbounds : 48 ≤ digit.toNat ∧ digit.toNat ≤ 57 := by simpa using hbounds
    exact ⟨hbounds, (Option.some.inj hvalue).symm⟩
  split at hvalue
  · next hbounds =>
    have hbounds : 97 ≤ digit.toNat ∧ digit.toNat ≤ 122 := by simpa using hbounds
    have heq := Option.some.inj hvalue
    omega
  split at hvalue
  · next hbounds =>
    have hbounds : 65 ≤ digit.toNat ∧ digit.toNat ≤ 90 := by simpa using hbounds
    have heq := Option.some.inj hvalue
    omega
  · cases hvalue

/-- Characters have values in the decimal system exactly when they are digits. -/
theorem forall₂_digit?_ten_iff {values : List Nat} :
    List.Forall₂ (fun char value => digit? 10 char = some value) digits values ↔
      (∀ digit ∈ digits, digit.isDigit) ∧
        values = digits.map fun digit => digit.toNat - '0'.toNat := by
  induction digits generalizing values with
  | nil => simp
  | cons digit rest ih =>
    rw [List.forall₂_cons_left_iff, List.forall_mem_cons, List.map_cons]
    constructor
    · rintro ⟨value, others, hvalue, hrest, rfl⟩
      obtain ⟨hdigit, rfl⟩ := isDigit_of_digit?_ten hvalue
      obtain ⟨hall, rfl⟩ := ih.mp hrest
      exact ⟨⟨hdigit, hall⟩, rfl⟩
    · rintro ⟨⟨hdigit, hall⟩, rfl⟩
      exact ⟨_, _, digit?_ten hdigit, ih.mpr ⟨hall, rfl⟩, rfl⟩

theorem readDigits_eq_ok_iff {value : Nat} (hacc : acc ≤ limit) :
    readDigits 10 limit overflow acc digits = .ok value ↔
      (∀ digit ∈ digits, digit.isDigit) ∧ value = Nat.ofDigitChars 10 digits acc ∧
        value ≤ limit := by
  have hsum : (digits.map fun digit => digit.toNat - '0'.toNat).foldl
      (fun sum digit => sum * 10 + digit) acc = Nat.ofDigitChars 10 digits acc := by
    simp only [List.foldl_map, Nat.ofDigitChars, Nat.mul_comm 10]
  rw [readDigits_eq_ok_iff_values (by omega) hacc]
  constructor
  · rintro ⟨values, hvalues, rfl, hlimit⟩
    obtain ⟨hall, rfl⟩ := forall₂_digit?_ten_iff.mp hvalues
    exact ⟨hall, hsum, hlimit⟩
  · rintro ⟨hall, rfl, hlimit⟩
    exact ⟨_, forall₂_digit?_ten_iff.mpr ⟨hall, rfl⟩, hsum.symm, hlimit⟩

theorem readSome_eq_ok (hne : digits ≠ []) (hall : ∀ digit ∈ digits, digit.isDigit)
    (hle : Nat.ofDigitChars 10 digits 0 ≤ limit) :
    readSome 10 limit overflow digits = .ok (Nat.ofDigitChars 10 digits 0) := by
  cases digits with
  | nil => exact absurd rfl hne
  | cons digit rest => exact (readDigits_eq_ok_iff (Nat.zero_le _)).mpr ⟨hall, rfl, hle⟩

theorem ne_of_isDigit {sign : Char} (hdigit : digit.isDigit) (hsign : ¬ sign.isDigit) :
    digit ≠ sign := by
  rintro rfl
  exact hsign hdigit

theorem readSigned_eq_ok (h : IsDecimal chars number) (hlow : -(low : Int) ≤ number)
    (hhigh : number ≤ high) : readSigned 10 low high chars = .ok number := by
  cases h with
  | unsigned hne hall =>
    have hle : Nat.ofDigitChars 10 chars 0 ≤ high := by omega
    cases chars with
    | nil => exact absurd rfl hne
    | cons first rest =>
      have hdigit : first.isDigit := hall first List.mem_cons_self
      have hplus : first ≠ '+' := ne_of_isDigit hdigit (by decide)
      have hminus : first ≠ '-' := ne_of_isDigit hdigit (by decide)
      rw [readSigned, readSome_eq_ok hne hall hle]
      · rfl
      · simp
      · simpa using hplus
      · simpa using hminus
  | plus hne hall =>
    rw [readSigned, readSome_eq_ok hne hall (by omega)]
    rfl
  | minus hne hall =>
    rw [readSigned, readSome_eq_ok hne hall (by omega)]
    rfl

/-- The characters spell one number only. -/
theorem IsDecimal.unique {other : Int} (h : IsDecimal chars number)
    (hother : IsDecimal chars other) : number = other := by
  have hlow : -((number.natAbs + other.natAbs : Nat) : Int) ≤ number := by omega
  have hhigh : number ≤ (number.natAbs + other.natAbs : Nat) := by omega
  have hread := readSigned_eq_ok h hlow hhigh
  exact Except.ok.inj (hread.symm.trans (readSigned_eq_ok hother (by omega) (by omega)))

/-! ## What was read -/

theorem digits_of_readSome {value : Nat} (h : readSome 10 limit overflow digits = .ok value) :
    digits ≠ [] ∧ (∀ digit ∈ digits, digit.isDigit) ∧ value = Nat.ofDigitChars 10 digits 0 ∧
      value ≤ limit := by
  cases digits with
  | nil => cases h
  | cons digit rest =>
    exact ⟨List.cons_ne_nil _ _, (readDigits_eq_ok_iff (Nat.zero_le _)).mp h⟩

/-- What is read is a decimal notation of a number in the range. -/
theorem isDecimal_of_readSigned (h : readSigned 10 low high chars = .ok number) :
    IsDecimal chars number ∧ -(low : Int) ≤ number ∧ number ≤ high := by
  unfold readSigned at h
  split at h
  · cases h
  · next digits =>
    obtain ⟨value, hvalue, rfl⟩ := Fallible.map_eq_ok_iff.mp h
    obtain ⟨hne, hall, rfl, hle⟩ := digits_of_readSome hvalue
    have hcast := Int.ofNat_eq_natCast (Nat.ofDigitChars 10 digits 0)
    exact ⟨.plus hne hall, by omega, by omega⟩
  · next digits =>
    obtain ⟨value, hvalue, rfl⟩ := Fallible.map_eq_ok_iff.mp h
    obtain ⟨hne, hall, rfl, hle⟩ := digits_of_readSome hvalue
    have hcast := Int.ofNat_eq_natCast (Nat.ofDigitChars 10 digits 0)
    exact ⟨.minus hne hall, by omega, by omega⟩
  · obtain ⟨value, hvalue, rfl⟩ := Fallible.map_eq_ok_iff.mp h
    obtain ⟨hne, hall, rfl, hle⟩ := digits_of_readSome hvalue
    have hcast := Int.ofNat_eq_natCast (Nat.ofDigitChars 10 chars 0)
    exact ⟨.unsigned hne hall, by omega, by omega⟩

/-- A decimal notation begins with a digit or with a sign, and with a digit or a plus sign if the
number is positive. -/
theorem IsDecimal.exists_first (h : IsDecimal chars number) :
    ∃ first rest, chars = first :: rest ∧
      (first.isDigit ∨ first = '+' ∨ (first = '-' ∧ number ≤ 0)) := by
  cases h with
  | unsigned hne hall =>
    obtain ⟨first, rest, rfl⟩ := List.exists_cons_of_ne_nil hne
    exact ⟨first, rest, rfl, .inl (hall first List.mem_cons_self)⟩
  | plus hne hall => exact ⟨_, _, rfl, .inr (.inl rfl)⟩
  | minus hne hall => exact ⟨_, _, rfl, .inr (.inr ⟨rfl, by omega⟩)⟩

/-- Without a minus sign, the decimal notations are read of the numbers up to the largest. -/
theorem readUnsigned_eq_ok_iff {value : Nat} :
    readUnsigned 10 high chars = .ok value ↔
      IsDecimal chars value ∧ chars.head? ≠ some '-' ∧ value ≤ high := by
  constructor
  · intro h
    unfold readUnsigned at h
    split at h
    · cases h
    · obtain ⟨hne, hall, rfl, hle⟩ := digits_of_readSome h
      exact ⟨.plus hne hall, by simp, hle⟩
    · obtain ⟨hne, hall, rfl, hle⟩ := digits_of_readSome h
      refine ⟨.unsigned hne hall, fun hhead => ?_, hle⟩
      exact ne_of_isDigit (hall '-' (List.mem_of_head? hhead)) (by decide) rfl
  · rintro ⟨hdecimal, hminus, hle⟩
    generalize hnumber : (value : Int) = number at hdecimal
    cases hdecimal with
    | unsigned hne hall =>
      obtain rfl := Int.ofNat_inj.mp hnumber
      cases chars with
      | nil => exact absurd rfl hne
      | cons first rest =>
        have hplus : first ≠ '+' := ne_of_isDigit (hall first List.mem_cons_self) (by decide)
        rw [readUnsigned, readSome_eq_ok hne hall hle]
        · simp
        · simpa using hplus
    | plus hne hall =>
      obtain rfl := Int.ofNat_inj.mp hnumber
      exact readSome_eq_ok hne hall hle
    | minus hne hall => exact absurd rfl hminus

end XdpSteering.Text.Numeral
