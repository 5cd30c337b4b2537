import Mathlib.Tactic.Common
import XdpSteering.Proofs.Text.Utf8

/-!
# Which octets are read as a character

Octets that are read as a character are those that encode it: no longer form is accepted, and no
surrogate. Octets that are read as a text are therefore its encoding.
-/

namespace XdpSteering.Text.Utf8

variable {owed value : Nat} {low high octet : UInt8} {octets : Octets} {char : Char}
  {chars : List (Option Char)}

/-! ## First octets -/

theorem eq_ofNat_of_toNat_eq (h : octet.toNat = value) : octet = UInt8.ofNat value := by
  rw [← h, UInt8.ofNat_toNat]

theorem first_eq_none (h : 128 ≤ octet.toNat ∧ octet.toNat < 194 ∨ 245 ≤ octet.toNat) :
    first octet = ([none], .start) := by
  have hsingle : ¬ octet.toNat < (0x80 : UInt8).toNat := by
    have hnat : (0x80 : UInt8).toNat = 128 := rfl
    omega
  simp only [first, UInt8.lt_iff_toNat_lt, if_neg hsingle]
  rcases h with ⟨_, hlow⟩ | hhigh
  · rw [if_pos (show octet.toNat < (0xC2 : UInt8).toNat from hlow)]
  · have hpast : ∀ bound : UInt8, bound.toNat ≤ 245 → ¬ octet.toNat < bound.toNat := by
      intro bound hbound
      omega
    rw [if_neg (hpast 0xC2 (by decide)), if_neg (hpast 0xE0 (by decide)),
      if_neg (hpast 0xF0 (by decide)), if_neg (hpast 0xF5 (by decide))]

/-- An octet is a character by itself, begins a longer one, or spoils what begins with it. -/
theorem first_cases (octet : UInt8) :
    (∃ value < 128, octet = UInt8.ofNat value) ∨
      (∃ lead < 32, 2 ≤ lead ∧ octet = UInt8.ofNat (lead + 192)) ∨
      (∃ lead < 16, octet = UInt8.ofNat (lead + 224)) ∨
      (∃ lead < 5, octet = UInt8.ofNat (lead + 240)) ∨ first octet = ([none], .start) := by
  have hlt : octet.toNat < 256 := octet.toNat_lt
  by_cases hsingle : octet.toNat < 128
  · exact .inl ⟨octet.toNat, hsingle, eq_ofNat_of_toNat_eq rfl⟩
  by_cases hpair : 194 ≤ octet.toNat ∧ octet.toNat < 224
  · exact .inr (.inl ⟨octet.toNat - 192, by omega, by omega, eq_ofNat_of_toNat_eq (by omega)⟩)
  by_cases htriple : 224 ≤ octet.toNat ∧ octet.toNat < 240
  · exact .inr (.inr (.inl ⟨octet.toNat - 224, by omega, eq_ofNat_of_toNat_eq (by omega)⟩))
  by_cases hquadruple : 240 ≤ octet.toNat ∧ octet.toNat < 245
  · exact .inr (.inr (.inr (.inl ⟨octet.toNat - 240, by omega, eq_ofNat_of_toNat_eq (by omega)⟩)))
  exact .inr (.inr (.inr (.inr (first_eq_none (by omega)))))

/-! ## Further octets -/

section Inside

variable (hlow : 128 ≤ low.toNat) (hhigh : high.toNat ≤ 191)

include hlow hhigh

/-- A character goes on with an octet within the bounds. -/
theorem exists_bits_of_scanFrom
    (h : scanFrom (.inside owed low high value) octets = some char :: chars) :
    ∃ bits < 64, low.toNat ≤ bits + 128 ∧ bits + 128 ≤ high.toNat ∧
      ∃ others, octets = UInt8.ofNat (bits + 128) :: others := by
  cases octets with
  | nil => cases h
  | cons octet others =>
    rw [scanFrom_cons] at h
    by_cases hwithin : (low ≤ octet && octet ≤ high) = true
    · simp only [Bool.and_eq_true, decide_eq_true_eq, UInt8.le_iff_toNat_le] at hwithin
      have hoctet : octet = UInt8.ofNat (octet.toNat - 128 + 128) := eq_ofNat_of_toNat_eq (by omega)
      exact ⟨octet.toNat - 128, by omega, by omega, by omega, others, congrArg (· :: others) hoctet⟩
    · rw [step, if_neg hwithin] at h
      cases h

theorem last_of_scanFrom (h : scanFrom (.inside 0 low high value) octets = some char :: chars) :
    ∃ bits < 64, low.toNat ≤ bits + 128 ∧ bits + 128 ≤ high.toNat ∧
      ∃ others, octets = UInt8.ofNat (bits + 128) :: others ∧
        char = Char.ofNat (value * 64 + bits) ∧ scan others = chars := by
  obtain ⟨bits, hbits, hleast, hmost, others, rfl⟩ := exists_bits_of_scanFrom hlow hhigh h
  rw [scanFrom_cons, step_last hbits hleast hmost] at h
  obtain ⟨hchar, hrest⟩ := List.cons.inj h
  exact ⟨bits, hbits, hleast, hmost, others, rfl, (Option.some.inj hchar).symm, hrest⟩

theorem middle_of_scanFrom
    (h : scanFrom (.inside (owed + 1) low high value) octets = some char :: chars) :
    ∃ bits < 64, low.toNat ≤ bits + 128 ∧ bits + 128 ≤ high.toNat ∧
      ∃ others, octets = UInt8.ofNat (bits + 128) :: others ∧
        scanFrom (.inside owed 0x80 0xBF (value * 64 + bits)) others = some char :: chars := by
  obtain ⟨bits, hbits, hleast, hmost, others, rfl⟩ := exists_bits_of_scanFrom hlow hhigh h
  rw [scanFrom_cons, step_middle hbits hleast hmost] at h
  exact ⟨bits, hbits, hleast, hmost, others, rfl, h⟩

end Inside

/-! ## Characters and texts -/

theorem utf8EncodeChar_ofNat (h : value.isValidChar) :
    String.utf8EncodeChar (Char.ofNat value) =
      if value ≤ 0x7F then [UInt8.ofNat value]
      else if value ≤ 0x7FF then
        [UInt8.ofNat (value / 64 % 32 + 192), UInt8.ofNat (value % 64 + 128)]
      else if value ≤ 0xFFFF then
        [UInt8.ofNat (value / 4096 % 16 + 224), UInt8.ofNat (value / 64 % 64 + 128),
          UInt8.ofNat (value % 64 + 128)]
      else
        [UInt8.ofNat (value / 262144 % 8 + 240), UInt8.ofNat (value / 4096 % 64 + 128),
          UInt8.ofNat (value / 64 % 64 + 128), UInt8.ofNat (value % 64 + 128)] := by
  have hvalue : (Char.ofNat value).val.toNat = value := by
    rw [Char.ofNat, dif_pos h]
    rfl
  simp only [String.utf8EncodeChar, hvalue]

section Longer

variable {lead : Nat}

theorem pair_of_scanFrom (hlead : lead < 32) (htwo : 2 ≤ lead)
    (h : scanFrom (.inside 0 0x80 0xBF lead) octets = some char :: chars) :
    ∃ others, UInt8.ofNat (lead + 192) :: octets = String.utf8EncodeChar char ++ others ∧
      scan others = chars := by
  obtain ⟨bits, hbits, -, -, others, rfl, rfl, hrest⟩ := last_of_scanFrom (by decide) (by decide) h
  refine ⟨others, ?_, hrest⟩
  have hfirst : (lead * 64 + bits) / 64 % 32 = lead := by omega
  have hlast : (lead * 64 + bits) % 64 = bits := by omega
  rw [utf8EncodeChar_ofNat (.inl (by omega)), if_neg (by omega), if_pos (by omega), hfirst, hlast]
  rfl

/-- The bounds on the second octet keep out what is too long and what is no character. -/
theorem triple_of_scanFrom (hlead : lead < 16)
    (h : scanFrom (.inside 1 (if lead = 0 then 0xA0 else 0x80) (if lead = 13 then 0x9F else 0xBF)
      lead) octets = some char :: chars) :
    ∃ others, UInt8.ofNat (lead + 224) :: octets = String.utf8EncodeChar char ++ others ∧
      scan others = chars := by
  obtain ⟨high, hhigh, hleast, hmost, between, rfl, htail⟩ :=
    middle_of_scanFrom (by split <;> decide) (by split <;> decide) h
  obtain ⟨bits, hbits, -, -, others, rfl, rfl, hrest⟩ :=
    last_of_scanFrom (by decide) (by decide) htail
  refine ⟨others, ?_, hrest⟩
  have hlong : lead = 0 → 32 ≤ high := by
    intro hzero
    have hnat : (0xA0 : UInt8).toNat = 160 := rfl
    rw [if_pos hzero] at hleast
    omega
  have hsurrogate : lead = 13 → high < 32 := by
    intro hthirteen
    have hnat : (0x9F : UInt8).toNat = 159 := rfl
    rw [if_pos hthirteen] at hmost
    omega
  have hvalid : ((lead * 64 + high) * 64 + bits).isValidChar := by
    by_cases hlower : lead ≤ 13
    · exact .inl (by omega)
    · exact .inr (by omega)
  have hfirst : ((lead * 64 + high) * 64 + bits) / 4096 % 16 = lead := by omega
  have hmiddle : ((lead * 64 + high) * 64 + bits) / 64 % 64 = high := by omega
  have hlast : ((lead * 64 + high) * 64 + bits) % 64 = bits := by omega
  rw [utf8EncodeChar_ofNat hvalid, if_neg (by omega), if_neg (by omega), if_pos (by omega),
    hfirst, hmiddle, hlast]
  rfl

theorem quadruple_of_scanFrom (hlead : lead < 5)
    (h : scanFrom (.inside 2 (if lead = 0 then 0x90 else 0x80) (if lead = 4 then 0x8F else 0xBF)
      lead) octets = some char :: chars) :
    ∃ others, UInt8.ofNat (lead + 240) :: octets = String.utf8EncodeChar char ++ others ∧
      scan others = chars := by
  obtain ⟨high, hhigh, hleast, hmost, behind, rfl, htail⟩ :=
    middle_of_scanFrom (by split <;> decide) (by split <;> decide) h
  obtain ⟨low, hlow, -, -, between, rfl, hlater⟩ := middle_of_scanFrom (by decide) (by decide) htail
  obtain ⟨bits, hbits, -, -, others, rfl, rfl, hrest⟩ :=
    last_of_scanFrom (by decide) (by decide) hlater
  refine ⟨others, ?_, hrest⟩
  have hlong : lead = 0 → 16 ≤ high := by
    intro hzero
    have hnat : (0x90 : UInt8).toNat = 144 := rfl
    rw [if_pos hzero] at hleast
    omega
  have hlargest : lead = 4 → high < 16 := by
    intro hfour
    have hnat : (0x8F : UInt8).toNat = 143 := rfl
    rw [if_pos hfour] at hmost
    omega
  have hvalid : (((lead * 64 + high) * 64 + low) * 64 + bits).isValidChar := .inr (by omega)
  have hfirst : (((lead * 64 + high) * 64 + low) * 64 + bits) / 262144 % 8 = lead := by omega
  have hsecond : (((lead * 64 + high) * 64 + low) * 64 + bits) / 4096 % 64 = high := by omega
  have hthird : (((lead * 64 + high) * 64 + low) * 64 + bits) / 64 % 64 = low := by omega
  have hlast : (((lead * 64 + high) * 64 + low) * 64 + bits) % 64 = bits := by omega
  rw [utf8EncodeChar_ofNat hvalid, if_neg (by omega), if_neg (by omega), if_neg (by omega),
    hfirst, hsecond, hthird, hlast]
  rfl

end Longer

/-- The octets that are read as a character are those that encode it. -/
theorem eq_utf8EncodeChar_append (h : scan octets = some char :: chars) :
    ∃ others, octets = String.utf8EncodeChar char ++ others ∧ scan others = chars := by
  cases octets with
  | nil => cases h
  | cons octet tail =>
    rw [scan, scanFrom_cons, step] at h
    rcases first_cases octet with ⟨value, hvalue, rfl⟩ | ⟨lead, hlead, htwo, rfl⟩ |
      ⟨lead, hlead, rfl⟩ | ⟨lead, hlead, rfl⟩ | hnone
    · rw [first_of_single hvalue] at h
      obtain ⟨hchar, hrest⟩ := List.cons.inj h
      refine ⟨tail, ?_, hrest⟩
      rw [← Option.some.inj hchar, utf8EncodeChar_ofNat (.inl (by omega)), if_pos (by omega)]
      rfl
    · rw [first_of_pair lead hlead htwo] at h
      exact pair_of_scanFrom hlead htwo h
    · rw [first_of_triple lead hlead] at h
      exact triple_of_scanFrom hlead h
    · rw [first_of_quadruple lead hlead] at h
      exact quadruple_of_scanFrom hlead h
    · rw [hnone] at h
      cases h

theorem scanFrom_inside_ne_nil (octets : Octets) :
    scanFrom (.inside owed low high value) octets ≠ [] := by
  induction octets generalizing owed low high value with
  | nil => exact List.cons_ne_nil _ _
  | cons octet rest ih =>
    rw [scanFrom_cons, step]
    split
    · cases owed with
      | zero => exact List.cons_ne_nil _ _
      | succ owed => exact ih
    · exact List.cons_ne_nil _ _

theorem eq_nil_of_scan_eq_nil (h : scan octets = []) : octets = [] := by
  cases octets with
  | nil => rfl
  | cons octet tail =>
    rw [scan, scanFrom_cons, step] at h
    rcases first_cases octet with ⟨value, hvalue, rfl⟩ | ⟨lead, hlead, htwo, rfl⟩ |
      ⟨lead, hlead, rfl⟩ | ⟨lead, hlead, rfl⟩ | hnone
    · rw [first_of_single hvalue] at h
      cases h
    · rw [first_of_pair lead hlead htwo] at h
      exact absurd h (scanFrom_inside_ne_nil tail)
    · rw [first_of_triple lead hlead] at h
      exact absurd h (scanFrom_inside_ne_nil tail)
    · rw [first_of_quadruple lead hlead] at h
      exact absurd h (scanFrom_inside_ne_nil tail)
    · rw [hnone] at h
      cases h

theorem eq_flatMap_utf8EncodeChar {text : List Char} (h : scan octets = text.map some) :
    octets = text.flatMap String.utf8EncodeChar := by
  induction text generalizing octets with
  | nil => exact eq_nil_of_scan_eq_nil h
  | cons char rest ih =>
    obtain ⟨others, rfl, hothers⟩ := eq_utf8EncodeChar_append h
    rw [List.flatMap_cons, ← ih hothers]

theorem eq_map_some_of_mapM {marks : List (Option Char)} {text : List Char}
    (h : marks.mapM id = some text) : marks = text.map some := by
  induction marks generalizing text with
  | nil =>
    obtain rfl := Option.some.inj h
    rfl
  | cons mark rest ih =>
    rw [List.mapM_cons] at h
    obtain ⟨char, hchar, h⟩ := Option.bind_eq_some_iff.mp h
    obtain ⟨others, hothers, h⟩ := Option.bind_eq_some_iff.mp h
    obtain rfl := Option.some.inj h
    rw [List.map_cons, ← ih hothers, ← hchar, id]

/-- Octets are the text that they encode, and no other text. -/
theorem decode?_eq_some_iff {text : String} :
    decode? octets = some text ↔ octets = encode text := by
  constructor
  · intro h
    obtain ⟨chars, hchars, rfl⟩ := Option.map_eq_some_iff.mp h
    rw [encode, String.toList_ofList]
    exact eq_flatMap_utf8EncodeChar (eq_map_some_of_mapM hchars)
  · rintro rfl
    exact decode?_encode text

end XdpSteering.Text.Utf8
