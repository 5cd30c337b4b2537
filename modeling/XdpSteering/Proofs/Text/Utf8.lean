import XdpSteering.Text.Utf8

/-!
# Reading back encoded text

The octets that encode a character are read as this character, whatever stands behind them. Text
that is encoded and decoded is therefore the same text.
-/

namespace XdpSteering.Text.Utf8

theorem scanFrom_cons (state : State) (octet : UInt8) (rest : Octets) :
    scanFrom state (octet :: rest)
      = (step state octet).1 ++ scanFrom (step state octet).2 rest := by
  cases state <;> rfl

/-! ## First octets -/

theorem first_of_single {value : Nat} (h : value < 0x80) :
    first (UInt8.ofNat value) = ([some (Char.ofNat value)], .start) := by
  have hvalue : (UInt8.ofNat value).toNat = value :=
    UInt8.toNat_ofNat_of_lt' (show value < 256 by omega)
  have hlt : UInt8.ofNat value < 0x80 := by
    rw [UInt8.lt_iff_toNat_lt, hvalue]
    exact h
  rw [first, if_pos hlt, hvalue]

theorem first_of_pair : ∀ lead < 32, 2 ≤ lead →
    first (UInt8.ofNat (lead + 192)) = ([], .inside 0 0x80 0xBF lead) := by
  decide

theorem first_of_triple : ∀ lead < 16, first (UInt8.ofNat (lead + 224)) =
    ([], .inside 1 (if lead = 0 then 0xA0 else 0x80) (if lead = 13 then 0x9F else 0xBF) lead) := by
  decide

theorem first_of_quadruple : ∀ lead < 5, first (UInt8.ofNat (lead + 240)) =
    ([], .inside 2 (if lead = 0 then 0x90 else 0x80) (if lead = 4 then 0x8F else 0xBF) lead) := by
  decide

/-! ## Further octets -/

section Inside

variable {owed value bits : Nat} {low high : UInt8}

private theorem toNat_ofNat_bits (h : bits < 64) : (UInt8.ofNat (bits + 128)).toNat = bits + 128 :=
  UInt8.toNat_ofNat_of_lt' (show bits + 128 < 256 by omega)

private theorem within_of_bounds (h : bits < 64) (hlow : low.toNat ≤ bits + 128)
    (hhigh : bits + 128 ≤ high.toNat) :
    (low ≤ UInt8.ofNat (bits + 128) && UInt8.ofNat (bits + 128) ≤ high) = true := by
  simp only [Bool.and_eq_true, decide_eq_true_eq, UInt8.le_iff_toNat_le, toNat_ofNat_bits h]
  exact ⟨hlow, hhigh⟩

theorem step_last (h : bits < 64) (hlow : low.toNat ≤ bits + 128)
    (hhigh : bits + 128 ≤ high.toNat) :
    step (.inside 0 low high value) (UInt8.ofNat (bits + 128))
      = ([some (Char.ofNat (value * 64 + bits))], .start) := by
  rw [step, if_pos (within_of_bounds h hlow hhigh), toNat_ofNat_bits h, Nat.add_sub_cancel]

theorem step_middle (h : bits < 64) (hlow : low.toNat ≤ bits + 128)
    (hhigh : bits + 128 ≤ high.toNat) :
    step (.inside (owed + 1) low high value) (UInt8.ofNat (bits + 128))
      = ([], .inside owed 0x80 0xBF (value * 64 + bits)) := by
  rw [step, if_pos (within_of_bounds h hlow hhigh), toNat_ofNat_bits h, Nat.add_sub_cancel]

end Inside

/-! ## Characters and texts -/

/-- The bounds that a first octet of three sets on the next one admit every character. -/
private theorem triple_bounds {v : Nat} (hlong : 2047 < v) (hshort : v ≤ 65535)
    (hvalid : v < 0xD800 ∨ 0xDFFF < v ∧ v < 0x110000) :
    (if v / 4096 % 16 = 0 then 0xA0 else 0x80 : UInt8).toNat ≤ v / 64 % 64 + 128 ∧
      v / 64 % 64 + 128 ≤ (if v / 4096 % 16 = 13 then 0x9F else 0xBF : UInt8).toNat := by
  constructor
  · split
    · have hnat : (0xA0 : UInt8).toNat = 160 := rfl
      omega
    · have hnat : (0x80 : UInt8).toNat = 128 := rfl
      omega
  · split
    · have hnat : (0x9F : UInt8).toNat = 159 := rfl
      omega
    · have hnat : (0xBF : UInt8).toNat = 191 := rfl
      omega

/-- The bounds that a first octet of four sets on the next one admit every character. -/
private theorem quadruple_bounds {v : Nat} (hlong : 65535 < v)
    (hvalid : v < 0xD800 ∨ 0xDFFF < v ∧ v < 0x110000) :
    (if v / 262144 % 8 = 0 then 0x90 else 0x80 : UInt8).toNat ≤ v / 4096 % 64 + 128 ∧
      v / 4096 % 64 + 128 ≤ (if v / 262144 % 8 = 4 then 0x8F else 0xBF : UInt8).toNat := by
  constructor
  · split
    · have hnat : (0x90 : UInt8).toNat = 144 := rfl
      omega
    · have hnat : (0x80 : UInt8).toNat = 128 := rfl
      omega
  · split
    · have hnat : (0x8F : UInt8).toNat = 143 := rfl
      omega
    · have hnat : (0xBF : UInt8).toNat = 191 := rfl
      omega

theorem scan_utf8EncodeChar_append (char : Char) (rest : Octets) :
    scan (String.utf8EncodeChar char ++ rest) = some char :: scan rest := by
  have hvalid : char.val.toNat < 0xD800 ∨ 0xDFFF < char.val.toNat ∧ char.val.toNat < 0x110000 :=
    char.valid
  have hchar : Char.ofNat char.val.toNat = char := Char.ofNat_toNat char
  have hleast : (0x80 : UInt8).toNat = 128 := rfl
  have hmost : (0xBF : UInt8).toNat = 191 := rfl
  unfold String.utf8EncodeChar scan
  generalize char.val.toNat = v at hvalid hchar
  dsimp only
  split
  · next hone =>
    rw [List.singleton_append, scanFrom_cons, step, first_of_single (by omega), hchar]
    rfl
  split
  · next hone htwo =>
    have hv : v / 64 % 32 * 64 + v % 64 = v := by omega
    simp only [List.cons_append, List.nil_append, scanFrom_cons]
    rw [step, first_of_pair _ (by omega) (by omega),
      step_last (by omega) (by omega) (by omega), hv, hchar]
    rfl
  split
  · next htwo hthree =>
    have hv : (v / 4096 % 16 * 64 + v / 64 % 64) * 64 + v % 64 = v := by omega
    obtain ⟨hlow, hhigh⟩ := triple_bounds (by omega) hthree hvalid
    simp only [List.cons_append, List.nil_append, scanFrom_cons]
    rw [step, first_of_triple _ (by omega), step_middle (by omega) hlow hhigh,
      step_last (by omega) (by omega) (by omega), hv, hchar]
    rfl
  · next hthree =>
    have hv : ((v / 262144 % 8 * 64 + v / 4096 % 64) * 64 + v / 64 % 64) * 64 + v % 64 = v := by
      omega
    obtain ⟨hlow, hhigh⟩ := quadruple_bounds (by omega) hvalid
    simp only [List.cons_append, List.nil_append, scanFrom_cons]
    rw [step, first_of_quadruple _ (by omega), step_middle (by omega) hlow hhigh,
      step_middle (by omega) (by omega) (by omega), step_last (by omega) (by omega) (by omega), hv,
      hchar]
    rfl

theorem scan_encode (text : String) : scan (encode text) = text.toList.map some := by
  unfold encode
  induction text.toList with
  | nil => rfl
  | cons char rest ih => rw [List.flatMap_cons, scan_utf8EncodeChar_append, ih, List.map_cons]

theorem decode?_encode (text : String) : decode? (encode text) = some text := by
  have hall : ∀ chars : List Char, (chars.map some).mapM id = some chars := by
    intro chars
    induction chars with
    | nil => rfl
    | cons char rest ih => simp [ih]
  rw [decode?, scan_encode, hall, Option.map_some, String.ofList_toList]

theorem encode_inj {text other : String} (h : encode text = encode other) : text = other := by
  have hdecode := decode?_encode text
  rw [h, decode?_encode] at hdecode
  exact (Option.some.inj hdecode).symm

theorem encode_append (text other : String) :
    encode (text ++ other) = encode text ++ encode other := by
  rw [encode, String.toList_append, List.flatMap_append, encode, encode]

/-- An octet below 128 is a character of its own. -/
theorem toNat_eq_of_mem_utf8EncodeChar {char : Char} {octet : UInt8}
    (h : octet ∈ String.utf8EncodeChar char) (hoctet : octet.toNat < 128) :
    char.val.toNat = octet.toNat := by
  unfold String.utf8EncodeChar at h
  generalize char.val.toNat = v at h ⊢
  dsimp only at h
  split at h
  · obtain rfl := List.mem_singleton.mp h
    rw [UInt8.toNat_ofNat']
    omega
  · have hlarge : 128 ≤ octet.toNat := by
      split at h
      · simp only [List.mem_cons, List.not_mem_nil, or_false] at h
        rcases h with rfl | rfl <;> simp only [UInt8.toNat_ofNat'] <;> omega
      split at h
      · simp only [List.mem_cons, List.not_mem_nil, or_false] at h
        rcases h with rfl | rfl | rfl <;> simp only [UInt8.toNat_ofNat'] <;> omega
      · simp only [List.mem_cons, List.not_mem_nil, or_false] at h
        rcases h with rfl | rfl | rfl | rfl <;> simp only [UInt8.toNat_ofNat'] <;> omega
    exact absurd hoctet (Nat.not_lt.mpr hlarge)

theorem mem_toList_of_mem_encode {char : Char} {text : String} (hchar : char.val.toNat < 128)
    (h : UInt8.ofNat char.val.toNat ∈ encode text) : char ∈ text.toList := by
  obtain ⟨found, hfound, hmem⟩ := List.mem_flatMap.mp h
  have hoctet : (UInt8.ofNat char.val.toNat).toNat = char.val.toNat := by
    rw [UInt8.toNat_ofNat']
    omega
  have hsame : found.val.toNat = char.val.toNat :=
    (toNat_eq_of_mem_utf8EncodeChar hmem (by omega)).trans hoctet
  have heq : found = char := Char.ext (UInt32.toNat_inj.mp hsame)
  exact heq ▸ hfound

end XdpSteering.Text.Utf8
