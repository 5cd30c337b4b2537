import Mathlib.Data.List.Infix
import XdpSteering.Capability
import XdpSteering.Proofs.Fallible
import XdpSteering.Proofs.Text.Hexadecimal

/-!
# The mask in a status text

A status text gives a mask of capabilities if the first of its lines with the label goes on with a
hexadecimal number of at most 64 bits, perhaps between blanks. Nothing else in the text counts.
-/

namespace XdpSteering.Capability

open Text Fallible
open Text.Numeral (IsHexadecimal ofHex)

variable {line rest text field other : List Char} {status : String} {mask : UInt64}
  {values : List Nat} {lines : List (List Char)}

/-! ## Lines -/

inductive LineEnd : List Char → Prop where
  | feed : LineEnd ['\n']
  | returnAndFeed : LineEnd ['\r', '\n']

/-- The text goes on with `field` behind the label of the first line that has it. -/
inductive FirstField : List Char → List Char → Prop where
  /-- The first line has the label, and is the last one. -/
  | last {field : List Char} (single : '\n' ∉ field) : FirstField (maskLabel ++ field) field
  /-- The first line has the label. -/
  | first {field ending : List Char} (rest : List Char) (single : '\n' ∉ field)
      (ends : LineEnd ending) : FirstField (maskLabel ++ field ++ ending ++ rest) field
  /-- The first line has no label. -/
  | later {line ending text field : List Char} (single : '\n' ∉ line)
      (unlabelled : ¬ maskLabel <+: line) (ends : LineEnd ending)
      (onward : FirstField text field) : FirstField (line ++ ending ++ text) field

/-- A line as it is read: a carriage return at its end may belong to the end of the line. -/
def IsReadAs (line read : List Char) : Prop := line = read ∨ line = read ++ ['\r']

theorem isReadAs_withoutReturn (line : List Char) : IsReadAs line (withoutReturn line) := by
  unfold withoutReturn
  split
  · next hlast =>
    obtain ⟨front, rfl⟩ := List.getLast?_eq_some_iff.mp hlast
    exact .inr (by rw [List.dropLast_concat])
  · exact .inl rfl

theorem linesOf_single (hsingle : '\n' ∉ line) (hne : line ≠ []) : linesOf line = [line] := by
  have hpieces : line.splitOn '\n' = [line] := List.splitOn_eq_singleton hsingle
  simp [linesOf, hpieces]

/-- The lines of a text are its first one and those of the rest. -/
theorem linesOf_cons (hsingle : '\n' ∉ line) (rest : List Char) :
    linesOf (line ++ '\n' :: rest) = withoutReturn line :: linesOf rest := by
  have hpieces : (line ++ '\n' :: rest).splitOn '\n' = line :: rest.splitOn '\n' :=
    List.splitOn_append_cons_self_of_not_mem hsingle rest
  obtain ⟨piece, pieces, hrest⟩ := List.exists_cons_of_ne_nil (List.splitOn_ne_nil '\n' rest)
  simp only [linesOf, hpieces, hrest, List.getLast?_cons_cons, List.dropLast_cons_cons,
    List.map_cons]
  split <;> rfl

/-! ## The first line with the label -/

variable {read : List Char}

theorem IsReadAs.isPrefixOf_iff (h : IsReadAs line read) :
    maskLabel.isPrefixOf read = true ↔ maskLabel <+: line := by
  rw [List.isPrefixOf_iff_prefix]
  rcases h with rfl | rfl
  · exact Iff.rfl
  · rw [List.prefix_concat_iff]
    refine (or_iff_right fun heq => ?_).symm
    have hmem : '\r' ∈ maskLabel := heq ▸ List.mem_append_right _ List.mem_cons_self
    exact absurd hmem (by decide)

theorem blanks_return : Blanks ['\r'] := List.forall_mem_singleton.mpr rfl

/-- What a line goes on with is the same without the carriage return, up to blanks. -/
theorem IsReadAs.trim_drop (h : IsReadAs line read) (hlabel : maskLabel <+: line) :
    trim (read.drop maskLabel.length) = trim (line.drop maskLabel.length) := by
  have hread := List.isPrefixOf_iff_prefix.mp (h.isPrefixOf_iff.mpr hlabel)
  rcases h with rfl | rfl
  · rfl
  · rw [List.drop_append_of_le_length hread.length_le, trim_append_right blanks_return]

def field? (text : List Char) : Option (List Char) :=
  ((linesOf text).find? maskLabel.isPrefixOf).map fun line => trim (line.drop maskLabel.length)

theorem field?_of_labelled (hlines : linesOf text = read :: lines)
    (hread : IsReadAs (maskLabel ++ field) read) : field? text = some (trim field) := by
  have hlabel : maskLabel <+: maskLabel ++ field := List.prefix_append _ _
  rw [field?, hlines, List.find?_cons_of_pos (hread.isPrefixOf_iff.mpr hlabel), Option.map_some,
    hread.trim_drop hlabel, List.drop_left]

theorem field?_of_unlabelled (hlines : linesOf text = read :: linesOf rest)
    (hread : IsReadAs line read) (hlabel : ¬ maskLabel <+: line) : field? text = field? rest := by
  rw [field?, hlines, List.find?_cons_of_neg (fun h => hlabel (hread.isPrefixOf_iff.mp h)), field?]

theorem field?_cons_of_labelled (hsingle : '\n' ∉ maskLabel ++ field) (rest : List Char) :
    field? (maskLabel ++ field ++ '\n' :: rest) = some (trim field) :=
  field?_of_labelled (linesOf_cons hsingle rest) (isReadAs_withoutReturn _)

theorem field?_cons_of_unlabelled (hsingle : '\n' ∉ line) (hlabel : ¬ maskLabel <+: line)
    (rest : List Char) : field? (line ++ '\n' :: rest) = field? rest :=
  field?_of_unlabelled (linesOf_cons hsingle rest) (isReadAs_withoutReturn _) hlabel

theorem notMem_maskLabel_append (h : '\n' ∉ field) : '\n' ∉ maskLabel ++ field := by
  rw [List.mem_append, not_or]
  exact ⟨by decide, h⟩

theorem maskLabel_append_ne_nil (field : List Char) : maskLabel ++ field ≠ [] :=
  List.append_ne_nil_of_left_ne_nil (by decide) field

theorem FirstField.field?_eq (h : FirstField text field) : field? text = some (trim field) := by
  induction h with
  | last single =>
    have hlines := linesOf_single (notMem_maskLabel_append single) (maskLabel_append_ne_nil _)
    exact field?_of_labelled hlines (.inl rfl)
  | @first field ending rest single ends =>
    cases ends with
    | feed =>
      rw [List.append_assoc, List.singleton_append]
      exact field?_cons_of_labelled (notMem_maskLabel_append single) rest
    | returnAndFeed =>
      -- The carriage return is a blank at the end of the field.
      have hsingle : '\n' ∉ field ++ ['\r'] := by simp [single]
      have hfield := field?_cons_of_labelled (notMem_maskLabel_append hsingle) rest
      rw [trim_append_right blanks_return] at hfield
      simpa using hfield
  | @later line ending text field single unlabelled ends onward ih =>
    cases ends with
    | feed =>
      rw [List.append_assoc, List.singleton_append, field?_cons_of_unlabelled single unlabelled, ih]
    | returnAndFeed =>
      have hsingle : '\n' ∉ line ++ ['\r'] := by simp [single]
      have hunlabelled : ¬ maskLabel <+: line ++ ['\r'] := by
        rw [List.prefix_concat_iff, not_or]
        refine ⟨fun heq => ?_, unlabelled⟩
        have hmem : '\r' ∈ maskLabel := heq ▸ List.mem_append_right _ List.mem_cons_self
        exact absurd hmem (by decide)
      have hrest := field?_cons_of_unlabelled hsingle hunlabelled text
      rw [← ih, ← hrest]
      simp

theorem exists_firstField (h : field? text = some other) :
    ∃ field, FirstField text field ∧ trim field = other := by
  induction hlength : text.length using Nat.strongRecOn generalizing text with
  | ind length ih =>
    by_cases hfeed : '\n' ∈ text
    · obtain ⟨line, rest, rfl, hsingle⟩ := List.eq_append_cons_of_mem hfeed
      by_cases hlabel : maskLabel <+: line
      · obtain ⟨field, rfl⟩ := hlabel
        have hfield : '\n' ∉ field := fun hmem => hsingle (List.mem_append_right _ hmem)
        rw [field?_cons_of_labelled hsingle] at h
        refine ⟨field, ?_, Option.some.inj h⟩
        simpa using FirstField.first rest hfield .feed
      · rw [field?_cons_of_unlabelled hsingle hlabel] at h
        have hshorter : rest.length < length := by
          rw [← hlength, List.length_append, List.length_cons]
          omega
        obtain ⟨field, hfirst, htrim⟩ := ih rest.length hshorter h rfl
        refine ⟨field, ?_, htrim⟩
        simpa using FirstField.later hsingle hlabel .feed hfirst
    · by_cases hempty : text = []
      · rw [hempty] at h
        cases h
      have hlines := linesOf_single hfeed hempty
      by_cases hlabel : maskLabel <+: text
      · obtain ⟨field, rfl⟩ := hlabel
        have hfield : '\n' ∉ field := fun hmem => hfeed (List.mem_append_right _ hmem)
        rw [field?_of_labelled hlines (.inl rfl)] at h
        exact ⟨field, .last hfield, Option.some.inj h⟩
      · have hlast : linesOf text = text :: linesOf [] := hlines
        rw [field?_of_unlabelled hlast (.inl rfl) hlabel] at h
        cases h

/-! ## The mask -/

/-- The text writes a mask: what the first line with the label goes on with are hexadecimal digits
of these values between blanks. -/
def WritesMask (text : List Char) (values : List Nat) : Prop :=
  ∃ left numeral right, FirstField text (left ++ numeral ++ right) ∧ Blanks left ∧ Blanks right ∧
    IsHexadecimal numeral values

theorem effectiveMask_eq (status : String) :
    effectiveMask status =
      match field? status.toList with
      | none => .error (.internal "CapEff line not found in /proc/self/status")
      | some digits =>
        match Text.Numeral.readUnsigned 16 Text.Numeral.max64 digits with
        | .ok mask => .ok (UInt64.ofNat mask)
        | .error fault =>
          .error (.internal ("failed to parse capability mask '" ++ String.ofList digits ++ "': "
            ++ fault.message)) := by
  unfold effectiveMask field?
  cases (linesOf status.toList).find? maskLabel.isPrefixOf <;> rfl

theorem writesMask_iff :
    WritesMask text values ↔ ∃ digits, field? text = some digits ∧ IsHexadecimal digits values := by
  constructor
  · rintro ⟨left, numeral, right, hfield, hleft, hright, hnumeral⟩
    refine ⟨numeral, ?_, hnumeral⟩
    rw [hfield.field?_eq, trim_between hleft hright hnumeral.not_blank]
  · rintro ⟨digits, hfield, hdigits⟩
    obtain ⟨field, hfirst, rfl⟩ := exists_firstField hfield
    obtain ⟨left, right, hsplit, hleft, hright⟩ := exists_blanks_trim field
    exact ⟨left, _, right, hsplit ▸ hfirst, hleft, hright, hdigits⟩

theorem toNat_le_max64 (mask : UInt64) : mask.toNat ≤ Text.Numeral.max64 :=
  Nat.le_of_lt_succ mask.toNat_lt_size

theorem effectiveMask_eq_ok_iff :
    effectiveMask status = .ok mask ↔
      ∃ values, WritesMask status.toList values ∧ ofHex values = mask.toNat := by
  rw [effectiveMask_eq]
  simp only [writesMask_iff]
  cases field? status.toList with
  | none => simp
  | some digits =>
    simp only [Option.some.injEq, exists_eq_left']
    constructor
    · intro h
      cases hread : Text.Numeral.readUnsigned 16 Text.Numeral.max64 digits with
      | error fault => simp [hread] at h
      | ok number =>
        obtain ⟨values, hdigits, rfl, hle⟩ :=
          Text.Numeral.readUnsigned_sixteen_eq_ok_iff.mp hread
        have hmask : UInt64.ofNat (ofHex values) = mask := by simpa [hread] using h
        have hsize : ofHex values < UInt64.size := Nat.lt_succ_of_le hle
        refine ⟨values, hdigits, ?_⟩
        rw [← hmask, UInt64.toNat_ofNat_of_lt' hsize]
    · rintro ⟨values, hdigits, hnumber⟩
      have hread := Text.Numeral.readUnsigned_sixteen_eq_ok_iff.mpr
        ⟨values, hdigits, hnumber.symm, toNat_le_max64 mask⟩
      simp only [hread, UInt64.ofNat_toNat]

theorem effectiveMask_ok_or_internal (status : String) :
    (∃ mask, effectiveMask status = .ok mask) ∨
      ∃ reason, effectiveMask status = .error (.internal reason) := by
  rw [effectiveMask_eq]
  split
  · exact .inr ⟨_, rfl⟩
  · split
    · exact .inl ⟨_, rfl⟩
    · exact .inr ⟨_, rfl⟩

/-- Each hexadecimal digit of a mask tells of four capabilities. -/
theorem isIn_eq_digit_bit (hwritten : WritesMask text values) (hmask : ofHex values = mask.toNat)
    (capability : Capability) :
    capability.isIn mask
      = (values.reverse[capability.number / 4]?).any fun value =>
        value.testBit (capability.number % 4) := by
  obtain ⟨left, numeral, right, -, -, -, hnumeral⟩ := hwritten
  rw [isIn, ← hmask, hnumeral.testBit]

/-- A status text gives a mask exactly when the first line with the label goes on with a hexadecimal
number of 64 bits between blanks, and else there is an internal error. Texts that agree in what
follows this label are read alike. A capability is in the mask when its bit of the number is set. -/
theorem effectiveMask_reads_first_label (status : String) :
    (∀ mask, effectiveMask status = .ok mask ↔
      ∃ values, WritesMask status.toList values ∧ ofHex values = mask.toNat) ∧
    ((∃ mask, effectiveMask status = .ok mask) ∨
      ∃ reason, effectiveMask status = .error (.internal reason)) ∧
    (∀ (other : String) field, FirstField status.toList field → FirstField other.toList field →
      effectiveMask other = effectiveMask status) ∧
    (∀ values mask, WritesMask status.toList values → ofHex values = mask.toNat →
      ∀ capability : Capability, capability.isIn mask
        = (values.reverse[capability.number / 4]?).any fun value =>
          value.testBit (capability.number % 4)) := by
  refine ⟨fun mask => effectiveMask_eq_ok_iff, effectiveMask_ok_or_internal status, ?_, ?_⟩
  · intro other field hfield hother
    rw [effectiveMask_eq, effectiveMask_eq, hfield.field?_eq, hother.field?_eq]
  · exact fun values mask hwritten hmask => isIn_eq_digit_bit hwritten hmask

/-- The label elsewhere in a line, zeros in front, both cases, both ends of lines, and a second line
with the label. -/
theorem mask_behind_other_labels_is_read :
    let status := "Name:\tCapEff: 1\r\n CapEff:\t2\nCapEff:\t+00000000000c0000A3000 \r\nCapEff:\tz"
    let field := "\t+00000000000c0000A3000 ".toList
    let values := [0, 0, 0, 0, 0, 0, 0, 0, 0, 0, 0, 12, 0, 0, 0, 0, 10, 3, 0, 0, 0]
    (FirstField status.toList field ∧ WritesMask status.toList values) ∧
      effectiveMask status = .ok 0xc0000a3000 ∧
      effectiveMask "CapEff:\t+00000000000c0000A3000 " = .ok 0xc0000a3000 ∧
      bpf.isIn 0xc0000a3000 = true ∧ sysResource.isIn 0xc0000a3000 = false := by
  intro status field values
  have hfield : FirstField status.toList field := by
    have hlines : status.toList = "Name:\tCapEff: 1".toList ++ ['\r', '\n']
        ++ (" CapEff:\t2".toList ++ ['\n']
          ++ (maskLabel ++ field ++ ['\r', '\n'] ++ "CapEff:\tz".toList)) := by decide
    rw [hlines]
    refine .later (by decide) (by decide) .returnAndFeed ?_
    refine .later (by decide) (by decide) .feed ?_
    exact .first "CapEff:\tz".toList (by decide) .returnAndFeed
  have hwritten : WritesMask status.toList values := by
    refine ⟨['\t'], "+00000000000c0000A3000".toList, [' '], hfield,
      List.forall_mem_singleton.mpr rfl, List.forall_mem_singleton.mpr rfl, ?_⟩
    exact .plus (by decide) (by decide)
  have hreads := effectiveMask_reads_first_label status
  have hmask : effectiveMask status = .ok 0xc0000a3000 :=
    (hreads.1 0xc0000a3000).mpr ⟨values, hwritten, by decide⟩
  have hshort := hreads.2.2.1 "CapEff:\t+00000000000c0000A3000 " field hfield (.last (by decide))
  have hbits := hreads.2.2.2 values 0xc0000a3000 hwritten (by decide)
  exact ⟨⟨hfield, hwritten⟩, hmask, hshort.trans hmask, (hbits bpf).trans (by decide),
    (hbits sysResource).trans (by decide)⟩

end XdpSteering.Capability
