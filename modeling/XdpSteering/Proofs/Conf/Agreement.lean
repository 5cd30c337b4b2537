import XdpSteering.Proofs.Conf.Reading

/-!
# What a reading depends on

A record that is read from a dictionary depends on what the values of its fields are read as. What
else the dictionary holds makes no difference, not even to which fault is the first.
-/

namespace XdpSteering.Conf

variable {mode : Value → Except Fault AttachMode} {surplus : Nat → Nat → Option Fault}
  {fields : List (Field Value)} {a b : List (String × Value)}

/-- Two dictionaries hold, under a key, values that are read as the same, or both hold none. -/
def ReadAlike {A : Type} (a b : List (String × Value)) (name : String)
    (read : Value → Except Fault A) : Prop :=
  (KeyedList.find? name a).map read = (KeyedList.find? name b).map read

theorem readAlike_of_find? {A : Type} {name : String}
    (h : KeyedList.find? name a = KeyedList.find? name b) (read : Value → Except Fault A) :
    ReadAlike a b name read :=
  congrArg (Option.map read) h

/-! ## Tests -/

def tested (fields : List (Field Value)) (entries : List (String × Value)) :
    KeyedList String (Except Fault Unit) :=
  entries.filterMap fun (key, value) =>
    (fields.find? fun field => field.name = key).map fun field => (key, field.check value)

def firstFault : KeyedList String (Except Fault Unit) → Except Fault Unit
  | [] => .ok ()
  | (key, result) :: rest => do
    result.mapError (Fault.within (.key key))
    firstFault rest

variable {key : String} {value : Value} {rest : List (String × Value)}

theorem tested_of_field {field : Field Value}
    (h : (fields.find? fun field => field.name = key) = some field) :
    tested fields ((key, value) :: rest) = (key, field.check value) :: tested fields rest :=
  List.filterMap_cons_some (congrArg (Option.map fun field => (key, field.check value)) h)

theorem tested_of_other (h : (fields.find? fun field => field.name = key) = none) :
    tested fields ((key, value) :: rest) = tested fields rest :=
  List.filterMap_cons_none (congrArg (Option.map fun field => (key, field.check value)) h)

theorem testEntries_eq_firstFault (fields : List (Field Value)) (entries : List (String × Value)) :
    testEntries fields entries = firstFault (tested fields entries) := by
  induction entries with
  | nil => rfl
  | cons entry rest ih =>
    obtain ⟨key, value⟩ := entry
    rw [testEntries, ih]
    cases hfield : fields.find? fun field => field.name = key with
    | none =>
      rw [tested_of_other hfield]
      rfl
    | some field =>
      rw [tested_of_field hfield]
      rfl

theorem ascending_tested (h : KeyedList.Ascending a) : KeyedList.Ascending (tested fields a) := by
  refine List.Pairwise.filterMap _ ?_ h
  rintro ⟨key, value⟩ ⟨other, below⟩ hless first hfirst second hsecond
  obtain ⟨field, -, rfl⟩ := Option.map_eq_some_iff.mp hfirst
  obtain ⟨field, -, rfl⟩ := Option.map_eq_some_iff.mp hsecond
  exact hless

theorem find?_tested (name : String) (entries : List (String × Value)) :
    KeyedList.find? name (tested fields entries) =
      (fields.find? fun field => field.name = name).bind fun field =>
        (KeyedList.find? name entries).map field.check := by
  induction entries with
  | nil => cases fields.find? fun field => field.name = name <;> rfl
  | cons entry rest ih =>
    obtain ⟨key, value⟩ := entry
    cases hfield : fields.find? fun field => field.name = key with
    | none =>
      rw [tested_of_other hfield, ih]
      by_cases hkey : key = name
      · rw [← hkey, hfield]
        rfl
      · simp only [KeyedList.find?, if_neg hkey]
    | some field =>
      rw [tested_of_field hfield]
      by_cases hkey : key = name
      · rw [← hkey, hfield]
        simp [KeyedList.find?]
      · simp only [KeyedList.find?, if_neg hkey, ih]

theorem testEntries_congr (ha : KeyedList.Ascending a) (hb : KeyedList.Ascending b)
    (h : ∀ field ∈ fields, ReadAlike a b field.name field.check) :
    testEntries fields a = testEntries fields b := by
  -- The tests are made in the order of the keys, so that what is tested fixes the first fault.
  have htested : tested fields a = tested fields b := by
    refine (ascending_tested ha).ext (ascending_tested hb) fun name => ?_
    rw [find?_tested, find?_tested]
    cases hfield : fields.find? fun field => field.name = name with
    | none => rfl
    | some field =>
      have hname : field.name = name := by simpa using List.find?_some hfield
      exact hname ▸ h field (List.mem_of_find?_eq_some hfield)
  rw [testEntries_eq_firstFault, testEntries_eq_firstFault, htested]

/-! ## Fields -/

variable {A : Type} {name : String} {read : Value → Except Fault A}

theorem ReadAlike.check (h : ReadAlike a b name read) :
    ReadAlike a b name (Field.of name read).check := by
  have hmap := congrArg (Option.map (Except.map fun _ : A => ())) h
  rwa [Option.map_map, Option.map_map] at hmap

theorem required_congr (ha : KeyedList.Ascending a) (hb : KeyedList.Ascending b)
    (h : ReadAlike a b name read) :
    (recordOf a).required name read = (recordOf b).required name read := by
  have hread {entries : List (String × Value)} (hascending : KeyedList.Ascending entries) :
      (recordOf entries).required name read
        = ((KeyedList.find? name entries).map read).getD
            (.error { cause := .missingField name }) := by
    rw [Record.required, get?_recordOf hascending]
    cases KeyedList.find? name entries <;> rfl
  rw [hread ha, hread hb, h]

theorem optional_congr (ha : KeyedList.Ascending a) (hb : KeyedList.Ascending b) (absent : A)
    (h : ReadAlike a b name read) :
    (recordOf a).optional name read absent = (recordOf b).optional name read absent := by
  have hread {entries : List (String × Value)} (hascending : KeyedList.Ascending entries) :
      (recordOf entries).optional name read absent
        = ((KeyedList.find? name entries).map read).getD (.ok absent) := by
    rw [Record.optional, get?_recordOf hascending]
    cases KeyedList.find? name entries <;> rfl
  rw [hread ha, hread hb, h]

/-- Records are read alike if their fields are, and if what is made of the fields is. -/
theorem record_congr {B : Type} {title : String} {next : Record Value → Except Fault B}
    (ha : KeyedList.Ascending a) (hb : KeyedList.Ascending b)
    (hfields : ∀ field ∈ fields, ReadAlike a b field.name field.check)
    (hnext : next (recordOf a) = next (recordOf b)) :
    (valueReader mode surplus).record title fields (.dict a) >>= next
      = (valueReader mode surplus).record title fields (.dict b) >>= next := by
  rw [record_dict, record_dict, testEntries_congr ha hb hfields]
  cases testEntries fields b with
  | error fault => rfl
  | ok value => exact hnext

/-! ## Sections -/

theorem program_congr (ha : KeyedList.Ascending a) (hb : KeyedList.Ascending b)
    (hobject : KeyedList.find? "object_path" a = KeyedList.find? "object_path" b)
    (hpin : KeyedList.find? "pin_link" a = KeyedList.find? "pin_link" b)
    (hlink : KeyedList.find? "link_pin_path" a = KeyedList.find? "link_pin_path" b) :
    (valueReader mode surplus).program (.dict a)
      = (valueReader mode surplus).program (.dict b) := by
  have hobject := readAlike_of_find? hobject (valueReader mode surplus).path
  have hpin := readAlike_of_find? hpin (valueReader mode surplus).flag
  have hlink := readAlike_of_find? hlink (valueReader mode surplus).optionalPath
  refine record_congr ha hb ?_ ?_
  · simp only [List.forall_mem_cons]
    exact ⟨hobject.check, hpin.check, hlink.check, List.forall_mem_nil _⟩
  · simp only [required_congr ha hb hobject, required_congr ha hb hpin,
      optional_congr ha hb none hlink]

theorem trace_congr (ha : KeyedList.Ascending a) (hb : KeyedList.Ascending b)
    (henabled : KeyedList.find? "enabled" a = KeyedList.find? "enabled" b) :
    (valueReader mode surplus).trace (.dict a) = (valueReader mode surplus).trace (.dict b) := by
  have henabled := readAlike_of_find? henabled (valueReader mode surplus).flag
  refine record_congr ha hb ?_ ?_
  · simp only [List.forall_mem_cons]
    exact ⟨henabled.check, List.forall_mem_nil _⟩
  · simp only [required_congr ha hb henabled]

theorem socketMap_congr (ha : KeyedList.Ascending a) (hb : KeyedList.Ascending b)
    (hcapacity : KeyedList.find? "capacity" a = KeyedList.find? "capacity" b)
    (hpath : KeyedList.find? "pin_path" a = KeyedList.find? "pin_path" b)
    (hpersist : KeyedList.find? "persist" a = KeyedList.find? "persist" b) :
    (valueReader mode surplus).socketMap (.dict a)
      = (valueReader mode surplus).socketMap (.dict b) := by
  have hcapacity := readAlike_of_find? hcapacity (valueReader mode surplus).capacity
  have hpath := readAlike_of_find? hpath (valueReader mode surplus).path
  have hpersist := readAlike_of_find? hpersist (valueReader mode surplus).flag
  refine record_congr ha hb ?_ ?_
  · simp only [List.forall_mem_cons]
    exact ⟨hcapacity.check, hpath.check, hpersist.check, List.forall_mem_nil _⟩
  · simp only [required_congr ha hb hcapacity, required_congr ha hb hpath,
      required_congr ha hb hpersist]

/-- Configurations are read alike if their sections are, whatever else these hold. -/
theorem conf_congr (ha : KeyedList.Ascending a) (hb : KeyedList.Ascending b)
    (hinterface : KeyedList.find? "interface" a = KeyedList.find? "interface" b)
    (hlevel : KeyedList.find? "log_level" a = KeyedList.find? "log_level" b)
    (hmode : KeyedList.find? "attach_mode" a = KeyedList.find? "attach_mode" b)
    (hprogram : ReadAlike a b "program" (valueReader mode surplus).program)
    (htrace : ReadAlike a b "trace" (valueReader mode surplus).trace)
    (hmap : ReadAlike a b "socket_map" (valueReader mode surplus).socketMap) :
    (valueReader mode surplus).conf (.dict a) = (valueReader mode surplus).conf (.dict b) := by
  have hinterface := readAlike_of_find? hinterface (valueReader mode surplus).string
  have hlevel := readAlike_of_find? hlevel (valueReader mode surplus).level
  have hmode := readAlike_of_find? hmode (valueReader mode surplus).mode
  refine record_congr ha hb ?_ ?_
  · simp only [List.forall_mem_cons]
    exact ⟨hinterface.check, hlevel.check, hmode.check, hprogram.check, htrace.check, hmap.check,
      List.forall_mem_nil _⟩
  · simp only [required_congr ha hb hinterface, required_congr ha hb hlevel,
      optional_congr ha hb .automatic hmode, optional_congr ha hb {} hprogram,
      optional_congr ha hb {} htrace, optional_congr ha hb {} hmap]

end XdpSteering.Conf
