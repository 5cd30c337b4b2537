import XdpSteering.Proofs.Conf.Objects

/-!
# Documents in JSON notation

Which documents are configurations, and which ones: said of the keys of the objects and of the
values under them, down to the leaves.
-/

namespace XdpSteering

/-! ## Documents -/

/-- The trees of documents: nothing is a single character, a number is one of 64 bits or has a
fraction, and the keys of an object are in order. -/
inductive Value.IsDocument : Value → Prop where
  | null : IsDocument .null
  | flag (value : Bool) : IsDocument (.flag value)
  | unsigned {value : Nat} (bound : value ≤ Text.Numeral.max64) : IsDocument (.number (.unsigned value))
  | signed {value : Int} (negative : value < 0) (bound : -(Text.Numeral.signedMin64 : Int) ≤ value) :
      IsDocument (.number (.signed value))
  | float (value : Binary64) : IsDocument (.number (.float value))
  | text (value : String) : IsDocument (.text value)
  | list {items : List Value} (inner : ∀ item ∈ items, IsDocument item) : IsDocument (.list items)
  | dict {entries : List (String × Value)} (ascending : KeyedList.Ascending entries)
      (inner : ∀ entry ∈ entries, IsDocument entry.2) : IsDocument (.dict entries)

theorem Value.IsDocument.ordered {value : Value} (h : value.IsDocument) : value.Ordered := by
  induction h with
  | null => exact .null
  | flag value => exact .flag value
  | unsigned | signed | float => exact .number _
  | text value => exact .text value
  | list _ ih => exact .list ih
  | dict hascending _ ih => exact .dict hascending ih

theorem Value.IsDocument.get? {value inner : Value} (h : value.IsDocument) {key : String}
    (hinner : value.get? key = some inner) : inner.IsDocument := by
  cases h with
  | dict _ hall => exact hall _ (KeyedList.mem_of_find?_eq_some hinner)
  | _ => cases hinner

namespace Conf

open XdpSteering.Fallible

/-- No record is written as a list. -/
def WritesObjects (value : Value) : Prop :=
  ¬ value.IsList ∧ ∀ name ∈ sectionKeys, ∀ inner, value.get? name = some inner → ¬ inner.IsList

/-! ## What an object describes -/

/-- What stands under a key describes something, or the key is absent and the default holds. -/
def GivenOr {A : Type} (value : Value) (name : String) (describes : Value → A → Prop) (absent a : A) :
    Prop :=
  (value.get? name = none ∧ a = absent) ∨ ∃ inner, value.get? name = some inner ∧ describes inner a

/-- A mode is given by its name, or by an object with nothing under its name alone. -/
def DescribesMode (value : Value) (mode : AttachMode) : Prop :=
  value = .text mode.name ∨ value = .dict [(mode.name, .null)]

def DescribesPath (value : Value) (path : Option String) : Prop :=
  (value = .null ∧ path = none) ∨ ∃ text, value = .text text ∧ path = some text

structure DescribesProgram (value : Value) (conf : ProgramConf) : Prop where
  objectPath : value.get? "object_path" = some (.text conf.objectPath)
  pinLink : value.get? "pin_link" = some (.flag conf.pinLink)
  linkPinPath : GivenOr value "link_pin_path" DescribesPath none conf.linkPinPath

def DescribesTrace (value : Value) (conf : TraceConf) : Prop :=
  value.get? "enabled" = some (.flag conf.enabled)

structure DescribesSocketMap (value : Value) (conf : SocketMapConf) : Prop where
  capacity : ∃ number ≤ 4294967295, value.get? "capacity" = some (.number (.unsigned number)) ∧
    conf.capacity = UInt32.ofNat number
  pinPath : value.get? "pin_path" = some (.text conf.pinPath)
  persist : value.get? "persist" = some (.flag conf.persist)

structure Describes (value : Value) (conf : Conf) : Prop where
  interface : value.get? "interface" = some (.text conf.interface)
  logLevel : ∃ text, value.get? "log_level" = some (.text text) ∧
    Level.read? text = some conf.logLevel
  attachMode : GivenOr value "attach_mode" DescribesMode ({} : Conf).attachMode conf.attachMode
  program : GivenOr value "program" DescribesProgram {} conf.program
  trace : GivenOr value "trace" DescribesTrace {} conf.trace
  socketMap : GivenOr value "socket_map" DescribesSocketMap {} conf.socketMap
  configPath : conf.configPath = none

/-! ## Leaves -/

section Leaves

variable {mode : Value → Except Fault AttachMode} {surplus : Nat → Nat → Option Fault}
  {value : Value}

theorem text_eq_ok_iff (h : value.IsDocument) (expected text : String) :
    (valueReader mode surplus).text expected value = .ok text ↔ value = .text text := by
  cases h with
  | text found => simp [valueReader]
  | _ => simp [valueReader]

theorem flag_eq_ok_iff (flag : Bool) :
    (valueReader mode surplus).flag value = .ok flag ↔ value = .flag flag := by
  cases value with
  | flag found => simp [valueReader]
  | _ => simp [valueReader]

theorem readCapacity_eq_ok_iff (h : value.IsDocument) (capacity : UInt32) :
    readCapacity value = .ok capacity ↔
      ∃ number ≤ 4294967295, value = .number (.unsigned number) ∧
        capacity = UInt32.ofNat number := by
  have hmax : Text.Numeral.max32 = 4294967295 := rfl
  cases h with
  | @unsigned number =>
    by_cases hle : number ≤ 4294967295
    · simp [readCapacity, hmax, hle, eq_comm]
    · simp [readCapacity, hmax, hle]
  | @signed number hnegative =>
    have hrange : ¬ (0 ≤ number ∧ number ≤ Text.Numeral.max32) := by omega
    simp [readCapacity, hrange]
  | _ => simp [readCapacity]

theorem level_eq_ok_iff (h : value.IsDocument) (level : Level) :
    (valueReader mode surplus).level value = .ok level ↔
      ∃ text, value = .text text ∧ Level.read? text = some level := by
  rw [Reader.level, bind_eq_ok_iff]
  refine exists_congr fun text => and_congr (text_eq_ok_iff h _ text) ?_
  cases Level.read? text <;> simp

theorem optionalPath_eq_ok_iff (h : value.IsDocument) (path : Option String) :
    (valueReader mode surplus).optionalPath value = .ok path ↔ DescribesPath value path := by
  have htext : (do
      let path ← (valueReader mode surplus).path value
      return some path) = Except.ok path ↔ ∃ text, value = .text text ∧ path = some text := by
    rw [bind_eq_ok_iff]
    refine exists_congr fun text => and_congr (text_eq_ok_iff h _ text) ?_
    simp [eq_comm]
  by_cases hnull : value = .null
  · subst hnull
    have hread : (valueReader mode surplus).optionalPath .null = .ok none := rfl
    simp [hread, DescribesPath, eq_comm]
  · have hread : (valueReader mode surplus).optionalPath value = (do
        let path ← (valueReader mode surplus).path value
        return some path) := by
      cases value with
      | null => exact absurd rfl hnull
      | _ => rfl
    rw [hread, htext]
    simp [DescribesPath, hnull]

theorem readModeName_eq_ok_iff (name : String) (mode : AttachMode) :
    readModeName name = .ok mode ↔ name = mode.name := by
  have hfind : AttachMode.ofName? name = some mode ↔ name = mode.name := by
    constructor
    · intro hfound
      simpa [eq_comm] using List.find?_some hfound
    · rintro rfl
      cases mode <;> decide
  rw [← hfind, readModeName]
  cases AttachMode.ofName? name <;> simp

theorem readJsonMode_eq_ok_iff (mode : AttachMode) :
    readJsonMode value = .ok mode ↔ DescribesMode value mode := by
  unfold readJsonMode
  split
  · simp [readModeName_eq_ok_iff, DescribesMode]
  · next name content =>
    have hunit : readUnit content = .ok () ↔ content = .null := by
      cases content <;> simp [readUnit]
    simp only [bind_eq_ok_iff, readModeName_eq_ok_iff, DescribesMode]
    simp [hunit, eq_comm]
  · next entries hother =>
    have hne : entries ≠ [(mode.name, .null)] := fun heq => hother _ _ heq
    simp [DescribesMode, hne]
  · next htext _ hdict =>
    have hname : value ≠ .text mode.name := htext _
    have hentries : value ≠ .dict [(mode.name, .null)] := hdict _
    simp [DescribesMode, hname, hentries]

end Leaves

/-! ## Records -/

section Records

variable {A : Type} {value : Value} {name : String} {read : Value → Except Fault A} {absent a : A}

theorem reads_iff {P : Value → Prop}
    (h : ∀ inner, value.get? name = some inner → (read inner = .ok a ↔ P inner)) :
    Reads value name read a ↔ ∃ inner, value.get? name = some inner ∧ P inner :=
  exists_congr fun inner => and_congr_right (h inner)

theorem readsOr_iff_givenOr {describes : Value → A → Prop}
    (h : ∀ inner, value.get? name = some inner → ∀ a, read inner = .ok a ↔ describes inner a) :
    ReadsOr value name read absent a ↔ GivenOr value name describes absent a :=
  or_congr_right (reads_iff fun inner hinner => h inner hinner a)

variable {mode : Value → Except Fault AttachMode} {surplus : Nat → Nat → Option Fault}

theorem reads_text_iff (h : value.IsDocument) (expected text : String) :
    Reads value name ((valueReader mode surplus).text expected) text ↔
      value.get? name = some (.text text) := by
  rw [reads_iff fun inner hinner => text_eq_ok_iff (h.get? hinner) expected text]
  simp

theorem reads_flag_iff (flag : Bool) :
    Reads value name (valueReader mode surplus).flag flag ↔
      value.get? name = some (.flag flag) := by
  rw [reads_iff fun inner _ => flag_eq_ok_iff flag]
  simp

theorem reads_level_iff (h : value.IsDocument) (level : Level) :
    Reads value name (valueReader mode surplus).level level ↔
      ∃ text, value.get? name = some (.text text) ∧ Level.read? text = some level := by
  refine (reads_iff fun inner hinner => level_eq_ok_iff (h.get? hinner) level).trans ?_
  constructor
  · rintro ⟨_, hget, text, rfl, hread⟩
    exact ⟨text, hget, hread⟩
  · rintro ⟨text, hget, hread⟩
    exact ⟨_, hget, text, rfl, hread⟩

theorem reads_capacity_iff (h : value.IsDocument) (capacity : UInt32) :
    Reads value name (valueReader mode surplus).capacity capacity ↔
      ∃ number ≤ 4294967295, value.get? name = some (.number (.unsigned number)) ∧
        capacity = UInt32.ofNat number := by
  refine (reads_iff fun inner hinner => readCapacity_eq_ok_iff (h.get? hinner) capacity).trans ?_
  constructor
  · rintro ⟨_, hget, number, hle, rfl, heq⟩
    exact ⟨number, hle, hget, heq⟩
  · rintro ⟨number, hle, hget, heq⟩
    exact ⟨_, hget, number, hle, rfl, heq⟩

end Records

section Sections

variable {mode : Value → Except Fault AttachMode} {surplus : Nat → Nat → Option Fault}
  {value : Value}

theorem program_eq_ok_iff_describes (h : value.IsDocument) (hlist : ¬ value.IsList)
    (conf : ProgramConf) :
    (valueReader mode surplus).program value = .ok conf ↔ DescribesProgram value conf := by
  rw [program_eq_ok_iff h.ordered hlist, reads_flag_iff,
    readsOr_iff_givenOr fun inner hinner => optionalPath_eq_ok_iff (h.get? hinner)]
  exact ⟨fun ⟨hobject, hpin, hlink⟩ => ⟨(reads_text_iff h _ _).mp hobject, hpin, hlink⟩,
    fun ⟨hobject, hpin, hlink⟩ => ⟨(reads_text_iff h _ _).mpr hobject, hpin, hlink⟩⟩

theorem trace_eq_ok_iff_describes (h : value.IsDocument) (hlist : ¬ value.IsList)
    (conf : TraceConf) :
    (valueReader mode surplus).trace value = .ok conf ↔ DescribesTrace value conf := by
  rw [trace_eq_ok_iff h.ordered hlist, reads_flag_iff, DescribesTrace]

theorem socketMap_eq_ok_iff_describes (h : value.IsDocument) (hlist : ¬ value.IsList)
    (conf : SocketMapConf) :
    (valueReader mode surplus).socketMap value = .ok conf ↔ DescribesSocketMap value conf := by
  rw [socketMap_eq_ok_iff h.ordered hlist, reads_capacity_iff h, reads_flag_iff]
  exact ⟨fun ⟨hcapacity, hpath, hpersist⟩ => ⟨hcapacity, (reads_text_iff h _ _).mp hpath, hpersist⟩,
    fun ⟨hcapacity, hpath, hpersist⟩ => ⟨hcapacity, (reads_text_iff h _ _).mpr hpath, hpersist⟩⟩

end Sections

/-- A document with objects for its records is read as a configuration exactly when it describes
this configuration. -/
theorem json_eq_ok_iff_describes {value : Value} (hdocument : value.IsDocument)
    (hobjects : WritesObjects value) (conf : Conf) :
    jsonReader.conf value = .ok conf ↔ Describes value conf := by
  obtain ⟨hlist, hinner⟩ := hobjects
  rw [jsonReader, conf_eq_ok_iff hdocument.ordered hlist, reads_level_iff hdocument,
    readsOr_iff_givenOr fun inner _ => readJsonMode_eq_ok_iff,
    readsOr_iff_givenOr fun inner hget => program_eq_ok_iff_describes (hdocument.get? hget)
      (hinner _ (by simp [sectionKeys]) _ hget),
    readsOr_iff_givenOr fun inner hget => trace_eq_ok_iff_describes (hdocument.get? hget)
      (hinner _ (by simp [sectionKeys]) _ hget),
    readsOr_iff_givenOr fun inner hget => socketMap_eq_ok_iff_describes (hdocument.get? hget)
      (hinner _ (by simp [sectionKeys]) _ hget)]
  constructor
  · rintro ⟨hinterface, hlevel, hmode, hprogram, htrace, hmap, hpath⟩
    exact ⟨(reads_text_iff hdocument _ _).mp hinterface, hlevel, hmode, hprogram,
      htrace, hmap, hpath⟩
  · rintro ⟨hinterface, hlevel, hmode, hprogram, htrace, hmap, hpath⟩
    exact ⟨(reads_text_iff hdocument _ _).mpr hinterface, hlevel, hmode, hprogram,
      htrace, hmap, hpath⟩

/-- A mode under its name, a level by its number, a path that is null, the largest capacity and a
section that is left out. -/
theorem document_in_many_forms_is_read :
    let program : Value :=
      .dict [("link_pin_path", .null), ("object_path", .text "steer.o"), ("pin_link", .flag true)]
    let socketMap : Value :=
      .dict [("capacity", .number (.unsigned 4294967295)), ("persist", .flag false),
        ("pin_path", .text "/pins")]
    let value : Value :=
      .dict [("attach_mode", .dict [("skb", .null)]), ("interface", .text "wan0"),
        ("log_level", .text "+02"), ("program", program), ("socket_map", socketMap)]
    value.IsDocument ∧ WritesObjects value ∧
      jsonReader.conf value = .ok {
        interface := "wan0", logLevel := .warn, attachMode := .skb
        program := { objectPath := "steer.o", pinLink := true }
        socketMap := { capacity := 4294967295, pinPath := "/pins", persist := false } } := by
  intro program socketMap value
  have hprogram : program.IsDocument := by
    refine .dict (by unfold KeyedList.Ascending; decide) ?_
    simp [Value.IsDocument.null, Value.IsDocument.text, Value.IsDocument.flag]
  have hmap : socketMap.IsDocument := by
    refine .dict (by unfold KeyedList.Ascending; decide) ?_
    have hcapacity : (Value.number (.unsigned 4294967295)).IsDocument := .unsigned (by decide)
    simp [hcapacity, Value.IsDocument.text, Value.IsDocument.flag]
  have hmode : (Value.dict [("skb", .null)]).IsDocument :=
    .dict (List.pairwise_singleton _ _) (by simp [Value.IsDocument.null])
  have hdocument : value.IsDocument := by
    refine .dict (by unfold KeyedList.Ascending; decide) ?_
    simp [hmode, hprogram, hmap, Value.IsDocument.text]
  have hobjects : WritesObjects value := by
    refine ⟨by simp [value, Value.IsList], fun name hname inner hinner => ?_⟩
    simp only [sectionKeys, List.mem_cons, List.not_mem_nil, or_false] at hname
    rcases hname with rfl | rfl | rfl <;> cases hinner
    · simp [program, Value.IsList]
    · simp [socketMap, Value.IsList]
  refine ⟨hdocument, hobjects, (json_eq_ok_iff_describes hdocument hobjects _).mpr ?_⟩
  exact {
    interface := rfl
    logLevel := ⟨"+02", rfl, rfl⟩
    attachMode := .inr ⟨_, rfl, .inr rfl⟩
    program := .inr ⟨_, rfl, rfl, rfl, .inr ⟨_, rfl, .inl ⟨rfl, rfl⟩⟩⟩
    trace := .inl ⟨rfl, rfl⟩
    socketMap := .inr ⟨_, rfl, ⟨_, Nat.le_refl _, rfl, rfl⟩, rfl, rfl⟩
    configPath := rfl }

end Conf

end XdpSteering
