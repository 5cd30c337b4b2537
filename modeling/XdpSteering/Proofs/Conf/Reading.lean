import Mathlib.Tactic.Common
import XdpSteering.Conf.ValueReader
import XdpSteering.Proofs.Fallible
import XdpSteering.Proofs.Value.Ordered

/-!
# Reading dictionaries

A record is read from a dictionary by testing every entry that a field takes, in the order of the
keys, and then taking the fields out. What is read is therefore what the values under the keys are
read as.
-/

namespace XdpSteering.Conf

open XdpSteering.Fallible

variable {mode : Value → Except Fault AttachMode} {surplus : Nat → Nat → Option Fault}

/-! ## Records -/

def testEntries (fields : List (Field Value)) : List (String × Value) → Except Fault Unit
  | [] => .ok ()
  | (key, value) :: rest => do
    let test := (fields.find? fun field => field.name = key).elim (fun _ => .ok ()) Field.check
    (test value).mapError (Fault.within (.key key))
    testEntries fields rest

def recordOf (entries : List (String × Value)) : Record Value where
  entries := entries
  missing name := { cause := .missingField name }

theorem visitKeyed_eq (node : Value) (fields : List (Field Value)) (seen : List String)
    (entries : List (String × Value)) :
    (valueReader mode surplus).visitKeyed node fields seen
        (entries.map fun (key, node) => { key := .ok key, label := .key key, node })
      = (testEntries fields entries).map fun _ => entries := by
  induction entries generalizing seen with
  | nil => rfl
  | cons entry rest ih =>
    obtain ⟨key, value⟩ := entry
    rw [List.map_cons, Reader.visitKeyed, testEntries]
    simp only [bind, Except.bind, ih]
    -- A key may be written again, so the fields that were seen do not matter.
    simp only [valueReader, Bool.not_true, Bool.and_false, Bool.false_and, Bool.false_eq_true,
      if_false]
    cases hfield : fields.find? fun field => field.name = key with
    | none => cases testEntries fields rest <;> rfl
    | some field =>
      rw [Option.elim_some]
      cases hcheck : field.check value with
      | error fault => rfl
      | ok _ => cases testEntries fields rest <;> rfl

theorem record_dict (title : String) (fields : List (Field Value))
    (entries : List (String × Value)) :
    (valueReader mode surplus).record title fields (.dict entries)
      = (testEntries fields entries).map fun _ => recordOf entries := by
  change (do
    let entries ← (valueReader mode surplus).visitKeyed _ fields [] (entries.map _)
    return _) = _
  rw [visitKeyed_eq]
  cases testEntries fields entries <;> rfl

theorem record_eq_ok {title : String} {fields : List (Field Value)} {value : Value}
    {record : Record Value} (hlist : ¬ value.IsList)
    (h : (valueReader mode surplus).record title fields value = .ok record) :
    ∃ entries, value = .dict entries ∧ record = recordOf entries := by
  cases value with
  | dict entries =>
    rw [record_dict, map_eq_ok_iff] at h
    obtain ⟨⟨⟩, -, hrecord⟩ := h
    exact ⟨entries, rfl, hrecord.symm⟩
  | list items => exact absurd ⟨items, rfl⟩ hlist
  | _ => simp [Reader.record, valueReader] at h

/-! ## Fields -/

/-- A dictionary holds, under a key, a value that is read as something. -/
def Reads {A : Type} (value : Value) (name : String) (read : Value → Except Fault A) (a : A) :
    Prop :=
  ∃ inner, value.get? name = some inner ∧ read inner = .ok a

theorem get?_recordOf {entries : List (String × Value)} (h : KeyedList.Ascending entries)
    (name : String) : (recordOf entries).get? name = KeyedList.find? name entries := by
  have hreverse : ((entries.reverse).map Prod.fst).Nodup := by
    rw [List.map_reverse]
    exact List.nodup_reverse.mpr h.nodup_keys
  refine Option.ext fun value => ?_
  rw [Record.get?, recordOf, ← KeyedList.find?_eq_map_find?,
    KeyedList.find?_eq_some_iff_mem_of_nodup hreverse, List.mem_reverse,
    h.find?_eq_some_iff_mem]

theorem required_eq_ok {A : Type} {entries : List (String × Value)}
    (hordered : (Value.dict entries).Ordered) {name : String} {read : Value → Except Fault A}
    {a : A} (h : (recordOf entries).required name read = .ok a) :
    Reads (.dict entries) name read a := by
  rw [Record.required, get?_recordOf hordered.ascending] at h
  cases hfind : KeyedList.find? name entries with
  | none => simp [hfind] at h
  | some inner => exact ⟨inner, hfind, by simpa [hfind] using h⟩

theorem optional_eq_ok {A : Type} {entries : List (String × Value)}
    (hordered : (Value.dict entries).Ordered) {name : String} {read : Value → Except Fault A}
    {absent a : A} (h : (recordOf entries).optional name read absent = .ok a) :
    ((Value.dict entries).get? name = none ∧ a = absent) ∨ Reads (.dict entries) name read a := by
  rw [Record.optional, get?_recordOf hordered.ascending] at h
  cases hfind : KeyedList.find? name entries with
  | none => exact .inl ⟨hfind, by simpa [hfind] using h.symm⟩
  | some inner => exact .inr ⟨inner, hfind, by simpa [hfind] using h⟩

/-! ## Sections -/

theorem program_eq_ok {value : Value} {conf : ProgramConf} (hordered : value.Ordered)
    (hlist : ¬ value.IsList)
    (h : (valueReader mode surplus).program value = .ok conf) :
    Reads value "object_path" (valueReader mode surplus).path conf.objectPath ∧
      Reads value "pin_link" (valueReader mode surplus).flag conf.pinLink ∧
      ((value.get? "link_pin_path" = none ∧ conf.linkPinPath = none) ∨
        Reads value "link_pin_path" (valueReader mode surplus).optionalPath conf.linkPinPath) := by
  obtain ⟨record, hrecord, h⟩ := bind_eq_ok_iff.mp h
  obtain ⟨entries, rfl, rfl⟩ := record_eq_ok hlist hrecord
  obtain ⟨objectPath, hobject, h⟩ := bind_eq_ok_iff.mp h
  obtain ⟨pinLink, hpin, h⟩ := bind_eq_ok_iff.mp h
  obtain ⟨linkPinPath, hlink, h⟩ := bind_eq_ok_iff.mp h
  obtain rfl := Except.ok.inj h
  exact ⟨required_eq_ok hordered hobject, required_eq_ok hordered hpin,
    optional_eq_ok hordered hlink⟩

theorem trace_eq_ok {value : Value} {conf : TraceConf} (hordered : value.Ordered)
    (hlist : ¬ value.IsList)
    (h : (valueReader mode surplus).trace value = .ok conf) :
    Reads value "enabled" (valueReader mode surplus).flag conf.enabled := by
  obtain ⟨record, hrecord, h⟩ := bind_eq_ok_iff.mp h
  obtain ⟨entries, rfl, rfl⟩ := record_eq_ok hlist hrecord
  obtain ⟨enabled, henabled, h⟩ := bind_eq_ok_iff.mp h
  obtain rfl := Except.ok.inj h
  exact required_eq_ok hordered henabled

theorem socketMap_eq_ok {value : Value} {conf : SocketMapConf} (hordered : value.Ordered)
    (hlist : ¬ value.IsList)
    (h : (valueReader mode surplus).socketMap value = .ok conf) :
    Reads value "capacity" (valueReader mode surplus).capacity conf.capacity ∧
      Reads value "pin_path" (valueReader mode surplus).path conf.pinPath ∧
      Reads value "persist" (valueReader mode surplus).flag conf.persist := by
  obtain ⟨record, hrecord, h⟩ := bind_eq_ok_iff.mp h
  obtain ⟨entries, rfl, rfl⟩ := record_eq_ok hlist hrecord
  obtain ⟨capacity, hcapacity, h⟩ := bind_eq_ok_iff.mp h
  obtain ⟨pinPath, hpath, h⟩ := bind_eq_ok_iff.mp h
  obtain ⟨persist, hpersist, h⟩ := bind_eq_ok_iff.mp h
  obtain rfl := Except.ok.inj h
  exact ⟨required_eq_ok hordered hcapacity, required_eq_ok hordered hpath,
    required_eq_ok hordered hpersist⟩

/-- An optional field is the default where its key is absent, and the file is never written. -/
theorem conf_eq_ok {value : Value} {conf : Conf} (hordered : value.Ordered)
    (hlist : ¬ value.IsList) (h : (valueReader mode surplus).conf value = .ok conf) :
    let reader := valueReader mode surplus
    Reads value "interface" reader.string conf.interface ∧
      Reads value "log_level" reader.level conf.logLevel ∧
      ((value.get? "attach_mode" = none ∧ conf.attachMode = .automatic) ∨
        Reads value "attach_mode" reader.mode conf.attachMode) ∧
      ((value.get? "program" = none ∧ conf.program = {}) ∨
        Reads value "program" reader.program conf.program) ∧
      ((value.get? "trace" = none ∧ conf.trace = {}) ∨
        Reads value "trace" reader.trace conf.trace) ∧
      ((value.get? "socket_map" = none ∧ conf.socketMap = {}) ∨
        Reads value "socket_map" reader.socketMap conf.socketMap) ∧
      conf.configPath = none := by
  obtain ⟨record, hrecord, h⟩ := bind_eq_ok_iff.mp h
  obtain ⟨entries, rfl, rfl⟩ := record_eq_ok hlist hrecord
  obtain ⟨interface, hinterface, h⟩ := bind_eq_ok_iff.mp h
  obtain ⟨logLevel, hlevel, h⟩ := bind_eq_ok_iff.mp h
  obtain ⟨attachMode, hmode, h⟩ := bind_eq_ok_iff.mp h
  obtain ⟨program, hprogram, h⟩ := bind_eq_ok_iff.mp h
  obtain ⟨trace, htrace, h⟩ := bind_eq_ok_iff.mp h
  obtain ⟨socketMap, hmap, h⟩ := bind_eq_ok_iff.mp h
  obtain rfl := Except.ok.inj h
  exact ⟨required_eq_ok hordered hinterface, required_eq_ok hordered hlevel,
    optional_eq_ok hordered hmode, optional_eq_ok hordered hprogram,
    optional_eq_ok hordered htrace, optional_eq_ok hordered hmap, rfl⟩

theorem conf_dict_eq_ok {entries : List (String × Value)} {conf : Conf}
    (hordered : (Value.dict entries).Ordered)
    (h : (valueReader mode surplus).conf (.dict entries) = .ok conf) :
    let reader := valueReader mode surplus
    let value := Value.dict entries
    Reads value "interface" reader.string conf.interface ∧
      Reads value "log_level" reader.level conf.logLevel ∧
      (value.get? "attach_mode" = none ∨ Reads value "attach_mode" reader.mode conf.attachMode) ∧
      (value.get? "program" = none ∨ Reads value "program" reader.program conf.program) ∧
      (value.get? "trace" = none ∨ Reads value "trace" reader.trace conf.trace) ∧
      (value.get? "socket_map" = none ∨
        Reads value "socket_map" reader.socketMap conf.socketMap) := by
  obtain ⟨hinterface, hlevel, hmode, hprogram, htrace, hmap, -⟩ :=
    conf_eq_ok hordered (by simp [Value.IsList]) h
  exact ⟨hinterface, hlevel, hmode.imp_left And.left, hprogram.imp_left And.left,
    htrace.imp_left And.left, hmap.imp_left And.left⟩

end XdpSteering.Conf
