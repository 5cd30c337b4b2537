import XdpSteering.Proofs.Conf.Settings

/-!
# Configurations written as objects

An object is read as a configuration exactly when every field that has to be there holds a value of
its kind, and so does every field that may be left out, if it is there. For a document in JSON
notation this is said without the reader, down to the leaves.
-/

namespace XdpSteering

namespace Conf

open XdpSteering.Fallible

/-! ## Records -/

section Records

variable {mode : Value → Except Fault AttachMode} {surplus : Nat → Nat → Option Fault}
  {A : Type} {entries : List (String × Value)} {value : Value} {name : String}
  {read : Value → Except Fault A} {absent a : A}

/-- A value holds, under a key, something that is read, or it does not have the key and there is
something else instead. -/
def ReadsOr (value : Value) (name : String) (read : Value → Except Fault A) (absent a : A) :
    Prop :=
  (value.get? name = none ∧ a = absent) ∨ Reads value name read a

theorem Reads.isDict (h : Reads value name read a) : value.IsDict := by
  obtain ⟨inner, hinner, -⟩ := h
  cases value with
  | dict entries => exact ⟨entries, rfl⟩
  | _ => cases hinner

theorem Reads.check_eq_ok (h : Reads value name read a) {inner : Value}
    (hinner : value.get? name = some inner) : (Field.of name read).check inner = .ok () := by
  obtain ⟨found, hfound, hread⟩ := h
  obtain rfl := Option.some.inj (hfound.symm.trans hinner)
  exact map_eq_ok_iff.mpr ⟨a, hread, rfl⟩

theorem ReadsOr.check_eq_ok (h : ReadsOr value name read absent a) {inner : Value}
    (hinner : value.get? name = some inner) : (Field.of name read).check inner = .ok () := by
  rcases h with ⟨hnone, -⟩ | hreads
  · rw [hnone] at hinner
    cases hinner
  · exact hreads.check_eq_ok hinner

theorem required_of_reads (hordered : (Value.dict entries).Ordered)
    (h : Reads (.dict entries) name read a) : (recordOf entries).required name read = .ok a := by
  obtain ⟨inner, hinner, hread⟩ := h
  have hfind : KeyedList.find? name entries = some inner := hinner
  rw [Record.required, get?_recordOf hordered.ascending, hfind]
  exact hread

theorem optional_of_readsOr (hordered : (Value.dict entries).Ordered)
    (h : ReadsOr (.dict entries) name read absent a) :
    (recordOf entries).optional name read absent = .ok a := by
  rw [Record.optional, get?_recordOf hordered.ascending]
  rcases h with ⟨hnone, rfl⟩ | ⟨inner, hinner, hread⟩
  · have hfind : KeyedList.find? name entries = none := hnone
    rw [hfind]
  · have hfind : KeyedList.find? name entries = some inner := hinner
    rw [hfind]
    exact hread

theorem testEntries_eq_ok {fields : List (Field Value)}
    (h : ∀ entry ∈ entries, ∀ field ∈ fields, field.name = entry.1 →
      field.check entry.2 = .ok ()) : testEntries fields entries = .ok () := by
  induction entries with
  | nil => rfl
  | cons entry rest ih =>
    obtain ⟨key, value⟩ := entry
    have hrest : testEntries fields rest = .ok () :=
      ih fun e he => h e (List.mem_cons_of_mem _ he)
    refine bind_eq_ok_iff.mpr ⟨(), mapError_eq_ok_iff.mpr ?_, hrest⟩
    cases hfield : fields.find? fun field => field.name = key with
    | none => rfl
    | some field =>
      have hname : field.name = key := by simpa using List.find?_some hfield
      exact h _ List.mem_cons_self field (List.mem_of_find?_eq_some hfield) hname

/-- A dictionary is a record if all of its values pass the tests of their fields. -/
theorem record_dict_eq_ok (title : String) {fields : List (Field Value)}
    (hordered : (Value.dict entries).Ordered)
    (h : ∀ field ∈ fields, ∀ inner, (Value.dict entries).get? field.name = some inner →
      field.check inner = .ok ()) :
    (valueReader mode surplus).record title fields (.dict entries) = .ok (recordOf entries) := by
  have htest : testEntries fields entries = .ok () := by
    refine testEntries_eq_ok fun entry hentry field hfield hname => h field hfield _ ?_
    rw [hname]
    exact hordered.ascending.find?_eq_some_iff_mem.mpr hentry
  rw [record_dict, htest]
  rfl

end Records

/-! ## Sections -/

section Sections

variable {mode : Value → Except Fault AttachMode} {surplus : Nat → Nat → Option Fault}
  {value : Value}

theorem program_eq_ok_iff {conf : ProgramConf} (hordered : value.Ordered)
    (hlist : ¬ value.IsList) :
    (valueReader mode surplus).program value = .ok conf ↔
      Reads value "object_path" (valueReader mode surplus).path conf.objectPath ∧
        Reads value "pin_link" (valueReader mode surplus).flag conf.pinLink ∧
        ReadsOr value "link_pin_path" (valueReader mode surplus).optionalPath none
          conf.linkPinPath := by
  refine ⟨program_eq_ok hordered hlist, fun ⟨hobject, hpin, hlink⟩ => ?_⟩
  obtain ⟨entries, rfl⟩ := hobject.isDict
  refine bind_eq_ok_iff.mpr ⟨_, record_dict_eq_ok _ hordered ?_, ?_⟩
  · simp only [List.forall_mem_cons, List.not_mem_nil, false_imp_iff, implies_true, and_true]
    exact ⟨fun _ => hobject.check_eq_ok, fun _ => hpin.check_eq_ok, fun _ => hlink.check_eq_ok⟩
  refine bind_eq_ok_iff.mpr ⟨_, required_of_reads hordered hobject, ?_⟩
  refine bind_eq_ok_iff.mpr ⟨_, required_of_reads hordered hpin, ?_⟩
  exact bind_eq_ok_iff.mpr ⟨_, optional_of_readsOr hordered hlink, rfl⟩

theorem trace_eq_ok_iff {conf : TraceConf} (hordered : value.Ordered)
    (hlist : ¬ value.IsList) :
    (valueReader mode surplus).trace value = .ok conf ↔
      Reads value "enabled" (valueReader mode surplus).flag conf.enabled := by
  refine ⟨trace_eq_ok hordered hlist, fun henabled => ?_⟩
  obtain ⟨entries, rfl⟩ := henabled.isDict
  refine bind_eq_ok_iff.mpr ⟨_, record_dict_eq_ok _ hordered ?_, ?_⟩
  · simp only [List.forall_mem_cons, List.not_mem_nil, false_imp_iff, implies_true, and_true]
    exact fun _ => henabled.check_eq_ok
  exact bind_eq_ok_iff.mpr ⟨_, required_of_reads hordered henabled, rfl⟩

theorem socketMap_eq_ok_iff {conf : SocketMapConf} (hordered : value.Ordered)
    (hlist : ¬ value.IsList) :
    (valueReader mode surplus).socketMap value = .ok conf ↔
      Reads value "capacity" (valueReader mode surplus).capacity conf.capacity ∧
        Reads value "pin_path" (valueReader mode surplus).path conf.pinPath ∧
        Reads value "persist" (valueReader mode surplus).flag conf.persist := by
  refine ⟨socketMap_eq_ok hordered hlist, fun ⟨hcapacity, hpath, hpersist⟩ => ?_⟩
  obtain ⟨entries, rfl⟩ := hcapacity.isDict
  refine bind_eq_ok_iff.mpr ⟨_, record_dict_eq_ok _ hordered ?_, ?_⟩
  · simp only [List.forall_mem_cons, List.not_mem_nil, false_imp_iff, implies_true, and_true]
    exact ⟨fun _ => hcapacity.check_eq_ok, fun _ => hpath.check_eq_ok,
      fun _ => hpersist.check_eq_ok⟩
  refine bind_eq_ok_iff.mpr ⟨_, required_of_reads hordered hcapacity, ?_⟩
  refine bind_eq_ok_iff.mpr ⟨_, required_of_reads hordered hpath, ?_⟩
  exact bind_eq_ok_iff.mpr ⟨_, required_of_reads hordered hpersist, rfl⟩

theorem conf_eq_ok_iff {conf : Conf} (hordered : value.Ordered) (hlist : ¬ value.IsList) :
    (valueReader mode surplus).conf value = .ok conf ↔
      Reads value "interface" (valueReader mode surplus).string conf.interface ∧
        Reads value "log_level" (valueReader mode surplus).level conf.logLevel ∧
        ReadsOr value "attach_mode" mode .automatic conf.attachMode ∧
        ReadsOr value "program" (valueReader mode surplus).program {} conf.program ∧
        ReadsOr value "trace" (valueReader mode surplus).trace {} conf.trace ∧
        ReadsOr value "socket_map" (valueReader mode surplus).socketMap {} conf.socketMap ∧
        conf.configPath = none := by
  refine ⟨conf_eq_ok hordered hlist,
    fun ⟨hinterface, hlevel, hmode, hprogram, htrace, hmap, hpath⟩ => ?_⟩
  obtain ⟨entries, rfl⟩ := hinterface.isDict
  refine bind_eq_ok_iff.mpr ⟨_, record_dict_eq_ok _ hordered ?_, ?_⟩
  · simp only [List.forall_mem_cons, List.not_mem_nil, false_imp_iff, implies_true, and_true]
    exact ⟨fun _ => hinterface.check_eq_ok, fun _ => hlevel.check_eq_ok,
      fun _ => hmode.check_eq_ok, fun _ => hprogram.check_eq_ok, fun _ => htrace.check_eq_ok,
      fun _ => hmap.check_eq_ok⟩
  refine bind_eq_ok_iff.mpr ⟨_, required_of_reads hordered hinterface, ?_⟩
  refine bind_eq_ok_iff.mpr ⟨_, required_of_reads hordered hlevel, ?_⟩
  refine bind_eq_ok_iff.mpr ⟨_, optional_of_readsOr hordered hmode, ?_⟩
  refine bind_eq_ok_iff.mpr ⟨_, optional_of_readsOr hordered hprogram, ?_⟩
  refine bind_eq_ok_iff.mpr ⟨_, optional_of_readsOr hordered htrace, ?_⟩
  refine bind_eq_ok_iff.mpr ⟨_, optional_of_readsOr hordered hmap, ?_⟩
  rw [← hpath]
  rfl

end Sections

end Conf

end XdpSteering
