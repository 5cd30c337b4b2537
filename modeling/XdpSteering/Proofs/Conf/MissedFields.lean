import XdpSteering.Proofs.Conf.Reading

/-!
# Missed fields

A field is missed only if its key is not there. A dictionary with all keys that have to be there may
hold a value that cannot be read, but the fault is never that a field is missed.
-/

namespace XdpSteering.Conf

open XdpSteering.Fallible

variable {mode : Value → Except Fault AttachMode} {surplus : Nat → Nat → Option Fault}

/-- Whatever goes wrong, it is not that a field is missed. -/
def MissesNothing {A : Type} (result : Except Fault A) : Prop :=
  ∀ fault, result = .error fault → ∀ name, fault.cause ≠ .missingField name

theorem MissesNothing.ok {A : Type} (a : A) : MissesNothing (.ok a : Except Fault A) :=
  fun _ h => nomatch h

theorem MissesNothing.bind {A B : Type} {x : Except Fault A} {f : A → Except Fault B}
    (hx : MissesNothing x) (hf : ∀ a, x = .ok a → MissesNothing (f a)) :
    MissesNothing (x >>= f) := by
  intro fault h
  rcases bind_eq_error_iff.mp h with herror | ⟨a, ha, herror⟩
  · exact hx fault herror
  · exact hf a ha fault herror

theorem MissesNothing.map {A B : Type} {x : Except Fault A} (hx : MissesNothing x) (f : A → B) :
    MissesNothing (x.map f) :=
  fun fault h => hx fault (map_eq_error_iff.mp h)

theorem MissesNothing.within {A : Type} {x : Except Fault A} (hx : MissesNothing x)
    (label : Label) : MissesNothing (x.mapError (Fault.within label)) := by
  intro fault h
  obtain ⟨inner, hinner, rfl⟩ := mapError_eq_error_iff.mp h
  exact hx inner hinner

theorem MissesNothing.of_cause {A : Type} {fault : Fault}
    (h : ∀ name, fault.cause ≠ .missingField name) :
    MissesNothing (.error fault : Except Fault A) := by
  intro found hfound
  rw [← Except.error.inj hfound]
  exact h

/-! ## Records -/

theorem missesNothing_testEntries {fields : List (Field Value)}
    {entries : List (String × Value)}
    (h : ∀ entry ∈ entries, ∀ field ∈ fields, field.name = entry.1 →
      MissesNothing (field.check entry.2)) :
    MissesNothing (testEntries fields entries) := by
  induction entries with
  | nil => exact .ok ()
  | cons entry rest ih =>
    obtain ⟨key, value⟩ := entry
    refine .bind (.within ?_ _) fun _ _ => ih fun e he => h e (List.mem_cons_of_mem _ he)
    cases hfield : fields.find? fun field => field.name = key with
    | none => exact .ok ()
    | some field =>
      have hname : field.name = key := by simpa using List.find?_some hfield
      exact h _ List.mem_cons_self field (List.mem_of_find?_eq_some hfield) hname

theorem missesNothing_record {title : String} {fields : List (Field Value)}
    {entries : List (String × Value)} (hordered : (Value.dict entries).Ordered)
    (h : ∀ field ∈ fields, ∀ value, (Value.dict entries).get? field.name = some value →
      MissesNothing (field.check value)) :
    MissesNothing ((valueReader mode surplus).record title fields (.dict entries)) := by
  rw [record_dict]
  refine .map (missesNothing_testEntries fun entry hmem field hfield hname => ?_) _
  refine h field hfield entry.2 ?_
  rw [hname]
  exact hordered.ascending.find?_eq_some_iff_mem.mpr hmem

theorem missesNothing_required {A : Type} {entries : List (String × Value)}
    (hordered : (Value.dict entries).Ordered) {name : String} {read : Value → Except Fault A}
    (hfound : ((Value.dict entries).get? name).isSome)
    (h : ∀ value, (Value.dict entries).get? name = some value → MissesNothing (read value)) :
    MissesNothing ((recordOf entries).required name read) := by
  rw [Record.required, get?_recordOf hordered.ascending]
  obtain ⟨inner, hinner⟩ := Option.isSome_iff_exists.mp hfound
  rw [show KeyedList.find? name entries = some inner from hinner]
  exact h inner hinner

theorem missesNothing_optional {A : Type} {entries : List (String × Value)}
    (hordered : (Value.dict entries).Ordered) {name : String} {read : Value → Except Fault A}
    {absent : A}
    (h : ∀ value, (Value.dict entries).get? name = some value → MissesNothing (read value)) :
    MissesNothing ((recordOf entries).optional name read absent) := by
  rw [Record.optional, get?_recordOf hordered.ascending]
  cases hinner : KeyedList.find? name entries with
  | none => exact .ok absent
  | some inner => exact h inner hinner

/-! ## Scalars -/

theorem missesNothing_text (expected : String) (value : Value) :
    MissesNothing ((valueReader mode surplus).text expected value) := by
  cases value with
  | text text => exact .ok text
  | char char => exact .ok char.toString
  | _ => exact .of_cause nofun

theorem missesNothing_flag (value : Value) :
    MissesNothing ((valueReader mode surplus).flag value) := by
  cases value with
  | flag flag => exact .ok flag
  | _ => exact .of_cause nofun

theorem missesNothing_capacity (value : Value) : MissesNothing (readCapacity value) := by
  unfold readCapacity
  split
  · split
    · exact .ok _
    · exact .of_cause nofun
  · split
    · exact .ok _
    · exact .of_cause nofun
  · exact .of_cause nofun

theorem missesNothing_level (value : Value) :
    MissesNothing ((valueReader mode surplus).level value) := by
  refine .bind (missesNothing_text _ value) fun text _ => ?_
  cases Level.read? text with
  | some level => exact .ok level
  | none => exact .of_cause nofun

theorem missesNothing_optionalPath (value : Value) :
    MissesNothing ((valueReader mode surplus).optionalPath value) := by
  have htext : MissesNothing (do
      let path ← (valueReader mode surplus).path value
      return some path) := (missesNothing_text _ value).bind fun path _ => .ok (some path)
  cases value with
  | null => exact .ok none
  | _ => exact htext

theorem missesNothing_modeName (name : String) : MissesNothing (readModeName name) := by
  unfold readModeName
  split
  · exact .ok _
  · exact .of_cause nofun

theorem missesNothing_layeredMode (value : Value) : MissesNothing (readLayeredMode value) := by
  unfold readLayeredMode
  split
  · exact missesNothing_modeName _
  · refine .within (.bind (missesNothing_modeName _) fun mode _ => .bind ?_ fun _ _ => .ok mode) _
    unfold readUnit
    split
    · exact .ok ()
    · exact .of_cause nofun
  · exact .of_cause nofun
  · exact .of_cause nofun

/-! ## Sections -/

theorem missesNothing_program {entries : List (String × Value)}
    (hordered : (Value.dict entries).Ordered)
    (hobject : ((Value.dict entries).get? "object_path").isSome)
    (hpin : ((Value.dict entries).get? "pin_link").isSome) :
    MissesNothing ((valueReader mode surplus).program (.dict entries)) := by
  refine .bind (missesNothing_record hordered ?_) fun record hrecord => ?_
  · rintro field hfield value -
    simp only [List.mem_cons, List.not_mem_nil, or_false] at hfield
    rcases hfield with rfl | rfl | rfl
    · exact .map (missesNothing_text _ value) _
    · exact .map (missesNothing_flag value) _
    · exact .map (missesNothing_optionalPath value) _
  obtain ⟨_, heq, rfl⟩ := record_eq_ok (by simp [Value.IsList]) hrecord
  obtain rfl := Value.dict.inj heq
  refine .bind (missesNothing_required hordered hobject fun _ _ => missesNothing_text _ _)
    fun _ _ => ?_
  refine .bind (missesNothing_required hordered hpin fun _ _ => missesNothing_flag _)
    fun _ _ => ?_
  exact .bind (missesNothing_optional hordered fun _ _ => missesNothing_optionalPath _)
    fun _ _ => .ok _

theorem missesNothing_trace {entries : List (String × Value)}
    (hordered : (Value.dict entries).Ordered)
    (henabled : ((Value.dict entries).get? "enabled").isSome) :
    MissesNothing ((valueReader mode surplus).trace (.dict entries)) := by
  refine .bind (missesNothing_record hordered ?_) fun record hrecord => ?_
  · rintro field hfield value -
    simp only [List.mem_cons, List.not_mem_nil, or_false] at hfield
    subst hfield
    exact .map (missesNothing_flag value) _
  obtain ⟨_, heq, rfl⟩ := record_eq_ok (by simp [Value.IsList]) hrecord
  obtain rfl := Value.dict.inj heq
  exact .bind (missesNothing_required hordered henabled fun _ _ => missesNothing_flag _)
    fun _ _ => .ok _

theorem missesNothing_socketMap {entries : List (String × Value)}
    (hordered : (Value.dict entries).Ordered)
    (hcapacity : ((Value.dict entries).get? "capacity").isSome)
    (hpath : ((Value.dict entries).get? "pin_path").isSome)
    (hpersist : ((Value.dict entries).get? "persist").isSome) :
    MissesNothing ((valueReader mode surplus).socketMap (.dict entries)) := by
  refine .bind (missesNothing_record hordered ?_) fun record hrecord => ?_
  · rintro field hfield value -
    simp only [List.mem_cons, List.not_mem_nil, or_false] at hfield
    rcases hfield with rfl | rfl | rfl
    · exact .map (missesNothing_capacity value) _
    · exact .map (missesNothing_text _ value) _
    · exact .map (missesNothing_flag value) _
  obtain ⟨_, heq, rfl⟩ := record_eq_ok (by simp [Value.IsList]) hrecord
  obtain rfl := Value.dict.inj heq
  refine .bind (missesNothing_required hordered hcapacity fun _ _ => missesNothing_capacity _)
    fun _ _ => ?_
  refine .bind (missesNothing_required hordered hpath fun _ _ => missesNothing_text _ _)
    fun _ _ => ?_
  exact .bind (missesNothing_required hordered hpersist fun _ _ => missesNothing_flag _)
    fun _ _ => .ok _

theorem missesNothing_conf {entries : List (String × Value)}
    (hordered : (Value.dict entries).Ordered)
    (hinterface : ((Value.dict entries).get? "interface").isSome)
    (hlevel : ((Value.dict entries).get? "log_level").isSome)
    (hmode : ∀ value, MissesNothing (mode value))
    (hprogram : ∀ value, (Value.dict entries).get? "program" = some value →
      MissesNothing ((valueReader mode surplus).program value))
    (htrace : ∀ value, (Value.dict entries).get? "trace" = some value →
      MissesNothing ((valueReader mode surplus).trace value))
    (hmap : ∀ value, (Value.dict entries).get? "socket_map" = some value →
      MissesNothing ((valueReader mode surplus).socketMap value)) :
    MissesNothing ((valueReader mode surplus).conf (.dict entries)) := by
  refine .bind (missesNothing_record hordered ?_) fun record hrecord => ?_
  · rintro field hfield value hvalue
    simp only [List.mem_cons, List.not_mem_nil, or_false] at hfield
    rcases hfield with rfl | rfl | rfl | rfl | rfl | rfl
    · exact .map (missesNothing_text _ value) _
    · exact .map (missesNothing_level value) _
    · exact .map (hmode value) _
    · exact .map (hprogram value hvalue) _
    · exact .map (htrace value hvalue) _
    · exact .map (hmap value hvalue) _
  obtain ⟨_, heq, rfl⟩ := record_eq_ok (by simp [Value.IsList]) hrecord
  obtain rfl := Value.dict.inj heq
  refine .bind (missesNothing_required hordered hinterface fun _ _ => missesNothing_text _ _)
    fun _ _ => ?_
  refine .bind (missesNothing_required hordered hlevel fun _ _ => missesNothing_level _)
    fun _ _ => ?_
  refine .bind (missesNothing_optional hordered fun value _ => hmode value) fun _ _ => ?_
  refine .bind (missesNothing_optional hordered hprogram) fun _ _ => ?_
  refine .bind (missesNothing_optional hordered htrace) fun _ _ => ?_
  exact .bind (missesNothing_optional hordered hmap) fun _ _ => .ok _

end XdpSteering.Conf
