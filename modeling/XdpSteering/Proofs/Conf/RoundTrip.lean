import XdpSteering.Proofs.Conf.Objects

/-!
# Reading back what was written

A configuration is written as a value tree with a key for each of its fields. The tree is read back
as the same configuration, but for the path of the file, which is not written.
-/

namespace XdpSteering

theorem Level.read?_name (level : Level) : Level.read? level.name = some level := by
  cases level <;> decide

theorem AttachMode.ofName?_name (mode : AttachMode) :
    AttachMode.ofName? mode.name = some mode := by
  cases mode <;> decide

namespace Conf

variable {mode : Value → Except Fault AttachMode} {surplus : Nat → Nat → Option Fault}

/-! ## Leaves -/

theorem readModeName_name (mode : AttachMode) : readModeName mode.name = .ok mode := by
  rw [readModeName, AttachMode.ofName?_name]

theorem level_name (level : Level) :
    (valueReader mode surplus).level (.text level.name) = .ok level := by
  have htext : (valueReader mode surplus).string (.text level.name) = .ok level.name := rfl
  refine Fallible.bind_eq_ok_iff.mpr ⟨level.name, htext, ?_⟩
  rw [Level.read?_name]
  rfl

theorem readCapacity_toNat (capacity : UInt32) :
    readCapacity (.number (.unsigned capacity.toNat)) = .ok capacity := by
  have hmax : Text.Numeral.max32 = 4294967295 := rfl
  have hlt : capacity.toNat < 4294967296 := capacity.toNat_lt
  have hle : capacity.toNat ≤ Text.Numeral.max32 := by omega
  simp only [readCapacity, if_pos hle, UInt32.ofNat_toNat]

/-! ## Sections -/

/-- What a written configuration has under a key is in order. -/
theorem ordered_of_get?_toValue {conf : Conf} {name : String} {value : Value}
    (h : (toValue conf).get? name = some value) : value.Ordered := by
  obtain ⟨⟨entries, hentries⟩, hordered⟩ := layer_toValue conf
  rw [hentries] at h hordered
  exact hordered.find? h

theorem not_isList_ofPairs (pairs : List (String × Value)) : ¬ (Value.ofPairs pairs).IsList :=
  Value.IsDict.not_isList ⟨_, rfl⟩

theorem reads_program_toValue (conf : Conf) :
    Reads (toValue conf) "program" (valueReader mode surplus).program conf.program := by
  have hget : (toValue conf).get? "program" = some (.ofPairs (
      [("object_path", .text conf.program.objectPath), ("pin_link", .flag conf.program.pinLink)]
        ++ (conf.program.linkPinPath.toList.map fun path => ("link_pin_path", .text path)))) := by
    simp [toValue, Value.get?_ofPairs]
  refine ⟨_, hget, ?_⟩
  rw [program_eq_ok_iff (ordered_of_get?_toValue hget) (not_isList_ofPairs _)]
  cases hlink : conf.program.linkPinPath with
  | none =>
    refine ⟨⟨.text conf.program.objectPath, ?_, rfl⟩, ⟨.flag conf.program.pinLink, ?_, rfl⟩,
      .inl ⟨?_, rfl⟩⟩
    all_goals simp [Value.get?_ofPairs]
  | some path =>
    refine ⟨⟨.text conf.program.objectPath, ?_, rfl⟩, ⟨.flag conf.program.pinLink, ?_, rfl⟩,
      .inr ⟨.text path, ?_, rfl⟩⟩
    all_goals simp [Value.get?_ofPairs]

theorem reads_trace_toValue (conf : Conf) :
    Reads (toValue conf) "trace" (valueReader mode surplus).trace conf.trace := by
  have hget : (toValue conf).get? "trace"
      = some (.ofPairs [("enabled", .flag conf.trace.enabled)]) := by
    simp [toValue, Value.get?_ofPairs]
  refine ⟨_, hget, ?_⟩
  rw [trace_eq_ok_iff (ordered_of_get?_toValue hget) (not_isList_ofPairs _)]
  exact ⟨.flag conf.trace.enabled, by simp [Value.get?_ofPairs], rfl⟩

theorem reads_socketMap_toValue (conf : Conf) :
    Reads (toValue conf) "socket_map" (valueReader mode surplus).socketMap conf.socketMap := by
  have hget : (toValue conf).get? "socket_map" = some (.ofPairs [
      ("capacity", .number (.unsigned conf.socketMap.capacity.toNat)),
      ("pin_path", .text conf.socketMap.pinPath),
      ("persist", .flag conf.socketMap.persist)]) := by
    simp [toValue, Value.get?_ofPairs]
  refine ⟨_, hget, ?_⟩
  rw [socketMap_eq_ok_iff (ordered_of_get?_toValue hget) (not_isList_ofPairs _)]
  refine ⟨⟨.number (.unsigned conf.socketMap.capacity.toNat), ?_, readCapacity_toNat _⟩,
    ⟨.text conf.socketMap.pinPath, ?_, rfl⟩, ⟨.flag conf.socketMap.persist, ?_, rfl⟩⟩
  all_goals simp [Value.get?_ofPairs]

/-! ## Configurations -/

theorem conf_toValue (hmode : ∀ choice : AttachMode, mode (.text choice.name) = .ok choice)
    (conf : Conf) :
    (valueReader mode surplus).conf (toValue conf) = .ok { conf with configPath := none } := by
  obtain ⟨hdict, hordered⟩ := layer_toValue conf
  rw [conf_eq_ok_iff hordered hdict.not_isList]
  refine ⟨⟨.text conf.interface, ?_, rfl⟩, ⟨.text conf.logLevel.name, ?_, level_name _⟩,
    .inr ⟨.text conf.attachMode.name, ?_, hmode _⟩, .inr (reads_program_toValue conf),
    .inr (reads_trace_toValue conf), .inr (reads_socketMap_toValue conf), rfl⟩
  all_goals simp [toValue, Value.get?_ofPairs]

/-- From a document and from layers alike, what was written is read back without the path of the
file, and it is written as the same tree again. -/
theorem written_conf_is_read_back (conf : Conf) :
    jsonReader.conf (toValue conf) = .ok { conf with configPath := none } ∧
      layeredReader.conf (toValue conf) = .ok { conf with configPath := none } ∧
      toValue { conf with configPath := none } = toValue conf :=
  ⟨conf_toValue readModeName_name conf, conf_toValue readModeName_name conf, rfl⟩

end Conf

end XdpSteering
