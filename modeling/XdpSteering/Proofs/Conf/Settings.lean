import XdpSteering.Proofs.Conf.Loading
import XdpSteering.Proofs.Conf.MissedFields
import XdpSteering.Proofs.Conf.Trees

/-!
# Settings and layers

Every setting of a configuration is what the highest layer with its key says, unless a layer above
has something else than a dictionary where the section of the setting belongs.
-/

namespace XdpSteering.Conf

open XdpSteering.Fallible

/-! ## Settings -/

inductive Setting where
  | interface
  | logLevel
  | attachMode
  | objectPath
  | pinLink
  | linkPinPath
  | traceEnabled
  | capacity
  | pinPath
  | persist
  deriving DecidableEq, Repr

namespace Setting

abbrev Content : Setting → Type
  | .interface | .objectPath | .pinPath => String
  | .logLevel => Level
  | .attachMode => AttachMode
  | .linkPinPath => Option String
  | .pinLink | .traceEnabled | .persist => Bool
  | .capacity => UInt32

def path : Setting → List String
  | .interface => ["interface"]
  | .logLevel => ["log_level"]
  | .attachMode => ["attach_mode"]
  | .objectPath => ["program", "object_path"]
  | .pinLink => ["program", "pin_link"]
  | .linkPinPath => ["program", "link_pin_path"]
  | .traceEnabled => ["trace", "enabled"]
  | .capacity => ["socket_map", "capacity"]
  | .pinPath => ["socket_map", "pin_path"]
  | .persist => ["socket_map", "persist"]

def decode : (setting : Setting) → Value → Except Fault setting.Content
  | .interface => layeredReader.string
  | .logLevel => layeredReader.level
  | .attachMode => layeredReader.mode
  | .objectPath | .pinPath => layeredReader.path
  | .linkPinPath => layeredReader.optionalPath
  | .pinLink | .traceEnabled | .persist => layeredReader.flag
  | .capacity => layeredReader.capacity

def get : (setting : Setting) → Conf → setting.Content
  | .interface, conf => conf.interface
  | .logLevel, conf => conf.logLevel
  | .attachMode, conf => conf.attachMode
  | .objectPath, conf => conf.program.objectPath
  | .pinLink, conf => conf.program.pinLink
  | .linkPinPath, conf => conf.program.linkPinPath
  | .traceEnabled, conf => conf.trace.enabled
  | .capacity, conf => conf.socketMap.capacity
  | .pinPath, conf => conf.socketMap.pinPath
  | .persist, conf => conf.socketMap.persist

/-- A configuration has, for a setting, what a value is decoded to. Only the path of the pinned link
can do without a value, and then there is none. -/
def Settled (setting : Setting) (found : Option Value) (conf : Conf) : Prop :=
  match found with
  | some value => setting.decode value = .ok (setting.get conf)
  | none => setting = .linkPinPath ∧ conf.program.linkPinPath = none

theorem path_ne_nil (setting : Setting) : setting.path ≠ [] := by
  cases setting <;> exact List.cons_ne_nil _ _

theorem not_isDict_of_decode {setting : Setting} (hmode : setting ≠ .attachMode) {value : Value}
    {content : setting.Content} (h : setting.decode value = .ok content) : ¬ value.IsDict := by
  rintro ⟨entries, rfl⟩
  cases setting with
  | attachMode => exact hmode rfl
  | _ => cases h

theorem settled_of_reads {setting : Setting} {value : Value} {name : String}
    {found : Option Value} {conf : Conf} (hfound : found = value.get? name)
    (h : Reads value name setting.decode (setting.get conf)) : setting.Settled found conf := by
  obtain ⟨inner, hinner, hdecode⟩ := h
  rw [hfound, hinner]
  exact hdecode

theorem settled_default (setting : Setting) :
    setting.Settled ((toValue {}).at? setting.path) {} := by
  cases setting with
  | linkPinPath => exact ⟨rfl, rfl⟩
  | _ => rfl

theorem Settled.get_eq {setting : Setting} {found : Option Value} {conf other : Conf}
    (h : setting.Settled found conf) (hother : setting.Settled found other) :
    setting.get conf = setting.get other := by
  cases found with
  | some value => exact Except.ok.inj (h.symm.trans hother)
  | none =>
    obtain ⟨rfl, hnone⟩ := h
    exact hnone.trans hother.2.symm

theorem settled_configPath_iff (setting : Setting) (found : Option Value) (conf : Conf)
    (path : Option Path) :
    setting.Settled found { conf with configPath := path } ↔ setting.Settled found conf := by
  cases setting <;> rfl

end Setting

/-! ## Layers -/

def sectionKeys : List String := ["program", "trace", "socket_map"]

namespace Layers

/-- The trees that are laid over the defaults, the lowest first. -/
def overrides (layers : Layers) : List Value :=
  layers.file.toList.map (·.2.value) ++ [layers.environment, layers.request]

/-- Every layer is a dictionary with its keys in order, down to the leaves. -/
def WellFormed (layers : Layers) : Prop :=
  ∀ tree ∈ layers.overrides, tree.IsDict ∧ tree.Ordered

/-- No section is written as a list, and the mode is not written as a dictionary. -/
def Plain (layers : Layers) : Prop :=
  ∀ tree ∈ layers.overrides,
    (∀ name ∈ sectionKeys, ∀ value, tree.get? name = some value → ¬ value.IsList) ∧
      ∀ value, tree.get? "attach_mode" = some value → ¬ value.IsDict

/-- Every section that a layer writes is a dictionary. -/
def Sectioned (layers : Layers) : Prop :=
  ∀ tree ∈ layers.overrides, ∀ name ∈ sectionKeys, ∀ value, tree.get? name = some value →
    value.IsDict

/-- Every setting is what going down the layers finds first. -/
def Settles (layers : Layers) (conf : Conf) : Prop :=
  ∀ setting : Setting,
    setting.Settled (Value.firstMention setting.path layers.toList.reverse) conf

/-! ## The defaults -/

theorem isDict_of_default {name : String} (hname : name ∈ sectionKeys) {value : Value}
    (h : (toValue {}).get? name = some value) : value.IsDict := by
  simp only [sectionKeys, List.mem_cons, List.not_mem_nil, or_false] at hname
  rcases hname with rfl | rfl | rfl
  · exact ⟨_, (Option.some.inj h).symm⟩
  · exact ⟨_, (Option.some.inj h).symm⟩
  · exact ⟨_, (Option.some.inj h).symm⟩

theorem not_isDict_of_default {value : Value}
    (h : (toValue {}).get? "attach_mode" = some value) : ¬ value.IsDict := by
  rw [← Option.some.inj h]
  rintro ⟨entries, heq⟩
  cases heq

variable {layers : Layers}

theorem WellFormed.forall_toList (h : layers.WellFormed) :
    ∀ tree ∈ layers.toList, tree.IsDict ∧ tree.Ordered :=
  List.forall_mem_cons.mpr ⟨layer_toValue {}, h⟩

theorem Plain.forall_toList (h : layers.Plain) :
    ∀ tree ∈ layers.toList,
      (∀ name ∈ sectionKeys, ∀ value, tree.get? name = some value → ¬ value.IsList) ∧
        ∀ value, tree.get? "attach_mode" = some value → ¬ value.IsDict :=
  List.forall_mem_cons.mpr ⟨⟨fun _ hname _ hvalue => (isDict_of_default hname hvalue).not_isList,
    fun _ hvalue => not_isDict_of_default hvalue⟩, h⟩

theorem Sectioned.forall_toList (h : layers.Sectioned) :
    ∀ tree ∈ layers.toList, ∀ name ∈ sectionKeys, ∀ value, tree.get? name = some value →
      value.IsDict :=
  List.forall_mem_cons.mpr ⟨fun _ hname _ hvalue => isDict_of_default hname hvalue, h⟩

/-! ## The merged layers -/

theorem WellFormed.isDict_merged (h : layers.WellFormed) : layers.merged.IsDict :=
  Value.isDict_pile fun tree hmem => (h.forall_toList tree hmem).1

theorem WellFormed.ordered_merged (h : layers.WellFormed) : layers.merged.Ordered :=
  Value.ordered_pile fun tree hmem => (h.forall_toList tree hmem).2

theorem WellFormed.at?_merged (h : layers.WellFormed) {path : List String} (hpath : path ≠ []) :
    ∃ below, layers.merged.at? path =
      (Value.firstMention path layers.toList.reverse).map (Value.mergeOver below) :=
  Value.at?_pile hpath fun tree hmem => (h.forall_toList tree hmem).2

theorem WellFormed.exists_of_get?_merged (h : layers.WellFormed) {key : String} {value : Value}
    (hvalue : layers.merged.get? key = some value) :
    ∃ tree ∈ layers.toList, ∃ written below,
      tree.get? key = some written ∧ value = Value.mergeOver below written := by
  obtain ⟨below, hat⟩ := h.at?_merged (List.cons_ne_nil key [])
  rw [Value.at?_singleton, hvalue] at hat
  obtain ⟨written, hfirst, hover⟩ := Option.map_eq_some_iff.mp hat.symm
  obtain ⟨tree, hmem, htree⟩ := Value.exists_of_firstMention hfirst
  rw [Value.at?_singleton] at htree
  exact ⟨tree, List.mem_reverse.mp hmem, written, below, htree, hover.symm⟩

theorem WellFormed.isSome_get?_merged (h : layers.WellFormed) {key : String}
    (hkey : ((toValue {}).get? key).isSome) : (layers.merged.get? key).isSome := by
  obtain ⟨below, hat⟩ := h.at?_merged (List.cons_ne_nil key [])
  rw [← Value.at?_singleton, hat, Option.isSome_map]
  refine Value.firstMention_isSome (fun tree hmem => ?_) ⟨toValue {}, ?_, ?_⟩
  · exact Value.mention_key_ne_blocked (h.forall_toList tree (List.mem_reverse.mp hmem)).1 key
  · exact List.mem_reverse.mpr List.mem_cons_self
  · rwa [Value.at?_singleton]

theorem not_isList_merged (hformed : layers.WellFormed) (hplain : layers.Plain) {name : String}
    (hname : name ∈ sectionKeys) {value : Value}
    (hvalue : layers.merged.get? name = some value) : ¬ value.IsList := by
  obtain ⟨tree, hmem, written, below, hwritten, rfl⟩ := hformed.exists_of_get?_merged hvalue
  by_cases hdict : written.IsDict
  · exact (Value.isDict_mergeOver below hdict).not_isList
  · rw [Value.mergeOver_of_not_dict hdict]
    exact (hplain.forall_toList tree hmem).1 name hname written hwritten

theorem isDict_section_merged (hformed : layers.WellFormed) (hsectioned : layers.Sectioned)
    {name : String} (hname : name ∈ sectionKeys) {value : Value}
    (hvalue : layers.merged.get? name = some value) : value.IsDict := by
  obtain ⟨tree, hmem, written, below, hwritten, rfl⟩ := hformed.exists_of_get?_merged hvalue
  exact Value.isDict_mergeOver below
    (hsectioned.forall_toList tree hmem name hname written hwritten)

end Layers

end XdpSteering.Conf
