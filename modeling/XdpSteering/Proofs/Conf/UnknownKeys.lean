import Mathlib.Data.List.Forall2
import XdpSteering.Proofs.Conf.Agreement
import XdpSteering.Proofs.Conf.Precedence
import XdpSteering.Proofs.Value.Insertion

/-!
# Keys without a meaning

The tree of a file and the tree of the environment may hold keys that are no fields. Whatever is
under them, and wherever they are put, the configuration is the same, or it is the same fault that
keeps it from being read: the layers say the same about every setting, and nothing else is read.

A tree is what a file is read as. The two keys that the reader of a document takes for itself
(`idKey`, `valueKey`) are gone by then, and have no part in this.
-/

namespace XdpSteering.Conf

open XdpSteering.Fallible

/-! ## Unknown keys -/

/-- The path of a key that is no field where it stands: at the top, or in a section. -/
inductive Unknown : List String → Prop where
  | top {key : String} (unlisted : key ∉ sectionKeys)
      (unset : ∀ setting : Setting, setting.path ≠ [key]) : Unknown [key]
  | inner {name key : String} (listed : name ∈ sectionKeys)
      (unset : ∀ setting : Setting, setting.path ≠ [name, key]) : Unknown [name, key]

/-- A tree with keys put in that are unknown where they stand. -/
inductive Extends (tree : Value) : Value → Prop where
  | same : Extends tree tree
  | insert {other : Value} {path : List String} (extended : Extends tree other)
      (unknown : Unknown path) (value : Value) : Extends tree (Value.insertAt path value other)

theorem unknown_configPath : Unknown ["config_path"] :=
  .top (by decide) fun setting => by cases setting <;> decide

theorem Setting.path_cases (setting : Setting) :
    (∃ key, key ∉ sectionKeys ∧ setting.path = [key]) ∨
      ∃ name key, name ∈ sectionKeys ∧ setting.path = [name, key] := by
  cases setting with
  | interface | logLevel | attachMode => exact .inl ⟨_, by decide, rfl⟩
  | _ => exact .inr ⟨_, _, by decide, rfl⟩

variable {path : List String} {tree other : Value}

theorem mention_insertAt (hunknown : Unknown path) (setting : Setting) (value : Value) :
    (Value.insertAt path value tree).mention setting.path = tree.mention setting.path := by
  -- The paths part at their first keys, unless both go into the same section.
  rcases setting.path_cases with ⟨field, hfield, hpath⟩ | ⟨group, field, hgroup, hpath⟩
  · rw [hpath]
    cases hunknown with
    | top _ unset =>
      refine Value.mention_insertAt_of_ne [] [] fun heq => unset setting ?_
      rw [hpath, heq]
    | inner listed _ =>
      exact Value.mention_insertAt_of_ne _ [] fun heq => hfield (heq ▸ listed)
  · rw [hpath]
    cases hunknown with
    | top unlisted _ =>
      exact Value.mention_insertAt_of_ne [] _ fun heq => unlisted (heq ▸ hgroup)
    | @inner name key _ unset =>
      by_cases hname : group = name
      · subst hname
        refine Value.mention_insertAt_inner fun heq => unset setting ?_
        rw [hpath, heq]
      · exact Value.mention_insertAt_of_ne _ _ hname

theorem Extends.mention_eq (h : Extends tree other) (setting : Setting) :
    tree.mention setting.path = other.mention setting.path := by
  induction h with
  | same => rfl
  | insert _ unknown value ih => exact ih.trans (mention_insertAt unknown setting value).symm

def SectionsOf (tree : Value) : Prop :=
  ∀ name ∈ sectionKeys, ∀ value, tree.get? name = some value → value.IsDict

theorem sectionsOf_insertAt (hunknown : Unknown path) (h : SectionsOf tree) (value : Value) :
    SectionsOf (Value.insertAt path value tree) := by
  intro group hgroup found hfound
  cases hunknown with
  | @top key unlisted _ =>
    have hne : group ≠ key := fun heq => unlisted (heq ▸ hgroup)
    rw [Value.get?_insertAt_of_ne [] hne] at hfound
    exact h group hgroup found hfound
  | @inner name key _ _ =>
    by_cases hname : group = name
    · subst hname
      cases tree with
      | dict entries =>
        rw [Value.get?_insertAt_self] at hfound
        rw [← Option.some.inj hfound]
        refine Value.isDict_insertAt ?_ (List.cons_ne_nil _ _)
        cases hbelow : KeyedList.find? group entries with
        | none => exact ⟨[], rfl⟩
        | some below => exact h group hgroup below hbelow
      | _ => exact h group hgroup found hfound
    · rw [Value.get?_insertAt_of_ne _ hname] at hfound
      exact h group hgroup found hfound

theorem Extends.sectionsOf (h : Extends tree other) (hsections : SectionsOf tree) :
    SectionsOf other := by
  induction h with
  | same => exact hsections
  | insert _ unknown value ih => exact sectionsOf_insertAt unknown ih value

/-! ## Layers -/

namespace Layers

/-- The same layers with keys put into the file and the environment that are unknown there. The file
may name other sources for its values. -/
structure Extended (layers other : Layers) : Prop where
  file : Option.Rel (fun read more : Path × Sourced => Extends read.2.value more.2.value)
    layers.file other.file
  environment : Extends layers.environment other.environment
  request : layers.request = other.request

variable {layers other : Layers}

theorem Extended.forall₂ (h : layers.Extended other) {relation : Value → Value → Prop}
    (hrefl : ∀ tree, relation tree tree)
    (hextends : ∀ tree more, Extends tree more → relation tree more) :
    List.Forall₂ relation layers.toList other.toList := by
  have hfile : List.Forall₂ relation (layers.file.toList.map (·.2.value))
      (other.file.toList.map (·.2.value)) := by
    have hrel := h.file
    generalize layers.file = read, other.file = more at hrel
    cases hrel with
    | none => exact .nil
    | some hextended => exact .cons (hextends _ _ hextended) .nil
  have habove : List.Forall₂ relation [layers.environment, layers.request]
      [other.environment, other.request] :=
    .cons (hextends _ _ h.environment) (.cons (h.request ▸ hrefl layers.request) .nil)
  exact .cons (hrefl (toValue {})) (List.rel_append hfile habove)

theorem Extended.sectioned (h : layers.Extended other) (hsectioned : layers.Sectioned) :
    other.Sectioned := by
  have hsections : ∀ tree ∈ other.toList, SectionsOf tree := by
    have hkept : List.Forall₂ (fun tree more => SectionsOf tree → SectionsOf more) layers.toList
        other.toList := h.forall₂ (fun _ => id) fun _ _ hextends => hextends.sectionsOf
    have hlayers := hsectioned.forall_toList
    generalize layers.toList = trees, other.toList = others at hkept hlayers
    induction hkept with
    | nil => simp
    | cons hfirst _ ih =>
      obtain ⟨htree, hrest⟩ := List.forall_mem_cons.mp hlayers
      exact List.forall_mem_cons.mpr ⟨hfirst htree, ih hrest⟩
  exact fun tree hmem => hsections tree (List.mem_cons_of_mem _ hmem)

theorem at?_merged_of_extended (hformed : layers.WellFormed) (hother : other.WellFormed)
    (h : layers.Extended other) (setting : Setting) :
    layers.merged.at? setting.path = other.merged.at? setting.path := by
  have hsame : Value.SayTheSame setting.path layers.toList other.toList :=
    h.forall₂ (fun _ => rfl) fun _ _ hextends => hextends.mention_eq setting
  exact Value.at?_pile_of_sayTheSame hsame (fun tree hmem => (hformed.forall_toList tree hmem).2)
    fun tree hmem => (hother.forall_toList tree hmem).2

/-- The merged layers hold every section as a dictionary with its keys in order. -/
theorem section_merged (hformed : layers.WellFormed) (hsectioned : layers.Sectioned)
    {name : String} (hname : name ∈ sectionKeys) :
    ∃ entries, layers.merged.get? name = some (.dict entries) ∧ KeyedList.Ascending entries ∧
      ∀ key, layers.merged.at? [name, key] = KeyedList.find? key entries := by
  have hdefault : ((toValue {}).get? name).isSome := by
    revert name
    decide
  obtain ⟨value, hvalue⟩ := Option.isSome_iff_exists.mp (hformed.isSome_get?_merged hdefault)
  obtain ⟨entries, rfl⟩ := isDict_section_merged hformed hsectioned hname hvalue
  obtain ⟨all, hall⟩ := hformed.isDict_merged
  have hordered := hformed.ordered_merged
  rw [hall] at hordered hvalue
  exact ⟨entries, hall ▸ hvalue, (hordered.find? hvalue).ascending,
    fun key => hall ▸ Value.at?_pair hvalue key⟩

/-- A section is read alike if what is read of it are settings. -/
theorem readAlike_section (hformed : layers.WellFormed) (hother : other.WellFormed)
    (hsectioned : layers.Sectioned) (h : layers.Extended other) {A : Type} {name : String}
    (hname : name ∈ sectionKeys) {read : Value → Except Fault A}
    (hcongr : ∀ entries others : List (String × Value), KeyedList.Ascending entries →
      KeyedList.Ascending others → (∀ setting : Setting, ∀ key, setting.path = [name, key] →
        KeyedList.find? key entries = KeyedList.find? key others) →
      read (.dict entries) = read (.dict others)) :
    (layers.merged.get? name).map read = (other.merged.get? name).map read := by
  obtain ⟨entries, hentries, hascending, hkeys⟩ := section_merged hformed hsectioned hname
  obtain ⟨others, hothers, hordered, hmore⟩ :=
    section_merged hother (h.sectioned hsectioned) hname
  rw [hentries, hothers]
  refine congrArg some (hcongr entries others hascending hordered fun setting key hpath => ?_)
  rw [← hkeys, ← hmore, ← hpath, at?_merged_of_extended hformed hother h]

/-- Layers with more unknown keys are read as the same configuration, or with the same fault. -/
theorem conf_merged_of_extended (hformed : layers.WellFormed) (hother : other.WellFormed)
    (hsectioned : layers.Sectioned) (h : layers.Extended other) :
    layeredReader.conf layers.merged = layeredReader.conf other.merged := by
  have hprogram : (layers.merged.get? "program").map layeredReader.program
      = (other.merged.get? "program").map layeredReader.program :=
    readAlike_section hformed hother hsectioned h (by decide)
      fun _ _ hentries hothers hkeys => program_congr hentries hothers
        (hkeys .objectPath _ rfl) (hkeys .pinLink _ rfl) (hkeys .linkPinPath _ rfl)
  have htrace : (layers.merged.get? "trace").map layeredReader.trace
      = (other.merged.get? "trace").map layeredReader.trace :=
    readAlike_section hformed hother hsectioned h (by decide)
      fun _ _ hentries hothers hkeys => trace_congr hentries hothers (hkeys .traceEnabled _ rfl)
  have hmap : (layers.merged.get? "socket_map").map layeredReader.socketMap
      = (other.merged.get? "socket_map").map layeredReader.socketMap :=
    readAlike_section hformed hother hsectioned h (by decide)
      fun _ _ hentries hothers hkeys => socketMap_congr hentries hothers
        (hkeys .capacity _ rfl) (hkeys .pinPath _ rfl) (hkeys .persist _ rfl)
  have hat := at?_merged_of_extended hformed hother h
  have hordered := hformed.ordered_merged
  have hmore := hother.ordered_merged
  obtain ⟨entries, hentries⟩ := hformed.isDict_merged
  obtain ⟨others, hothers⟩ := hother.isDict_merged
  rw [hentries] at hordered hat hprogram htrace hmap ⊢
  rw [hothers] at hmore hat hprogram htrace hmap ⊢
  have hkey (setting : Setting) {key : String} (hpath : setting.path = [key]) :
      KeyedList.find? key entries = KeyedList.find? key others := by
    have hsame := hat setting
    rwa [hpath, Value.at?_singleton, Value.at?_singleton] at hsame
  exact conf_congr hordered.ascending hmore.ascending (hkey .interface rfl) (hkey .logLevel rfl)
    (hkey .attachMode rfl) hprogram htrace hmap

end Layers

/-! ## Loading -/

def settle (layers : Layers) (config : Option Path) : Except Error Conf := do
  let conf ← layers.extract
  checkUsable conf
  return { conf with configPath := config }

theorem load_eq_settle {fs : FileSystem} {environment : Environment} {cli : Cli}
    {first : Option Nat} {file : Option (Path × Sourced)}
    (hfile : loadFile fs cli.config = .ok file) :
    load fs environment cli first =
      settle { file, environment := environment.settings, request := cli.toValue, first }
        cli.config := by
  rw [load, hfile]
  rfl

/-- Loading comes to the same configuration, or it fails in the same way. What a fault is blamed on
is left open. -/
inductive SameOutcome : Except Error Conf → Except Error Conf → Prop where
  | conf (conf : Conf) : SameOutcome (.ok conf) (.ok conf)
  | fault (fault : Fault) (source other : Source) :
      SameOutcome (.error (.extraction fault source)) (.error (.extraction fault other))
  | unusable (error : Error) : SameOutcome (.error error) (.error error)

theorem sameOutcome_settle {layers other : Layers}
    (h : layeredReader.conf layers.merged = layeredReader.conf other.merged)
    (config : Option Path) : SameOutcome (settle layers config) (settle other config) := by
  unfold settle Layers.extract
  rw [← h]
  cases layeredReader.conf layers.merged with
  | error fault => exact .fault fault _ _
  | ok conf =>
    simp only [mapError_ok, bind, Except.bind]
    cases checkUsable conf with
    | error error => exact .unusable error
    | ok value => exact .conf _

theorem wellFormed_of_loadFile {fs : FileSystem} {environment : Environment} {cli : Cli}
    {first : Option Nat} {file : Option (Path × Sourced)}
    (hfile : loadFile fs cli.config = .ok file) :
    Layers.WellFormed
      { file, environment := environment.settings, request := cli.toValue, first } := by
  rw [loadFile_eq] at hfile
  obtain ⟨⟨⟩, -, hread⟩ := bind_eq_ok_iff.mp hfile
  have hlayers : layersFor fs environment cli first = .ok _ := bind_eq_ok_iff.mpr ⟨file, hread, rfl⟩
  exact wellFormed_of_layersFor hlayers

end XdpSteering.Conf
