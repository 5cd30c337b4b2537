import XdpSteering.Proofs.Conf.Settings

/-!
# Which layer decides a setting

The layers are read after they are laid over each other. Setting by setting, this gives what going
down the layers gives: a value that can be decoded is no dictionary, so nothing below it matters.
-/

namespace XdpSteering.Conf

open XdpSteering.Fallible

namespace Layers

variable {layers : Layers} {conf : Conf}

theorem extract_eq_ok_iff :
    layers.extract = .ok conf ↔ layeredReader.conf layers.merged = .ok conf :=
  mapError_eq_ok_iff

/-! ## The first mention decides -/

theorem settled_merged (hformed : layers.WellFormed) (hplain : layers.Plain)
    (h : layers.extract = .ok conf) (setting : Setting) :
    setting.Settled (layers.merged.at? setting.path) conf := by
  have hordered := hformed.ordered_merged
  have hlist {name : String} (hname : name ∈ sectionKeys) {value : Value}
      (hvalue : layers.merged.get? name = some value) : ¬ value.IsList :=
    not_isList_merged hformed hplain hname hvalue
  -- The defaults have every section, so none is left to its own default.
  have hfull {key : String} (hkey : ((toValue {}).get? key).isSome) :
      layers.merged.get? key ≠ none :=
    Option.isSome_iff_ne_none.mp (hformed.isSome_get?_merged hkey)
  rw [extract_eq_ok_iff] at h
  obtain ⟨entries, hentries⟩ := hformed.isDict_merged
  rw [hentries] at h hordered hlist hfull ⊢
  obtain ⟨hinterface, hlevel, hmode, hprogram, htrace, hmap⟩ := conf_dict_eq_ok hordered h
  have hmode := hmode.resolve_left (hfull rfl)
  obtain ⟨program, hprogram, hread⟩ := hprogram.resolve_left (hfull rfl)
  obtain ⟨hobject, hpin, hlink⟩ :=
    program_eq_ok (hordered.find? hprogram) (hlist (by simp [sectionKeys]) hprogram) hread
  obtain ⟨trace, htrace, hread⟩ := htrace.resolve_left (hfull rfl)
  have henabled :=
    trace_eq_ok (hordered.find? htrace) (hlist (by simp [sectionKeys]) htrace) hread
  obtain ⟨socketMap, hmap, hread⟩ := hmap.resolve_left (hfull rfl)
  obtain ⟨hcapacity, hpath, hpersist⟩ :=
    socketMap_eq_ok (hordered.find? hmap) (hlist (by simp [sectionKeys]) hmap) hread
  cases setting with
  | interface => exact Setting.settled_of_reads (Value.at?_singleton _ _) hinterface
  | logLevel => exact Setting.settled_of_reads (Value.at?_singleton _ _) hlevel
  | attachMode => exact Setting.settled_of_reads (Value.at?_singleton _ _) hmode
  | objectPath => exact Setting.settled_of_reads (Value.at?_pair hprogram _) hobject
  | pinLink => exact Setting.settled_of_reads (Value.at?_pair hprogram _) hpin
  | linkPinPath =>
    rcases hlink with ⟨habsent, hnone⟩ | hlink
    · rw [Setting.path, Value.at?_pair hprogram, habsent]
      exact ⟨rfl, hnone⟩
    · exact Setting.settled_of_reads (Value.at?_pair hprogram _) hlink
  | traceEnabled => exact Setting.settled_of_reads (Value.at?_pair htrace _) henabled
  | capacity => exact Setting.settled_of_reads (Value.at?_pair hmap _) hcapacity
  | pinPath => exact Setting.settled_of_reads (Value.at?_pair hmap _) hpath
  | persist => exact Setting.settled_of_reads (Value.at?_pair hmap _) hpersist

/-- Where the mode is not written as a dictionary, a value that decodes is no dictionary, and so is
not merged with what is below it. -/
theorem not_isDict_of_settled (hplain : layers.Plain) {setting : Setting} {value : Value}
    (hfirst : Value.firstMention setting.path layers.toList.reverse = some value)
    {below : Option Value} (h : setting.Settled (some (Value.mergeOver below value)) conf) :
    ¬ value.IsDict := by
  by_cases hmode : setting = .attachMode
  · subst hmode
    obtain ⟨tree, hmem, htree⟩ := Value.exists_of_firstMention hfirst
    rw [Setting.path, Value.at?_singleton] at htree
    exact (hplain.forall_toList tree (List.mem_reverse.mp hmem)).2 value htree
  · exact fun hdict =>
      Setting.not_isDict_of_decode hmode h (Value.isDict_mergeOver below hdict)

theorem settles_of_extract (hformed : layers.WellFormed) (hplain : layers.Plain)
    (h : layers.extract = .ok conf) : layers.Settles conf := by
  intro setting
  have hmerged := settled_merged hformed hplain h setting
  obtain ⟨below, hat⟩ := hformed.at?_merged setting.path_ne_nil
  rw [hat] at hmerged
  cases hfirst : Value.firstMention setting.path layers.toList.reverse with
  | none => simpa [hfirst] using hmerged
  | some value =>
    -- What was merged is a leaf, so it is the value of the first layer alone.
    rw [hfirst, Option.map_some] at hmerged
    rwa [Value.mergeOver_of_not_dict (not_isDict_of_settled hplain hfirst hmerged)] at hmerged

/-! ## Sections that are dictionaries -/

theorem mention_ne_blocked (hformed : layers.WellFormed) (hsectioned : layers.Sectioned)
    (setting : Setting) {tree : Value} (hmem : tree ∈ layers.toList) :
    tree.mention setting.path ≠ .blocked := by
  have hdict := (hformed.forall_toList tree hmem).1
  have hinner := hsectioned.forall_toList tree hmem
  cases setting with
  | interface | logLevel | attachMode => exact Value.mention_key_ne_blocked hdict _
  | _ => exact Value.mention_pair_ne_blocked hdict (hinner _ (by simp [sectionKeys])) _

theorem isSome_at?_merged (hformed : layers.WellFormed) (hsectioned : layers.Sectioned)
    {setting : Setting} (hlink : setting ≠ .linkPinPath) :
    (layers.merged.at? setting.path).isSome := by
  obtain ⟨below, hat⟩ := hformed.at?_merged setting.path_ne_nil
  rw [hat, Option.isSome_map]
  refine Value.firstMention_isSome (fun tree hmem => ?_) ⟨toValue {}, ?_, ?_⟩
  · exact mention_ne_blocked hformed hsectioned setting (List.mem_reverse.mp hmem)
  · exact List.mem_reverse.mpr List.mem_cons_self
  · cases setting with
    | linkPinPath => exact absurd rfl hlink
    | _ => rfl

theorem missesNothing_merged (hformed : layers.WellFormed) (hsectioned : layers.Sectioned) :
    MissesNothing (layeredReader.conf layers.merged) := by
  have hordered := hformed.ordered_merged
  have hsome {setting : Setting} (hlink : setting ≠ .linkPinPath) :=
    isSome_at?_merged hformed hsectioned hlink
  have hdict {name : String} (hname : name ∈ sectionKeys) {value : Value}
      (hvalue : layers.merged.get? name = some value) : value.IsDict :=
    isDict_section_merged hformed hsectioned hname hvalue
  have hinterface := @hsome .interface (by decide)
  have hlevel := @hsome .logLevel (by decide)
  simp only [Setting.path, Value.at?_singleton] at hinterface hlevel
  obtain ⟨entries, hentries⟩ := hformed.isDict_merged
  rw [hentries] at hordered hsome hdict hinterface hlevel ⊢
  refine missesNothing_conf hordered hinterface hlevel missesNothing_layeredMode ?_ ?_ ?_
  · intro value hvalue
    have hobject := @hsome .objectPath (by decide)
    have hpin := @hsome .pinLink (by decide)
    simp only [Setting.path, Value.at?_pair hvalue] at hobject hpin
    obtain ⟨inner, rfl⟩ := hdict (by simp [sectionKeys]) hvalue
    exact missesNothing_program (hordered.find? hvalue) hobject hpin
  · intro value hvalue
    have henabled := @hsome .traceEnabled (by decide)
    rw [Setting.path, Value.at?_pair hvalue] at henabled
    obtain ⟨inner, rfl⟩ := hdict (by simp [sectionKeys]) hvalue
    exact missesNothing_trace (hordered.find? hvalue) henabled
  · intro value hvalue
    have hcapacity := @hsome .capacity (by decide)
    have hpath := @hsome .pinPath (by decide)
    have hpersist := @hsome .persist (by decide)
    simp only [Setting.path, Value.at?_pair hvalue] at hcapacity hpath hpersist
    obtain ⟨inner, rfl⟩ := hdict (by simp [sectionKeys]) hvalue
    exact missesNothing_socketMap (hordered.find? hvalue) hcapacity hpath hpersist

theorem get_eq_default (hformed : layers.WellFormed) (hsectioned : layers.Sectioned)
    (hsettles : layers.Settles conf) {setting : Setting}
    (hunset : ∀ tree ∈ layers.overrides, tree.at? setting.path = none) :
    setting.get conf = setting.get {} := by
  have hfree {tree : Value} (hmem : tree ∈ layers.toList) :=
    mention_ne_blocked hformed hsectioned setting hmem
  have hfirst : Value.firstMention setting.path layers.toList.reverse =
      (toValue {}).at? setting.path := by
    have hsilent : ∀ tree ∈ layers.overrides.reverse, tree.mention setting.path = .silent :=
      fun tree hmem => Value.mention_eq_silent
        (hfree (List.mem_cons_of_mem _ (List.mem_reverse.mp hmem)))
        (hunset tree (List.mem_reverse.mp hmem))
    rw [show layers.toList.reverse = layers.overrides.reverse ++ [toValue {}] from
        List.reverse_cons,
      Value.firstMention_append_of_silent hsilent, Value.firstMention, Value.at?_eq_mention]
    have hdefault := hfree (List.mem_cons_self : toValue {} ∈ layers.toList)
    cases hmention : (toValue {}).mention setting.path with
    | value value => rfl
    | silent => rfl
    | blocked => exact absurd hmention hdefault
  have hsettled := hsettles setting
  rw [hfirst] at hsettled
  exact hsettled.get_eq setting.settled_default

theorem at?_pile_section (hformed : layers.WellFormed) (hsectioned : layers.Sectioned)
    {lower upper : List Value} {tree : Value} (hsplit : layers.toList = lower ++ tree :: upper)
    {name : String} (hname : name ∈ sectionKeys) {key : String}
    (hkey : tree.at? [name, key] = none) :
    (Value.pile (lower ++ [tree])).at? [name, key] = (Value.pile lower).at? [name, key] := by
  have hmem : tree ∈ layers.toList := by
    rw [hsplit]
    simp
  obtain ⟨hdict, hordered⟩ := hformed.forall_toList tree hmem
  have hfree := Value.mention_pair_ne_blocked hdict
    (hsectioned.forall_toList tree hmem name hname) key
  exact Value.at?_pile_concat_of_silent hordered (Value.mention_eq_silent hfree hkey)

end Layers

/-! ## The layers of a load -/

theorem wellFormed_of_layersFor {fs : FileSystem} {environment : Environment} {cli : Cli}
    {first : Option Nat} {layers : Layers}
    (h : layersFor fs environment cli first = .ok layers) : layers.WellFormed := by
  obtain ⟨file, hfile, hreturn⟩ := bind_eq_ok_iff.mp h
  rw [← Except.ok.inj hreturn]
  intro tree hmem
  simp only [Layers.overrides, List.mem_append, List.mem_map, List.mem_cons, List.not_mem_nil,
    or_false] at hmem
  rcases hmem with ⟨⟨path, sourced⟩, hsourced, rfl⟩ | rfl | rfl
  · unfold readFile at hfile
    split at hfile
    · rw [← Except.ok.inj hfile] at hsourced
      simp at hsourced
    · split at hfile
      · next hlayer =>
        rw [← Except.ok.inj hfile, Option.toList_some, List.mem_singleton] at hsourced
        rw [(Prod.mk.inj hsourced).2]
        exact layer_fileLayer hlayer
      · cases hfile
  · exact environment.layer_settings
  · exact cli.layer_toValue

theorem settles_of_load {fs : FileSystem} {environment : Environment} {cli : Cli}
    {first : Option Nat} {layers : Layers}
    (hlayers : layersFor fs environment cli first = .ok layers) (hplain : layers.Plain)
    {conf : Conf} (h : load fs environment cli first = .ok conf) : layers.Settles conf := by
  obtain ⟨-, read, hread, -, -, rfl⟩ := load_eq_ok_iff.mp h
  obtain ⟨same, hsame, hextract⟩ := bind_eq_ok_iff.mp hread
  obtain rfl := Except.ok.inj (hlayers.symm.trans hsame)
  have hsettles := Layers.settles_of_extract (wellFormed_of_layersFor hlayers) hplain hextract
  exact fun setting => (setting.settled_configPath_iff _ read cli.config).mpr (hsettles setting)

/-- Layers without lists for sections and without a dictionary for the mode give every setting what
going down the layers finds first. If all sections are dictionaries, no field is missed, a setting
that no layer makes keeps its default, and a layer without a key of a section leaves it as it is.
So do the layers of a request, which are always in form, and the configuration loaded for it. -/
theorem first_mention_decides_every_setting :
    (∀ layers : Layers, layers.WellFormed → layers.Plain →
      (∀ conf, layers.extract = .ok conf → layers.Settles conf) ∧
      (layers.Sectioned →
        (∀ error, layers.extract = .error error →
          ∃ fault source, error = .extraction fault source ∧
            ∀ name, fault.cause ≠ .missingField name) ∧
        (∀ conf, layers.extract = .ok conf → ∀ setting : Setting,
          (∀ tree ∈ layers.overrides, tree.at? setting.path = none) →
            setting.get conf = setting.get {}) ∧
        ∀ lower tree upper, layers.toList = lower ++ tree :: upper →
          ∀ name ∈ sectionKeys, ∀ key, tree.at? [name, key] = none →
            (Value.pile (lower ++ [tree])).at? [name, key] =
              (Value.pile lower).at? [name, key])) ∧
    ∀ (fs : FileSystem) (environment : Environment) (cli : Cli) (first : Option Nat)
      (layers : Layers), layersFor fs environment cli first = .ok layers →
      layers.WellFormed ∧
        (layers.Plain → ∀ conf, load fs environment cli first = .ok conf →
          layers.Settles conf) := by
  refine ⟨fun layers hformed hplain => ⟨fun conf hextract => ?_, fun hsectioned =>
    ⟨fun error hextract => ?_, fun conf hextract setting hunset => ?_, ?_⟩⟩, ?_⟩
  · exact Layers.settles_of_extract hformed hplain hextract
  · obtain ⟨fault, hfault, rfl⟩ := mapError_eq_error_iff.mp hextract
    exact ⟨fault, _, rfl, Layers.missesNothing_merged hformed hsectioned fault hfault⟩
  · exact Layers.get_eq_default hformed hsectioned
      (Layers.settles_of_extract hformed hplain hextract) hunset
  · intro lower tree upper hsplit name hname key hkey
    exact Layers.at?_pile_section hformed hsectioned hsplit hname hkey
  · intro fs environment cli first layers hlayers
    exact ⟨wellFormed_of_layersFor hlayers, fun hplain conf hload =>
      settles_of_load hlayers hplain hload⟩

/-- A file makes two settings of a section and names an interface; the environment makes one of the
settings again, and the request names another interface. -/
theorem overlapping_layers_settle :
    let layers : Layers := {
      file := some (Path.ofString "steer.yaml", {
        value := .ofPairs [
          ("interface", .text "lan0"),
          ("socket_map",
            .ofPairs [("capacity", .number (.unsigned 16)), ("persist", .flag false)])] })
      environment := .ofPairs [("socket_map", .ofPairs [("capacity", .number (.unsigned 32))])]
      request := .ofPairs [("interface", .text "wan0")] }
    layers.WellFormed ∧ layers.Plain ∧ layers.Sectioned ∧
      layers.Settles
        { interface := "wan0", socketMap := { capacity := 32, persist := false } } := by
  intro layers
  have hformed : layers.WellFormed := by
    refine List.forall_mem_cons.mpr ⟨⟨⟨_, rfl⟩, ?_⟩, List.forall_mem_cons.mpr ⟨⟨⟨_, rfl⟩, ?_⟩,
      List.forall_mem_singleton.mpr ⟨⟨_, rfl⟩, ?_⟩⟩⟩
    · simp [Value.ordered_ofPairs, Value.Ordered.text, Value.Ordered.number, Value.Ordered.flag]
    · simp [layers, Value.ordered_ofPairs, Value.Ordered.number]
    · simp [layers, Value.ordered_ofPairs, Value.Ordered.text]
  have hmem {tree : Value} (h : tree ∈ layers.overrides) := by
    simpa [layers, Layers.overrides] using h
  have hsectioned : layers.Sectioned := by
    intro tree htree name hname value hvalue
    simp only [sectionKeys, List.mem_cons, List.not_mem_nil, or_false] at hname
    rcases hmem htree with rfl | rfl | rfl <;> rcases hname with rfl | rfl | rfl <;> cases hvalue
    · exact ⟨_, rfl⟩
    · exact ⟨_, rfl⟩
  have hplain : layers.Plain := by
    refine fun tree htree => ⟨fun name hname value hvalue =>
      (hsectioned tree htree name hname value hvalue).not_isList, ?_⟩
    rintro value hvalue ⟨entries, rfl⟩
    rcases hmem htree with rfl | rfl | rfl <;> cases hvalue
  exact ⟨hformed, hplain, hsectioned,
    (first_mention_decides_every_setting.1 layers hformed hplain).1 _ rfl⟩

end XdpSteering.Conf
