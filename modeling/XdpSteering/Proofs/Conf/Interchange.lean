import XdpSteering.Proofs.CommandLine.Interchange
import XdpSteering.Proofs.Conf.Precedence

/-!
# A flag or a variable

A variable of an option reaches the configuration twice: as a setting of the environment, where its
text is read as some value, and through the request, which lies above. What the request says is no
dictionary, so the setting below it cannot be seen, and a flag in place of the variable comes to the
same.
-/

namespace XdpSteering

open XdpSteering.Text XdpSteering.Fallible

/-! ## Settings of the environment -/

namespace Environment

variable {name value : Octets} {key : String} {a b : Value}

def addSetting (layer : Value) (entry : Octets × Octets) : Value :=
  match settingPath? entry.1 with
  | none => layer
  | some path => layer.merge (.nest path (Conf.InlineValue.ofText (Utf8.lossy entry.2)))

theorem settings_eq_foldl (environment : Environment) :
    environment.settings = environment.foldl addSetting (.dict []) := by
  unfold settings addSetting
  rfl

theorem agreeOff_addSetting (h : a.AgreeOff key b) (entry : Octets × Octets) :
    (addSetting a entry).AgreeOff key (addSetting b entry) := by
  unfold addSetting
  cases hpath : settingPath? entry.1 with
  | none => exact h
  | some path =>
    refine h.merge_lower ?_ (Value.ordered_nest path (Conf.InlineValue.ordered_ofText _))
    cases path with
    | nil => exact absurd rfl (settingPath?_ne_nil hpath)
    | cons first rest => exact ⟨_, rfl⟩

theorem agreeOff_foldl (h : a.AgreeOff key b) (environment : Environment) :
    (environment.foldl addSetting a).AgreeOff key (environment.foldl addSetting b) := by
  induction environment generalizing a b with
  | nil => exact h
  | cons entry rest ih =>
    rw [List.foldl_cons, List.foldl_cons]
    exact ih (agreeOff_addSetting h entry)

/-- A variable makes a difference to the setting that it is named for. -/
theorem agreeOff_settings (hkey : settingPath? name = some [key]) (before after : Environment) :
    (settings (before ++ (name, value) :: after)).AgreeOff key (settings (before ++ after)) := by
  simp only [settings_eq_foldl, List.foldl_append, List.foldl_cons]
  apply agreeOff_foldl
  rw [addSetting, hkey]
  exact Value.agreeOff_merge_single _ key _

theorem settings_of_ignored (hignored : settingPath? name = none) (before after : Environment) :
    settings (before ++ (name, value) :: after) = settings (before ++ after) := by
  simp only [settings_eq_foldl, List.foldl_append, List.foldl_cons]
  rw [addSetting, hignored]

end Environment

/-! ## Layers under a request -/

namespace Conf

variable {fs : FileSystem} {environment other : Environment} {cli : Cli} {first : Option Nat}
  {conf : Conf} {key : String} {value : Value}

namespace Layers

variable {layers : Layers}

def lower (layers : Layers) : List Value := toValue {} :: layers.file.toList.map (·.2.value)

theorem toList_eq (layers : Layers) :
    layers.toList = layers.lower ++ [layers.environment, layers.request] := rfl

theorem merged_eq (layers : Layers) :
    layers.merged
      = ((Value.pile layers.lower).merge layers.environment).merge layers.request := by
  rw [merged, toList_eq, List.foldl_append]
  rfl

/-- A layer of the environment may say anything under a key for which the request has a value. -/
theorem merged_eq_of_agreeOff (hformed : layers.WellFormed) {settings : Value}
    (hsettings : settings.IsDict ∧ settings.Ordered)
    (hagree : layers.environment.AgreeOff key settings)
    (hvalue : layers.request.get? key = some value) (hleaf : ¬ value.IsDict) :
    layers.merged = { layers with environment := settings }.merged := by
  have hlayers := hformed.forall_toList
  rw [toList_eq] at hlayers
  have henvironment := hlayers layers.environment (by simp)
  have hrequest := hlayers layers.request (by simp)
  have hlower : (Value.pile layers.lower).Ordered :=
    Value.ordered_pile fun tree hmem => (hlayers tree (List.mem_append_left _ hmem)).2
  rw [merged_eq, merged_eq]
  exact (hagree.merge_upper henvironment hsettings).merge_eq
    (Value.ordered_merge hlower henvironment.2) (Value.ordered_merge hlower hsettings.2)
    hrequest.1 hrequest.2 hvalue hleaf

end Layers

theorem extraction_of_agreeOff (hagree : environment.settings.AgreeOff key other.settings)
    (hvalue : cli.toValue.get? key = some value) (hleaf : ¬ value.IsDict)
    (h : extraction fs environment cli first = .ok conf) :
    extraction fs other cli first = .ok conf := by
  obtain ⟨layers, hlayers, hextract⟩ := bind_eq_ok_iff.mp h
  have hformed := wellFormed_of_layersFor hlayers
  obtain ⟨file, hfile, hreturn⟩ := bind_eq_ok_iff.mp hlayers
  obtain rfl := Except.ok.inj hreturn
  rw [Layers.extract_eq_ok_iff,
    Layers.merged_eq_of_agreeOff hformed other.layer_settings hagree hvalue hleaf] at hextract
  refine bind_eq_ok_iff.mpr ⟨_, bind_eq_ok_iff.mpr ⟨file, hfile, rfl⟩, ?_⟩
  exact Layers.extract_eq_ok_iff.mpr hextract

theorem load_of_agreeOff (hagree : environment.settings.AgreeOff key other.settings)
    (hvalue : cli.toValue.get? key = some value) (hleaf : ¬ value.IsDict)
    (h : load fs environment cli first = .ok conf) : load fs other cli first = .ok conf := by
  obtain ⟨hcheck, read, hread, husable⟩ := load_eq_ok_iff.mp h
  exact load_eq_ok_iff.mpr
    ⟨hcheck, read, extraction_of_agreeOff hagree hvalue hleaf hread, husable⟩

/-! ## Requests with a value -/

theorem get?_interface {text : String} (h : cli.interface = some text) :
    cli.toValue.get? "interface" = some (.text text) := by
  rw [Cli.toValue, Value.get?_ofPairs, h]
  simp

theorem get?_logLevel {level : Level} (h : cli.logLevel = some level) :
    cli.toValue.get? "log_level" = some (.text level.name) := by
  rw [Cli.toValue, Value.get?_ofPairs, h]
  cases cli.interface <;> simp

/-- The interface of a request is the one that is configured, as it is. -/
theorem interface_of_load {text : String} (hinterface : cli.interface = some text)
    (h : load fs environment cli first = .ok conf) : conf.interface = text := by
  obtain ⟨-, read, hread, -, -, rfl⟩ := load_eq_ok_iff.mp h
  obtain ⟨layers, hlayers, hextract⟩ := bind_eq_ok_iff.mp hread
  have hformed := wellFormed_of_layersFor hlayers
  obtain ⟨file, -, hreturn⟩ := bind_eq_ok_iff.mp hlayers
  obtain rfl := Except.ok.inj hreturn
  obtain ⟨⟨inner, hinner, hstring⟩, -⟩ := conf_eq_ok hformed.ordered_merged
    hformed.isDict_merged.not_isList (Layers.extract_eq_ok_iff.mp hextract)
  rw [Layers.merged_eq, Value.get?_merge_of_leaf cli.layer_toValue.1 cli.layer_toValue.2
    (get?_interface hinterface) (Value.not_isDict_text text)] at hinner
  obtain rfl := Option.some.inj hinner
  exact (Except.ok.inj hstring).symm

end Conf

/-! ## The start of a run -/

namespace CommandLine

/-- What a run starts with: the configuration and the request, unless one of them cannot be had. -/
def start? (fs : FileSystem) (environment : Environment) (tokens : List Octets)
    (first : Option Nat) : Option (Conf × Cli) :=
  (parse environment tokens).toOption.bind fun cli =>
    (Conf.prepare fs environment cli first).toOption

variable {fs : FileSystem} {environment : Environment} {first : Option Nat} {conf : Conf}
  {request : Cli} {opt : Opt} {name : String} {octets : Octets} {before after : Environment}
  {front back tokens : List Octets}

theorem start?_eq_some_iff :
    start? fs environment tokens first = some (conf, request) ↔
      parse environment tokens = .ok request ∧ Conf.load fs environment request first = .ok conf := by
  rw [start?, Option.bind_eq_some_iff]
  constructor
  · rintro ⟨cli, hparse, hprepare⟩
    obtain ⟨loaded, hload, hreturn⟩ := bind_eq_ok_iff.mp (toOption_eq_some_iff.mp hprepare)
    obtain ⟨rfl, rfl⟩ := Prod.mk.inj (Except.ok.inj hreturn)
    exact ⟨toOption_eq_some_iff.mp hparse, hload⟩
  · rintro ⟨hparse, hload⟩
    refine ⟨request, toOption_eq_some_iff.mpr hparse, toOption_eq_some_iff.mpr ?_⟩
    exact bind_eq_ok_iff.mpr ⟨conf, hload, rfl⟩

theorem load_variable_eq_ok_iff (hname : opt.variableName? = some name) {value : OptValue}
    (hvalue : valueOf request opt = some value) :
    Conf.load fs (before ++ after) request first = .ok conf ↔
      Conf.load fs (before ++ (Utf8.encode name, octets) :: after) request first = .ok conf := by
  cases opt with
  | config =>
    obtain rfl := Option.some.inj hname
    have hignored : Environment.settingPath? (Utf8.encode "XSKSTEER_CONFIG_PATH") = none := by
      decide
    simp only [Conf.load, Environment.settings_of_ignored hignored]
  | logLevel =>
    obtain rfl := Option.some.inj hname
    have hkey : Environment.settingPath? (Utf8.encode "XSKSTEER_LOG_LEVEL")
        = some ["log_level"] := by decide
    obtain ⟨level, hlevel, -⟩ := Option.map_eq_some_iff.mp hvalue
    have hagree : (Environment.settings (before ++ (_, octets) :: after)).AgreeOff "log_level"
        (Environment.settings (before ++ after)) := Environment.agreeOff_settings hkey before after
    have hget := Conf.get?_logLevel hlevel
    exact ⟨Conf.load_of_agreeOff hagree.symm hget (Value.not_isDict_text _),
      Conf.load_of_agreeOff hagree hget (Value.not_isDict_text _)⟩
  | interface =>
    obtain rfl := Option.some.inj hname
    have hkey : Environment.settingPath? (Utf8.encode "XSKSTEER_INTERFACE")
        = some ["interface"] := by decide
    obtain ⟨text, htext, -⟩ := Option.map_eq_some_iff.mp hvalue
    have hagree : (Environment.settings (before ++ (_, octets) :: after)).AgreeOff "interface"
        (Environment.settings (before ++ after)) := Environment.agreeOff_settings hkey before after
    have hget := Conf.get?_interface htext
    exact ⟨Conf.load_of_agreeOff hagree.symm hget (Value.not_isDict_text _),
      Conf.load_of_agreeOff hagree hget (Value.not_isDict_text _)⟩
  | queue | pid | descriptor => cases hname

/-- An option in front of the command and its variable are interchangeable: with the same file and
the same other variables and tokens, a run starts with the same configuration and the same request,
or does not start in either case. An interface is taken as it is written, whatever the settings of
the environment make of it. -/
theorem flag_and_variable_are_interchangeable (fs : FileSystem) (first : Option Nat)
    (hname : opt.variableName? = some name) (text : String)
    (hlacks : Lacks (before ++ after) name) (hfront : WholeOptions front)
    (hleaves : LeavesOut opt (front ++ back)) :
    let environment := before ++ (Utf8.encode name, Utf8.encode text) :: after
    start? fs (before ++ after) (front ++ attachedFlag opt (Utf8.encode text) :: back) first
        = start? fs environment (front ++ back) first ∧
      (opt = .interface → ∀ conf request,
        start? fs environment (front ++ back) first = some (conf, request) →
          request.interface = some text ∧ conf.interface = text) := by
  intro environment
  have hvalue : ∀ request, parse environment (front ++ back) = .ok request →
      ∃ value, Means opt (Utf8.encode text) value ∧ valueOf request opt = some value :=
    fun request hparse =>
      exists_value_of_legal hname (get?_added hlacks) hleaves (legal_of_parse hparse)
  constructor
  · refine Option.ext fun ⟨conf, request⟩ => ?_
    rw [start?_eq_some_iff, start?_eq_some_iff, parse_flag_eq_ok_iff hname hlacks hfront hleaves]
    refine and_congr_right fun hparse => ?_
    obtain ⟨value, -, hrequest⟩ := hvalue request hparse
    exact load_variable_eq_ok_iff hname hrequest
  · rintro rfl conf request hstart
    obtain ⟨hparse, hload⟩ := start?_eq_some_iff.mp hstart
    obtain ⟨value, hmeans, hrequest⟩ := hvalue request hparse
    obtain rfl := means_unique hmeans (.interface text)
    obtain ⟨interface, hinterface, htext⟩ := Option.map_eq_some_iff.mp hrequest
    obtain rfl := OptValue.text.inj htext
    exact ⟨hinterface, Conf.interface_of_load hinterface hload⟩

/-- The text of a list is an interface by its name, next to a level that is written and a setting
that only the environment makes. -/
theorem interface_like_a_list_is_interchangeable :
    let fs : FileSystem := ⟨[], []⟩
    let name := Utf8.encode "XSKSTEER_INTERFACE"
    let before : Environment := [(Utf8.encode "XSKSTEER_TRACE__ENABLED", Utf8.encode "false")]
    let front : List Octets := [attachedFlag .logLevel (Utf8.encode "warn")]
    let back : List Octets := [Utf8.encode "status"]
    let flag := attachedFlag .interface (Utf8.encode "[1, 2]")
    Lacks (before ++ []) "XSKSTEER_INTERFACE" ∧ WholeOptions front ∧
      LeavesOut .interface (front ++ back) ∧
      start? fs (before ++ []) (front ++ flag :: back) none
        = start? fs (before ++ (name, Utf8.encode "[1, 2]") :: []) (front ++ back) none ∧
      start? fs (before ++ []) (front ++ flag :: back) none = some
        ({ interface := "[1, 2]", logLevel := .warn, trace := { enabled := false } },
          { logLevel := some .warn, interface := some "[1, 2]", command := some .status }) := by
  intro fs name before front back flag
  have hlacks : Lacks (before ++ []) "XSKSTEER_INTERFACE" := by
    intro entry hentry
    obtain rfl := List.mem_singleton.mp hentry
    decide
  have hshows : Shows .logLevel (Utf8.encode "warn") front := .attached (.longAttached _)
  have hfront : WholeOptions front := by
    have hwhole := WholeOptions.cons hshows .nil
    rwa [List.append_nil] at hwhole
  have hshown : Shown [(.logLevel, .level .warn)] front := by
    have hwarn : Means .logLevel (Utf8.encode "warn") (.level .warn) := .logLevel rfl
    have hshown := Shown.cons hwarn hshows .nil
    rwa [List.append_nil] at hshown
  have hback : NoOption back := by
    have hcommand : ShowsCommand (some .status) back := .some .nil (by decide)
    have hnone := noOption_of_command hcommand (.inl rfl)
    rwa [List.append_nil] at hnone
  have hleaves : LeavesOut .interface (front ++ back) :=
    leavesOut_of_shown hshown hback (by decide)
  obtain ⟨hsame, -⟩ :=
    flag_and_variable_are_interchangeable fs none rfl "[1, 2]" hlacks hfront hleaves
  exact ⟨hlacks, hfront, hleaves, hsame, by decide +kernel⟩

end CommandLine

end XdpSteering
