import XdpSteering.Proofs.CommandLine.Replacement
import XdpSteering.Proofs.Conf.Interchange
import XdpSteering.Proofs.Conf.RoundTrip
import XdpSteering.Proofs.FileSystem.Status
import XdpSteering.Proofs.Level

/-!
# Ways of saying the level

The level is said by a flag, by a variable or in the file. On its first two ways it is read twice:
the request that was read writes the name of the level into a layer of its own, and from there it is
read again with the others. On the third it is read once. Layers that agree but for the level are
read as configurations that agree but for the level, so each way takes the texts that name a level.
-/

namespace XdpSteering

open XdpSteering.Text XdpSteering.Fallible

namespace Conf

variable {mode : Value → Except Fault AttachMode} {surplus : Nat → Nat → Option Fault}
  {tree other : Value} {text : String} {level : Level} {conf result : Conf}
  {fs files : FileSystem} {environment settings : Environment} {cli asked : Cli}
  {first number : Option Nat} {layers later : Layers}

/-! ## Trees that agree but for the level -/

theorem level_text_eq_ok_iff :
    (valueReader mode surplus).level (.text text) = .ok level ↔ Level.read? text = some level := by
  constructor
  · intro hread
    obtain ⟨_, hstring, hlevel⟩ := bind_eq_ok_iff.mp hread
    obtain rfl := Except.ok.inj hstring
    split at hlevel
    · next found hfound => rw [hfound, Except.ok.inj hlevel]
    · cases hlevel
  · intro hlevel
    refine bind_eq_ok_iff.mpr ⟨text, rfl, ?_⟩
    rw [hlevel]
    rfl

theorem Reads.of_agreeOff {A : Type} {name key : String} {read : Value → Except Fault A} {a : A}
    (h : Reads other name read a) (hagree : tree.AgreeOff key other) (hname : name ≠ key) :
    Reads tree name read a := by
  obtain ⟨inner, hinner, hread⟩ := h
  exact ⟨inner, (hagree name hname).trans hinner, hread⟩

theorem ReadsOr.of_agreeOff {A : Type} {name key : String} {read : Value → Except Fault A}
    {absent a : A} (h : ReadsOr other name read absent a) (hagree : tree.AgreeOff key other)
    (hname : name ≠ key) : ReadsOr tree name read absent a := by
  rcases h with ⟨hnone, rfl⟩ | hreads
  · exact .inl ⟨(hagree name hname).trans hnone, rfl⟩
  · exact .inr (hreads.of_agreeOff hagree hname)

theorem conf_eq_ok_of_level (htree : tree.IsDict ∧ tree.Ordered)
    (hother : other.IsDict ∧ other.Ordered) (hagree : tree.AgreeOff "log_level" other)
    (htext : tree.get? "log_level" = some (.text text))
    (hconf : (valueReader mode surplus).conf other = .ok conf)
    (hlevel : Level.read? text = some level) :
    (valueReader mode surplus).conf tree = .ok { conf with logLevel := level } := by
  obtain ⟨hinterface, -, hmode, hprogram, htrace, hmap, hpath⟩ :=
    (conf_eq_ok_iff hother.2 hother.1.not_isList).mp hconf
  refine (conf_eq_ok_iff htree.2 htree.1.not_isList).mpr ⟨?_, ?_, ?_, ?_, ?_, ?_, hpath⟩
  · exact hinterface.of_agreeOff hagree (by decide)
  · exact ⟨_, htext, level_text_eq_ok_iff.mpr hlevel⟩
  · exact hmode.of_agreeOff hagree (by decide)
  · exact hprogram.of_agreeOff hagree (by decide)
  · exact htrace.of_agreeOff hagree (by decide)
  · exact hmap.of_agreeOff hagree (by decide)

/-- A tree with a text for the level, which agrees with one that is read but for the level, is read
just if the text names a level, and this makes the difference. -/
theorem conf_eq_ok_iff_of_level (htree : tree.IsDict ∧ tree.Ordered)
    (hother : other.IsDict ∧ other.Ordered) (hagree : tree.AgreeOff "log_level" other)
    (htext : tree.get? "log_level" = some (.text text))
    (hconf : (valueReader mode surplus).conf other = .ok conf) :
    (valueReader mode surplus).conf tree = .ok result ↔
      ∃ level, Level.read? text = some level ∧ result = { conf with logLevel := level } := by
  constructor
  · intro hresult
    obtain ⟨-, ⟨inner, hinner, hread⟩, -⟩ :=
      (conf_eq_ok_iff htree.2 htree.1.not_isList).mp hresult
    obtain rfl := Option.some.inj (htext.symm.trans hinner)
    have hlevel := level_text_eq_ok_iff.mp hread
    have hsame := conf_eq_ok_of_level htree hother hagree htext hconf hlevel
    exact ⟨_, hlevel, Except.ok.inj (hresult.symm.trans hsame)⟩
  · rintro ⟨level, hlevel, rfl⟩
    exact conf_eq_ok_of_level htree hother hagree htext hconf hlevel

/-! ## Layers that agree but for the level -/

theorem load_eq_ok_iff_of_level (hlayers : layersFor fs environment cli first = .ok layers)
    (hlater : layersFor files settings asked number = .ok later)
    (hcheck : checkConfigPath files asked = .ok ()) (hconfig : asked.config = cli.config)
    (hagree : later.merged.AgreeOff "log_level" layers.merged)
    (htext : later.merged.get? "log_level" = some (.text text))
    (hload : load fs environment cli first = .ok conf) :
    load files settings asked number = .ok result ↔
      ∃ level, Level.read? text = some level ∧ result = { conf with logLevel := level } := by
  have hformed := wellFormed_of_layersFor hlayers
  have hlaterFormed := wellFormed_of_layersFor hlater
  obtain ⟨-, read, hread, hnamed, hrange, rfl⟩ := load_eq_ok_iff.mp hload
  obtain ⟨same, hsame, hextract⟩ := bind_eq_ok_iff.mp hread
  obtain rfl := Except.ok.inj (hlayers.symm.trans hsame)
  have hextracted (extracted : Conf) : extraction files settings asked number = .ok extracted ↔
      ∃ level, Level.read? text = some level ∧ extracted = { read with logLevel := level } := by
    rw [extraction, hlater]
    show later.extract = .ok extracted ↔ _
    rw [Layers.extract_eq_ok_iff]
    exact conf_eq_ok_iff_of_level ⟨hlaterFormed.isDict_merged, hlaterFormed.ordered_merged⟩
      ⟨hformed.isDict_merged, hformed.ordered_merged⟩ hagree htext
      (Layers.extract_eq_ok_iff.mp hextract)
  rw [load_eq_ok_iff]
  constructor
  · rintro ⟨-, extracted, hextraction, -, -, rfl⟩
    obtain ⟨level, hlevel, rfl⟩ := (hextracted extracted).mp hextraction
    exact ⟨level, hlevel, by rw [hconfig]⟩
  · rintro ⟨level, hlevel, rfl⟩
    exact ⟨hcheck, _, (hextracted _).mpr ⟨level, hlevel, rfl⟩, hnamed, hrange, by rw [hconfig]⟩

/-! ## A request with another level -/

theorem agreeOff_toValue (cli : Cli) (level : Level) :
    (Cli.toValue { cli with logLevel := some level }).AgreeOff "log_level" cli.toValue := by
  intro key hkey
  have hne : "log_level" ≠ key := hkey.symm
  simp only [Cli.toValue, Value.get?_ofPairs]
  cases cli.logLevel <;> simp [hne]

theorem load_withLevel (level : Level) (hload : load fs environment cli first = .ok conf) :
    load fs environment { cli with logLevel := some level } first
      = .ok { conf with logLevel := level } := by
  obtain ⟨hcheck, read, hread, -⟩ := load_eq_ok_iff.mp hload
  obtain ⟨layers, hlayers, -⟩ := bind_eq_ok_iff.mp hread
  obtain ⟨file, hfile, hreturn⟩ := bind_eq_ok_iff.mp hlayers
  obtain rfl := Except.ok.inj hreturn
  have hlater : layersFor fs environment { cli with logLevel := some level } first = .ok
      { file, environment := environment.settings,
        request := Cli.toValue { cli with logLevel := some level }, first } :=
    bind_eq_ok_iff.mpr ⟨file, hfile, rfl⟩
  refine (load_eq_ok_iff_of_level hlayers hlater hcheck rfl ?_ ?_ hload).mpr
    ⟨level, Level.read?_name level, rfl⟩
  · rw [Layers.merged_eq, Layers.merged_eq]
    exact (agreeOff_toValue cli level).merge_upper (Cli.layer_toValue _) cli.layer_toValue
  · rw [Layers.merged_eq]
    exact Value.get?_merge_of_leaf (Cli.layer_toValue _).1 (Cli.layer_toValue _).2
      (get?_logLevel rfl) (Value.not_isDict_text _) _

/-! ## A file with another level -/

theorem get?_logLevel_of_none (h : cli.logLevel = none) : cli.toValue.get? "log_level" = none := by
  rw [Cli.toValue, Value.get?_ofPairs, h]
  cases cli.interface <;> simp

/-- The level in the file counts where no layer above it has one. -/
theorem load_eq_ok_iff_of_file {path : Path} {layer said : Sourced}
    (hconfig : cli.config = some path) (hlayer : fileLayer fs path = .ok layer)
    (hcheck : checkFile files path = .ok ())
    (hsaid : fileLayer files path = .ok said)
    (hagree : said.value.AgreeOff "log_level" layer.value)
    (htext : said.value.get? "log_level" = some (.text text))
    (hunset : environment.settings.get? "log_level" = none) (hsilent : cli.logLevel = none)
    (hload : load fs environment cli first = .ok conf) :
    load files environment cli first = .ok result ↔
      ∃ level, Level.read? text = some level ∧ result = { conf with logLevel := level } := by
  have hread {files : FileSystem} {sourced : Sourced} (h : fileLayer files path = .ok sourced) :
      layersFor files environment cli first = .ok
        { file := some (path, sourced), environment := environment.settings,
          request := cli.toValue, first } := by
    refine bind_eq_ok_iff.mpr ⟨some (path, sourced), ?_, rfl⟩
    rw [readFile, hconfig]
    dsimp only
    rw [h]
  have hchecked : checkConfigPath files cli = .ok () := by
    rw [checkConfigPath, hconfig]
    exact hcheck
  have hmerged (sourced : Sourced) : Layers.merged
      { file := some (path, sourced), environment := environment.settings,
        request := cli.toValue, first }
        = (((Value.pile [toValue {}]).merge sourced.value).merge environment.settings).merge
          cli.toValue := rfl
  have hrequest := cli.layer_toValue
  have henvironment := environment.layer_settings
  have hfile := layer_fileLayer hsaid
  refine load_eq_ok_iff_of_level (hread hlayer) (hread hsaid) hchecked rfl ?_ ?_ hload
  · rw [hmerged, hmerged]
    exact ((hagree.merge_upper hfile (layer_fileLayer hlayer)).merge_lower henvironment.1
      henvironment.2).merge_lower hrequest.1 hrequest.2
  · rw [hmerged,
      Value.get?_merge_of_none hrequest.1 hrequest.2 (get?_logLevel_of_none hsilent),
      Value.get?_merge_of_none henvironment.1 henvironment.2 hunset]
    exact Value.get?_merge_of_leaf hfile.1 hfile.2 htext (Value.not_isDict_text text) _

end Conf

/-! ## Three ways -/

namespace CommandLine

open Conf

variable {environment : Environment} {request asked : Cli} {octets : Octets} {text : String}
  {level : Level} {before after : List Octets}

theorem exists_level_of_means {value : OptValue} (h : Means .logLevel octets value)
    (htext : octets = Utf8.encode text) :
    ∃ level, value = .level level ∧ Level.read? text = some level := by
  cases h with
  | logLevel hlevel =>
    obtain rfl := Utf8.encode_inj htext
    exact ⟨_, rfl, hlevel⟩

theorem parse_level_eq_ok (hfine : parse environment
      (before ++ attachedFlag .logLevel octets :: after) = .ok request)
    (hlevel : Level.read? text = some level) :
    parse environment (before ++ attachedFlag .logLevel (Utf8.encode text) :: after)
      = .ok { request with logLevel := some level } := by
  obtain ⟨value, -, hfront | hbehind⟩ := exists_place_of_legal (legal_of_parse hfine)
  · refine parse_of_legal (hfront.legal (.logLevel hlevel) rfl ?_ rfl)
    intro second hsecond
    cases second with
    | logLevel => exact absurd rfl hsecond
    | _ => rfl
  · exact absurd (by decide) hbehind.not_mem_options

theorem parse_level_eq_ok_iff (hfine : parse environment
      (before ++ attachedFlag .logLevel octets :: after) = .ok request) :
    parse environment (before ++ attachedFlag .logLevel (Utf8.encode text) :: after) = .ok asked ↔
      ∃ level, Level.read? text = some level ∧ asked = { request with logLevel := some level } := by
  constructor
  · intro hparse
    obtain ⟨value, hmeans, -⟩ := exists_place_of_legal (legal_of_parse hparse)
    obtain ⟨level, -, hlevel⟩ := exists_level_of_means hmeans rfl
    exact ⟨level, hlevel, Except.ok.inj (hparse.symm.trans (parse_level_eq_ok hfine hlevel))⟩
  · rintro ⟨level, hlevel, rfl⟩
    exact parse_level_eq_ok hfine hlevel

variable {fs files : FileSystem} {first : Option Nat} {conf result : Conf}

theorem start?_flag_eq_some_iff
    (hfine : start? fs environment (before ++ attachedFlag .logLevel octets :: after) first
      = some (conf, request)) :
    start? fs environment (before ++ attachedFlag .logLevel (Utf8.encode text) :: after) first
        = some (result, asked) ↔
      ∃ level, Level.read? text = some level ∧ result = { conf with logLevel := level } ∧
        asked = { request with logLevel := some level } := by
  obtain ⟨hparse, hload⟩ := start?_eq_some_iff.mp hfine
  rw [start?_eq_some_iff, parse_level_eq_ok_iff hparse]
  constructor
  · rintro ⟨⟨level, hlevel, rfl⟩, hresult⟩
    have hsame := hresult.symm.trans (load_withLevel level hload)
    exact ⟨level, hlevel, Except.ok.inj hsame, rfl⟩
  · rintro ⟨level, hlevel, rfl, rfl⟩
    exact ⟨⟨level, hlevel, rfl⟩, load_withLevel level hload⟩

theorem exists_start?_flag_iff (front back : List Octets)
    (hfine : start? fs environment (front ++ attachedFlag .logLevel octets :: back) first
      = some (conf, request)) :
    (∃ asked, start? fs environment (front ++ attachedFlag .logLevel (Utf8.encode text) :: back)
        first = some (result, asked)) ↔
      ∃ level, Level.read? text = some level ∧ result = { conf with logLevel := level } := by
  simp only [start?_flag_eq_some_iff hfine]
  constructor
  · rintro ⟨_, level, hlevel, hresult, -⟩
    exact ⟨level, hlevel, hresult⟩
  · rintro ⟨level, hlevel, hresult⟩
    exact ⟨_, level, hlevel, hresult, rfl⟩

/-- Where no flag says the level, the variable comes to the same as a flag in front of the rest. -/
theorem start?_variable_eq_flag {before after : Environment} {tokens : List Octets}
    (hlacks : Lacks (before ++ after) "XSKSTEER_LOG_LEVEL") (hleaves : LeavesOut .logLevel tokens) :
    start? fs (before ++ (Utf8.encode "XSKSTEER_LOG_LEVEL", octets) :: after) tokens first
      = start? fs (before ++ after) (attachedFlag .logLevel octets :: tokens) first := by
  have hname : Opt.logLevel.variableName? = some "XSKSTEER_LOG_LEVEL" := rfl
  have hflag (request : Cli) :
      parse (before ++ after) ([] ++ attachedFlag .logLevel octets :: tokens) = .ok request ↔
        parse (before ++ (Utf8.encode "XSKSTEER_LOG_LEVEL", octets) :: after) ([] ++ tokens)
          = .ok request :=
    parse_flag_eq_ok_iff hname hlacks .nil hleaves
  simp only [List.nil_append] at hflag
  refine Option.ext fun ⟨conf, request⟩ => ?_
  rw [start?_eq_some_iff, start?_eq_some_iff, ← hflag request]
  refine and_congr_right fun hparse => ?_
  obtain ⟨value, -, hvalue⟩ := exists_value_of_legal hname (get?_added hlacks) hleaves
    (legal_of_parse ((hflag request).mp hparse))
  exact (load_variable_eq_ok_iff hname hvalue).symm

/-! ### All of them -/

structure Start where
  files : FileSystem
  environment : Environment
  tokens : List Octets
  /-- The number of the lowest layer of settings, if it is known. -/
  first : Option Nat := none

def Start.run? (start : Start) : Option (Conf × Cli) :=
  start? start.files start.environment start.tokens start.first

/-- The second start says a level by a text, where the first one says it otherwise or not at all:
in a flag, in the variable where no flag says it, or in the file where neither does. Nothing else
is different. -/
inductive SaysLevel (text : String) : Start → Start → Prop where
  | byFlag (files : FileSystem) (environment : Environment) (front back : List Octets)
      (octets : Octets) (first : Option Nat) :
      SaysLevel text ⟨files, environment, front ++ attachedFlag .logLevel octets :: back, first⟩
        ⟨files, environment, front ++ attachedFlag .logLevel (Utf8.encode text) :: back, first⟩
  | byVariable (files : FileSystem) {before after : Environment} {tokens : List Octets}
      (octets : Octets) (first : Option Nat)
      (lacks : Lacks (before ++ after) "XSKSTEER_LOG_LEVEL") (leaves : LeavesOut .logLevel tokens) :
      SaysLevel text
        ⟨files, before ++ (Utf8.encode "XSKSTEER_LOG_LEVEL", octets) :: after, tokens, first⟩
        ⟨files, before ++ (Utf8.encode "XSKSTEER_LOG_LEVEL", Utf8.encode text) :: after, tokens,
          first⟩
  | byFile {files others : FileSystem} {environment : Environment} {tokens : List Octets}
      {request : Cli} {path : Path} {layer said : Sourced} (first : Option Nat)
      (request_eq : parse environment tokens = .ok request) (path_eq : request.config = some path)
      (silent : request.logLevel = none) (unset : environment.settings.get? "log_level" = none)
      (layer_eq : fileLayer files path = .ok layer) (checked : checkFile others path = .ok ())
      (said_eq : fileLayer others path = .ok said)
      (agree : said.value.AgreeOff "log_level" layer.value)
      (said_text : said.value.get? "log_level" = some (.text text)) :
      SaysLevel text ⟨files, environment, tokens, first⟩ ⟨others, environment, tokens, first⟩

/-- A start that says the level by a text succeeds just if the text is read as a level. -/
theorem run?_eq_some_iff_of_saysLevel {fine said : Start} (hway : SaysLevel text fine said)
    (hfine : fine.run? = some (conf, request)) :
    (∃ asked, said.run? = some (result, asked)) ↔
      ∃ level, Level.read? text = some level ∧ result = { conf with logLevel := level } := by
  cases hway with
  | byFlag files environment front back octets first =>
    exact exists_start?_flag_iff front back hfine
  | byVariable files octets first hlacks hleaves =>
    simp only [Start.run?, start?_variable_eq_flag hlacks hleaves] at hfine ⊢
    exact exists_start?_flag_iff [] _ hfine
  | byFile first hrequest hpath hsilent hunset hlayer hchecked hsaid hagree htext =>
    obtain ⟨hparse, hload⟩ := start?_eq_some_iff.mp hfine
    obtain rfl := Except.ok.inj (hrequest.symm.trans hparse)
    rw [← load_eq_ok_iff_of_file hpath hlayer hchecked hsaid hagree htext hunset hsilent hload]
    simp only [Start.run?, start?_eq_some_iff]
    constructor
    · rintro ⟨asked, hasked, hresult⟩
      obtain rfl := Except.ok.inj (hrequest.symm.trans hasked)
      exact hresult
    · exact fun hresult => ⟨_, hrequest, hresult⟩

/-- Whichever way a level is said, the texts that say one are its word, in any case of its letters,
and its number. Then the configuration is the same but for the level, which is this one. A
configuration and a request write their level as a text that says it. -/
theorem levels_are_said_alike :
    (∀ (text : String) (fine said : Start), SaysLevel text fine said →
      ∀ conf request, fine.run? = some (conf, request) →
        ∀ result, (∃ asked, said.run? = some (result, asked)) ↔
          ∃ level, Level.Names text level ∧ result = { conf with logLevel := level }) ∧
      (∀ text level other, Level.Names text level → Level.Names text other → level = other) ∧
      (∀ conf : Conf, (toValue conf).get? "log_level" = some (.text conf.logLevel.name)) ∧
      (∀ cli : Cli, cli.toValue.get? "log_level" = cli.logLevel.map (.text ·.name)) ∧
      ∀ level : Level, Level.Names level.name level := by
  refine ⟨?_, ?_, ?_, ?_, ?_⟩
  · intro text fine said hway conf request hfine result
    simp only [← Level.read?_eq_some_iff]
    exact run?_eq_some_iff_of_saysLevel hway hfine
  · intro text level other hlevel hother
    rw [← Level.read?_eq_some_iff] at hlevel hother
    exact Option.some.inj (hlevel.symm.trans hother)
  · intro conf
    simp [toValue, Value.get?_ofPairs]
  · intro cli
    cases hlevel : cli.logLevel with
    | none => exact get?_logLevel_of_none hlevel
    | some level => exact get?_logLevel hlevel
  · intro level
    exact Level.read?_eq_some_iff.mp (Level.read?_name level)

def oneFile (content : Octets) : FileSystem := ⟨[([Utf8.encode "x.yml"], .file content)], []⟩

theorem status_oneFile (content : Octets) :
    (oneFile content).status (Path.ofString "x.yml")
      = .ok ([Utf8.encode "x.yml"], .file content) := by
  have hcheck : FileSystem.checkPath (Path.ofString "x.yml") = .ok () := by decide +kernel
  have hsteps : FileSystem.steps (Path.ofString "x.yml") = [Utf8.encode "x.yml"] := by
    decide +kernel
  have hname : FileSystem.EntryName (Utf8.encode "x.yml") :=
    ⟨by decide +kernel, by decide +kernel, by decide +kernel⟩
  have hfound : (oneFile content).node? ([] ++ [Utf8.encode "x.yml"]) = some (.file content) := by
    simp [oneFile, FileSystem.node?]
  rw [FileSystem.status_eq_ok_iff, hsteps]
  exact ⟨hcheck, .down rfl hname hfound (by simp) (.arrived hfound)⟩

theorem checkFile_oneFile (content : Octets) :
    checkFile (oneFile content) (Path.ofString "x.yml") = .ok () := by
  have hextension : (Path.ofString "x.yml").extension?.bind Utf8.decode? = some "yml" := by
    decide +kernel
  simp [checkFile, FileSystem.isFile, status_oneFile, hextension, extensions]

theorem fileLayer_oneFile {content : String} {layer : Sourced}
    (h : layerOfYaml content = .ok layer) :
    fileLayer (oneFile (Utf8.encode content)) (Path.ofString "x.yml") = .ok layer := by
  have hread : (oneFile (Utf8.encode content)).read (Path.ofString "x.yml")
      = .ok (Utf8.encode content) := by
    simp only [FileSystem.read, status_oneFile, bind, Except.bind]
  rw [fileLayer, hread]
  dsimp only
  rw [Utf8.decode?_encode]
  dsimp only
  rw [h]
  rfl

/-- Whether a layer holds one text under a key, and nothing else. -/
def holdsText (key text : String) : Except Fault Sourced → Bool
  | .ok ⟨.dict [(name, .text said)], []⟩ => name == key && said == text
  | _ => false

theorem eq_of_holdsText {key text : String} {layer : Except Fault Sourced}
    (h : holdsText key text layer = true) :
    layer = .ok { value := .ofPairs [(key, .text text)] } := by
  unfold holdsText at h
  split at h
  · obtain ⟨hname, hsaid⟩ := Bool.and_eq_true_iff.mp h
    rw [eq_of_beq hname, eq_of_beq hsaid]
    rfl
  · cases h

theorem layerOfYaml_error : layerOfYaml "log_level: error"
    = .ok { value := .ofPairs [("log_level", .text "error")] } :=
  eq_of_holdsText (by decide +kernel)

theorem layerOfYaml_warn : layerOfYaml "log_level: Warn"
    = .ok { value := .ofPairs [("log_level", .text "Warn")] } :=
  eq_of_holdsText (by decide +kernel)

theorem parse_config : parse [] [Utf8.encode "--config=x.yml"]
    = .ok { config := some (Path.ofString "x.yml") } := by
  decide +kernel

theorem layersFor_oneFile {content : String} {layer : Sourced}
    (h : layerOfYaml content = .ok layer) :
    layersFor (oneFile (Utf8.encode content)) [] { config := some (Path.ofString "x.yml") } none
      = .ok { file := some (Path.ofString "x.yml", layer) } := by
  refine bind_eq_ok_iff.mpr ⟨some (Path.ofString "x.yml", layer), ?_, rfl⟩
  rw [readFile]
  dsimp only
  rw [fileLayer_oneFile h]

theorem run?_error_in_file :
    Start.run? ⟨oneFile (Utf8.encode "log_level: error"), [], [Utf8.encode "--config=x.yml"], none⟩
      = some ({ logLevel := .error, configPath := some (Path.ofString "x.yml") },
          { config := some (Path.ofString "x.yml") }) := by
  refine start?_eq_some_iff.mpr
    ⟨parse_config, load_eq_ok_iff.mpr ⟨checkFile_oneFile _, { logLevel := .error }, ?_,
      ⟨'e', by decide, by decide⟩, ⟨by decide, by decide⟩, rfl⟩⟩
  rw [extraction, layersFor_oneFile layerOfYaml_error]
  decide +kernel

/-- A flag, a variable and a file say a level in place of another one. -/
theorem warn_is_said_in_three_ways :
    let path := Path.ofString "x.yml"
    let warn := Utf8.encode "Warn"
    let name := Utf8.encode "XSKSTEER_LOG_LEVEL"
    let inFlag : Start := ⟨⟨[], []⟩, [], [] ++ attachedFlag .logLevel warn :: [], none⟩
    let inVariable : Start := ⟨⟨[], []⟩, [] ++ (name, warn) :: [], [], none⟩
    let inFile : Start :=
      ⟨oneFile (Utf8.encode "log_level: Warn"), [], [Utf8.encode "--config=x.yml"], none⟩
    (∃ asked, inFlag.run? = some ({ logLevel := .warn }, asked)) ∧
      (∃ asked, inVariable.run? = some ({ logLevel := .warn }, asked)) ∧
      ∃ asked, inFile.run? = some ({ logLevel := .warn, configPath := some path }, asked) := by
  intro path warn name inFlag inVariable inFile
  have hwarn : Level.Names "Warn" .warn := by
    have hletters : SpellsInEitherCase ['W', 'a', 'r', 'n'] ['w', 'a', 'r', 'n'] := by
      simp [SpellsInEitherCase]
    exact .word hletters
  have hflag : Start.run?
      ⟨⟨[], []⟩, [], [] ++ attachedFlag .logLevel (Utf8.encode "5") :: [], none⟩
      = some ({ logLevel := .trace }, { logLevel := some .trace }) := by decide +kernel
  have hvariable : Start.run? ⟨⟨[], []⟩, [] ++ (name, Utf8.encode "5") :: [], [], none⟩
      = some ({ logLevel := .trace }, { logLevel := some .trace }) := by decide +kernel
  have hlacks : Lacks ([] ++ []) "XSKSTEER_LOG_LEVEL" := by simp [Lacks]
  have hleaves : LeavesOut .logLevel [] :=
    leavesOut_of_shown .nil (by simp [NoOption]) (by simp)
  have hagree : (Value.ofPairs [("log_level", .text "Warn")]).AgreeOff "log_level"
      (.ofPairs [("log_level", .text "error")]) :=
    Value.agreeOff_merge_single (.ofPairs [("log_level", .text "error")]) "log_level"
      (.text "Warn")
  refine ⟨?_, ?_, ?_⟩
  · exact (levels_are_said_alike.1 "Warn" _ inFlag (.byFlag _ _ _ _ _ _) _ _ hflag _).mpr
      ⟨.warn, hwarn, rfl⟩
  · exact (levels_are_said_alike.1 "Warn" _ inVariable (.byVariable _ _ _ hlacks hleaves) _ _
      hvariable _).mpr ⟨.warn, hwarn, rfl⟩
  · exact (levels_are_said_alike.1 "Warn" _ inFile (.byFile _ parse_config rfl rfl rfl
      (fileLayer_oneFile layerOfYaml_error) (checkFile_oneFile _)
      (fileLayer_oneFile layerOfYaml_warn) hagree rfl) _ _ run?_error_in_file _).mpr
      ⟨.warn, hwarn, rfl⟩

end CommandLine

end XdpSteering
