import XdpSteering.Cli
import XdpSteering.Conf.YamlValue
import XdpSteering.Environment
import XdpSteering.FileSystem

/-!
# Layers of settings

A configuration is put together from four layers: the defaults, a file, the environment and the
request. A higher layer overrides the lower ones key by key. What is wrong with the result is blamed
on the highest layer that has the setting, unless the setting names another source.
-/

namespace XdpSteering.Conf

open XdpSteering.Text

/-- Where a setting was made. -/
inductive Source where
  | file (path : Path) (profile : String := "default")
  | environment
  | unknown
  deriving DecidableEq, Repr

/-- Why there is no configuration. -/
inductive Error where
  | noConfigFile
  /-- The path does not lead to a file. -/
  | invalidConfigPath (path : String)
  /-- The file is not called a YAML file. -/
  | invalidExtension (extension : String)
  | invalidCapacity (capacity : UInt32)
  | emptyInterface
  /-- The settings cannot be read. -/
  | extraction (fault : Fault) (source : Source)
  deriving DecidableEq, Repr

/-! ## Reports -/

/-- The path of a file without needless components. -/
def tidyPath (path : Path) : Path :=
  .ofComponents path.isAbsolute (path.components.filter (· ≠ Path.here))

/-- The labels on the way to a fault, with dots between them. -/
def Fault.way (fault : Fault) : String := ".".intercalate (fault.path.map Label.text)

/-- The key under which a source knows the place of a fault. -/
def Source.key (source : Source) (fault : Fault) : Option String :=
  if fault.path.isEmpty then none
  else
    match source with
    | .file _ profile => some (profile ++ "." ++ fault.way)
    | .environment => some (fault.way.map Char.toUpper)
    | .unknown => none

def Source.name : Source → Option String
  | .file path _ => some ((tidyPath path).display ++ " YAML file")
  | .environment => some ("`" ++ Environment.settingStart ++ "` environment variable(s)")
  | .unknown => none

/-- The description of a fault in the layers of settings. -/
def Fault.layeredText (fault : Fault) (source : Source) : String :=
  fault.cause.layeredText .layered
    ++ ((source.key fault).map fun key => " for key " ++ quoted key).getD ""
    ++ (source.name.map fun name => " in " ++ name).getD ""

/-- The text of the cause of an error, if it has one. -/
def Error.source? : Error → Option String
  | .extraction fault source => some (fault.layeredText source)
  | _ => none

def Error.message : Error → String
  | .noConfigFile => "no config file provided"
  | .invalidConfigPath path => "path '" ++ path ++ "' is not a valid file"
  | .invalidExtension extension =>
    "invalid file extension '." ++ extension ++ "', expected 'yaml' or 'yml'"
  | .invalidCapacity capacity =>
    "socket_map.capacity " ++ toString capacity.toNat ++ " is out of range, expected 1..="
      ++ toString maxCapacity.toNat
  | .emptyInterface => "interface must not be empty"
  | .extraction fault source => "configuration error: " ++ fault.layeredText source

/-! ## The file -/

def extensions : List String := ["yaml", "yml"]

/-- Checks that a path leads to a file with an extension of configuration files. -/
def checkFile (fs : FileSystem) (path : Path) : Except Error Unit :=
  if !fs.isFile path then
    if fs.pathExists path then .error (.invalidConfigPath path.display) else .error .noConfigFile
  else
    match path.extension?.bind Utf8.decode? with
    | none => .error (.invalidExtension "none")
    | some extension =>
      if extensions.contains extension then .ok () else .error (.invalidExtension extension)

/-- The layer of settings in a file. -/
def fileLayer (fs : FileSystem) (path : Path) : Except Fault Sourced :=
  match fs.read path with
  | .error error => .error (brokenFault error.message)
  | .ok content =>
    match Utf8.decode? content with
    | none => .error (brokenFault "stream did not contain valid UTF-8")
    | some text =>
      (layerOfYaml text).mapError fun fault => brokenFault fault.yamlText

/-! ## The layers -/

/-- The layers of settings above the defaults. -/
structure Layers where
  file : Option (Path × Sourced) := none
  environment : Value := .dict []
  request : Value := .dict []
  /-- The number of the lowest layer, if it is known. The others are numbered from it. -/
  first : Option Nat := none

namespace Layers

/-- The layers, the lowest first. -/
def toList (layers : Layers) : List Value :=
  toValue {} :: (layers.file.toList.map (·.2.value) ++ [layers.environment, layers.request])

/-- All layers laid over each other. -/
def merged (layers : Layers) : Value :=
  layers.toList.foldl Value.merge (.dict [])

/-- The keys on the way to a fault, up to the first list. -/
def keysOf : List Label → List String
  | .key name :: rest => name :: keysOf rest
  | _ => []

/-- The highest layer that has the setting of a fault. -/
def highest (layers : Layers) (fault : Fault) : Source :=
  let has := fun (layer : Value) => (layer.at? (keysOf fault.path)).isSome
  if has layers.request then .unknown
  else if has layers.environment then .environment
  else
    match layers.file with
    | some (path, sourced) => if has sourced.value then .file path else .unknown
    | none => .unknown

/-- The profiles, in the order of their numbers. -/
def profiles : List String := ["default", "global"]

/-- The source that a number names: the number of a layer, and above its 62 bits that of a
profile. -/
def sourceOf (layers : Layers) (path : Path) (number : Nat) : Source :=
  let layer := number % 0x4000000000000000
  let profile := profiles[number / 0x4000000000000000]?.getD "default"
  if layers.first.any fun first => layer = first + 1 then .file path profile
  else if layers.first.any fun first => layer = first + 2 then .environment
  else .unknown

/-- Where the setting of a fault was made. -/
def blame (layers : Layers) (fault : Fault) : Source :=
  match layers.highest fault, layers.file with
  | .file path profile, some (_, sourced) =>
    -- A value in the file may name another source for itself.
    match sourced.sources.find? fun (way, _) => way = fault.path with
    | some (_, number) => layers.sourceOf path number
    | none => .file path profile
  | source, _ => source

/-- Reads the configuration that the layers make together. -/
def extract (layers : Layers) : Except Error Conf :=
  (layeredReader.conf layers.merged).mapError fun fault => .extraction fault (layers.blame fault)

end Layers

/-! ## Loading -/

/-- Refuses a configuration that cannot be used. -/
def checkUsable (conf : Conf) : Except Error Unit :=
  conf.validate.mapError fun
    | .emptyInterface => .emptyInterface
    | .capacity value => .invalidCapacity value

/-- The file that a request names, checked and read. -/
def loadFile (fs : FileSystem) (config : Option Path) :
    Except Error (Option (Path × Sourced)) :=
  match config with
  | none => .ok none
  | some path => do
    checkFile fs path
    let layer ← (fileLayer fs path).mapError fun fault => Error.extraction fault (.file path)
    return some (path, layer)

/-- The configuration for a request: the path of the file is checked, the layers are read, and the
result must be usable. The number of the lowest layer is `first`. -/
def load (fs : FileSystem) (environment : Environment) (cli : Cli) (first : Option Nat := none) :
    Except Error Conf := do
  let file ← loadFile fs cli.config
  let layers : Layers :=
    { file, environment := environment.settings, request := cli.toValue, first }
  let conf ← layers.extract
  checkUsable conf
  -- The path of the file is no setting: only a request can give it.
  return { conf with configPath := cli.config }

/-- What a run is set up with: the configuration for a request, and the request. -/
def prepare (fs : FileSystem) (environment : Environment) (cli : Cli)
    (first : Option Nat := none) : Except Error (Conf × Cli) := do
  let conf ← load fs environment cli first
  return (conf, cli)

end XdpSteering.Conf
