import XdpSteering.CommandLine.Notice

/-!
# Reading command lines

The tokens of a command line are read from the left. An option may have its value attached, or wait
for it in the next token. A waiting option is settled when the next option begins, and at the end;
the options in front of a command are settled after the command was read.
-/

namespace XdpSteering.CommandLine

open XdpSteering.Text

/-! ## Tokens -/

/-- What a token of a command line looks like. -/
inductive Token where
  /-- Two dashes, after which nothing is an option. -/
  | escape
  /-- A long name, and the value behind an equals sign. -/
  | long (name : Octets) (value : Option Octets)
  /-- The octets behind one dash. -/
  | short (letters : Octets)
  | word
  deriving DecidableEq, Repr

def dash : UInt8 := 0x2D

def equals : UInt8 := 0x3D

/-- What a string of octets looks like. -/
def Token.of (octets : Octets) : Token :=
  match octets with
  | [] => .word
  | first :: rest =>
    if first ≠ dash then .word
    else
      match rest with
      | [] => .word
      | second :: letters =>
        if second ≠ dash then .short (second :: letters)
        else if letters.isEmpty then .escape
        else
          let name := letters.takeWhile (· ≠ equals)
          let value := letters.drop (name.length + 1)
          .long name (if letters.contains equals then some value else none)

/-- The first character of a string of octets, and the octets behind it. -/
def firstChar (octets : Octets) : Option (Char × Octets) :=
  match Utf8.scan octets with
  | some char :: _ => some (char, octets.drop char.utf8Size)
  | _ => none

/-! ## Settling options -/

/-- What was read of a scope. -/
structure State where
  settled : List (Opt × OptValue) := []
  /-- The option that is still open, with its value if that was there. -/
  open? : Option (Opt × Option Octets) := none
  deriving DecidableEq, Repr

namespace State

/-- Whether an option waits for its value in the next token. -/
def awaits (state : State) : Option Opt :=
  match state.open? with
  | some (opt, none) => some opt
  | _ => none

/-- Whether an option is settled. -/
def has (state : State) (opt : Opt) : Bool := state.settled.any fun entry => entry.1 = opt

def get? (state : State) (opt : Opt) : Option OptValue :=
  (state.settled.find? fun entry => entry.1 = opt).map (·.2)

def readValue (scope : Scope) (opt : Opt) (octets : Octets) : Except Notice OptValue :=
  (opt.read octets).mapError fun
    | .missing => .missingValue opt
    | .notText => .notText scope
    | .refused text reason => .refusedValue opt text reason

/-- Gives an option its value. -/
def accept (scope : Scope) (state : State) (opt : Opt) (octets : Octets) : Except Notice State :=
  if state.has opt then .error (.repeatedOption scope opt)
  else do
    let value ← readValue scope opt octets
    return { state with settled := state.settled ++ [(opt, value)] }

/-- Settles the open option. -/
def settle (scope : Scope) (state : State) : Except Notice State :=
  match state.open? with
  | none => .ok state
  | some (opt, none) => .error (.missingValue opt)
  | some (opt, some octets) => { state with open? := none }.accept scope opt octets

/-- Begins an option, with its value if that is attached. -/
def begin (scope : Scope) (state : State) (opt : Opt) (value : Option Octets) :
    Except Notice State := do
  let state ← state.settle scope
  match value with
  | some octets => state.accept scope opt octets
  | none => return { state with open? := some (opt, none) }

def settledOpts (state : State) : List Opt := state.settled.map (·.1)

/-- The options that were given a value, even one that is refused. An option that is repeated loses
its place. -/
def used (state : State) : List Opt :=
  match state.open? with
  | some (opt, some _) =>
    if state.has opt then state.settledOpts.filter (· ≠ opt) else state.settledOpts ++ [opt]
  | _ => state.settledOpts

end State

/-! ## Single tokens -/

/-- What a flag asks for. -/
def raise (scope : Scope) (state : State) (flag : Flag) : Except Notice State := do
  let _ ← state.settle scope
  match flag with
  | .help => throw (.describe (.scope scope))
  | .version => throw .tellVersion

def longFlag? (scope : Scope) (name : Octets) : Option Flag :=
  if name = Utf8.encode "help" then some .help
  else if scope = .main && name = Utf8.encode "version" then some .version
  else none

def shortFlag? (scope : Scope) (letter : Char) : Option Flag :=
  if letter = 'h' then some .help
  else if scope = .main && letter = 'V' then some .version
  else none

def takeLong (scope : Scope) (state : State) (name : Octets) (value : Option Octets) :
    Except Notice State :=
  match scope.options.find? fun opt => Utf8.encode opt.long = name with
  | some opt => state.begin scope opt value
  | none =>
    match longFlag? scope name, value with
    | some flag, none => raise scope state flag
    | some flag, some text =>
      .error (.surplusValue scope flag (Utf8.lossy text) state.settledOpts)
    | none, _ => .error (.unknownArgument scope ("--" ++ Utf8.lossy name) state.used)

/-- The value attached to a letter: what follows it, but for one equals sign. -/
def attached (octets : Octets) : Option Octets :=
  match octets with
  | [] => none
  | first :: rest => some (if first = equals then rest else first :: rest)

def takeShort (scope : Scope) (state : State) (letters : Octets) : Except Notice State :=
  match firstChar letters with
  | none => .error (.unknownArgument scope ("-" ++ Utf8.lossy letters) [])
  | some (letter, rest) =>
    match scope.options.find? fun opt => opt.short? = some letter with
    | some opt => state.begin scope opt (attached rest)
    | none =>
      match shortFlag? scope letter with
      | some flag => raise scope state flag
      | none => .error (.unknownArgument scope ("-" ++ letter.toString) [])

/-- Whether a token is the name of a command or of the one that describes them. -/
def isCommandName (octets : Octets) : Bool :=
  (Verb.ofName? octets).isSome || octets = Utf8.encode helpName

/-- The notice about a token that nothing takes; `shielded` says whether it stands behind two
dashes. -/
def unexpected (scope : Scope) (shielded : Bool) (octets : Octets) : Notice :=
  let word := Utf8.lossy octets
  match scope with
  | .verb _ => .unknownArgument scope word []
  | .main =>
    if shielded && isCommandName octets then .shieldedCommand word
    else .unknownCommand (.scope .main) word

/-- The page that the words behind a request for a description lead to. -/
def findPage (page : Page) : List Octets → Notice
  | [] => .describe page
  | word :: rest =>
    let deeper :=
      if page ≠ .scope .main then none
      else if word = Utf8.encode helpName then some .help
      else (Verb.ofName? word).map fun verb => .scope (.verb verb)
    match deeper with
    | some page => findPage page rest
    | none => .unknownCommand page (Utf8.lossy word)

/-- What follows the options of a scope: nothing, or a command and its tokens. -/
abbrev Continuation := Option (Verb × List Octets)

def readTokens (scope : Scope) (shielded : Bool) (state : State) :
    List Octets → Except Notice (State × Continuation)
  | [] => .ok (state, none)
  | token :: rest =>
    if shielded then .error (unexpected scope true token)
    else
      match state.awaits, scope, Verb.ofName? token with
      | none, .main, some verb => .ok (state, some (verb, rest))
      | awaited, scope, _ =>
        if awaited.isNone && scope = .main && token = Utf8.encode helpName then
          .error (findPage (.scope .main) rest)
        else
          match Token.of token with
          | .escape => readTokens scope true state rest
          | .long name value => do
            let state ← takeLong scope state name value
            readTokens scope false state rest
          | .short letters => do
            let state ← takeShort scope state letters
            readTokens scope false state rest
          | .word =>
            match awaited with
            | some opt => readTokens scope false { state with open? := some (opt, some token) } rest
            | none => .error (unexpected scope false token)

/-! ## Whole command lines -/

def State.number (state : State) (opt : Opt) : Int :=
  match state.get? opt with
  | some (.number number) => number
  | _ => 0

/-- The command with the values of its options. -/
def buildCommand (verb : Verb) (state : State) : Command :=
  match verb with
  | .register =>
    .register (UInt32.ofNat (state.number .queue).toNat) (Int32.ofInt (state.number .pid))
      (Int32.ofInt (state.number .descriptor))
  | .unregister => .unregister (UInt32.ofNat (state.number .queue).toNat)
  | .detach => .detach
  | .unpin => .unpin
  | .status => .status
  | .diagnose => .diagnose

def readCommand (verb : Verb) (tokens : List Octets) : Except Notice Command := do
  let scope := Scope.verb verb
  -- Behind a command no other command is looked for.
  let (state, _) ← readTokens scope false {} tokens
  let state ← state.settle scope
  let missing := scope.options.filter fun opt => !state.has opt
  if missing.isEmpty then return buildCommand verb state
  else throw (.missingOptions verb missing)

/-- Gives an option the value of its variable, if the command line gave it none. -/
def fromVariable (environment : Environment) (state : State) (opt : Opt) : Except Notice State :=
  if state.has opt then .ok state
  else
    match opt.variableName?.bind environment.get? with
    | none => .ok state
    | some octets => state.accept .main opt octets

/-- The request with the values of the options in front of the command. -/
def buildCli (state : State) (command : Option Command) : Cli where
  config :=
    match state.get? .config with
    | some (.path path) => some path
    | _ => none
  logLevel :=
    match state.get? .logLevel with
    | some (.level level) => some level
    | _ => none
  interface :=
    match state.get? .interface with
    | some (.text text) => some text
    | _ => none
  command

def parse (environment : Environment) (tokens : List Octets) : Except Notice Cli := do
  let (state, continuation) ← readTokens .main false {} tokens
  let command ←
    match continuation with
    | none => pure none
    | some (verb, rest) => (readCommand verb rest).map some
  -- What is wrong with the command comes before what is wrong with the last option in front of it.
  let state ← state.settle .main
  let state ← Scope.main.options.foldlM (fromVariable environment) state
  return buildCli state command

end XdpSteering.CommandLine
