import XdpSteering.CommandLine.Grammar

/-!
# What is said instead of running

A command line may ask for a description or for the version, or it may be wrong. In each case a
notice is written and nothing is run.
-/

namespace XdpSteering.CommandLine

open XdpSteering.Text

/-- A page of description. -/
inductive Page where
  | scope (scope : Scope)
  | help
  deriving DecidableEq, Repr

/-- The flags of every scope. -/
inductive Flag where
  | help
  | version
  deriving DecidableEq, Repr

/-- What is said instead of running. -/
inductive Notice where
  | describe (page : Page)
  | tellVersion
  /-- An option stands without its value. -/
  | missingValue (opt : Opt)
  | refusedValue (opt : Opt) (text reason : String)
  /-- A value that has to be text is none. -/
  | notText (scope : Scope)
  | repeatedOption (scope : Scope) (opt : Opt)
  /-- There is no such argument; `used` holds the options that were given before. -/
  | unknownArgument (scope : Scope) (argument : String) (used : List Opt)
  /-- The name of a command stands where it names none. -/
  | shieldedCommand (name : String)
  /-- There is no such command on a page. -/
  | unknownCommand (page : Page) (name : String)
  /-- A flag is given a value; `used` holds the options that were given before. -/
  | surplusValue (scope : Scope) (flag : Flag) (text : String) (used : List Opt)
  | missingOptions (verb : Verb) (missing : List Opt)
  deriving DecidableEq, Repr

/-! ## Usage -/

def demanded (scope : Scope) : List String :=
  if scope.demands then scope.options.map Opt.shown else []

/-- The line that says how a scope is used. -/
def usage (scope : Scope) : String :=
  match scope with
  | .main => callName ++ " [OPTIONS] [COMMAND]"
  | scope => " ".intercalate (scope.call :: demanded scope)

/-- The line that says how a scope is used with what was given: the options that have to be given,
or those of `used`. -/
def usageOf (scope : Scope) (used : List Opt) : String :=
  if scope.demands || used.isEmpty then usage scope
  else " ".intercalate (scope.call :: used.map Opt.shown)

/-- The flag as it is written. -/
def Flag.shown : Flag → String
  | .help => "--help"
  | .version => "--version"

def optionChoice (scope : Scope) : String :=
  "<" ++ "|".intercalate (scope.options.map Opt.shown) ++ ">"

/-- The line that says how a flag is used: with the options that have to be given, or, once options
were given, with a choice of all. -/
def usageWithFlag (scope : Scope) (flag : Flag) (used : List Opt) : String :=
  let words :=
    if used.isEmpty then demanded scope ++ [flag.shown] else [flag.shown, optionChoice scope]
  " ".intercalate (scope.call :: words)

/-- The line that says how what a page describes is used. -/
def usageOfPage : Page → String
  | .scope scope => usage scope
  | .help => callName ++ " " ++ helpName ++ " [COMMAND]..."

/-! ## Pages -/

def fill (width : Nat) (text : String) : String :=
  text ++ String.ofList (List.replicate (width - text.length) ' ')

/-- The text with every line but the first moved in by a number of blanks. -/
def hang (depth : Nat) (text : String) : String :=
  let lines := (text.toList.splitOn '\n').map String.ofList
  ("\n" ++ String.ofList (List.replicate depth ' ')).intercalate lines

/-- Lines of two columns. A text of several lines stays in its column. -/
def table (rows : List (String × String)) : String :=
  let width := (rows.map fun row => row.1.length).foldl max 0
  String.join (rows.map fun row =>
    "  " ++ fill width row.1 ++ "  " ++ hang (width + 4) row.2 ++ "\n")

def optionColumn (opt : Opt) : String :=
  match opt.short? with
  | some letter => "-" ++ letter.toString ++ ", " ++ opt.shown
  | none => "    " ++ opt.shown

/-- What an option is for, and the present value of its variable. -/
def optionAbout (environment : Environment) (scope : Scope) (opt : Opt) : String :=
  let about := scope.about opt
  match opt.variableName? with
  | none => about
  | some name =>
    let value := ((environment.get? name).map Utf8.lossy).getD ""
    about ++ " [env: " ++ name ++ "=" ++ value ++ "]"

def flagRows (scope : Scope) : List (String × String) :=
  ("-h, --help", "Print help")
    :: (if scope = .main then [("-V, --version", "Print version")] else [])

def commandRows : List (String × String) :=
  Verb.all.map (fun verb => (verb.name, verb.about)) ++ [(helpName, helpAbout)]

def pageText (environment : Environment) (page : Page) : String :=
  let usageLine := "Usage: " ++ usageOfPage page ++ "\n\n"
  match page with
  | .help =>
    helpAbout ++ "\n\n" ++ usageLine ++ "Arguments:\n"
      ++ table [("[COMMAND]...", "Print help for the subcommand(s)")]
  | .scope scope =>
    let options := scope.options.map fun opt =>
      (optionColumn opt, optionAbout environment scope opt)
    let optionTable := "Options:\n" ++ table (options ++ flagRows scope)
    match scope with
    | .main => usageLine ++ "Commands:\n" ++ table commandRows ++ "\n" ++ optionTable
    | .verb verb => verb.about ++ "\n\n" ++ usageLine ++ optionTable

/-! ## Texts -/

namespace Notice

/-- Whether the notice was asked for. -/
def isAnswer : Notice → Bool
  | .describe _ | .tellVersion => true
  | _ => false

def exitCode (notice : Notice) : Nat := if notice.isAnswer then 0 else 2

/-- What an error message ends with. -/
def hint : String := "\n\nFor more information, try '--help'.\n"

/-- What an error message about a page ends with: the page about descriptions has no flags. -/
def hintOn : Page → String
  | .scope _ => hint
  | .help => "\n"

/-- An error message with a line about usage, and what it ends with. -/
def withUsage (text usageLine : String) (ending : String := hint) : String :=
  "error: " ++ text ++ "\n\nUsage: " ++ usageLine ++ ending

def text (environment : Environment) : Notice → String
  | .describe page => pageText environment page
  | .tellVersion => callName ++ " " ++ version ++ "\n"
  | .missingValue opt =>
    "error: a value is required for '" ++ opt.shown ++ "' but none was supplied" ++ hint
  | .refusedValue opt value reason =>
    "error: invalid value '" ++ value ++ "' for '" ++ opt.shown ++ "': " ++ reason ++ hint
  | .notText scope =>
    withUsage "invalid UTF-8 was detected in one or more arguments" (usage scope)
  | .repeatedOption scope opt =>
    withUsage ("the argument '" ++ opt.shown ++ "' cannot be used multiple times") (usage scope)
  | .unknownArgument scope argument used =>
    withUsage ("unexpected argument '" ++ argument ++ "' found") (usageOf scope used)
  | .shieldedCommand name =>
    withUsage ("unexpected argument '" ++ name ++ "' found\n\n  tip: subcommand '" ++ name
      ++ "' exists; to use it, remove the '--' before it") (usage .main)
  | .unknownCommand page name =>
    withUsage ("unrecognized subcommand '" ++ name ++ "'") (usageOfPage page) (hintOn page)
  | .surplusValue scope flag value used =>
    withUsage ("unexpected value '" ++ value ++ "' for '" ++ flag.shown
      ++ "' found; no more were expected") (usageWithFlag scope flag used)
  | .missingOptions verb missing =>
    withUsage ("the following required arguments were not provided:"
      ++ String.join (missing.map fun opt => "\n  " ++ opt.shown)) (usage (.verb verb))

end Notice

end XdpSteering.CommandLine
