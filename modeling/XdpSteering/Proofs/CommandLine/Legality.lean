import XdpSteering.Proofs.CommandLine.Writing

/-!
# Which command lines are legal

A command line is legal when each of its tokens belongs to an option or names the command, but for
two dashes that may stand at its end. In front of the command stands each option of the program at
most once, and behind it each option of the command exactly once.
-/

namespace XdpSteering.CommandLine

open XdpSteering.Text

/-! ## Options -/

/-- The token begins an option, with the octets of its value if these are attached. Behind a letter
they may follow an equals sign. -/
inductive Opens (opt : Opt) : Octets → Option Octets → Prop where
  | long : Opens opt (dash :: dash :: Utf8.encode opt.long) none
  | longAttached (octets : Octets) :
      Opens opt (dash :: dash :: (Utf8.encode opt.long ++ equals :: octets)) (some octets)
  | short {letter : Char} (letter_eq : opt.short? = some letter) :
      Opens opt (dash :: String.utf8EncodeChar letter) none
  | shortAttached {letter : Char} {octets : Octets} (letter_eq : opt.short? = some letter)
      (ne_nil : octets ≠ []) (no_equals : octets.head? ≠ some equals) :
      Opens opt (dash :: (String.utf8EncodeChar letter ++ octets)) (some octets)
  | shortEquals {letter : Char} (letter_eq : opt.short? = some letter) (octets : Octets) :
      Opens opt (dash :: (String.utf8EncodeChar letter ++ equals :: octets)) (some octets)

inductive Shows (opt : Opt) (octets : Octets) : List Octets → Prop where
  | attached {token : Octets} (opens : Opens opt token (some octets)) : Shows opt octets [token]
  | apart {token : Octets} (opens : Opens opt token none) (alone : StandsAlone octets) :
      Shows opt octets [token, octets]

inductive Shown : List (Opt × OptValue) → List Octets → Prop where
  | nil : Shown [] []
  | cons {opt : Opt} {octets : Octets} {value : OptValue} {tokens rest : List Octets}
      {options : List (Opt × OptValue)} (means : Means opt octets value)
      (shows : Shows opt octets tokens) (shown : Shown options rest) :
      Shown ((opt, value) :: options) (tokens ++ rest)

theorem Shown.exists_means {options : List (Opt × OptValue)} {tokens : List Octets}
    (h : Shown options tokens) : ∀ entry ∈ options, ∃ octets, Means entry.1 octets entry.2 := by
  induction h with
  | nil => simp
  | cons hmeans _ _ ih => exact List.forall_mem_cons.mpr ⟨⟨_, hmeans⟩, ih⟩

theorem Spells.shows {opt : Opt} {octets : Octets} {tokens : List Octets}
    (h : Spells opt octets tokens) : Shows opt octets tokens := by
  cases h with
  | long halone => exact .apart .long halone
  | longAttached => exact .attached (.longAttached octets)
  | short hletter halone => exact .apart (.short hletter) halone
  | shortAttached hletter hne hequals => exact .attached (.shortAttached hletter hne hequals)

theorem Written.shown {options : List (Opt × OptValue)} {tokens : List Octets}
    (h : Written options tokens) : Shown options tokens := by
  induction h with
  | nil => exact .nil
  | cons hmeans hspells _ ih => exact .cons hmeans hspells.shows ih

/-! ## Requests -/

def Closing (tokens : List Octets) : Prop := tokens = [] ∨ tokens = [[dash, dash]]

/-- The tokens show a command: its name, and behind it each of its options once. Without a command
there are none. -/
inductive ShowsCommand : Option Command → List Octets → Prop where
  | none : ShowsCommand none []
  | some {command : Command} {options : List (Opt × OptValue)} {tokens : List Octets}
      (shown : Shown options tokens) (once : options.Perm (optionsOf command)) :
      ShowsCommand (some command) (Utf8.encode (verbOf command).name :: tokens)

def valueOf (request : Cli) : Opt → Option OptValue
  | .config => request.config.map .path
  | .logLevel => request.logLevel.map .level
  | .interface => request.interface.map .text
  | .queue | .pid | .descriptor => none

/-- The command line is legal in an environment, and it says the request. -/
inductive Legal (environment : Environment) : Cli → List Octets → Prop where
  | intro {request : Cli} {options : List (Opt × OptValue)} {front back closing : List Octets}
      (shown : Shown options front) (once : (options.map Prod.fst).Nodup)
      (in_front : ∀ opt ∈ options.map Prod.fst, opt ∈ Scope.main.options)
      (takes : ∀ opt ∈ Scope.main.options, Takes environment options opt (valueOf request opt))
      (command : ShowsCommand request.command back) (closes : Closing closing) :
      Legal environment request (front ++ back ++ closing)

end XdpSteering.CommandLine
