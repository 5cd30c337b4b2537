import XdpSteering.CommandLine.Parse
import XdpSteering.Proofs.Fallible
import XdpSteering.Proofs.Text.Numeral
import XdpSteering.Proofs.Text.Utf8

/-!
# Ways of writing a command line

A request can be written in many ways: its options stand in any order, each of them in any of its
spellings, and what is not written may be left to a variable. The relations of this module say when
a command line is such a way of writing, without a word about how it is read.
-/

namespace XdpSteering.CommandLine

open XdpSteering.Text

/-! ## Values -/

inductive Means : Opt → Octets → OptValue → Prop where
  | config {octets : Octets} (ne_nil : octets ≠ []) : Means .config octets (.path ⟨octets⟩)
  | logLevel {text : String} {level : Level} (names : Level.read? text = some level) :
      Means .logLevel (Utf8.encode text) (.level level)
  | interface (text : String) : Means .interface (Utf8.encode text) (.text text)
  | queue {text : String} (queue : QueueIndex)
      (decimal : Numeral.IsDecimal text.toList queue.toNat) :
      Means .queue (Utf8.encode text) (.number queue.toNat)
  | pid {text : String} (pid : Int32) (decimal : Numeral.IsDecimal text.toList pid.toInt) :
      Means .pid (Utf8.encode text) (.number pid.toInt)
  | descriptor {text : String} (descriptor : Int32)
      (decimal : Numeral.IsDecimal text.toList descriptor.toInt) :
      Means .descriptor (Utf8.encode text) (.number descriptor.toInt)

theorem readText_encode (text : String) : readText (Utf8.encode text) = .ok text := by
  rw [readText, Utf8.decode?_encode]

theorem readNumber_eq_ok {range : Range} {text : String} {number : Int}
    (hdecimal : Numeral.IsDecimal text.toList number) (hlow : range.low ≤ number)
    (hhigh : number ≤ range.high) (hmin : -(Numeral.signedMin64 : Int) ≤ number)
    (hmax : number ≤ Numeral.signedMax64) : readNumber range text = .ok number := by
  rw [readNumber, Numeral.readSigned_eq_ok hdecimal hmin hmax]
  dsimp only
  rw [if_pos ⟨hlow, hhigh⟩]

theorem readNumber_queue {text : String} {queue : QueueIndex}
    (h : Numeral.IsDecimal text.toList queue.toNat) :
    readNumber queueRange text = .ok (queue.toNat : Int) := by
  have hlt : queue.toNat < 4294967296 := queue.toNat_lt
  have hmin : Numeral.signedMin64 = 9223372036854775808 := rfl
  have hmax : Numeral.signedMax64 = 9223372036854775807 := rfl
  apply readNumber_eq_ok h
  · exact Int.natCast_nonneg _
  · show (queue.toNat : Int) ≤ 4294967295
    omega
  · omega
  · omega

theorem readNumber_int32 {text : String} {number : Int32}
    (h : Numeral.IsDecimal text.toList number.toInt) :
    readNumber numberRange text = .ok number.toInt := by
  have hlow : -2147483648 ≤ number.toInt := number.le_toInt
  have hhigh : number.toInt < 2147483648 := number.toInt_lt
  have hmin : Numeral.signedMin64 = 9223372036854775808 := rfl
  have hmax : Numeral.signedMax64 = 9223372036854775807 := rfl
  apply readNumber_eq_ok h
  · exact hlow
  · show number.toInt ≤ 2147483647
    omega
  · omega
  · omega

variable {opt : Opt} {octets : Octets} {value : OptValue}

theorem read_eq_ok_of_means (h : Means opt octets value) : opt.read octets = .ok value := by
  cases h with
  | config hne => simp [Opt.read, hne]
  | logLevel hnames =>
    refine Fallible.bind_eq_ok_iff.mpr ⟨_, readText_encode _, ?_⟩
    rw [hnames]
    rfl
  | interface text => exact Fallible.map_eq_ok_iff.mpr ⟨text, readText_encode text, rfl⟩
  | queue queue hdecimal =>
    refine Fallible.bind_eq_ok_iff.mpr ⟨_, readText_encode _, ?_⟩
    exact Fallible.bind_eq_ok_iff.mpr ⟨_, readNumber_queue hdecimal, rfl⟩
  | pid number hdecimal | descriptor number hdecimal =>
    refine Fallible.bind_eq_ok_iff.mpr ⟨_, readText_encode _, ?_⟩
    exact Fallible.bind_eq_ok_iff.mpr ⟨_, readNumber_int32 hdecimal, rfl⟩

/-! ## Options -/

/-- The octets can be a token of their own: they do not look like an option. -/
def StandsAlone (octets : Octets) : Prop := octets.head? = some dash → octets = [dash]

inductive Spells (opt : Opt) (octets : Octets) : List Octets → Prop where
  | long (alone : StandsAlone octets) :
      Spells opt octets [dash :: dash :: Utf8.encode opt.long, octets]
  | longAttached : Spells opt octets [dash :: dash :: (Utf8.encode opt.long ++ equals :: octets)]
  | short {letter : Char} (letter_eq : opt.short? = some letter) (alone : StandsAlone octets) :
      Spells opt octets [dash :: String.utf8EncodeChar letter, octets]
  | shortAttached {letter : Char} (letter_eq : opt.short? = some letter) (ne_nil : octets ≠ [])
      (no_equals : octets.head? ≠ some equals) :
      Spells opt octets [dash :: (String.utf8EncodeChar letter ++ octets)]

inductive Written : List (Opt × OptValue) → List Octets → Prop where
  | nil : Written [] []
  | cons {opt : Opt} {octets : Octets} {value : OptValue} {tokens rest : List Octets}
      {options : List (Opt × OptValue)} (means : Means opt octets value)
      (spells : Spells opt octets tokens) (written : Written options rest) :
      Written ((opt, value) :: options) (tokens ++ rest)

/-! ## Requests -/

/-- The value an option takes, when these are written on the command line: the one that is written,
or else the one its variable says, or else none. -/
inductive Takes (environment : Environment) (options : List (Opt × OptValue)) (opt : Opt) :
    Option OptValue → Prop where
  | written {value : OptValue} (written : (opt, value) ∈ options) :
      Takes environment options opt (some value)
  | inherited {name : String} {octets : Octets} {value : OptValue}
      (absent : opt ∉ options.map Prod.fst) (name_eq : opt.variableName? = some name)
      (set : environment.get? name = some octets) (means : Means opt octets value) :
      Takes environment options opt (some value)
  | unset {name : String} (absent : opt ∉ options.map Prod.fst)
      (name_eq : opt.variableName? = some name) (unset : environment.get? name = none) :
      Takes environment options opt none

def verbOf : Command → Verb
  | .register .. => .register
  | .unregister _ => .unregister
  | .detach => .detach
  | .unpin => .unpin
  | .status => .status
  | .diagnose => .diagnose

def optionsOf : Command → List (Opt × OptValue)
  | .register queue pid descriptor =>
    [(.queue, .number queue.toNat), (.pid, .number pid.toInt),
      (.descriptor, .number descriptor.toInt)]
  | .unregister queue => [(.queue, .number queue.toNat)]
  | .detach | .unpin | .status | .diagnose => []

/-- The tokens write a command: its name, and behind it each of its options once. Without a command
there are none. -/
inductive WritesCommand : Option Command → List Octets → Prop where
  | none : WritesCommand none []
  | some {command : Command} {options : List (Opt × OptValue)} {tokens : List Octets}
      (written : Written options tokens) (once : options.Perm (optionsOf command)) :
      WritesCommand (some command) (Utf8.encode (verbOf command).name :: tokens)

/-- The tokens write a request, in an environment: in front of the command stands each option at
most once, and what no option says comes from the variables. -/
inductive Writes (environment : Environment) : Cli → List Octets → Prop where
  | intro {request : Cli} {options : List (Opt × OptValue)} {front back : List Octets}
      (written : Written options front) (once : (options.map Prod.fst).Nodup)
      (in_front : ∀ opt ∈ options.map Prod.fst, opt ∈ Scope.main.options)
      (config : Takes environment options .config (request.config.map .path))
      (logLevel : Takes environment options .logLevel (request.logLevel.map .level))
      (interface : Takes environment options .interface (request.interface.map .text))
      (command : WritesCommand request.command back) :
      Writes environment request (front ++ back)

end XdpSteering.CommandLine
