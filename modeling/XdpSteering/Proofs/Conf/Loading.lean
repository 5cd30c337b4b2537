import Mathlib.Tactic.Common
import XdpSteering.Conf.Layers
import XdpSteering.Proofs.Fallible

/-!
# The stages of loading

A configuration is loaded in four stages: the path of the file is checked, the merged layers are
read, an interface must be named, and the capacity must be in range. What comes out is usable, and
what goes wrong first is what is reported.
-/

namespace XdpSteering.Conf

open XdpSteering.Fallible

/-! ## Stages -/

/-- The first stage: the path of the file that a request names. -/
def checkConfigPath (fs : FileSystem) (cli : Cli) : Except Error Unit :=
  match cli.config with
  | none => .ok ()
  | some path => checkFile fs path

def readFile (fs : FileSystem) (cli : Cli) : Except Error (Option (Path × Sourced)) :=
  match cli.config with
  | none => .ok none
  | some path =>
    match fileLayer fs path with
    | .ok layer => .ok (some (path, layer))
    | .error fault => .error (.extraction fault (.file path))

def layersFor (fs : FileSystem) (environment : Environment) (cli : Cli) (first : Option Nat) :
    Except Error Layers := do
  let file ← readFile fs cli
  return { file, environment := environment.settings, request := cli.toValue, first }

/-- The second stage: the configuration that the layers make together. -/
def extraction (fs : FileSystem) (environment : Environment) (cli : Cli) (first : Option Nat) :
    Except Error Conf := do
  let layers ← layersFor fs environment cli first
  layers.extract

/-- The third stage lets pass an interface with a character that is not white space. -/
def NamesInterface (conf : Conf) : Prop :=
  ∃ char ∈ conf.interface.toList, Text.isBlank char = false

/-- The fourth stage lets pass a capacity from one to the largest. -/
def InRange (conf : Conf) : Prop :=
  1 ≤ conf.socketMap.capacity ∧ conf.socketMap.capacity ≤ maxCapacity

/-- The error of the first stage that fails. -/
inductive FirstFailure (fs : FileSystem) (environment : Environment) (cli : Cli)
    (first : Option Nat) : Error → Prop where
  | path {error : Error} (checked : checkConfigPath fs cli = .error error) :
      FirstFailure fs environment cli first error
  | extraction {error : Error} (checked : checkConfigPath fs cli = .ok ())
      (extracted : extraction fs environment cli first = .error error) :
      FirstFailure fs environment cli first error
  | interface {conf : Conf} (checked : checkConfigPath fs cli = .ok ())
      (extracted : extraction fs environment cli first = .ok conf)
      (unnamed : ¬ NamesInterface conf) :
      FirstFailure fs environment cli first .emptyInterface
  | capacity {conf : Conf} (checked : checkConfigPath fs cli = .ok ())
      (extracted : extraction fs environment cli first = .ok conf)
      (named : NamesInterface conf) (outside : ¬ InRange conf) :
      FirstFailure fs environment cli first (.invalidCapacity conf.socketMap.capacity)

/-! ## Loading is its stages -/

theorem loadFile_eq (fs : FileSystem) (cli : Cli) :
    loadFile fs cli.config = (do
      checkConfigPath fs cli
      readFile fs cli) := by
  unfold loadFile checkConfigPath readFile
  cases cli.config with
  | none => rfl
  | some path => cases hlayer : fileLayer fs path <;> simp [hlayer] <;> rfl

theorem load_eq_stages (fs : FileSystem) (environment : Environment) (cli : Cli)
    (first : Option Nat) :
    load fs environment cli first = (do
      checkConfigPath fs cli
      let conf ← extraction fs environment cli first
      checkUsable conf
      return { conf with configPath := cli.config }) := by
  unfold load extraction layersFor
  simp only [loadFile_eq, bind_assoc, pure_bind]

theorem isBlankText_eq_false_iff (conf : Conf) :
    Text.isBlankText conf.interface = false ↔ NamesInterface conf := by
  simp [Text.isBlankText, NamesInterface]

theorem outside_iff (conf : Conf) :
    (conf.socketMap.capacity < 1 || maxCapacity < conf.socketMap.capacity) = true
      ↔ ¬ InRange conf := by
  rw [InRange, Bool.or_eq_true, decide_eq_true_eq, decide_eq_true_eq, not_and_or,
    UInt32.not_le, UInt32.not_le]

theorem checkUsable_eq_ok_iff (conf : Conf) :
    checkUsable conf = .ok () ↔ NamesInterface conf ∧ InRange conf := by
  rw [checkUsable, mapError_eq_ok_iff, validate, ← isBlankText_eq_false_iff]
  by_cases hblank : Text.isBlankText conf.interface = true
  · simp [hblank]
  · rw [if_neg hblank]
    by_cases hrange : InRange conf
    · rw [if_neg (mt (outside_iff conf).mp (not_not.mpr hrange))]
      simpa [hrange] using hblank
    · rw [if_pos ((outside_iff conf).mpr hrange)]
      simp [hrange]

theorem checkUsable_eq_error_iff (conf : Conf) (error : Error) :
    checkUsable conf = .error error ↔
      (¬ NamesInterface conf ∧ error = .emptyInterface) ∨
        (NamesInterface conf ∧ ¬ InRange conf ∧
          error = .invalidCapacity conf.socketMap.capacity) := by
  rw [checkUsable, mapError_eq_error_iff, validate, ← isBlankText_eq_false_iff]
  by_cases hblank : Text.isBlankText conf.interface = true
  · simp [hblank, eq_comm]
  · rw [if_neg hblank]
    have hnamed : Text.isBlankText conf.interface = false := by simpa using hblank
    by_cases hrange : InRange conf
    · rw [if_neg (mt (outside_iff conf).mp (not_not.mpr hrange))]
      simp [hrange, hnamed]
    · rw [if_pos ((outside_iff conf).mpr hrange)]
      simp [hrange, hnamed, eq_comm]

/-! ## What loading comes to -/

theorem load_eq_ok_iff {fs : FileSystem} {environment : Environment} {cli : Cli}
    {first : Option Nat} {conf : Conf} :
    load fs environment cli first = .ok conf ↔
      checkConfigPath fs cli = .ok () ∧
        ∃ read, extraction fs environment cli first = .ok read ∧
          NamesInterface read ∧ InRange read ∧ conf = { read with configPath := cli.config } := by
  rw [load_eq_stages]
  constructor
  · intro hload
    obtain ⟨⟨⟩, hcheck, hrest⟩ := bind_eq_ok_iff.mp hload
    obtain ⟨read, hread, hrest⟩ := bind_eq_ok_iff.mp hrest
    obtain ⟨⟨⟩, husable, hconf⟩ := bind_eq_ok_iff.mp hrest
    obtain ⟨hnamed, hrange⟩ := (checkUsable_eq_ok_iff read).mp husable
    exact ⟨hcheck, read, hread, hnamed, hrange, (Except.ok.inj hconf).symm⟩
  · rintro ⟨hcheck, read, hread, hnamed, hrange, rfl⟩
    have husable := (checkUsable_eq_ok_iff read).mpr ⟨hnamed, hrange⟩
    exact bind_eq_ok_iff.mpr ⟨(), hcheck, bind_eq_ok_iff.mpr
      ⟨read, hread, bind_eq_ok_iff.mpr ⟨(), husable, rfl⟩⟩⟩

theorem load_eq_error_iff {fs : FileSystem} {environment : Environment} {cli : Cli}
    {first : Option Nat} {error : Error} :
    load fs environment cli first = .error error ↔
      FirstFailure fs environment cli first error := by
  rw [load_eq_stages, bind_eq_error_iff]
  constructor
  · rintro (hcheck | ⟨⟨⟩, hcheck, hrest⟩)
    · exact .path hcheck
    rcases bind_eq_error_iff.mp hrest with hread | ⟨read, hread, hrest⟩
    · exact .extraction hcheck hread
    rcases bind_eq_error_iff.mp hrest with husable | ⟨_, _, hreturn⟩
    · rcases (checkUsable_eq_error_iff read error).mp husable with
        ⟨hunnamed, rfl⟩ | ⟨hnamed, houtside, rfl⟩
      · exact .interface hcheck hread hunnamed
      · exact .capacity hcheck hread hnamed houtside
    · exact absurd hreturn (by simp)
  · intro hfailure
    cases hfailure with
    | path hcheck => exact .inl hcheck
    | extraction hcheck hread =>
      exact .inr ⟨(), hcheck, bind_eq_error_iff.mpr (.inl hread)⟩
    | @interface read hcheck hread hunnamed =>
      have husable := (checkUsable_eq_error_iff read _).mpr (.inl ⟨hunnamed, rfl⟩)
      exact .inr ⟨(), hcheck, bind_eq_error_iff.mpr
        (.inr ⟨read, hread, bind_eq_error_iff.mpr (.inl husable)⟩)⟩
    | @capacity read hcheck hread hnamed houtside =>
      have husable := (checkUsable_eq_error_iff read _).mpr (.inr ⟨hnamed, houtside, rfl⟩)
      exact .inr ⟨(), hcheck, bind_eq_error_iff.mpr
        (.inr ⟨read, hread, bind_eq_error_iff.mpr (.inl husable)⟩)⟩

/-- A run is set up with a usable configuration, the path of its file and the request itself, or
else with the error of the first stage that fails. -/
theorem prepare_usable_or_first_failure (fs : FileSystem) (environment : Environment) (cli : Cli)
    (first : Option Nat) :
    (∀ conf request, prepare fs environment cli first = .ok (conf, request) →
      NamesInterface conf ∧ InRange conf ∧ conf.configPath = cli.config ∧ request = cli) ∧
    ∀ error, prepare fs environment cli first = .error error ↔
      FirstFailure fs environment cli first error := by
  unfold prepare
  refine ⟨fun conf request hprepare => ?_, fun error => ?_⟩
  · obtain ⟨loaded, hload, hreturn⟩ := bind_eq_ok_iff.mp hprepare
    obtain ⟨rfl, rfl⟩ := Prod.mk.inj (Except.ok.inj hreturn)
    obtain ⟨-, read, -, hnamed, hrange, rfl⟩ := load_eq_ok_iff.mp hload
    exact ⟨hnamed, hrange, rfl, rfl⟩
  · rw [bind_eq_error_iff, ← load_eq_error_iff]
    simp

end XdpSteering.Conf
