import Mathlib.Data.List.Perm.Basic
import XdpSteering.Proofs.CommandLine.Scanning

/-!
# What is accepted

The reader accepts the legal command lines and no others. A command is read from tokens that show
each of its options, what the command line leaves out is taken from the variables, and the request
is built from what its options take.
-/

namespace XdpSteering.CommandLine

open XdpSteering.Text

/-! ## Commands -/

section Commands

variable {options : List (Opt × OptValue)} {verb : Verb} {command : Command}
  {tokens closing : List Octets}

/-- Values for all options of a command make it up. -/
theorem exists_command (hkeys : (options.map Prod.fst).Perm (Scope.verb verb).options)
    (hmeans : ∀ entry ∈ options, ∃ octets, Means entry.1 octets entry.2) :
    ∃ command, verbOf command = verb ∧ options.Perm (optionsOf command) := by
  obtain ⟨ordered, hordered, hperm⟩ :
      Relation.Comp (· = List.map Prod.fst ·) List.Perm (Scope.verb verb).options options := by
    rw [List.eq_map_comp_perm]
    exact hkeys.symm
  have hmeans : ∀ opt value, (opt, value) ∈ ordered → ∃ octets, Means opt octets value :=
    fun opt value hmem => hmeans (opt, value) (hperm.mem_iff.mp hmem)
  suffices hcommand : ∃ command, verbOf command = verb ∧ ordered = optionsOf command by
    obtain ⟨command, hverb, rfl⟩ := hcommand
    exact ⟨command, hverb, hperm.symm⟩
  cases verb with
  | register =>
    obtain ⟨⟨_, first⟩, _, rfl, rfl, hbehind⟩ := List.map_eq_cons_iff.mp hordered.symm
    obtain ⟨⟨_, second⟩, _, rfl, rfl, hlast⟩ := List.map_eq_cons_iff.mp hbehind
    obtain ⟨⟨_, third⟩, _, rfl, rfl, hnil⟩ := List.map_eq_cons_iff.mp hlast
    obtain rfl := List.map_eq_nil_iff.mp hnil
    obtain ⟨_, ⟨⟩⟩ := hmeans .queue first (by simp)
    obtain ⟨_, ⟨⟩⟩ := hmeans .pid second (by simp)
    obtain ⟨_, ⟨⟩⟩ := hmeans .descriptor third (by simp)
    exact ⟨.register _ _ _, rfl, rfl⟩
  | unregister =>
    obtain ⟨⟨_, first⟩, _, rfl, rfl, hnil⟩ := List.map_eq_cons_iff.mp hordered.symm
    obtain rfl := List.map_eq_nil_iff.mp hnil
    obtain ⟨_, ⟨⟩⟩ := hmeans .queue first (by simp)
    exact ⟨.unregister _, rfl, rfl⟩
  | detach => exact ⟨.detach, rfl, List.map_eq_nil_iff.mp hordered.symm⟩
  | unpin => exact ⟨.unpin, rfl, List.map_eq_nil_iff.mp hordered.symm⟩
  | status => exact ⟨.status, rfl, List.map_eq_nil_iff.mp hordered.symm⟩
  | diagnose => exact ⟨.diagnose, rfl, List.map_eq_nil_iff.mp hordered.symm⟩

/-- A command is read only from tokens that show each of its options. -/
theorem exists_shown_of_readCommand (h : readCommand verb tokens = .ok command) :
    verbOf command = verb ∧ ∃ options front closing, tokens = front ++ closing ∧
      Shown options front ∧ options.Perm (optionsOf command) ∧ Closing closing := by
  obtain ⟨⟨state, continuation⟩, hread, h⟩ := Fallible.bind_eq_ok_iff.mp h
  obtain ⟨last, hsettle, hbuild⟩ := Fallible.bind_eq_ok_iff.mp h
  obtain ⟨final, hfinal⟩ := exists_holds hsettle
  obtain rfl := Except.ok.inj (hfinal.symm.trans hsettle)
  have hstart : Holds (.verb verb) {} [] := rfl
  have hscans := scans_of_readTokens (by simp) hstart hread hfinal
  obtain @⟨options, front, back, _, hshown, hscope, honce, hends⟩ := hscans
  rw [List.nil_append] at honce hbuild
  cases hends with
  | closing hcloses =>
    dsimp only at hbuild
    split at hbuild
    · next hmissing =>
      have hgiven : ∀ opt ∈ (Scope.verb verb).options, opt ∈ options.map Prod.fst := by
        intro opt hopt
        have hhas := List.filter_eq_nil_iff.mp (List.isEmpty_iff.mp hmissing) opt hopt
        exact has_iff_mem.mp (by simpa using hhas)
      have hall : (options.map Prod.fst).Perm (Scope.verb verb).options := by
        rw [List.perm_ext_iff_of_nodup honce (nodup_options _)]
        exact fun opt => ⟨hscope opt, hgiven opt⟩
      obtain ⟨meant, rfl, hperm⟩ := exists_command hall hshown.exists_means
      obtain rfl := Except.ok.inj hbuild
      rw [buildCommand_of_perm hperm]
      exact ⟨rfl, options, front, back, rfl, hshown, hperm, hcloses⟩
    · cases hbuild

end Commands

/-! ## Variables -/

section Variables

variable {environment : Environment} {options settled : List (Opt × OptValue)} {opt : Opt}

theorem exists_takes {name : String} {next : State} (hname : opt.variableName? = some name)
    (hsame : State.get? { settled } opt = State.get? { settled := options } opt)
    (h : fromVariable environment { settled } opt = .ok next) :
    ∃ choice, Takes environment options opt choice := by
  cases hget : State.get? { settled := options } opt with
  | some value =>
    rw [get?_eq_find?] at hget
    exact ⟨some value, .written (KeyedList.mem_of_find?_eq_some hget)⟩
  | none =>
    have habsent := get?_eq_none_iff.mp hget
    have hhas : State.has { settled } opt = false := by
      rw [has_eq_isSome, hsame, hget, Option.isSome_none]
    rw [fromVariable, hhas, if_neg Bool.false_ne_true, hname, Option.bind_some] at h
    cases hset : environment.get? name with
    | none => exact ⟨none, .unset habsent hname hset⟩
    | some octets =>
      rw [hset] at h
      obtain ⟨-, value, hmeans, -⟩ := accept_eq_ok_iff.mp h
      exact ⟨some value, .inherited habsent hname hset hmeans⟩

theorem takes_of_fromVariable {name : String} {next : State}
    (hname : opt.variableName? = some name) (honce : (options.map Prod.fst).Nodup)
    (hsame : State.get? { settled } opt = State.get? { settled := options } opt)
    (h : fromVariable environment { settled } opt = .ok next) :
    ∃ filled, next = { settled := filled } ∧
      Takes environment options opt (State.get? { settled := filled } opt) ∧
        ∀ other ≠ opt, State.get? { settled := filled } other = State.get? { settled } other := by
  obtain ⟨choice, htakes⟩ := exists_takes hname hsame h
  obtain ⟨filled, hfilled, rfl, hother⟩ := fromVariable_eq_ok htakes honce hsame
  exact ⟨filled, Except.ok.inj (h.symm.trans hfilled), htakes, hother⟩

/-- What the variables fill in is what each option takes. -/
theorem takes_of_fromVariables {last : State} (honce : (options.map Prod.fst).Nodup)
    (h : Scope.main.options.foldlM (fromVariable environment) { settled := options } = .ok last) :
    ∀ opt ∈ Scope.main.options, Takes environment options opt (last.get? opt) := by
  simp only [Scope.options, List.foldlM_cons, List.foldlM_nil] at h
  obtain ⟨_, hfirst, h⟩ := Fallible.bind_eq_ok_iff.mp h
  obtain ⟨_, hsecond, h⟩ := Fallible.bind_eq_ok_iff.mp h
  obtain ⟨_, hthird, hlast⟩ := Fallible.bind_eq_ok_iff.mp h
  obtain ⟨first, rfl, hconfig, hother₁⟩ := takes_of_fromVariable rfl honce rfl hfirst
  obtain ⟨second, rfl, hlogLevel, hother₂⟩ :=
    takes_of_fromVariable rfl honce (hother₁ .logLevel (by decide)) hsecond
  have hsame : State.get? { settled := second } .interface
      = State.get? { settled := options } .interface :=
    (hother₂ .interface (by decide)).trans (hother₁ .interface (by decide))
  obtain ⟨third, rfl, hinterface, hother₃⟩ := takes_of_fromVariable rfl honce hsame hthird
  obtain rfl := Except.ok.inj hlast
  simp only [Scope.options, List.forall_mem_cons]
  refine ⟨?_, ?_, hinterface, by simp⟩
  · rwa [hother₃ .config (by decide), hother₂ .config (by decide)]
  · rwa [hother₃ .logLevel (by decide)]

theorem exists_means_of_takes {value : OptValue}
    (hmeans : ∀ entry ∈ options, ∃ octets, Means entry.1 octets entry.2)
    (h : Takes environment options opt (some value)) : ∃ octets, Means opt octets value := by
  cases h with
  | written hmem => exact hmeans (opt, value) hmem
  | inherited _ _ _ hvalue => exact ⟨_, hvalue⟩

/-- The request is built from what its options take. -/
theorem takes_buildCli {state : State} (command : Option Command)
    (hmeans : ∀ entry ∈ options, ∃ octets, Means entry.1 octets entry.2)
    (h : ∀ opt ∈ Scope.main.options, Takes environment options opt (state.get? opt)) :
    ∀ opt ∈ Scope.main.options,
      Takes environment options opt (valueOf (buildCli state command) opt) := by
  intro opt hopt
  have htakes := h opt hopt
  suffices hvalue : valueOf (buildCli state command) opt = state.get? opt by rwa [hvalue]
  cases hget : state.get? opt with
  | none =>
    simp only [Scope.options, List.mem_cons, List.not_mem_nil, or_false] at hopt
    rcases hopt with rfl | rfl | rfl <;> simp [valueOf, buildCli, hget]
  | some value =>
    obtain ⟨octets, hvalue⟩ := exists_means_of_takes hmeans (hget ▸ htakes)
    simp only [Scope.options, List.mem_cons, List.not_mem_nil, or_false] at hopt
    rcases hopt with rfl | rfl | rfl <;> cases hvalue <;> simp [valueOf, buildCli, hget]

end Variables

/-! ## Requests -/

variable {environment : Environment} {request : Cli} {tokens : List Octets}

def readContinuation : Continuation → Except Notice (Option Command)
  | none => .ok none
  | some (verb, rest) => (readCommand verb rest).map some

theorem parse_eq_ok_iff_exists :
    parse environment tokens = .ok request ↔ ∃ state continuation,
      readTokens .main false {} tokens = .ok (state, continuation) ∧ ∃ command,
      readContinuation continuation = .ok command ∧ ∃ settled,
      state.settle .main = .ok settled ∧ ∃ last,
      Scope.main.options.foldlM (fromVariable environment) settled = .ok last ∧
      buildCli last command = request := by
  have hparse : parse environment tokens
      = readTokens .main false {} tokens >>= fun result =>
        readContinuation result.2 >>= fun command => result.1.settle .main >>= fun settled =>
        Scope.main.options.foldlM (fromVariable environment) settled >>= fun last =>
        pure (buildCli last command) := by
    refine bind_congr fun ⟨state, continuation⟩ => ?_
    cases continuation <;> rfl
  simp only [hparse, Fallible.bind_eq_ok_iff, Prod.exists, Fallible.pure_eq_ok, Except.ok.injEq]

theorem legal_of_parse (h : parse environment tokens = .ok request) :
    Legal environment request tokens := by
  obtain ⟨state, continuation, hread, command, hcommand, settled, hsettle, last, hlast, rfl⟩ :=
    parse_eq_ok_iff_exists.mp h
  obtain ⟨final, hfinal⟩ := exists_holds hsettle
  obtain rfl := Except.ok.inj (hfinal.symm.trans hsettle)
  have hstart : Holds .main {} [] := rfl
  have hscans := scans_of_readTokens (by simp) hstart hread hfinal
  obtain @⟨options, front, back, _, hshown, hscope, honce, hends⟩ := hscans
  rw [List.nil_append] at honce hlast
  have htakes := takes_buildCli command hshown.exists_means (takes_of_fromVariables honce hlast)
  cases hends with
  | closing hcloses =>
    obtain rfl := Except.ok.inj hcommand
    rw [← List.append_nil front]
    exact .intro hshown honce hscope htakes .none hcloses
  | command verb rest =>
    obtain ⟨command, hread, rfl⟩ := Fallible.map_eq_ok_iff.mp hcommand
    obtain ⟨rfl, behind, shown, closing, rfl, hbehind, hperm, hcloses⟩ :=
      exists_shown_of_readCommand hread
    rw [← List.cons_append, ← List.append_assoc]
    exact .intro hshown honce hscope htakes (.some hbehind hperm) hcloses

theorem parse_of_legal (h : Legal environment request tokens) :
    parse environment tokens = .ok request := by
  obtain @⟨options, front, back, closing, hshown, honce, hfront, htakes, hcommand, hcloses⟩ := h
  obtain ⟨config, logLevel, interface, command⟩ := request
  have hstart : Holds .main {} [] := rfl
  have hread : ∃ continuation, readContinuation continuation = .ok command ∧
      Scans .main [] (front ++ back ++ closing) options continuation := by
    rw [List.append_assoc, ← List.nil_append options]
    cases hcommand with
    | none => exact ⟨none, rfl, .intro hshown hfront honce (.closing hcloses)⟩
    | @some command behind shown hbehind hperm =>
      have hread : readCommand (verbOf command) (shown ++ closing) = .ok command :=
        readCommand_of_shown hbehind hperm hcloses
      refine ⟨some (verbOf command, shown ++ closing), ?_,
        .intro hshown hfront honce (.command _ _)⟩
      rw [readContinuation, hread]
      rfl
  obtain ⟨continuation, hbehind, hscans⟩ := hread
  obtain ⟨state, hread, hholds⟩ := (readTokens_eq_ok_iff (by simp) hstart).mpr hscans
  obtain ⟨last, hlast, hget₁, hget₂, hget₃⟩ :=
    fromVariables_eq_ok honce (htakes .config (by decide)) (htakes .logLevel (by decide))
      (htakes .interface (by decide))
  refine parse_eq_ok_iff_exists.mpr ⟨state, continuation, hread, command, hbehind, _, hholds, _,
    hlast, ?_⟩
  rw [buildCli, hget₁, hget₂, hget₃]
  cases config <;> cases logLevel <;> cases interface <;> rfl

/-- A command line is read as a request just if it is legal and says the request. -/
theorem parse_eq_ok_iff_legal :
    parse environment tokens = .ok request ↔ Legal environment request tokens :=
  ⟨legal_of_parse, parse_of_legal⟩

/-- Nothing but a legal command line is accepted, and as nothing but the request that it says. Every
other one is refused. -/
theorem only_legal_command_lines_are_accepted (environment : Environment)
    (tokens : List Octets) :
    (∀ request, parse environment tokens = .ok request ↔ Legal environment request tokens) ∧
      ((∃ notice, parse environment tokens = .error notice) ↔
        ∀ request, ¬ Legal environment request tokens) := by
  refine ⟨fun request => parse_eq_ok_iff_legal, ?_⟩
  cases hparse : parse environment tokens with
  | error notice =>
    refine ⟨fun _ request hlegal => ?_, fun _ => ⟨notice, rfl⟩⟩
    rw [← parse_eq_ok_iff_legal, hparse] at hlegal
    cases hlegal
  | ok request =>
    refine ⟨?_, fun hrefused => absurd (legal_of_parse hparse) (hrefused request)⟩
    rintro ⟨notice, hnotice⟩
    cases hnotice

end XdpSteering.CommandLine
