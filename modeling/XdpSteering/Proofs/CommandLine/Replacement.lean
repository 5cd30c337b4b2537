import XdpSteering.Proofs.CommandLine.Interchange

/-!
# Another value for an option

On a legal command line, a flag with a value stands among the options in front of the command, or
among those of the command. With other octets behind its equals sign the command line says the same
but for this value, if they mean one, and is refused otherwise. So the options that take numbers
take the decimal notations of the numbers in their ranges, whatever else is on the command line.
-/

namespace XdpSteering.CommandLine

open XdpSteering.Text

/-! ## The place of a flag -/

section Place

variable {environment : Environment} {opt : Opt} {token octets : Octets} {given : Option Octets}
  {value new : OptValue} {options : List (Opt × OptValue)} {request : Cli}
  {tokens before after front back closing : List Octets} {command : Option Command}

theorem not_standsAlone (h : Opens opt token given) : ¬ StandsAlone token := by
  intro halone
  obtain ⟨letters, rfl, htoken | ⟨_, _, _, _, htoken, _⟩⟩ := token_of_opens h
  · cases htoken.symm.trans (token_of_standsAlone halone)
  · cases htoken.symm.trans (token_of_standsAlone halone)

/-- Where options are shown, a token that gives a value with its option is not the value of another
option, and so it parts them. -/
theorem Shown.at_attached (hshown : Shown options tokens) (hopens : Opens opt token (some octets))
    (heq : tokens = before ++ token :: after) :
    ∃ first value others, options = first ++ (opt, value) :: others ∧ Shown first before ∧
      Means opt octets value ∧ Shown others after := by
  induction hshown generalizing before with
  | nil => simp at heq
  | @cons other found value shown rest others hmeans hshows hrest ih =>
    cases hshows with
    | attached hother =>
      rw [List.singleton_append, eq_comm, List.append_eq_cons_iff] at heq
      rcases heq with ⟨rfl, heq⟩ | ⟨middle, rfl, rfl⟩
      · obtain ⟨rfl, rfl⟩ := List.cons.inj heq
        obtain ⟨rfl, hgiven⟩ := opens_unique hopens hother
        obtain rfl := Option.some.inj hgiven
        exact ⟨[], value, others, rfl, .nil, hmeans, hrest⟩
      · obtain ⟨first, held, more, rfl, hfirst, hheld, hmore⟩ := ih rfl
        exact ⟨(other, value) :: first, held, more, rfl,
          .cons hmeans (.attached hother) hfirst, hheld, hmore⟩
    | apart hother halone =>
      rw [List.cons_append, List.singleton_append, eq_comm, List.append_eq_cons_iff] at heq
      rcases heq with ⟨rfl, heq⟩ | ⟨middle, rfl, heq⟩
      · obtain ⟨rfl, -⟩ := List.cons.inj heq
        cases (opens_unique hopens hother).2
      · rw [eq_comm, List.append_eq_cons_iff] at heq
        rcases heq with ⟨rfl, heq⟩ | ⟨middle, rfl, rfl⟩
        · obtain ⟨rfl, -⟩ := List.cons.inj heq
          exact absurd halone (not_standsAlone hopens)
        · obtain ⟨first, held, more, rfl, hfirst, hheld, hmore⟩ := ih rfl
          exact ⟨(other, value) :: first, held, more, rfl,
            .cons hmeans (.apart hother halone) hfirst, hheld, hmore⟩

theorem not_mem_closing (hopens : Opens opt token given) (hcloses : Closing closing) :
    token ∉ closing := by
  intro hmem
  rcases hcloses with rfl | rfl
  · cases hmem
  · obtain rfl := List.mem_singleton.mp hmem
    exact token_ne_escape hopens rfl

/-- An item of a list stands in front of its second part, or in it. -/
theorem append_cons_eq_append {α : Type} {item : α} {before after front rest : List α}
    (h : before ++ item :: after = front ++ rest) :
    (∃ middle, front = before ++ item :: middle ∧ after = middle ++ rest) ∨
      ∃ ahead, before = front ++ ahead ∧ rest = ahead ++ item :: after := by
  rcases List.append_eq_append_iff.mp h with ⟨middle, rfl, hrest⟩ | hbehind
  · rcases List.cons_eq_append_iff.mp hrest with ⟨rfl, hrest⟩ | ⟨middle, rfl, rfl⟩
    · exact .inr ⟨[], by simp, by simpa using hrest.symm⟩
    · exact .inl ⟨middle, rfl, rfl⟩
  · exact .inr hbehind

/-- Between these tokens an option in front of the command has this value. -/
inductive PlacedInFront (environment : Environment) (opt : Opt) (value : OptValue) :
    Cli → List Octets → List Octets → Prop where
  | intro {request : Cli} {first others : List (Opt × OptValue)}
      {ahead behind back closing : List Octets}
      (shown_ahead : Shown first ahead) (shown_behind : Shown others behind)
      (once : ((first ++ (opt, value) :: others).map Prod.fst).Nodup)
      (in_front : ∀ other ∈ (first ++ (opt, value) :: others).map Prod.fst,
        other ∈ Scope.main.options)
      (takes : ∀ other ∈ Scope.main.options,
        Takes environment (first ++ (opt, value) :: others) other (valueOf request other))
      (command : ShowsCommand request.command back) (closes : Closing closing) :
      PlacedInFront environment opt value request ahead (behind ++ (back ++ closing))

/-- Between these tokens an option of the command that is requested has this value. -/
inductive PlacedBehind (environment : Environment) (opt : Opt) (value : OptValue) :
    Cli → List Octets → List Octets → Prop where
  | intro {request : Cli} {options first others : List (Opt × OptValue)} {command : Command}
      {front ahead behind closing : List Octets}
      (shown : Shown options front) (once : (options.map Prod.fst).Nodup)
      (in_front : ∀ opt ∈ options.map Prod.fst, opt ∈ Scope.main.options)
      (takes : ∀ opt ∈ Scope.main.options, Takes environment options opt (valueOf request opt))
      (command_eq : request.command = some command)
      (shown_ahead : Shown first ahead) (shown_behind : Shown others behind)
      (once_behind : (first ++ (opt, value) :: others).Perm (optionsOf command))
      (closes : Closing closing) :
      PlacedBehind environment opt value request
        (front ++ Utf8.encode (verbOf command).name :: ahead) (behind ++ closing)

theorem opens_attachedFlag (opt : Opt) (octets : Octets) :
    Opens opt (attachedFlag opt octets) (some octets) :=
  .longAttached octets

/-- On a legal command line, a flag stands in front of the command or behind its name. -/
theorem exists_place_of_legal
    (h : Legal environment request (before ++ attachedFlag opt octets :: after)) :
    ∃ value, Means opt octets value ∧
      (PlacedInFront environment opt value request before after ∨
        PlacedBehind environment opt value request before after) := by
  have hopens := opens_attachedFlag opt octets
  generalize attachedFlag opt octets = flag at h hopens
  generalize htokens : before ++ flag :: after = tokens at h
  obtain @⟨options, front, back, closing, hshown, honce, hfront, htakes, hcommand, hcloses⟩ := h
  rw [List.append_assoc] at htokens
  rcases append_cons_eq_append htokens with ⟨middle, rfl, rfl⟩ | ⟨ahead, rfl, hbehind⟩
  · obtain ⟨first, value, others, rfl, hahead, hmeans, hothers⟩ := hshown.at_attached hopens rfl
    exact ⟨value, hmeans, .inl (.intro hahead hothers honce hfront htakes hcommand hcloses)⟩
  have hhead := noOption_of_command hcommand hcloses
  rcases append_cons_eq_append hbehind.symm with ⟨middle, rfl, rfl⟩ | ⟨further, -, rfl⟩
  · generalize hrequested : request.command = requested at hcommand
    generalize hback : ahead ++ flag :: middle = back at hcommand hhead
    cases hcommand with
    | none => simp at hback
    | @some command options tokens hoptions honceBehind =>
      rcases List.append_eq_cons_iff.mp hback with ⟨rfl, hflag⟩ | ⟨ahead, rfl, htail⟩
      · obtain ⟨rfl, -⟩ := List.cons.inj hflag
        exact absurd hopens (hhead _ rfl opt _)
      · obtain ⟨first, value, others, rfl, hahead, hmeans, hothers⟩ :=
          hoptions.at_attached hopens htail
        exact ⟨value, hmeans, .inr
          (.intro hshown honce hfront htakes hrequested hahead hothers honceBehind hcloses)⟩
  · exact absurd (by simp) (not_mem_closing hopens hcloses)

theorem PlacedInFront.mem_options (h : PlacedInFront environment opt value request before after) :
    opt ∈ Scope.main.options := by
  obtain @⟨first, others, ahead, behind, back, closing, -, -, -, hfront, -, -, -⟩ := h
  exact hfront opt (by simp)

theorem not_mem_main_of_mem_verb {verb : Verb} (h : opt ∈ (Scope.verb verb).options) :
    opt ∉ Scope.main.options := by
  revert h
  cases opt <;> cases verb <;> decide

theorem PlacedBehind.not_mem_options
    (h : PlacedBehind environment opt value request before after) :
    opt ∉ Scope.main.options := by
  obtain @⟨options, first, others, command, front, ahead, behind, closing, -, -, -, -, -, -, -,
    hperm, -⟩ := h
  have hmem : opt ∈ (optionsOf command).map Prod.fst :=
    List.mem_map_of_mem (hperm.mem_iff.mp (by simp : (opt, value) ∈ _))
  rw [keys_optionsOf command] at hmem
  exact not_mem_main_of_mem_verb hmem

/-! ## Other octets for a flag -/

/-- With octets that mean another value, a command line says the request with this value. -/
theorem PlacedInFront.legal {other : Cli}
    (h : PlacedInFront environment opt value request before after) (hmeans : Means opt octets new)
    (hvalue : valueOf other opt = some new)
    (hrest : ∀ second ≠ opt, valueOf other second = valueOf request second)
    (hcommand : other.command = request.command) :
    Legal environment other (before ++ attachedFlag opt octets :: after) := by
  obtain @⟨first, others, _, behind, back, closing, hahead, hbehind, honce, hfront, htakes, hback,
    hcloses⟩ := h
  have hkeys : (first ++ (opt, new) :: others).map Prod.fst
      = (first ++ (opt, value) :: others).map Prod.fst := by simp
  have hflag : Shown ((opt, new) :: others) ([attachedFlag opt octets] ++ behind) :=
    .cons hmeans (.attached (opens_attachedFlag opt octets)) hbehind
  have htakes : ∀ second ∈ Scope.main.options,
      Takes environment (first ++ (opt, new) :: others) second (valueOf other second) := by
    intro second hsecond
    by_cases hsame : second = opt
    · subst hsame
      rw [hvalue]
      exact .written (by simp)
    · rw [hrest second hsame]
      exact (htakes second hsecond).congr (by simp [hsame]) fun _ _ => rfl
  have hlegal := Legal.intro (hahead.append hflag) (hkeys ▸ honce) (hkeys ▸ hfront) htakes
    (hcommand ▸ hback) hcloses
  simpa using hlegal

theorem PlacedBehind.legal (h : PlacedBehind environment opt value request before after)
    (hmeans : Means opt octets value) :
    Legal environment request (before ++ attachedFlag opt octets :: after) := by
  obtain @⟨options, first, others, command, front, ahead, behind, closing, hshown, honce,
    hfront, htakes, hcommand, hahead, hbehind, hperm, hcloses⟩ := h
  have hflag : Shown ((opt, value) :: others) ([attachedFlag opt octets] ++ behind) :=
    .cons hmeans (.attached (opens_attachedFlag opt octets)) hbehind
  have hshows : ShowsCommand request.command
      (Utf8.encode (verbOf command).name :: (ahead ++ ([attachedFlag opt octets] ++ behind))) := by
    rw [hcommand]
    exact .some (hahead.append hflag) hperm
  have hlegal := Legal.intro hshown honce hfront htakes hshows hcloses
  simpa using hlegal

/-- Octets that are no value of an option are refused where they are read. -/
theorem readTokens_refused {scope : Scope} {first : List (Opt × OptValue)} {ahead : List Octets}
    {text reason : String} (hahead : Shown first ahead) (hopt : opt ∈ scope.options)
    (hscope : ∀ other ∈ first.map Prod.fst, other ∈ scope.options)
    (honce : (first.map Prod.fst).Nodup) (hnew : opt ∉ first.map Prod.fst)
    (hread : opt.read octets = .error (.refused text reason)) (rest : List Octets) :
    readTokens scope false {} (ahead ++ attachedFlag opt octets :: rest)
      = .error (.refusedValue opt text reason) := by
  have hstart : Holds scope {} [] := rfl
  obtain ⟨state, hstate, hahead⟩ := readTokens_shown hahead hstart hscope honce
    (attachedFlag opt octets :: rest)
  have hhas : ¬ State.has { settled := first } opt := fun hhas => hnew (has_iff_mem.mp hhas)
  have hbegin : state.begin scope opt (some octets) = .error (.refusedValue opt text reason) := by
    rw [State.begin, hstate]
    show State.accept scope { settled := first } opt octets = _
    rw [State.accept, if_neg hhas, State.readValue, hread]
    rfl
  rw [hahead, readTokens_opens hopt hstate.awaits_eq_none (opens_attachedFlag opt octets), hbegin]
  rfl

theorem readCommand_refused {first others : List (Opt × OptValue)} {command : Command}
    {ahead : List Octets} {text reason : String} (hahead : Shown first ahead)
    (hperm : (first ++ (opt, value) :: others).Perm (optionsOf command))
    (hread : opt.read octets = .error (.refused text reason)) (rest : List Octets) :
    readCommand (verbOf command) (ahead ++ attachedFlag opt octets :: rest)
      = .error (.refusedValue opt text reason) := by
  have hkeys : ((first ++ (opt, value) :: others).map Prod.fst).Perm
      (Scope.verb (verbOf command)).options := keys_optionsOf command ▸ hperm.map Prod.fst
  have hnodup := nodup_of_perm hperm
  rw [List.map_append, List.map_cons] at hkeys hnodup
  have hnew : opt ∉ first.map Prod.fst := fun hmem =>
    (List.nodup_append.mp hnodup).2.2 opt hmem opt List.mem_cons_self rfl
  rw [readCommand, readTokens_refused hahead (hkeys.mem_iff.mp (by simp))
    (fun other hother => hkeys.mem_iff.mp (List.mem_append_left _ hother))
    (List.nodup_append.mp hnodup).1 hnew hread rest]
  rfl

/-- The options in front are read well, so what is wrong is the value behind the command. -/
theorem PlacedBehind.refused {text reason : String}
    (h : PlacedBehind environment opt value request before after)
    (hread : opt.read octets = .error (.refused text reason)) :
    parse environment (before ++ attachedFlag opt octets :: after)
      = .error (.refusedValue opt text reason) := by
  obtain @⟨options, first, others, command, front, ahead, behind, closing, hshown, honce,
    hfront, -, -, hahead, -, hperm, -⟩ := h
  have hstart : Holds .main {} [] := rfl
  obtain ⟨state, hstate, hmain⟩ := readTokens_shown hshown hstart hfront honce
    (Utf8.encode (verbOf command).name :: (ahead ++ attachedFlag opt octets :: (behind ++ closing)))
  rw [readTokens_command hstate.awaits_eq_none] at hmain
  rw [List.append_assoc, List.cons_append]
  refine Fallible.bind_eq_error_iff.mpr (.inr ⟨_, hmain, ?_⟩)
  refine Fallible.bind_eq_error_iff.mpr (.inl ?_)
  rw [readCommand_refused hahead hperm hread]
  rfl

end Place

/-! ## Numbers -/

inductive Bounds : Opt → Int → Int → Prop where
  | queue : Bounds .queue 0 4294967295
  | pid : Bounds .pid (-2147483648) 2147483647
  | descriptor : Bounds .descriptor (-2147483648) 2147483647

/-- The second command is the first one with this number for an option. -/
inductive Renumbers : Opt → Int → Command → Command → Prop where
  | queue (held queue : QueueIndex) (pid descriptor : Int32) :
      Renumbers .queue queue.toNat (.register held pid descriptor) (.register queue pid descriptor)
  | pid (queue : QueueIndex) (held pid descriptor : Int32) :
      Renumbers .pid pid.toInt (.register queue held descriptor) (.register queue pid descriptor)
  | descriptor (queue : QueueIndex) (pid held descriptor : Int32) :
      Renumbers .descriptor descriptor.toInt (.register queue pid held)
        (.register queue pid descriptor)
  | unregister (held queue : QueueIndex) :
      Renumbers .queue queue.toNat (.unregister held) (.unregister queue)

section Numbers

variable {environment : Environment} {opt : Opt} {octets : Octets} {low high number : Int}
  {text : String} {value : OptValue} {request : Cli} {before after : List Octets}
  {command other : Command}

theorem Bounds.not_mem_options (h : Bounds opt low high) : opt ∉ Scope.main.options := by
  cases h <;> decide

theorem Bounds.read_encode (h : Bounds opt low high) (text : String) :
    opt.read (Utf8.encode text) = (readNumber ⟨low, high⟩ text).map .number := by
  have hread (range : Range) :
      (do return OptValue.number (← readNumber range (← readText (Utf8.encode text))))
        = (readNumber range text).map OptValue.number := by
    rw [readText_encode]
    show (readNumber range text >>= fun number => pure (OptValue.number number)) = _
    cases readNumber range text <;> rfl
  cases h with
  | queue => exact hread queueRange
  | pid | descriptor => exact hread numberRange

theorem Bounds.readNumber_eq_ok_iff (h : Bounds opt low high) :
    readNumber ⟨low, high⟩ text = .ok number ↔
      Numeral.IsDecimal text.toList number ∧ low ≤ number ∧ number ≤ high := by
  have hmin : Numeral.signedMin64 = 9223372036854775808 := rfl
  have hmax : Numeral.signedMax64 = 9223372036854775807 := rfl
  have hbounds : -(Numeral.signedMin64 : Int) ≤ low ∧ high ≤ Numeral.signedMax64 := by
    cases h <;> omega
  constructor
  · exact isDecimal_of_readNumber
  · rintro ⟨hdecimal, hlow, hhigh⟩
    exact readNumber_eq_ok hdecimal hlow hhigh (by omega) (by omega)

/-- What is no number of the range is refused with the whole text. -/
theorem exists_refusal {range : Range} {bad : BadValue} (h : readNumber range text = .error bad) :
    ∃ reason, bad = .refused text reason := by
  unfold readNumber at h
  split at h
  · exact ⟨_, (Except.error.inj h).symm⟩
  · split at h
    · cases h
    · exact ⟨_, (Except.error.inj h).symm⟩

theorem Renumbers.exists_split (h : Renumbers opt number command other) :
    verbOf command = verbOf other ∧ ∃ ahead held behind,
      optionsOf command = ahead ++ (opt, held) :: behind ∧
        optionsOf other = ahead ++ (opt, .number number) :: behind := by
  cases h with
  | queue => exact ⟨rfl, [], _, _, rfl, rfl⟩
  | pid => exact ⟨rfl, [_], _, _, rfl, rfl⟩
  | descriptor => exact ⟨rfl, [_, _], _, _, rfl, rfl⟩
  | unregister => exact ⟨rfl, [], _, _, rfl, rfl⟩

theorem exists_renumbers (hmeans : Means opt octets (.number number))
    (hopt : opt ∈ (optionsOf command).map Prod.fst) :
    ∃ other, Renumbers opt number command other := by
  cases command with
  | register queue pid descriptor =>
    cases hmeans with
    | queue number _ => exact ⟨_, .queue queue number pid descriptor⟩
    | pid number _ => exact ⟨_, .pid queue pid number descriptor⟩
    | descriptor number _ => exact ⟨_, .descriptor queue pid descriptor number⟩
  | unregister queue =>
    obtain rfl := List.mem_singleton.mp hopt
    cases hmeans with
    | queue number _ => exact ⟨_, .unregister queue number⟩
  | _ => cases hopt

theorem PlacedBehind.renumber (h : PlacedBehind environment opt value request before after)
    (hmeans : Means opt octets (.number number)) :
    ∃ command other, request.command = some command ∧ Renumbers opt number command other ∧
      PlacedBehind environment opt (.number number) { request with command := some other } before
        after := by
  obtain @⟨options, first, others, command, front, ahead, behind, closing, hshown, honce, hfront,
    htakes, hcommand, hahead, hbehind, hperm, hcloses⟩ := h
  have hmem : (opt, value) ∈ optionsOf command := hperm.mem_iff.mp (by simp)
  obtain ⟨other, hother⟩ := exists_renumbers hmeans (List.mem_map_of_mem hmem)
  obtain ⟨hverb, prior, held, later, hoptions, hrenumbered⟩ := hother.exists_split
  have hnodup : ((optionsOf command).map Prod.fst).Nodup := nodup_of_perm .rfl
  have hheld : (opt, held) ∈ optionsOf command := by simp [hoptions]
  have hsame : held = value :=
    Option.some.inj ((get?_of_mem hnodup hheld).symm.trans (get?_of_mem hnodup hmem))
  rw [hoptions, hsame] at hperm
  have hrest : (first ++ others).Perm (prior ++ later) :=
    (List.perm_middle.symm.trans (hperm.trans List.perm_middle)).cons_inv
  have hperm : (first ++ (opt, .number number) :: others).Perm (optionsOf other) := by
    rw [hrenumbered]
    exact List.perm_middle.trans ((hrest.cons _).trans List.perm_middle.symm)
  refine ⟨command, other, hcommand, hother, ?_⟩
  rw [hverb]
  refine .intro hshown honce hfront (fun opt hopt => ?_) rfl hahead hbehind hperm hcloses
  have hvalue : valueOf { request with command := some other } opt = valueOf request opt := by
    cases opt <;> rfl
  rw [hvalue]
  exact htakes opt hopt

/-- On a command line that is fine with some value of an option that takes numbers, this option
takes the decimal notations of the numbers in its range, with any zeros in front, and the number
itself becomes the value. Every other text is refused. -/
theorem numbers_are_taken_within_bounds (hbounds : Bounds opt low high)
    (hvalid : parse environment (before ++ attachedFlag opt octets :: after) = .ok request)
    (text : String) :
    (∀ number, Numeral.IsDecimal text.toList number → low ≤ number → number ≤ high →
      ∃ command other, request.command = some command ∧ Renumbers opt number command other ∧
        parse environment (before ++ attachedFlag opt (Utf8.encode text) :: after)
          = .ok { request with command := some other }) ∧
      ((∀ number, Numeral.IsDecimal text.toList number → ¬ (low ≤ number ∧ number ≤ high)) →
        ∃ reason, parse environment (before ++ attachedFlag opt (Utf8.encode text) :: after)
          = .error (.refusedValue opt text reason)) := by
  obtain ⟨value, -, hfront | hplaced⟩ := exists_place_of_legal (legal_of_parse hvalid)
  · exact absurd hfront.mem_options hbounds.not_mem_options
  constructor
  · intro number hdecimal hlow hhigh
    have hread := hbounds.readNumber_eq_ok_iff.mpr ⟨hdecimal, hlow, hhigh⟩
    have hmeans : Means opt (Utf8.encode text) (.number number) := by
      apply means_of_read
      rw [hbounds.read_encode, hread]
      rfl
    obtain ⟨command, other, hcommand, hother, hplaced⟩ := hplaced.renumber hmeans
    exact ⟨command, other, hcommand, hother, parse_of_legal (hplaced.legal hmeans)⟩
  · intro hnone
    cases hread : readNumber ⟨low, high⟩ text with
    | ok number =>
      obtain ⟨hdecimal, hrange⟩ := hbounds.readNumber_eq_ok_iff.mp hread
      exact absurd hrange (hnone number hdecimal)
    | error bad =>
      obtain ⟨reason, rfl⟩ := exists_refusal hread
      refine ⟨reason, hplaced.refused ?_⟩
      rw [hbounds.read_encode, hread]
      rfl

/-- The number of the last queue, with a sign and zeros in front, and the number behind it. -/
theorem last_queue_is_taken :
    let tokens (text : String) : List Octets :=
      [Utf8.encode "register", Utf8.encode "--pid=42"]
        ++ attachedFlag .queue (Utf8.encode text) :: [Utf8.encode "--fd=7"]
    (∃ command other, some (Command.register 0 42 7) = some command ∧
      Renumbers .queue 4294967295 command other ∧
        parse [] (tokens "+004294967295") = .ok { command := some other }) ∧
      ∃ reason, parse [] (tokens "4294967296")
        = .error (.refusedValue .queue "4294967296" reason) := by
  intro tokens
  have hvalid : parse [] (tokens "0") = .ok { command := some (.register 0 42 7) } := by
    decide +kernel
  have hlast : Numeral.IsDecimal "+004294967295".toList 4294967295 := by
    have hplus : Numeral.IsDecimal ('+' :: "004294967295".toList)
        (Nat.ofDigitChars 10 "004294967295".toList 0) := .plus (by decide) (by simp)
    have hvalue : Nat.ofDigitChars 10 "004294967295".toList 0 = 4294967295 := rfl
    rw [hvalue] at hplus
    exact hplus
  have hnext : Numeral.IsDecimal "4294967296".toList 4294967296 :=
    Numeral.isDecimal_toString 4294967296
  constructor
  · exact (numbers_are_taken_within_bounds .queue hvalid "+004294967295").1 4294967295 hlast
      (by decide) (by decide)
  · refine (numbers_are_taken_within_bounds .queue hvalid "4294967296").2 ?_
    intro number hdecimal
    rw [hdecimal.unique hnext]
    decide

end Numbers

end XdpSteering.CommandLine
