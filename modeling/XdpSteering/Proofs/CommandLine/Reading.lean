import XdpSteering.Proofs.CommandLine.Legality
import XdpSteering.Proofs.KeyedList

/-!
# Reading what was written

The reader keeps an option open until the next one begins, so what it has read of a scope is what it
would have if it settled the open option at once. Each option that is written adds itself to that,
in whatever spelling, and a command line that writes a request is therefore read as this request.
-/

namespace XdpSteering.CommandLine

open XdpSteering.Text

/-! ## Names -/

theorem long_inj {a b : Opt} (h : Utf8.encode a.long = Utf8.encode b.long) : a = b := by
  revert h
  cases a <;> cases b <;> decide

theorem short_inj {a b : Opt} {letter : Char} (ha : a.short? = some letter)
    (hb : b.short? = some letter) : a = b := by
  have heq : a.short? = b.short? := ha.trans hb.symm
  have hsome : a.short?.isSome := by rw [ha]; rfl
  revert heq hsome
  cases a <;> cases b <;> decide

theorem find?_eq_some_of_unique {options : List Opt} {opt : Opt} {p : Opt → Bool}
    (hopt : opt ∈ options) (hp : p opt) (hunique : ∀ other, p other → other = opt) :
    options.find? p = some opt := by
  cases hfind : options.find? p with
  | none => exact absurd hp (List.find?_eq_none.mp hfind opt hopt)
  | some found => rw [hunique found (List.find?_some hfind)]

theorem ofName?_name (verb : Verb) : Verb.ofName? (Utf8.encode verb.name) = some verb := by
  cases verb <;> decide

theorem ofName?_dash (rest : Octets) : Verb.ofName? (dash :: rest) = none := by
  have hhead : ∀ verb : Verb, (Utf8.encode verb.name).head? ≠ some dash := by
    intro verb
    cases verb <;> decide
  rw [Verb.ofName?, List.find?_eq_none]
  intro verb _ hname
  apply hhead verb
  rw [of_decide_eq_true hname, List.head?_cons]

theorem dash_ne_helpName (rest : Octets) : dash :: rest ≠ Utf8.encode helpName := by
  have hhead : (Utf8.encode helpName).head? ≠ some dash := by decide
  intro heq
  apply hhead
  rw [← heq, List.head?_cons]

/-! ## Tokens -/

section Tokens

variable {name rest octets : Octets} {opt : Opt} {letter : Char}

/-- The name ends at the first equals sign. -/
theorem takeWhile_name (hname : equals ∉ name) (rest : Octets) :
    (name ++ rest).takeWhile (· ≠ equals) = name ++ rest.takeWhile (· ≠ equals) := by
  apply List.takeWhile_append_of_pos
  intro octet hoctet
  have hne : octet ≠ equals := fun heq => hname (heq ▸ hoctet)
  simpa using hne

theorem token_of_long (hne : name ≠ []) (hname : equals ∉ name) :
    Token.of (dash :: dash :: name) = .long name none := by
  have htake := takeWhile_name hname []
  rw [List.append_nil, List.takeWhile_nil, List.append_nil] at htake
  simp only [Token.of, htake]
  simp [hne, hname]

theorem token_of_longAttached (hname : equals ∉ name) :
    Token.of (dash :: dash :: (name ++ equals :: octets)) = .long name (some octets) := by
  have htake := takeWhile_name hname (equals :: octets)
  rw [List.takeWhile_cons_of_neg (by simp), List.append_nil] at htake
  simp only [Token.of, htake]
  simp

theorem token_of_short (h : opt.short? = some letter) (octets : Octets) :
    Token.of (dash :: (String.utf8EncodeChar letter ++ octets))
      = .short (String.utf8EncodeChar letter ++ octets) := by
  have hletter : ∃ octet, String.utf8EncodeChar letter = [octet] ∧ octet ≠ dash := by
    cases opt <;> simp only [Opt.short?, reduceCtorEq, Option.some.injEq] at h <;> subst h <;>
      exact ⟨_, rfl, by decide⟩
  obtain ⟨octet, hencode, hne⟩ := hletter
  rw [hencode]
  simp [Token.of, hne]

theorem token_of_standsAlone (h : StandsAlone octets) : Token.of octets = .word := by
  cases octets with
  | nil => rfl
  | cons first rest =>
    by_cases hfirst : first = dash
    · have hdash : first :: rest = [dash] := h (by rw [hfirst, List.head?_cons])
      rw [hdash]
      rfl
    · simp [Token.of, hfirst]

theorem firstChar_append (letter : Char) (rest : Octets) :
    firstChar (String.utf8EncodeChar letter ++ rest) = some (letter, rest) := by
  rw [firstChar, Utf8.scan_utf8EncodeChar_append]
  simp [← String.length_utf8EncodeChar]

theorem attached_eq_some (hne : octets ≠ []) (hequals : octets.head? ≠ some equals) :
    attached octets = some octets := by
  cases octets with
  | nil => exact absurd rfl hne
  | cons first rest =>
    have hfirst : first ≠ equals := by simpa using hequals
    simp [attached, hfirst]

/-- What a token that begins an option looks like. -/
theorem token_of_opens {token : Octets} {given : Option Octets} (h : Opens opt token given) :
    ∃ letters, token = dash :: letters ∧
      (Token.of (dash :: letters) = .long (Utf8.encode opt.long) given ∨
        ∃ letter rest, opt.short? = some letter ∧ letters = String.utf8EncodeChar letter ++ rest ∧
          Token.of (dash :: letters) = .short letters ∧ given = attached rest) := by
  have hname : equals ∉ Utf8.encode opt.long := by cases opt <;> decide
  have hlong : Utf8.encode opt.long ≠ [] := by cases opt <;> decide
  cases h with
  | long => exact ⟨_, rfl, .inl (token_of_long hlong hname)⟩
  | longAttached octets => exact ⟨_, rfl, .inl (token_of_longAttached hname)⟩
  | short hletter =>
    have htoken := token_of_short hletter []
    rw [List.append_nil] at htoken
    exact ⟨_, rfl, .inr ⟨_, [], hletter, (List.append_nil _).symm, htoken, rfl⟩⟩
  | shortAttached hletter hvalue hequals =>
    exact ⟨_, rfl, .inr ⟨_, _, hletter, rfl, token_of_short hletter _,
      (attached_eq_some hvalue hequals).symm⟩⟩
  | shortEquals hletter octets =>
    exact ⟨_, rfl, .inr ⟨_, _, hletter, rfl, token_of_short hletter _, by simp [attached]⟩⟩

end Tokens

section Options

variable {scope : Scope} {state : State} {options : List (Opt × OptValue)} {opt : Opt}
  {octets name letters token : Octets} {value : OptValue} {given : Option Octets} {letter : Char}
  {tokens rest : List Octets}

/-! ## What was settled -/

theorem get?_eq_find? (state : State) (opt : Opt) :
    state.get? opt = KeyedList.find? opt state.settled :=
  (KeyedList.find?_eq_map_find? opt state.settled).symm

theorem has_eq_isSome (state : State) (opt : Opt) : state.has opt = (state.get? opt).isSome := by
  rw [State.has, State.get?, Option.isSome_map, Bool.eq_iff_iff, List.any_eq_true,
    List.find?_isSome]

theorem get?_of_mem (honce : (options.map Prod.fst).Nodup) (h : (opt, value) ∈ options) :
    State.get? { settled := options } opt = some value := by
  rw [get?_eq_find?]
  exact (KeyedList.find?_eq_some_iff_mem_of_nodup honce).mpr h

theorem get?_eq_none_iff :
    State.get? { settled := options } opt = none ↔ opt ∉ options.map Prod.fst := by
  rw [get?_eq_find?, KeyedList.find?_eq_none_iff]
  constructor
  · intro hall hmem
    obtain ⟨entry, hentry, heq⟩ := List.mem_map.mp hmem
    exact hall entry hentry heq
  · intro habsent entry hentry heq
    exact habsent (heq ▸ List.mem_map_of_mem hentry)

theorem has_iff_mem :
    State.has { settled := options } opt = true ↔ opt ∈ options.map Prod.fst := by
  rw [has_eq_isSome, ← Option.ne_none_iff_isSome, ne_eq, get?_eq_none_iff, not_not]

/-! ## One option -/

/-- With the open option settled, the scope has these options. -/
def Holds (scope : Scope) (state : State) (options : List (Opt × OptValue)) : Prop :=
  state.settle scope = .ok { settled := options }

theorem Holds.awaits_eq_none (h : Holds scope state options) : state.awaits = none := by
  cases hopen : state.open? with
  | none => simp [State.awaits, hopen]
  | some entry =>
    obtain ⟨opt, given⟩ := entry
    cases given with
    | none => simp [Holds, State.settle, hopen] at h
    | some octets => simp [State.awaits, hopen]

theorem holds_settled : Holds scope { settled := options } options := rfl

theorem accept_eq_ok (hnew : opt ∉ options.map Prod.fst) (hmeans : Means opt octets value) :
    State.accept scope { settled := options } opt octets
      = .ok { settled := options ++ [(opt, value)] } := by
  have hhas : State.has { settled := options } opt = false := by
    rw [has_eq_isSome, get?_eq_none_iff.mpr hnew, Option.isSome_none]
  have hvalue : State.readValue scope opt octets = .ok value := by
    rw [State.readValue, read_eq_ok_of_means hmeans]
    rfl
  rw [State.accept, hhas, if_neg Bool.false_ne_true, hvalue]
  rfl

theorem holds_of_open (hnew : opt ∉ options.map Prod.fst) (hmeans : Means opt octets value) :
    Holds scope { settled := options, open? := some (opt, some octets) }
      (options ++ [(opt, value)]) :=
  accept_eq_ok hnew hmeans

theorem begin_attached (h : Holds scope state options) (hnew : opt ∉ options.map Prod.fst)
    (hmeans : Means opt octets value) :
    state.begin scope opt (some octets) = .ok { settled := options ++ [(opt, value)] } := by
  rw [State.begin, h]
  exact accept_eq_ok hnew hmeans

theorem begin_open (h : Holds scope state options) (opt : Opt) :
    state.begin scope opt none = .ok { settled := options, open? := some (opt, none) } := by
  rw [State.begin, h]
  rfl

theorem takeLong_eq_begin (hopt : opt ∈ scope.options) (given : Option Octets) :
    takeLong scope state (Utf8.encode opt.long) given = state.begin scope opt given := by
  unfold takeLong
  rw [find?_eq_some_of_unique hopt (by simp) fun other h => long_inj (by simpa using h)]

theorem takeShort_eq_begin (hopt : opt ∈ scope.options) (hletter : opt.short? = some letter)
    (octets : Octets) :
    takeShort scope state (String.utf8EncodeChar letter ++ octets)
      = state.begin scope opt (attached octets) := by
  unfold takeShort
  rw [firstChar_append]
  dsimp only
  rw [find?_eq_some_of_unique hopt (by simpa using hletter) fun other h =>
    short_inj (by simpa using h) hletter]

/-! ### Tokens in front of others -/

theorem readTokens_long (hawaits : state.awaits = none)
    (htoken : Token.of (dash :: letters) = .long name given) :
    readTokens scope false state ((dash :: letters) :: rest)
      = takeLong scope state name given >>= fun next => readTokens scope false next rest := by
  rw [readTokens.eq_def]
  simp [hawaits, ofName?_dash, dash_ne_helpName, htoken]

theorem readTokens_short (hawaits : state.awaits = none)
    (htoken : Token.of (dash :: letters) = .short letters) :
    readTokens scope false state ((dash :: letters) :: rest)
      = takeShort scope state letters >>= fun next => readTokens scope false next rest := by
  rw [readTokens.eq_def]
  simp [hawaits, ofName?_dash, dash_ne_helpName, htoken]

/-- What stands behind a waiting option is its value, even if it is the name of a command. -/
theorem readTokens_value (hawaits : state.awaits = some opt) (htoken : Token.of token = .word) :
    readTokens scope false state (token :: rest)
      = readTokens scope false { state with open? := some (opt, some token) } rest := by
  rw [readTokens.eq_def]
  simp [hawaits, htoken]

theorem readTokens_command (hawaits : state.awaits = none) (verb : Verb) :
    readTokens .main false state (Utf8.encode verb.name :: rest)
      = .ok (state, some (verb, rest)) := by
  rw [readTokens.eq_def]
  simp [hawaits, ofName?_name]

theorem readTokens_opens (hopt : opt ∈ scope.options) (hawaits : state.awaits = none)
    (hopens : Opens opt token given) (rest : List Octets) :
    readTokens scope false state (token :: rest)
      = state.begin scope opt given >>= fun next => readTokens scope false next rest := by
  obtain ⟨letters, rfl, htoken | ⟨letter, behind, hletter, rfl, htoken, rfl⟩⟩ :=
    token_of_opens hopens
  · rw [readTokens_long hawaits htoken, takeLong_eq_begin hopt]
  · rw [readTokens_short hawaits htoken, takeShort_eq_begin hopt hletter]

/-- The step lemma: an option that is shown comes to those that were read before. -/
theorem readTokens_shows {value : OptValue} (h : Holds scope state options)
    (hopt : opt ∈ scope.options) (hnew : opt ∉ options.map Prod.fst)
    (hmeans : Means opt octets value) (hshows : Shows opt octets tokens) (rest : List Octets) :
    ∃ next, Holds scope next (options ++ [(opt, value)]) ∧
      readTokens scope false state (tokens ++ rest) = readTokens scope false next rest := by
  cases hshows with
  | attached hopens =>
    refine ⟨_, holds_settled, ?_⟩
    rw [List.singleton_append, readTokens_opens hopt h.awaits_eq_none hopens,
      begin_attached h hnew hmeans]
    rfl
  | apart hopens halone =>
    refine ⟨_, holds_of_open hnew hmeans, ?_⟩
    have hwaits : State.awaits { settled := options, open? := some (opt, none) } = some opt := rfl
    rw [List.cons_append, readTokens_opens hopt h.awaits_eq_none hopens, begin_open h]
    exact readTokens_value hwaits (token_of_standsAlone halone)

theorem readTokens_shown (hshown : Shown more tokens) (h : Holds scope state options)
    (hscope : ∀ opt ∈ more.map Prod.fst, opt ∈ scope.options)
    (honce : ((options ++ more).map Prod.fst).Nodup) (rest : List Octets) :
    ∃ next, Holds scope next (options ++ more) ∧
      readTokens scope false state (tokens ++ rest) = readTokens scope false next rest := by
  induction hshown generalizing state options with
  | nil => exact ⟨state, by simpa using h, rfl⟩
  | @cons opt octets value tokens after more hmeans hshows _ ih =>
    rw [List.map_cons, List.forall_mem_cons] at hscope
    have hsplit : options ++ (opt, value) :: more = (options ++ [(opt, value)]) ++ more := by simp
    have hnew : opt ∉ options.map Prod.fst := by
      rw [List.map_append, List.map_cons] at honce
      intro hmem
      exact (List.nodup_append.mp honce).2.2 opt hmem opt List.mem_cons_self rfl
    obtain ⟨middle, hmiddle, hstep⟩ :=
      readTokens_shows h hscope.1 hnew hmeans hshows (after ++ rest)
    obtain ⟨next, hnext, hrest⟩ := ih hmiddle hscope.2 (hsplit ▸ honce)
    refine ⟨next, hsplit ▸ hnext, ?_⟩
    rw [List.append_assoc, hstep, hrest]

/-- The options of a scope that are written are those that are read. -/
theorem readTokens_start (hwritten : Written options tokens)
    (hscope : ∀ opt ∈ options.map Prod.fst, opt ∈ scope.options)
    (honce : (options.map Prod.fst).Nodup) (rest : List Octets) :
    ∃ next, Holds scope next options ∧
      readTokens scope false {} (tokens ++ rest) = readTokens scope false next rest := by
  have hstart : Holds scope {} [] := rfl
  exact readTokens_shown hwritten.shown hstart hscope honce rest

theorem readTokens_closing (hawaits : state.awaits = none) (hcloses : Closing tokens) :
    readTokens scope false state tokens = .ok (state, none) := by
  rcases hcloses with rfl | rfl
  · rfl
  · rw [readTokens.eq_def]
    simp [hawaits, ofName?_dash, dash_ne_helpName, Token.of, readTokens]

end Options

/-! ## Commands -/

theorem keys_optionsOf (command : Command) :
    (optionsOf command).map Prod.fst = (Scope.verb (verbOf command)).options := by
  cases command <;> rfl

theorem nodup_options (scope : Scope) : scope.options.Nodup := by
  cases scope with
  | main => decide
  | verb verb => cases verb <;> decide

theorem buildCommand_eq {command : Command} {state : State}
    (h : ∀ opt value, (opt, value) ∈ optionsOf command → state.get? opt = some value) :
    buildCommand (verbOf command) state = command := by
  cases command with
  | register queue pid descriptor =>
    have hqueue := h .queue (.number queue.toNat) (by simp [optionsOf])
    have hpid := h .pid (.number pid.toInt) (by simp [optionsOf])
    have hdescriptor := h .descriptor (.number descriptor.toInt) (by simp [optionsOf])
    simp [verbOf, buildCommand, State.number, hqueue, hpid, hdescriptor]
  | unregister queue =>
    have hqueue := h .queue (.number queue.toNat) (by simp [optionsOf])
    simp [verbOf, buildCommand, State.number, hqueue]
  | _ => rfl

section Commands

variable {command : Command} {options : List (Opt × OptValue)} {tokens closing : List Octets}

theorem nodup_of_perm (honce : options.Perm (optionsOf command)) :
    (options.map Prod.fst).Nodup := by
  have hkeys : (options.map Prod.fst).Perm (Scope.verb (verbOf command)).options :=
    keys_optionsOf command ▸ honce.map Prod.fst
  rw [hkeys.nodup_iff]
  exact nodup_options _

theorem buildCommand_of_perm (honce : options.Perm (optionsOf command)) :
    buildCommand (verbOf command) { settled := options } = command :=
  buildCommand_eq fun _ _ hmem => get?_of_mem (nodup_of_perm honce) (honce.mem_iff.mpr hmem)

theorem readCommand_of_shown (hshown : Shown options tokens)
    (honce : options.Perm (optionsOf command)) (hcloses : Closing closing) :
    readCommand (verbOf command) (tokens ++ closing) = .ok command := by
  have hkeys : (options.map Prod.fst).Perm (Scope.verb (verbOf command)).options :=
    keys_optionsOf command ▸ honce.map Prod.fst
  have hstart : Holds (.verb (verbOf command)) {} [] := rfl
  obtain ⟨state, hholds, hread⟩ := readTokens_shown hshown hstart
    (fun opt hopt => hkeys.mem_iff.mp hopt) (nodup_of_perm honce) closing
  have hmissing : ((Scope.verb (verbOf command)).options.filter fun opt =>
      !State.has { settled := options } opt) = [] := by
    rw [List.filter_eq_nil_iff]
    intro opt hopt
    simp [has_iff_mem.mpr (hkeys.mem_iff.mpr hopt)]
  refine Fallible.bind_eq_ok_iff.mpr
    ⟨(state, none), hread.trans (readTokens_closing hholds.awaits_eq_none hcloses), ?_⟩
  refine Fallible.bind_eq_ok_iff.mpr ⟨{ settled := options }, hholds, ?_⟩
  rw [hmissing]
  exact congrArg Except.ok (buildCommand_of_perm honce)

theorem readCommand_eq_ok (hwritten : Written options tokens)
    (honce : options.Perm (optionsOf command)) :
    readCommand (verbOf command) tokens = .ok command := by
  have hread := readCommand_of_shown hwritten.shown honce (.inl rfl)
  rwa [List.append_nil] at hread

end Commands

/-! ## Requests -/

variable {environment : Environment} {options settled : List (Opt × OptValue)} {opt : Opt}
  {choice : Option OptValue}

theorem get?_concat (value : OptValue) (other : Opt) :
    State.get? { settled := settled ++ [(opt, value)] } other
      = (State.get? { settled } other).or (if opt = other then some value else none) := by
  rw [State.get?, State.get?, List.find?_append, Option.map_or]
  by_cases heq : opt = other
  · simp [heq]
  · simp [heq]

/-- A variable counts only where nothing is written, and then for its option alone. -/
theorem fromVariable_eq_ok (htakes : Takes environment options opt choice)
    (honce : (options.map Prod.fst).Nodup)
    (hsame : State.get? { settled } opt = State.get? { settled := options } opt) :
    ∃ next, fromVariable environment { settled } opt = .ok { settled := next } ∧
      State.get? { settled := next } opt = choice ∧
        ∀ other ≠ opt, State.get? { settled := next } other = State.get? { settled } other := by
  cases htakes with
  | @written value hmem =>
    have hget : State.get? { settled } opt = some value := hsame.trans (get?_of_mem honce hmem)
    have hhas : State.has { settled } opt = true := by rw [has_eq_isSome, hget, Option.isSome_some]
    refine ⟨settled, ?_, hget, fun _ _ => rfl⟩
    rw [fromVariable, if_pos hhas]
  | @inherited name octets value habsent hname hset hmeans =>
    have hget : State.get? { settled } opt = none := hsame.trans (get?_eq_none_iff.mpr habsent)
    have hhas : State.has { settled } opt = false := by rw [has_eq_isSome, hget, Option.isSome_none]
    refine ⟨settled ++ [(opt, value)], ?_, ?_, fun other hne => ?_⟩
    · rw [fromVariable, hhas, if_neg Bool.false_ne_true, hname, Option.bind_some, hset]
      exact accept_eq_ok (get?_eq_none_iff.mp hget) hmeans
    · rw [get?_concat, hget, if_pos rfl, Option.none_or]
    · rw [get?_concat, if_neg hne.symm, Option.or_none]
  | @unset name habsent hname hunset =>
    have hget : State.get? { settled } opt = none := hsame.trans (get?_eq_none_iff.mpr habsent)
    have hhas : State.has { settled } opt = false := by rw [has_eq_isSome, hget, Option.isSome_none]
    refine ⟨settled, ?_, hget, fun _ _ => rfl⟩
    rw [fromVariable, hhas, if_neg Bool.false_ne_true, hname, Option.bind_some, hunset]

/-- The variables fill in what the command line leaves out. -/
theorem fromVariables_eq_ok {config logLevel interface : Option OptValue}
    (honce : (options.map Prod.fst).Nodup) (hconfig : Takes environment options .config config)
    (hlogLevel : Takes environment options .logLevel logLevel)
    (hinterface : Takes environment options .interface interface) :
    ∃ last, Scope.main.options.foldlM (fromVariable environment) { settled := options }
        = .ok { settled := last } ∧
      State.get? { settled := last } .config = config ∧
      State.get? { settled := last } .logLevel = logLevel ∧
      State.get? { settled := last } .interface = interface := by
  obtain ⟨first, hfirst, hget₁, hother₁⟩ := fromVariable_eq_ok hconfig honce rfl
  obtain ⟨second, hsecond, hget₂, hother₂⟩ :=
    fromVariable_eq_ok hlogLevel honce (hother₁ .logLevel (by decide))
  have hsame : State.get? { settled := second } .interface
      = State.get? { settled := options } .interface :=
    (hother₂ .interface (by decide)).trans (hother₁ .interface (by decide))
  obtain ⟨last, hlast, hget₃, hother₃⟩ := fromVariable_eq_ok hinterface honce hsame
  refine ⟨last, ?_, ?_, ?_, hget₃⟩
  · simp only [Scope.options, List.foldlM_cons, List.foldlM_nil]
    refine Fallible.bind_eq_ok_iff.mpr ⟨_, hfirst, ?_⟩
    refine Fallible.bind_eq_ok_iff.mpr ⟨_, hsecond, ?_⟩
    exact Fallible.bind_eq_ok_iff.mpr ⟨_, hlast, rfl⟩
  · rw [hother₃ .config (by decide), hother₂ .config (by decide), hget₁]
  · rw [hother₃ .logLevel (by decide), hget₂]

/-- Every way of writing a request, on the command line and in the variables, is read as the request
that is meant. -/
theorem parse_eq_ok_of_writes {request : Cli} {tokens : List Octets}
    (h : Writes environment request tokens) : parse environment tokens = .ok request := by
  obtain @⟨options, front, back, hwritten, honce, hfront, hconfig, hlogLevel, hinterface,
    hcommand⟩ := h
  obtain ⟨config, logLevel, interface, command⟩ := request
  obtain ⟨state, hholds, hread⟩ := readTokens_start hwritten hfront honce back
  obtain ⟨last, hlast, hget₁, hget₂, hget₃⟩ :=
    fromVariables_eq_ok honce hconfig hlogLevel hinterface
  -- The options in front are settled and filled in only after the command was read.
  have hfinish : (do
      let state ← state.settle .main
      let state ← Scope.main.options.foldlM (fromVariable environment) state
      return buildCli state command) = Except.ok (Cli.mk config logLevel interface command) := by
    refine Fallible.bind_eq_ok_iff.mpr ⟨_, hholds, ?_⟩
    refine Fallible.bind_eq_ok_iff.mpr ⟨_, hlast, ?_⟩
    rw [buildCli, hget₁, hget₂, hget₃]
    cases config <;> cases logLevel <;> cases interface <;> rfl
  cases hcommand with
  | none => exact Fallible.bind_eq_ok_iff.mpr ⟨_, hread, hfinish⟩
  | @some command options tokens hbehind hperm =>
    have hcommand : readCommand (verbOf command) tokens = .ok command :=
      readCommand_eq_ok hbehind hperm
    refine Fallible.bind_eq_ok_iff.mpr
      ⟨_, hread.trans (readTokens_command hholds.awaits_eq_none (verbOf command)), ?_⟩
    refine Fallible.bind_eq_ok_iff.mpr ⟨some command, ?_, hfinish⟩
    rw [hcommand]
    rfl

/-- A path that is the name of a command, an overruled variable that says no level, and a negative
number that has to be attached. -/
theorem parse_registration_in_mixed_spellings :
    let environment : Environment :=
      [(Utf8.encode "XSKSTEER_LOG_LEVEL", Utf8.encode "loud"),
        (Utf8.encode "XSKSTEER_INTERFACE", Utf8.encode "eth1")]
    let request : Cli :=
      { config := some ⟨Utf8.encode "register"⟩, logLevel := some .debug, interface := some "eth1",
        command := some (.register 3 (-42) 7) }
    let tokens : List Octets :=
      ["-ldebug", "--config", "register", "register", "--fd", "7", "-q3", "--pid=-42"].map
        Utf8.encode
    Writes environment request tokens ∧ parse environment tokens = .ok request := by
  intro environment request tokens
  have hlevel : Means .logLevel (Utf8.encode "debug") (.level .debug) := .logLevel rfl
  have hconfig : Means .config (Utf8.encode "register") (.path ⟨Utf8.encode "register"⟩) :=
    .config (by decide)
  have hfront : Written [(.logLevel, .level .debug), (.config, .path ⟨Utf8.encode "register"⟩)]
      (["-ldebug", "--config", "register"].map Utf8.encode) :=
    .cons hlevel (.shortAttached rfl (by decide) (by decide))
      (.cons hconfig (.long fun hdash => absurd hdash (by decide)) .nil)
  have hfd : Means .descriptor (Utf8.encode "7") (.number (7 : Int32).toInt) :=
    .descriptor 7 (Numeral.isDecimal_toString 7)
  have hqueue : Means .queue (Utf8.encode "3") (.number (3 : QueueIndex).toNat) :=
    .queue 3 (Numeral.isDecimal_toString 3)
  have hpid : Means .pid (Utf8.encode "-42") (.number (-42 : Int32).toInt) := by
    have htext : "-42" = toString (-42 : Int) := by decide
    have hvalue : (-42 : Int32).toInt = -42 := by decide
    apply Means.pid
    rw [htext, hvalue]
    exact Numeral.isDecimal_toString (-42)
  have hback : Written
      [(.descriptor, .number (7 : Int32).toInt), (.queue, .number (3 : QueueIndex).toNat),
        (.pid, .number (-42 : Int32).toInt)]
      (["--fd", "7", "-q3", "--pid=-42"].map Utf8.encode) :=
    .cons hfd (.long fun hdash => absurd hdash (by decide))
      (.cons hqueue (.shortAttached rfl (by decide) (by decide))
        (.cons hpid .longAttached .nil))
  have hcommand : WritesCommand request.command
      (["register", "--fd", "7", "-q3", "--pid=-42"].map Utf8.encode) := .some hback (by decide)
  have hwrites : Writes environment request tokens :=
    .intro hfront (by decide) (by decide) (.written (by simp)) (.written (by simp))
      (.inherited (by decide) rfl (by decide) (.interface "eth1")) hcommand
  exact ⟨hwrites, parse_eq_ok_of_writes hwrites⟩

end XdpSteering.CommandLine
