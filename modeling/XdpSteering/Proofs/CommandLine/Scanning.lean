import XdpSteering.Proofs.CommandLine.Reading
import XdpSteering.Proofs.Text.Decoding

/-!
# What a scope is read from

What the reader has read of a scope is followed from token to token: a token that is taken begins an
option, or is the value of the option that waits, or ends the scope. Each option that is read adds
itself to those before it, so a scope is read to its end just if its tokens show its options.
-/

namespace XdpSteering.CommandLine

open XdpSteering.Text

/-! ## Values -/

section Values

variable {opt : Opt} {octets : Octets} {value : OptValue} {text : String}

theorem readText_eq_ok_iff : readText octets = .ok text ↔ octets = Utf8.encode text := by
  rw [← Utf8.decode?_eq_some_iff, readText]
  cases Utf8.decode? octets <;> simp

theorem readText_bind_eq_ok_iff {α : Type} {f : String → Except BadValue α} {result : α} :
    readText octets >>= f = .ok result ↔ ∃ text, octets = Utf8.encode text ∧ f text = .ok result := by
  simp only [Fallible.bind_eq_ok_iff, readText_eq_ok_iff]

theorem isDecimal_of_readNumber {range : Range} {number : Int}
    (h : readNumber range text = .ok number) :
    Numeral.IsDecimal text.toList number ∧ range.low ≤ number ∧ number ≤ range.high := by
  rw [readNumber] at h
  cases hsigned : Numeral.readSigned 10 Numeral.signedMin64 Numeral.signedMax64 text.toList with
  | error fault => simp [hsigned] at h
  | ok found =>
    rw [hsigned] at h
    dsimp only at h
    split at h
    · next hrange =>
      obtain rfl := Except.ok.inj h
      exact ⟨(Numeral.isDecimal_of_readSigned hsigned).1, hrange⟩
    · cases h

theorem readNumber_queue_eq_ok {number : Int} (h : readNumber queueRange text = .ok number) :
    ∃ queue : QueueIndex, number = queue.toNat ∧ Numeral.IsDecimal text.toList queue.toNat := by
  obtain ⟨hdecimal, hlow, hhigh⟩ := isDecimal_of_readNumber h
  have hlow : 0 ≤ number := hlow
  have hhigh : number ≤ 4294967295 := hhigh
  have hnat : (UInt32.ofNat number.toNat).toNat = number.toNat :=
    UInt32.toNat_ofNat_of_lt' (by rw [UInt32.size]; omega)
  have heq : number = ((UInt32.ofNat number.toNat).toNat : Int) := by omega
  exact ⟨UInt32.ofNat number.toNat, heq, heq ▸ hdecimal⟩

theorem readNumber_int32_eq_ok {number : Int} (h : readNumber numberRange text = .ok number) :
    ∃ int : Int32, number = int.toInt ∧ Numeral.IsDecimal text.toList int.toInt := by
  obtain ⟨hdecimal, hlow, hhigh⟩ := isDecimal_of_readNumber h
  have hlow : -2147483648 ≤ number := hlow
  have hhigh : number ≤ 2147483647 := hhigh
  have heq : (Int32.ofInt number).toInt = number := Int32.toInt_ofInt_of_le hlow (by omega)
  exact ⟨Int32.ofInt number, heq.symm, heq.symm ▸ hdecimal⟩

theorem exists_int32_of_read
    (h : (do return OptValue.number (← readNumber numberRange (← readText octets))) = .ok value) :
    ∃ (text : String) (int : Int32), octets = Utf8.encode text ∧ value = .number int.toInt ∧
      Numeral.IsDecimal text.toList int.toInt := by
  obtain ⟨text, rfl, hread⟩ := readText_bind_eq_ok_iff.mp h
  obtain ⟨number, hnumber, hvalue⟩ := Fallible.bind_eq_ok_iff.mp hread
  obtain ⟨int, rfl, hdecimal⟩ := readNumber_int32_eq_ok hnumber
  exact ⟨text, int, rfl, (Except.ok.inj hvalue).symm, hdecimal⟩

/-- Octets are read as a value only if they mean it. -/
theorem means_of_read (h : opt.read octets = .ok value) : Means opt octets value := by
  cases opt with
  | config =>
    by_cases hempty : octets = []
    · simp [Opt.read, hempty] at h
    · have hread : Opt.read .config octets = .ok (.path ⟨octets⟩) := by simp [Opt.read, hempty]
      obtain rfl := Except.ok.inj (hread.symm.trans h)
      exact .config hempty
  | logLevel =>
    obtain ⟨text, rfl, hread⟩ := readText_bind_eq_ok_iff.mp h
    cases hlevel : Level.read? text with
    | none => simp [hlevel] at hread
    | some level =>
      rw [hlevel] at hread
      obtain rfl := Except.ok.inj hread
      exact .logLevel hlevel
  | interface =>
    obtain ⟨text, htext, rfl⟩ := Fallible.map_eq_ok_iff.mp h
    obtain rfl := readText_eq_ok_iff.mp htext
    exact .interface text
  | queue =>
    obtain ⟨text, rfl, hread⟩ := readText_bind_eq_ok_iff.mp h
    obtain ⟨number, hnumber, hvalue⟩ := Fallible.bind_eq_ok_iff.mp hread
    obtain ⟨queue, rfl, hdecimal⟩ := readNumber_queue_eq_ok hnumber
    obtain rfl := Except.ok.inj hvalue
    exact .queue queue hdecimal
  | pid =>
    obtain ⟨text, pid, rfl, rfl, hdecimal⟩ := exists_int32_of_read h
    exact .pid pid hdecimal
  | descriptor =>
    obtain ⟨text, descriptor, rfl, rfl, hdecimal⟩ := exists_int32_of_read h
    exact .descriptor descriptor hdecimal

end Values

/-! ## Tokens -/

section Tokens

variable {token name letters : Octets} {given : Option Octets} {verb : Verb}

theorem eq_encode_name (h : Verb.ofName? token = some verb) : token = Utf8.encode verb.name := by
  unfold Verb.ofName? at h
  have hname := List.find?_some h
  exact (of_decide_eq_true hname).symm

/-- What is attached to a long name stands behind the first equals sign. -/
theorem token_of_dash_dash (hne : letters ≠ []) :
    ∃ name given, Token.of (dash :: dash :: letters) = .long name given ∧
      letters = name ++ given.elim [] (equals :: ·) := by
  by_cases hequals : equals ∈ letters
  · obtain ⟨name, value, rfl, hname⟩ := List.eq_append_cons_of_mem hequals
    exact ⟨name, some value, token_of_longAttached hname, rfl⟩
  · exact ⟨letters, none, token_of_long hne hequals, (List.append_nil _).symm⟩

theorem token_cases (token : Octets) :
    (Token.of token = .word ∧ StandsAlone token) ∨
      (Token.of token = .escape ∧ token = [dash, dash]) ∨
      (∃ letters, Token.of token = .short letters ∧ token = dash :: letters) ∨
      ∃ name given, Token.of token = .long name given ∧
        token = dash :: dash :: (name ++ given.elim [] (equals :: ·)) := by
  cases token with
  | nil => exact .inl ⟨rfl, by simp [StandsAlone]⟩
  | cons first rest =>
    by_cases hfirst : first = dash
    · subst hfirst
      cases rest with
      | nil => exact .inl ⟨rfl, by simp [StandsAlone]⟩
      | cons second letters =>
        by_cases hsecond : second = dash
        · subst hsecond
          by_cases hnil : letters = []
          · subst hnil
            exact .inr (.inl ⟨rfl, rfl⟩)
          · obtain ⟨name, given, htoken, hletters⟩ := token_of_dash_dash hnil
            exact .inr (.inr (.inr ⟨name, given, htoken, congrArg (dash :: dash :: ·) hletters⟩))
        · exact .inr (.inr (.inl ⟨second :: letters, by simp [Token.of, hsecond], rfl⟩))
    · exact .inl ⟨by simp [Token.of, hfirst], by simp [StandsAlone, hfirst]⟩

theorem eq_append_of_firstChar {letter : Char} {rest : Octets}
    (h : firstChar letters = some (letter, rest)) :
    letters = String.utf8EncodeChar letter ++ rest := by
  unfold firstChar at h
  split at h
  · next chars hscan =>
    obtain ⟨others, rfl, -⟩ := Utf8.eq_utf8EncodeChar_append hscan
    obtain ⟨rfl, rfl⟩ := Prod.mk.inj (Option.some.inj h)
    simp [← String.length_utf8EncodeChar]
  · cases h

/-- A letter with what is attached to it begins an option. -/
theorem opens_of_attached {opt : Opt} {letter : Char} (hletter : opt.short? = some letter)
    (octets : Octets) :
    Opens opt (dash :: (String.utf8EncodeChar letter ++ octets)) (attached octets) := by
  cases octets with
  | nil =>
    rw [List.append_nil]
    exact .short hletter
  | cons first rest =>
    by_cases hfirst : first = equals
    · subst hfirst
      exact .shortEquals hletter rest
    · have hattached : attached (first :: rest) = some (first :: rest) := by
        simp [attached, hfirst]
      rw [hattached]
      exact .shortAttached hletter (List.cons_ne_nil _ _) (by simpa using hfirst)

theorem opens_of_long (opt : Opt) (given : Option Octets) :
    Opens opt (dash :: dash :: (Utf8.encode opt.long ++ given.elim [] (equals :: ·))) given := by
  cases given with
  | none =>
    rw [Option.elim_none, List.append_nil]
    exact .long
  | some octets => exact .longAttached octets

end Tokens

/-! ## States -/

section States

variable {scope : Scope} {state next last : State} {opt : Opt} {octets token name letters : Octets}
  {given : Option Octets} {options more settled final : List (Opt × OptValue)}
  {rest tokens : List Octets} {continuation : Continuation}

theorem accept_eq_ok_iff :
    State.accept scope { settled := options } opt octets = .ok next ↔
      opt ∉ options.map Prod.fst ∧
        ∃ value, Means opt octets value ∧ next = { settled := options ++ [(opt, value)] } := by
  constructor
  · intro h
    unfold State.accept at h
    split at h
    · cases h
    · next hhas =>
      obtain ⟨value, hvalue, h⟩ := Fallible.bind_eq_ok_iff.mp h
      refine ⟨fun hmem => hhas (has_iff_mem.mpr hmem), value, ?_, (Except.ok.inj h).symm⟩
      exact means_of_read (Fallible.mapError_eq_ok_iff.mp hvalue)
  · rintro ⟨hnew, value, hmeans, rfl⟩
    exact accept_eq_ok hnew hmeans

theorem exists_holds (h : state.settle scope = .ok next) : ∃ options, Holds scope state options := by
  obtain ⟨settled, open?⟩ := state
  cases open? with
  | none => exact ⟨settled, rfl⟩
  | some entry =>
    obtain ⟨opt, given⟩ := entry
    cases given with
    | none => cases h
    | some octets =>
      obtain ⟨-, value, -, rfl⟩ := accept_eq_ok_iff.mp h
      exact ⟨_, h⟩

/-- When an option begins, the one before it is settled. -/
theorem begin_eq_ok_iff :
    state.begin scope opt given = .ok next ↔ ∃ options, Holds scope state options ∧
      match given with
      | none => next = { settled := options, open? := some (opt, none) }
      | some octets => State.accept scope { settled := options } opt octets = .ok next := by
  constructor
  · intro h
    obtain ⟨settled, hsettle, h⟩ := Fallible.bind_eq_ok_iff.mp h
    obtain ⟨options, hholds⟩ := exists_holds hsettle
    obtain rfl := Except.ok.inj (hholds.symm.trans hsettle)
    refine ⟨options, hholds, ?_⟩
    cases given with
    | none => exact (Except.ok.inj h).symm
    | some octets => exact h
  · rintro ⟨options, hholds, h⟩
    cases given with
    | none =>
      subst h
      exact begin_open hholds opt
    | some octets =>
      rw [State.begin, hholds]
      exact h

theorem raise_ne_ok (flag : Flag) : raise scope state flag ≠ .ok next := by
  intro h
  obtain ⟨_, -, hthrow⟩ := Fallible.bind_eq_ok_iff.mp h
  cases flag <;> cases hthrow

theorem takeLong_eq_ok (h : takeLong scope state name given = .ok next) :
    ∃ opt ∈ scope.options, name = Utf8.encode opt.long ∧
      state.begin scope opt given = .ok next := by
  unfold takeLong at h
  split at h
  · next opt hfind =>
    have hname := List.find?_some hfind
    exact ⟨opt, List.mem_of_find?_eq_some hfind, (of_decide_eq_true hname).symm, h⟩
  · split at h
    · exact absurd h (raise_ne_ok _)
    · cases h
    · cases h

theorem takeShort_eq_ok (h : takeShort scope state letters = .ok next) :
    ∃ opt ∈ scope.options, ∃ given, Opens opt (dash :: letters) given ∧
      state.begin scope opt given = .ok next := by
  unfold takeShort at h
  split at h
  · cases h
  · next letter rest hfirst =>
    obtain rfl := eq_append_of_firstChar hfirst
    split at h
    · next opt hfind =>
      have hletter := List.find?_some hfind
      exact ⟨opt, List.mem_of_find?_eq_some hfind, attached rest,
        opens_of_attached (of_decide_eq_true hletter) rest, h⟩
    · split at h
      · exact absurd h (raise_ne_ok _)
      · cases h

/-! ## Tokens in front of others -/

inductive Taken (scope : Scope) (state : State) (token : Octets) (rest : List Octets) :
    State × Continuation → Prop where
  | command {verb : Verb} (scope_eq : scope = .main) (token_eq : token = Utf8.encode verb.name) :
      Taken scope state token rest (state, some (verb, rest))
  | escape (token_eq : token = [dash, dash]) (rest_eq : rest = []) :
      Taken scope state token rest (state, none)
  | opens {opt : Opt} {given : Option Octets} {next : State} {result : State × Continuation}
      (mem : opt ∈ scope.options) (opens : Opens opt token given)
      (begins : state.begin scope opt given = .ok next)
      (reads : readTokens scope false next rest = .ok result) : Taken scope state token rest result
  | value {opt : Opt} {result : State × Continuation} (awaits : state.awaits = some opt)
      (alone : StandsAlone token)
      (reads : readTokens scope false { state with open? := some (opt, some token) } rest
        = .ok result) : Taken scope state token rest result

theorem eq_nil_of_shielded {result : State × Continuation}
    (h : readTokens scope true state rest = .ok result) : rest = [] ∧ result = (state, none) := by
  cases rest with
  | nil => exact ⟨rfl, (Except.ok.inj h).symm⟩
  | cons token rest => cases h

theorem taken_of_readTokens {result : State × Continuation}
    (h : readTokens scope false state (token :: rest) = .ok result) :
    Taken scope state token rest result := by
  rw [readTokens.eq_def] at h
  dsimp only at h
  rw [if_neg Bool.false_ne_true] at h
  split at h
  · next verb hname =>
    obtain rfl := Except.ok.inj h
    exact .command rfl (eq_encode_name hname)
  -- What is left, but for the command that asks for a description, goes by the look of the token.
  · split at h
    · cases h
    · rcases token_cases token with ⟨htoken, halone⟩ | ⟨htoken, rfl⟩ | ⟨letters, htoken, rfl⟩ |
        ⟨name, given, htoken, rfl⟩
      · rw [htoken] at h
        dsimp only at h
        split at h
        · next opt hawaits => exact .value hawaits halone h
        · cases h
      · rw [htoken] at h
        obtain ⟨hrest, rfl⟩ := eq_nil_of_shielded h
        exact .escape rfl hrest
      · rw [htoken] at h
        obtain ⟨next, hnext, hrest⟩ := Fallible.bind_eq_ok_iff.mp h
        obtain ⟨opt, hopt, given, hopens, hbegin⟩ := takeShort_eq_ok hnext
        exact .opens hopt hopens hbegin hrest
      · rw [htoken] at h
        obtain ⟨next, hnext, hrest⟩ := Fallible.bind_eq_ok_iff.mp h
        obtain ⟨opt, hopt, rfl, hbegin⟩ := takeLong_eq_ok hnext
        exact .opens hopt (opens_of_long opt given) hbegin hrest

/-! ## Scopes -/

inductive Ends : Scope → List Octets → Continuation → Prop where
  | closing {scope : Scope} {tokens : List Octets} (closes : Closing tokens) :
      Ends scope tokens none
  | command (verb : Verb) (rest : List Octets) :
      Ends .main (Utf8.encode verb.name :: rest) (some (verb, rest))

/-- Behind the options that were read, the tokens show more options of the scope and end it. -/
inductive Scans (scope : Scope) (options : List (Opt × OptValue)) :
    List Octets → List (Opt × OptValue) → Continuation → Prop where
  | intro {more : List (Opt × OptValue)} {front back : List Octets} {continuation : Continuation}
      (shown : Shown more front) (in_scope : ∀ opt ∈ more.map Prod.fst, opt ∈ scope.options)
      (once : ((options ++ more).map Prod.fst).Nodup) (ends : Ends scope back continuation) :
      Scans scope options (front ++ back) (options ++ more) continuation

theorem once_concat {value : OptValue} (honce : (options.map Prod.fst).Nodup)
    (hnew : opt ∉ options.map Prod.fst) : ((options ++ [(opt, value)]).map Prod.fst).Nodup := by
  rw [List.map_append, List.map_singleton, ← List.concat_eq_append]
  exact honce.concat hnew

theorem scans_of_ends (honce : (options.map Prod.fst).Nodup)
    (hends : Ends scope tokens continuation) : Scans scope options tokens options continuation := by
  have hscans : Scans scope options ([] ++ tokens) (options ++ []) continuation :=
    .intro .nil (by simp) (by simpa using honce) hends
  rwa [List.append_nil] at hscans

/-- One option more in front. -/
theorem Scans.cons {value : OptValue} (hopt : opt ∈ scope.options) (hmeans : Means opt octets value)
    (hshows : Shows opt octets tokens)
    (hscans : Scans scope (options ++ [(opt, value)]) rest final continuation) :
    Scans scope options (tokens ++ rest) final continuation := by
  obtain @⟨more, front, back, _, hshown, hscope, honce, hends⟩ := hscans
  rw [List.append_assoc, List.singleton_append] at honce ⊢
  rw [← List.append_assoc]
  refine .intro (.cons hmeans hshows hshown) ?_ honce hends
  rw [List.map_cons]
  exact List.forall_mem_cons.mpr ⟨hopt, hscope⟩

/-- Unless an option waits for its value, a run that can be settled can be settled from its start. -/
theorem exists_holds_of_readTokens (hawaits : state.awaits = none)
    (hread : readTokens scope false state tokens = .ok (last, continuation))
    (hlast : Holds scope last final) : ∃ options, Holds scope state options := by
  cases tokens with
  | nil =>
    obtain ⟨rfl, -⟩ := Prod.mk.inj (Except.ok.inj hread)
    exact ⟨final, hlast⟩
  | cons token rest =>
    cases taken_of_readTokens hread with
    | command _ _ => exact ⟨final, hlast⟩
    | escape _ _ => exact ⟨final, hlast⟩
    | opens _ _ hbegin _ =>
      obtain ⟨options, hholds, -⟩ := begin_eq_ok_iff.mp hbegin
      exact ⟨options, hholds⟩
    | value hwaits _ _ =>
      rw [hawaits] at hwaits
      cases hwaits

/-- An option that waits is given its value by the next token. -/
theorem exists_value_of_readTokens
    (hread : readTokens scope false { settled := options, open? := some (opt, none) } tokens
      = .ok (last, continuation)) (hlast : Holds scope last final) :
    ∃ octets after, tokens = octets :: after ∧ StandsAlone octets ∧
      readTokens scope false { settled := options, open? := some (opt, some octets) } after
        = .ok (last, continuation) := by
  have hopen : ¬ Holds scope { settled := options, open? := some (opt, none) } final := by
    intro hholds
    cases hholds
  cases tokens with
  | nil =>
    obtain ⟨rfl, -⟩ := Prod.mk.inj (Except.ok.inj hread)
    exact absurd hlast hopen
  | cons token rest =>
    cases taken_of_readTokens hread with
    | command _ _ => exact absurd hlast hopen
    | escape _ _ => exact absurd hlast hopen
    | opens _ _ hbegin _ =>
      obtain ⟨_, hholds, -⟩ := begin_eq_ok_iff.mp hbegin
      cases hholds
    | value hwaits halone hrest =>
      obtain rfl := Option.some.inj hwaits
      exact ⟨token, rest, rfl, halone, hrest⟩

/-- The run lemma: what is read of a scope is shown by its tokens. -/
theorem scans_of_readTokens (honce : (options.map Prod.fst).Nodup)
    (hholds : Holds scope state options)
    (hread : readTokens scope false state tokens = .ok (last, continuation))
    (hlast : Holds scope last final) : Scans scope options tokens final continuation := by
  -- A value that stands apart takes a second token, so the induction is on the number of tokens.
  induction hlength : tokens.length using Nat.strongRecOn
    generalizing tokens state options with
  | ind length ih =>
    subst hlength
    have hstay : last = state → options = final := by
      rintro rfl
      obtain ⟨rfl⟩ := Except.ok.inj (hholds.symm.trans hlast)
      rfl
    cases tokens with
    | nil =>
      obtain ⟨rfl, rfl⟩ := Prod.mk.inj (Except.ok.inj hread)
      obtain rfl := hstay rfl
      exact scans_of_ends honce (.closing (.inl rfl))
    | cons token rest =>
      cases taken_of_readTokens hread with
      | @command verb hscope htoken =>
        obtain rfl := hstay rfl
        subst hscope htoken
        exact scans_of_ends honce (.command verb rest)
      | escape htoken hrest =>
        obtain rfl := hstay rfl
        subst htoken hrest
        exact scans_of_ends honce (.closing (.inr rfl))
      | @opens opt given next _ hopt hopens hbegin hrest =>
        obtain ⟨settled, hsettled, hnext⟩ := begin_eq_ok_iff.mp hbegin
        obtain ⟨rfl⟩ := Except.ok.inj (hholds.symm.trans hsettled)
        cases given with
        | some octets =>
          obtain ⟨hnew, value, hmeans, rfl⟩ := accept_eq_ok_iff.mp hnext
          have hscans := ih rest.length (by simp) (once_concat honce hnew) holds_settled hrest rfl
          exact hscans.cons hopt hmeans (.attached hopens)
        | none =>
          subst hnext
          obtain ⟨octets, after, rfl, halone, hafter⟩ := exists_value_of_readTokens hrest hlast
          obtain ⟨settled, hsettled⟩ := exists_holds_of_readTokens rfl hafter hlast
          obtain ⟨hnew, value, hmeans, hvalue⟩ := accept_eq_ok_iff.mp hsettled
          have hshorter : after.length < (token :: octets :: after).length := by
            simp only [List.length_cons]
            omega
          have hscans := ih after.length hshorter (once_concat honce hnew)
            (holds_of_open hnew hmeans) hafter rfl
          exact hscans.cons hopt hmeans (.apart hopens halone)
      | value hwaits _ _ =>
        rw [hholds.awaits_eq_none] at hwaits
        cases hwaits

/-! ## Whole scopes -/

theorem readTokens_ends (h : Holds scope state options) (hends : Ends scope tokens continuation) :
    readTokens scope false state tokens = .ok (state, continuation) := by
  cases hends with
  | closing hcloses => exact readTokens_closing h.awaits_eq_none hcloses
  | command verb rest => exact readTokens_command h.awaits_eq_none verb

/-- A scope is read to its end just if its tokens show its options. -/
theorem readTokens_eq_ok_iff (honce : (options.map Prod.fst).Nodup)
    (hholds : Holds scope state options) :
    (∃ last, readTokens scope false state tokens = .ok (last, continuation) ∧
      Holds scope last final) ↔ Scans scope options tokens final continuation := by
  constructor
  · rintro ⟨last, hread, hlast⟩
    exact scans_of_readTokens honce hholds hread hlast
  · rintro @⟨more, front, back, _, hshown, hscope, honce, hends⟩
    obtain ⟨next, hnext, hread⟩ := readTokens_shown hshown hholds hscope honce back
    exact ⟨next, hread.trans (readTokens_ends hnext hends), hnext⟩

end States

end XdpSteering.CommandLine
