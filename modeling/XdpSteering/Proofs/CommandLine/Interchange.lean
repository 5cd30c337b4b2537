import XdpSteering.Proofs.CommandLine.Acceptance

/-!
# An option or its variable

An option in front of the command may as well be given in its variable: the request is the same. The
tokens of a legal command line belong to its options in one way only, so one of them can be taken
out without a change to what the others say.
-/

namespace XdpSteering.CommandLine

open XdpSteering.Text

/-! ## Which option a token belongs to -/

section Tokens

variable {opt other : Opt} {token octets : Octets} {given found : Option Octets}
  {options : List (Opt × OptValue)} {tokens front rest tail back closing : List Octets}
  {command : Option Command}

/-- A token begins one option only. -/
theorem opens_unique (h : Opens opt token given) (hother : Opens other token found) :
    opt = other ∧ given = found := by
  obtain ⟨letters, rfl, htoken | ⟨letter, behind, hletter, rfl, htoken, rfl⟩⟩ := token_of_opens h
  · obtain ⟨_, heq, hfound | ⟨_, _, _, _, hfound, _⟩⟩ := token_of_opens hother
    · rw [← heq, htoken] at hfound
      obtain ⟨hname, hgiven⟩ := Token.long.inj hfound
      exact ⟨long_inj hname, hgiven⟩
    · rw [← heq, htoken] at hfound
      cases hfound
  · obtain ⟨_, heq, hfound | ⟨second, after, hsecond, rfl, _, rfl⟩⟩ := token_of_opens hother
    · rw [← heq, htoken] at hfound
      cases hfound
    · have hfirst := firstChar_append letter behind
      rw [(List.cons.inj heq).2, firstChar_append] at hfirst
      obtain ⟨rfl, rfl⟩ := Prod.mk.inj (Option.some.inj hfirst)
      exact ⟨short_inj hletter hsecond, rfl⟩

theorem token_ne_escape (h : Opens opt token given) : Token.of token ≠ .escape := by
  obtain ⟨letters, rfl, htoken | ⟨_, _, _, _, htoken, _⟩⟩ := token_of_opens h
  · rw [htoken]
    exact Token.noConfusion
  · rw [htoken]
    exact Token.noConfusion

def NoOption (tokens : List Octets) : Prop :=
  ∀ token ∈ tokens.head?, ∀ opt given, ¬ Opens opt token given

theorem noOption_of_command (hcommand : ShowsCommand command back) (hcloses : Closing closing) :
    NoOption (back ++ closing) := by
  intro token htoken opt given hopens
  cases hcommand with
  | none =>
    rcases hcloses with rfl | rfl
    · cases htoken
    · obtain rfl := Option.some.inj htoken
      exact token_ne_escape hopens rfl
  | @some command _ _ _ _ =>
    obtain ⟨letters, rfl, -⟩ := token_of_opens hopens
    have hname := ofName?_name (verbOf command)
    rw [Option.some.inj htoken, ofName?_dash] at hname
    cases hname

/-! ## Whole options -/

inductive WholeOptions : List Octets → Prop where
  | nil : WholeOptions []
  | cons {opt : Opt} {octets : Octets} {tokens rest : List Octets}
      (shows : Shows opt octets tokens) (whole : WholeOptions rest) : WholeOptions (tokens ++ rest)

theorem Shown.append {more : List (Opt × OptValue)} (h : Shown options tokens)
    (hmore : Shown more rest) : Shown (options ++ more) (tokens ++ rest) := by
  induction h with
  | nil => exact hmore
  | cons hmeans hshows _ ih =>
    rw [List.append_assoc]
    exact .cons hmeans hshows ih

theorem shows_unique {found : Octets} {others after : List Octets} (h : Shows opt octets tokens)
    (hother : Shows other found others) (heq : tokens ++ rest = others ++ after) :
    opt = other ∧ octets = found ∧ tokens = others ∧ rest = after := by
  cases h with
  | attached hopens =>
    cases hother with
    | attached hfound =>
      obtain ⟨rfl, rfl⟩ := List.cons.inj heq
      obtain ⟨rfl, hgiven⟩ := opens_unique hopens hfound
      exact ⟨rfl, Option.some.inj hgiven, rfl, rfl⟩
    | apart hfound _ =>
      obtain ⟨rfl, -⟩ := List.cons.inj heq
      cases (opens_unique hopens hfound).2
  | apart hopens _ =>
    cases hother with
    | attached hfound =>
      obtain ⟨rfl, -⟩ := List.cons.inj heq
      cases (opens_unique hopens hfound).2
    | apart hfound _ =>
      obtain ⟨rfl, hbehind⟩ := List.cons.inj heq
      obtain ⟨rfl, rfl⟩ := List.cons.inj hbehind
      exact ⟨(opens_unique hopens hfound).1, rfl, rfl, rfl⟩

/-- An option at the front of what is shown is the first that is shown. -/
theorem Shown.uncons {shown : List Octets} (hshown : Shown options shown) (htail : NoOption tail)
    (hshows : Shows opt octets tokens) (heq : tokens ++ rest = shown ++ tail) :
    ∃ value more middle, options = (opt, value) :: more ∧ Means opt octets value ∧
      Shown more middle ∧ rest = middle ++ tail := by
  cases hshown with
  | nil =>
    have hopens : ∃ token ∈ tail.head?, ∃ given, Opens opt token given := by
      rw [← List.nil_append tail, ← heq]
      cases hshows with
      | attached hopens => exact ⟨_, rfl, _, hopens⟩
      | apart hopens _ => exact ⟨_, rfl, _, hopens⟩
    obtain ⟨token, htoken, given, hopens⟩ := hopens
    exact absurd hopens (htail token htoken opt given)
  | @cons other found value others behind more hmeans hother hmore =>
    rw [List.append_assoc] at heq
    obtain ⟨rfl, rfl, -, hrest⟩ := shows_unique hshows hother heq
    exact ⟨value, more, behind, rfl, hmeans, hmore, hrest⟩

/-- Whole options at the front of what is shown are the first that are shown. -/
theorem Shown.split {shown : List Octets} (hshown : Shown options shown) (htail : NoOption tail)
    (hwhole : WholeOptions front) (heq : front ++ rest = shown ++ tail) :
    ∃ first more middle, options = first ++ more ∧ Shown first front ∧ Shown more middle ∧
      rest = middle ++ tail := by
  induction hwhole generalizing options shown with
  | nil => exact ⟨[], options, shown, rfl, .nil, hshown, heq⟩
  | cons hshows _ ih =>
    rw [List.append_assoc] at heq
    obtain ⟨value, others, behind, rfl, hmeans, hothers, hrest⟩ :=
      hshown.uncons htail hshows heq
    obtain ⟨first, more, middle, rfl, hfirst, hmore, rfl⟩ := ih hothers hrest
    exact ⟨(_, value) :: first, more, middle, rfl, .cons hmeans hshows hfirst, hmore, rfl⟩

end Tokens

/-! ## Variables -/

section Variables

variable {environment : Environment} {opt other : Opt} {name : String} {octets : Octets}
  {before after : Environment}

theorem variableName?_inj (h : opt.variableName? = some name)
    (hother : other.variableName? = some name) : opt = other := by
  have heq : opt.variableName? = other.variableName? := h.trans hother.symm
  have hsome : opt.variableName?.isSome := by rw [h]; rfl
  revert heq hsome
  cases opt <;> cases other <;> decide

theorem mem_options_of_variableName? (h : opt.variableName? = some name) :
    opt ∈ Scope.main.options := by
  have hsome : opt.variableName?.isSome := by rw [h]; rfl
  revert hsome
  cases opt <;> decide

def Lacks (environment : Environment) (name : String) : Prop :=
  ∀ entry ∈ environment, entry.1 ≠ Utf8.encode name

theorem get?_added (h : Lacks (before ++ after) name) :
    Environment.get? (before ++ (Utf8.encode name, octets) :: after) name = some octets := by
  have hbefore : before.find? (fun entry => entry.1 = Utf8.encode name) = none := by
    rw [List.find?_eq_none]
    intro entry hentry
    simpa using h entry (List.mem_append_left _ hentry)
  rw [Environment.get?, List.find?_append, hbefore]
  simp

theorem get?_added_of_ne {second : String} (h : second ≠ name) :
    Environment.get? (before ++ (Utf8.encode name, octets) :: after) second
      = Environment.get? (before ++ after) second := by
  have hne : Utf8.encode name ≠ Utf8.encode second := fun heq => h (Utf8.encode_inj heq).symm
  rw [Environment.get?, Environment.get?, List.find?_append, List.find?_append,
    List.find?_cons_of_neg (by simpa using hne)]

/-- What an option takes depends on what is written for it, and on its variable. -/
theorem Takes.congr {second : Environment} {options others : List (Opt × OptValue)}
    {choice : Option OptValue} (h : Takes environment options opt choice)
    (hwritten : ∀ value, (opt, value) ∈ options ↔ (opt, value) ∈ others)
    (hset : ∀ name, opt.variableName? = some name → environment.get? name = second.get? name) :
    Takes second others opt choice := by
  have hkeys : opt ∈ options.map Prod.fst ↔ opt ∈ others.map Prod.fst := by
    simp only [List.mem_map, Prod.exists, exists_and_right, exists_eq_right, hwritten]
  cases h with
  | written hmem => exact .written ((hwritten _).mp hmem)
  | inherited habsent hname hvalue hmeans =>
    exact .inherited (mt hkeys.mpr habsent) hname ((hset _ hname).symm.trans hvalue) hmeans
  | unset habsent hname hunset =>
    exact .unset (mt hkeys.mpr habsent) hname ((hset _ hname).symm.trans hunset)

end Variables

/-! ## On the command line or in the variable -/

/-- The token that gives an option its value behind an equals sign. -/
def attachedFlag (opt : Opt) (octets : Octets) : Octets :=
  dash :: dash :: (Utf8.encode opt.long ++ equals :: octets)

/-- No options at the front of the tokens give a value to this one. -/
def LeavesOut (opt : Opt) (tokens : List Octets) : Prop :=
  ∀ options shown, Shown options shown → shown <+: tokens → opt ∉ options.map Prod.fst

theorem Shown.keys_prefix {options others : List (Opt × OptValue)}
    {front shown rest behind : List Octets} (hshown : Shown options front) (hrest : NoOption rest)
    (hothers : Shown others shown) (heq : shown ++ behind = front ++ rest) :
    others.map Prod.fst <+: options.map Prod.fst := by
  induction hothers generalizing options front with
  | nil => exact List.nil_prefix
  | cons _ hshows _ ih =>
    rw [List.append_assoc] at heq
    obtain ⟨value, more, middle, rfl, -, hmore, hbehind⟩ := hshown.uncons hrest hshows heq
    exact List.cons_prefix_cons.mpr ⟨rfl, ih hmore hbehind⟩

/-- Options in front of tokens that are none leave out all others. -/
theorem leavesOut_of_shown {opt : Opt} {options : List (Opt × OptValue)} {front rest : List Octets}
    (hshown : Shown options front) (hrest : NoOption rest) (habsent : opt ∉ options.map Prod.fst) :
    LeavesOut opt (front ++ rest) := by
  rintro others shown hothers ⟨behind, heq⟩ hmem
  exact habsent ((hshown.keys_prefix hrest hothers heq).subset hmem)

section Interchange

variable {opt other : Opt} {name : String} {octets : Octets} {before after : Environment}
  {front back : List Octets} {request : Cli} {first others : List (Opt × OptValue)}
  {value : OptValue} {choice : Option OptValue}

theorem keys_middle (first : List (Opt × OptValue)) (opt : Opt) (value : OptValue)
    (others : List (Opt × OptValue)) :
    ((first ++ (opt, value) :: others).map Prod.fst).Perm
      (opt :: (first ++ others).map Prod.fst) := by
  have hperm : (first ++ (opt, value) :: others).Perm ((opt, value) :: (first ++ others)) :=
    List.perm_middle
  exact hperm.map Prod.fst

theorem takes_written_iff {environment : Environment} {options : List (Opt × OptValue)}
    (honce : (options.map Prod.fst).Nodup) (hmem : (opt, value) ∈ options) :
    Takes environment options opt choice ↔ choice = some value := by
  have hpresent : opt ∈ options.map Prod.fst := List.mem_map_of_mem hmem
  constructor
  · intro h
    cases h with
    | written hfound => rw [← get?_of_mem honce hfound, get?_of_mem honce hmem]
    | inherited habsent _ _ _ => exact absurd hpresent habsent
    | unset habsent _ _ => exact absurd hpresent habsent
  · rintro rfl
    exact .written hmem

theorem takes_inherited_iff {environment : Environment} {options : List (Opt × OptValue)}
    (habsent : opt ∉ options.map Prod.fst) (hname : opt.variableName? = some name)
    (hset : environment.get? name = some octets) :
    Takes environment options opt choice ↔ ∃ value, Means opt octets value ∧ choice = some value := by
  constructor
  · intro h
    cases h with
    | written hmem => exact absurd (List.mem_map_of_mem hmem) habsent
    | inherited _ hfound hvalue hmeans =>
      obtain rfl := Option.some.inj (hname.symm.trans hfound)
      obtain rfl := Option.some.inj (hset.symm.trans hvalue)
      exact ⟨_, hmeans, rfl⟩
    | unset _ hfound hunset =>
      obtain rfl := Option.some.inj (hname.symm.trans hfound)
      cases hset.symm.trans hunset
  · rintro ⟨value, hmeans, rfl⟩
    exact .inherited habsent hname hset hmeans

theorem means_unique {found : OptValue} (h : Means opt octets value)
    (hfound : Means opt octets found) : value = found :=
  Except.ok.inj ((read_eq_ok_of_means h).symm.trans (read_eq_ok_of_means hfound))

/-- Written among the options or set in the variable, a value is taken by its option alone. -/
theorem takes_flag_iff (hname : opt.variableName? = some name)
    (hlacks : Lacks (before ++ after) name) (hmeans : Means opt octets value)
    (honce : (opt :: (first ++ others).map Prod.fst).Nodup) :
    Takes (before ++ after) (first ++ (opt, value) :: others) other choice ↔
      Takes (before ++ (Utf8.encode name, octets) :: after) (first ++ others) other choice := by
  by_cases heq : other = opt
  · subst heq
    have hmem : (other, value) ∈ first ++ (other, value) :: others := by simp
    rw [takes_written_iff ((keys_middle first other value others).nodup_iff.mpr honce) hmem,
      takes_inherited_iff (List.nodup_cons.mp honce).1 hname (get?_added hlacks)]
    constructor
    · rintro rfl
      exact ⟨value, hmeans, rfl⟩
    · rintro ⟨found, hfound, rfl⟩
      rw [means_unique hfound hmeans]
  · have hwritten : ∀ found, (other, found) ∈ first ++ (opt, value) :: others ↔
        (other, found) ∈ first ++ others := by
      intro found
      simp [heq]
    have hset : ∀ second, other.variableName? = some second →
        Environment.get? (before ++ (Utf8.encode name, octets) :: after) second
          = Environment.get? (before ++ after) second := by
      intro second hsecond
      refine get?_added_of_ne fun hsame => heq ?_
      exact variableName?_inj hsecond (hsame ▸ hname)
    constructor
    · exact fun h => h.congr hwritten fun second hsecond => (hset second hsecond).symm
    · exact fun h => h.congr (fun found => (hwritten found).symm) hset

theorem legal_of_legal_flag (hname : opt.variableName? = some name)
    (hlacks : Lacks (before ++ after) name) (hfront : WholeOptions front)
    (h : Legal (before ++ after) request (front ++ attachedFlag opt octets :: back)) :
    Legal (before ++ (Utf8.encode name, octets) :: after) request (front ++ back) := by
  generalize htokens : front ++ attachedFlag opt octets :: back = tokens at h
  obtain @⟨_, shown, command, closing, hshown, honce, hscope, htakes, hcommand, hcloses⟩ := h
  have htail := noOption_of_command hcommand hcloses
  have hflag : Shows opt octets [attachedFlag opt octets] := .attached (.longAttached octets)
  rw [List.append_assoc] at htokens
  obtain ⟨first, more, middle, rfl, hfirst, hmore, hrest⟩ := hshown.split htail hfront htokens
  rw [← List.singleton_append] at hrest
  obtain ⟨value, others, behind, rfl, hmeans, hothers, rfl⟩ := hmore.uncons htail hflag hrest
  have hkeys := keys_middle first opt value others
  have honce := hkeys.nodup_iff.mp honce
  rw [← List.append_assoc, ← List.append_assoc]
  exact .intro (hfirst.append hothers) honce.of_cons
    (fun other hother => hscope other (hkeys.mem_iff.mpr (List.mem_cons_of_mem _ hother)))
    (fun other hother => (takes_flag_iff hname hlacks hmeans honce).mp (htakes other hother))
    hcommand hcloses

/-- Where the command line leaves an option out, a request has the value of its variable. -/
theorem exists_value_of_legal {environment : Environment} {tokens : List Octets}
    (hname : opt.variableName? = some name) (hset : environment.get? name = some octets)
    (hleaves : LeavesOut opt tokens) (h : Legal environment request tokens) :
    ∃ value, Means opt octets value ∧ valueOf request opt = some value := by
  obtain @⟨_, shown, command, closing, hshown, -, -, htakes, -, -⟩ := h
  have habsent := hleaves _ shown hshown ⟨command ++ closing, (List.append_assoc ..).symm⟩
  exact (takes_inherited_iff habsent hname hset).mp
    (htakes opt (mem_options_of_variableName? hname))

theorem legal_flag_of_legal (hname : opt.variableName? = some name)
    (hlacks : Lacks (before ++ after) name) (hfront : WholeOptions front)
    (hleaves : LeavesOut opt (front ++ back))
    (h : Legal (before ++ (Utf8.encode name, octets) :: after) request (front ++ back)) :
    Legal (before ++ after) request (front ++ attachedFlag opt octets :: back) := by
  obtain ⟨value, hmeans, -⟩ := exists_value_of_legal hname (get?_added hlacks) hleaves h
  generalize htokens : front ++ back = tokens at h
  obtain @⟨_, shown, command, closing, hshown, honce, hscope, htakes, hcommand, hcloses⟩ := h
  have htail := noOption_of_command hcommand hcloses
  have hopt : opt ∈ Scope.main.options := mem_options_of_variableName? hname
  rw [List.append_assoc] at htokens
  have habsent := hleaves _ shown hshown ⟨_, htokens.symm⟩
  obtain ⟨first, others, middle, rfl, hfirst, hothers, rfl⟩ := hshown.split htail hfront htokens
  have hkeys := keys_middle first opt value others
  have honce := List.nodup_cons.mpr ⟨habsent, honce⟩
  have hmore : Shown ((opt, value) :: others) ([attachedFlag opt octets] ++ middle) :=
    .cons hmeans (.attached (.longAttached octets)) hothers
  have hlegal : Legal (before ++ after) request
      (front ++ ([attachedFlag opt octets] ++ middle) ++ command ++ closing) := by
    refine .intro (hfirst.append hmore) (hkeys.nodup_iff.mpr honce) (fun other hother => ?_)
      (fun other hother => (takes_flag_iff hname hlacks hmeans honce).mpr (htakes other hother))
      hcommand hcloses
    rcases List.mem_cons.mp (hkeys.mem_iff.mp hother) with rfl | hother
    · exact hopt
    · exact hscope other hother
  simpa using hlegal

/-- The step from a flag to its variable, and back. -/
theorem parse_flag_eq_ok_iff (hname : opt.variableName? = some name)
    (hlacks : Lacks (before ++ after) name) (hfront : WholeOptions front)
    (hleaves : LeavesOut opt (front ++ back)) :
    parse (before ++ after) (front ++ attachedFlag opt octets :: back) = .ok request ↔
      parse (before ++ (Utf8.encode name, octets) :: after) (front ++ back) = .ok request := by
  rw [parse_eq_ok_iff_legal, parse_eq_ok_iff_legal]
  exact ⟨legal_of_legal_flag hname hlacks hfront, legal_flag_of_legal hname hlacks hfront hleaves⟩

end Interchange

end XdpSteering.CommandLine
