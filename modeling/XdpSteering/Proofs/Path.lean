import Mathlib.Tactic.Common
import XdpSteering.Path

/-!
# Names and components

The names of a path that is put together are the names of its parts. The components of a path make
up a path with the same components, and so do those in front of the last one. The last one may have
an extension.
-/

namespace XdpSteering.Path

open XdpSteering.Text

variable {path name parent : Path} {absolute : Bool} {components : List Octets}

def componentsOf (absolute : Bool) : List Octets → List Octets
  | [] => []
  | first :: rest =>
    if first = here && absolute then rest.filter (· ≠ here) else first :: rest.filter (· ≠ here)

theorem components_eq (path : Path) :
    path.components = componentsOf path.isAbsolute path.names := by
  unfold Path.components componentsOf
  rfl

theorem componentsOf_concat {octets : Octets} (names : List Octets) (hhere : octets ≠ here) :
    componentsOf absolute (names ++ [octets]) = componentsOf absolute names ++ [octets] := by
  cases names with
  | nil => simp [componentsOf, hhere]
  | cons first rest =>
    have hrest : (rest ++ [octets]).filter (· ≠ here) = rest.filter (· ≠ here) ++ [octets] := by
      rw [List.filter_append, List.filter_cons_of_pos (by simpa using hhere), List.filter_nil]
    simp only [List.cons_append, componentsOf, hrest]
    split <;> rfl

theorem componentsOf_append {more : List Octets} (names : List Octets)
    (hhere : more.head? ≠ some here) :
    componentsOf absolute (names ++ more)
      = componentsOf absolute names ++ componentsOf false more := by
  cases more with
  | nil => simp [componentsOf]
  | cons octets others =>
    have hoctets : octets ≠ here := fun heq => hhere (congrArg some heq)
    cases names with
    | nil => simp [componentsOf, hoctets]
    | cons first rest =>
      simp only [List.cons_append, componentsOf, List.filter_append]
      split <;> simp [hoctets]

/-! ## Names -/

theorem pieces_ne_nil (octets : Octets) : pieces octets ≠ [] := by
  cases octets with
  | nil => simp [pieces]
  | cons octet rest =>
    rw [pieces]
    split
    · simp
    · split <;> simp

theorem pieces_append_slash (front back : Octets) :
    pieces (front ++ slash :: back) = pieces front ++ pieces back := by
  induction front with
  | nil => simp [pieces]
  | cons octet rest ih =>
    by_cases hslash : octet = slash
    · simp [pieces, hslash, ih]
    · simp only [List.cons_append, pieces, hslash, if_false, ih]
      cases hpieces : pieces rest with
      | nil => exact absurd hpieces (pieces_ne_nil rest)
      | cons piece others => rfl

theorem pieces_of_not_mem {octets : Octets} (h : slash ∉ octets) : pieces octets = [octets] := by
  induction octets with
  | nil => rfl
  | cons octet rest ih =>
    have hoctet : octet ≠ slash := fun heq => h (heq ▸ List.mem_cons_self)
    have hrest : slash ∉ rest := fun hmem => h (List.mem_cons_of_mem _ hmem)
    simp [pieces, hoctet, ih hrest]

theorem pieces_append_of_not_mem {front : Octets} (h : slash ∉ front) (octets : Octets) :
    ∃ piece others, pieces octets = piece :: others ∧
      pieces (front ++ octets) = (front ++ piece) :: others := by
  induction front with
  | nil =>
    obtain ⟨piece, others, hpieces⟩ := List.exists_cons_of_ne_nil (pieces_ne_nil octets)
    exact ⟨piece, others, hpieces, hpieces⟩
  | cons octet rest ih =>
    have hoctet : octet ≠ slash := fun heq => h (heq ▸ List.mem_cons_self)
    have hrest : slash ∉ rest := fun hmem => h (List.mem_cons_of_mem _ hmem)
    obtain ⟨piece, others, hpieces, hfront⟩ := ih hrest
    refine ⟨piece, others, hpieces, ?_⟩
    simp only [List.cons_append, pieces, hoctet, if_false, hfront]

theorem slash_not_mem_of_mem_pieces {octets piece : Octets} (h : piece ∈ pieces octets) :
    slash ∉ piece := by
  induction octets generalizing piece with
  | nil =>
    obtain rfl : piece = [] := by simpa [pieces] using h
    exact List.not_mem_nil
  | cons octet rest ih =>
    rw [pieces] at h
    split at h
    · rcases List.mem_cons.mp h with rfl | h
      · simp
      · exact ih h
    · next hslash =>
      cases hpieces : pieces rest with
      | nil => exact absurd hpieces (pieces_ne_nil rest)
      | cons first others =>
        rw [hpieces] at h ih
        rcases List.mem_cons.mp h with rfl | h
        · have hfirst : slash ∉ first := ih List.mem_cons_self
          simp [Ne.symm hslash, hfirst]
        · exact ih (List.mem_cons_of_mem _ h)

theorem names_append_slash (front back : Octets) :
    names ⟨front ++ slash :: back⟩ = names ⟨front⟩ ++ names ⟨back⟩ := by
  simp only [names, pieces_append_slash, List.filter_append]

theorem names_nil : names ⟨[]⟩ = [] := rfl

theorem names_of_piece {octets : Octets} (hslash : slash ∉ octets) (hne : octets ≠ []) :
    names ⟨octets⟩ = [octets] := by
  simp [names, pieces_of_not_mem hslash, hne]

/-! ## Paths of entries -/

theorem names_join (h : name.isAbsolute = false) :
    (path.join name).names = path.names ++ name.names := by
  unfold join
  by_cases hempty : path.octets = []
  · have hnames : path.names = [] := by
      obtain ⟨octets⟩ := path
      obtain rfl : octets = [] := hempty
      exact names_nil
    simp [hempty, hnames]
  rw [if_neg (by simp [h, hempty])]
  split
  · next hends =>
    obtain ⟨front, hfront⟩ := List.getLast?_eq_some_iff.mp (of_decide_eq_true hends)
    have hpath : path = ⟨front ++ slash :: []⟩ := by rw [← hfront]
    rw [hfront, List.append_assoc, List.singleton_append, names_append_slash, hpath,
      names_append_slash, names_nil, List.append_nil]
  · exact names_append_slash path.octets name.octets

theorem isAbsolute_join (h : name.isAbsolute = false) :
    (path.join name).isAbsolute = path.isAbsolute := by
  unfold join
  by_cases hempty : path.octets = []
  · have hpath : path.isAbsolute = false := by simp [isAbsolute, hempty]
    rw [if_pos (by simp [hempty]), h, hpath]
  obtain ⟨first, rest, hcons⟩ := List.exists_cons_of_ne_nil hempty
  rw [if_neg (by simp [h, hempty])]
  split <;> simp [isAbsolute, hcons]

theorem endsInSlash_join (hname : name.octets ≠ []) :
    (path.join name).endsInSlash = name.endsInSlash := by
  obtain ⟨last, hlast⟩ := Option.ne_none_iff_exists'.mp (mt List.getLast?_eq_none_iff.mp hname)
  unfold join
  split
  · rfl
  · split <;> simp [endsInSlash, List.getLast?_append, List.getLast?_cons, hlast]

theorem components_join {octets : Octets} (h : name.isAbsolute = false)
    (hnames : name.names = [octets]) (hhere : octets ≠ here) :
    (path.join name).components = path.components ++ [octets] := by
  rw [components_eq, names_join h, hnames, isAbsolute_join h, componentsOf_concat _ hhere,
    components_eq]

theorem components_join_of_relative (h : name.isAbsolute = false)
    (hhere : name.names.head? ≠ some here) :
    (path.join name).components = path.components ++ name.components := by
  rw [components_eq, names_join h, isAbsolute_join h, componentsOf_append _ hhere, components_eq,
    components_eq, h]

/-! ## Comparing paths -/

/-- Two paths are the same when they are compared: component by component. -/
def Same (path other : Path) : Prop :=
  path.isAbsolute = other.isAbsolute ∧ path.components = other.components

/-- A path is that of a single entry directly inside a directory. -/
def IsEntryOf (path directory : Path) : Prop :=
  path.isAbsolute = directory.isAbsolute ∧
    ∃ name, name ≠ here ∧ name ≠ above ∧ path.components = directory.components ++ [name]

instance (path other : Path) : Decidable (path.Same other) := inferInstanceAs (Decidable (_ ∧ _))

/-! ## Components -/

structure AreComponents (absolute : Bool) (components : List Octets) : Prop where
  proper : ∀ name ∈ components, name ≠ [] ∧ slash ∉ name
  head_ne_here : absolute = true → components.head? ≠ some here
  tail_ne_here : ∀ name ∈ components.tail, name ≠ here

theorem areComponents_components (path : Path) :
    AreComponents path.isAbsolute path.components := by
  have hproper : ∀ name ∈ path.names, name ≠ [] ∧ slash ∉ name := by
    intro name hmem
    obtain ⟨hpiece, hne⟩ := List.mem_filter.mp hmem
    exact ⟨by simpa using hne, slash_not_mem_of_mem_pieces hpiece⟩
  rw [components_eq]
  cases hnames : path.names with
  | nil => exact ⟨by simp [componentsOf], by simp [componentsOf], by simp [componentsOf]⟩
  | cons first rest =>
    rw [hnames] at hproper
    have hrest : ∀ name ∈ rest.filter (· ≠ here), name ∈ rest ∧ name ≠ here := by
      intro name hmem
      simpa using hmem
    rw [componentsOf]
    split
    · refine ⟨fun name hmem => ?_, fun _ hhead => ?_, fun name hmem => ?_⟩
      · exact hproper name (List.mem_cons_of_mem _ (hrest name hmem).1)
      · exact (hrest here (List.mem_of_head? hhead)).2 rfl
      · exact (hrest name (List.mem_of_mem_tail hmem)).2
    · next hfirst =>
      refine ⟨fun name hmem => ?_, fun habsolute hhead => ?_, fun name hmem => ?_⟩
      · rcases List.mem_cons.mp hmem with rfl | hmem
        · exact hproper name List.mem_cons_self
        · exact hproper name (List.mem_cons_of_mem _ (hrest name hmem).1)
      · exact hfirst (by simp [Option.some.inj hhead, habsolute])
      · exact (hrest name hmem).2

theorem AreComponents.dropLast (h : AreComponents absolute components) :
    AreComponents absolute components.dropLast := by
  refine ⟨fun name hmem => ?_, fun habsolute hhead => ?_, fun name hmem => ?_⟩
  · exact h.proper name (components.dropLast_sublist.subset hmem)
  · rw [List.head?_dropLast] at hhead
    split at hhead
    · exact h.head_ne_here habsolute hhead
    · cases hhead
  · rw [List.tail_dropLast] at hmem
    exact h.tail_ne_here name (components.tail.dropLast_sublist.subset hmem)

theorem names_intercalate (h : ∀ name ∈ components, name ≠ [] ∧ slash ∉ name) :
    names ⟨[slash].intercalate components⟩ = components := by
  induction components with
  | nil => rfl
  | cons first rest ih =>
    obtain ⟨hne, hslash⟩ := h first List.mem_cons_self
    cases rest with
    | nil => simpa using names_of_piece hslash hne
    | cons second others =>
      have hrest := ih fun name hmem => h name (List.mem_cons_of_mem _ hmem)
      rw [List.intercalate_cons_cons, List.append_assoc, List.singleton_append,
        names_append_slash, names_of_piece hslash hne, hrest, List.singleton_append]

theorem AreComponents.names_ofComponents (h : AreComponents absolute components) :
    (ofComponents absolute components).names = components := by
  cases absolute with
  | false => exact names_intercalate h.proper
  | true =>
    have hnames := names_append_slash [] ([slash].intercalate components)
    rw [names_intercalate h.proper] at hnames
    exact hnames

theorem AreComponents.isAbsolute_ofComponents (h : AreComponents absolute components) :
    (ofComponents absolute components).isAbsolute = absolute := by
  cases absolute with
  | true => rfl
  | false =>
    cases components with
    | nil => rfl
    | cons first rest =>
      obtain ⟨hne, hslash⟩ := h.proper first List.mem_cons_self
      obtain ⟨octet, others, rfl⟩ := List.exists_cons_of_ne_nil hne
      have hoctet : octet ≠ slash := fun heq => hslash (heq ▸ List.mem_cons_self)
      cases rest <;> simp [isAbsolute, ofComponents, List.intercalate, hoctet]

theorem AreComponents.components_ofComponents (h : AreComponents absolute components) :
    (ofComponents absolute components).components = components := by
  rw [components_eq, h.names_ofComponents, h.isAbsolute_ofComponents]
  cases components with
  | nil => rfl
  | cons first rest =>
    have hrest : rest.filter (· ≠ here) = rest := by
      rw [List.filter_eq_self]
      simpa using h.tail_ne_here
    have hfirst : ¬ (first = here ∧ absolute = true) := by
      rintro ⟨rfl, habsolute⟩
      exact h.head_ne_here habsolute rfl
    rw [componentsOf, hrest]
    exact if_neg (by simpa using hfirst)

theorem components_parent? (h : path.parent? = some parent) :
    parent.components = path.components.dropLast ∧ parent.isAbsolute = path.isAbsolute := by
  unfold parent? at h
  split at h
  · cases h
  · have hparts := (areComponents_components path).dropLast
    rw [← Option.some.inj h]
    exact ⟨hparts.components_ofComponents, hparts.isAbsolute_ofComponents⟩

/-! ## Extensions -/

/-- The last component of a path is the name of an entry with a dot behind its first octet, and this
is what follows its last dot. -/
def HasExtension (path : Path) (extension : Octets) : Prop :=
  ∃ stem, stem ≠ [] ∧ dot ∉ extension ∧ stem ++ dot :: extension ≠ above ∧
    path.components.getLast? = some (stem ++ dot :: extension)

section

variable {stem octets extension : Octets}

theorem extensionOf_append (hstem : stem ≠ []) (hdot : dot ∉ extension) :
    extensionOf (stem ++ dot :: extension) = some extension := by
  obtain ⟨first, rest, rfl⟩ := List.exists_cons_of_ne_nil hstem
  have hfree : ∀ octet ∈ extension.reverse, decide (octet ≠ dot) := by
    intro octet hmem
    have hne : octet ≠ dot := fun heq => hdot (heq ▸ List.mem_reverse.mp hmem)
    simpa using hne
  rw [extensionOf, if_pos (by simp), List.reverse_append, List.reverse_cons, List.append_assoc,
    List.takeWhile_append_of_pos hfree]
  simp

/-- A name is split at the last dot behind its first octet. -/
theorem exists_stem_of_mem (h : dot ∈ octets.drop 1) :
    ∃ stem extension, stem ≠ [] ∧ dot ∉ extension ∧ octets = stem ++ dot :: extension := by
  cases octets with
  | nil => simp at h
  | cons first rest =>
    have hrest : dot ∈ rest.reverse := List.mem_reverse.mpr h
    obtain ⟨back, front, hsplit, hback⟩ := List.eq_append_cons_of_mem hrest
    refine ⟨first :: front.reverse, back.reverse, List.cons_ne_nil _ _, by simpa using hback, ?_⟩
    rw [← List.reverse_reverse rest, hsplit]
    simp

theorem extensionOf_eq_some_iff :
    extensionOf octets = some extension ↔
      ∃ stem, stem ≠ [] ∧ dot ∉ extension ∧ octets = stem ++ dot :: extension := by
  constructor
  · intro h
    by_cases hdot : dot ∈ octets.drop 1
    · obtain ⟨stem, found, hstem, hfound, rfl⟩ := exists_stem_of_mem hdot
      rw [extensionOf_append hstem hfound] at h
      obtain rfl := Option.some.inj h
      exact ⟨stem, hstem, hfound, rfl⟩
    · rw [extensionOf, if_neg (by simpa using hdot)] at h
      cases h
  · rintro ⟨stem, hstem, hdot, rfl⟩
    exact extensionOf_append hstem hdot

theorem append_dot_ne_here (hstem : stem ≠ []) : stem ++ dot :: extension ≠ here := by
  intro heq
  have hpos : 0 < stem.length := List.length_pos_iff.mpr hstem
  have hlength := congrArg List.length heq
  simp only [List.length_append, List.length_cons, here, List.length_nil] at hlength
  omega

theorem extension?_eq_some_iff :
    path.extension? = some extension ↔ path.HasExtension extension := by
  unfold extension? fileName? HasExtension
  simp only [Option.bind_eq_some_iff, Option.filter_eq_some_iff, extensionOf_eq_some_iff]
  constructor
  · rintro ⟨octets, ⟨hlast, hname⟩, stem, hstem, hdot, rfl⟩
    have habove : stem ++ dot :: extension ≠ above := by
      simpa using (Bool.and_eq_true_iff.mp hname).1
    exact ⟨stem, hstem, hdot, habove, hlast⟩
  · rintro ⟨stem, hstem, hdot, habove, hlast⟩
    exact ⟨_, ⟨hlast, by simp [habove, append_dot_ne_here hstem]⟩, stem, hstem, hdot, rfl⟩

end

end XdpSteering.Path
