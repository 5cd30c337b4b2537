import Mathlib.Data.List.Induction
import XdpSteering.Proofs.FileSystem.Removal
import XdpSteering.Proofs.FileSystem.Status

/-!
# Trees

The entries of a file system are a tree: each of them is in a directory. In a tree a walk that
misses an entry misses it for good, so that looking for an entry and removing it fail for the same
reason.
-/

namespace XdpSteering.FileSystem

open XdpSteering.Text XdpSteering.Fallible

/-- Every entry is in a directory, and so is whatever a relative path leads to. -/
structure IsTree (fs : FileSystem) : Prop where
  parents : ∀ entry ∈ fs.entries, fs.node? entry.1.dropLast = some .directory
  workingDirectory : fs.node? fs.workingDirectory = some .directory

/-- The last name of a path is that of a link, wherever it may lead. -/
def NamesLink (fs : FileSystem) (path : Path) : Prop :=
  ∃ directory name target, fs.slot path = .ok (.entry ⟨directory, name, some (.link target)⟩)

variable {fs : FileSystem} {path : Path} {location place directory : Location} {name : Octets}
  {names more parents : List Octets} {node : Node} {follow : Bool} {links : Nat} {reason : OsError}

/-! ## Entries of a tree -/

theorem mem_entries_of_node? (h : fs.node? location = some node) (hroot : location ≠ []) :
    (location, node) ∈ fs.entries := by
  rw [node?, if_neg (by simpa using hroot)] at h
  obtain ⟨entry, hentry, rfl⟩ := Option.map_eq_some_iff.mp h
  have hplace : entry.1 = location := by simpa using List.find?_some hentry
  exact hplace ▸ List.mem_of_find?_eq_some hentry

theorem IsTree.dropLast (htree : fs.IsTree) (h : fs.node? location = some node) :
    fs.node? location.dropLast = some .directory := by
  by_cases hroot : location = []
  · subst hroot
    rfl
  · exact htree.parents _ (mem_entries_of_node? h hroot)

theorem IsTree.parent (htree : fs.IsTree) (h : fs.node? (location ++ [name]) = some node) :
    fs.node? location = some .directory := by
  have hparent := htree.dropLast h
  rwa [List.dropLast_concat] at hparent

/-- Whatever is on the way to an entry is there. -/
theorem IsTree.node?_ne_none_above (htree : fs.IsTree) (h : fs.node? location = some node)
    (hway : place <+: location) : fs.node? place ≠ none := by
  obtain ⟨rest, rfl⟩ := hway
  induction rest using List.reverseRecOn generalizing node with
  | nil =>
    rw [List.append_nil] at h
    simp [h]
  | append_singleton rest last ih =>
    rw [← List.append_assoc] at h
    exact ih (htree.parent h)

theorem IsTree.absent_concat (htree : fs.IsTree) (h : fs.node? location = none) (name : Octets) :
    fs.node? (location ++ [name]) = none := by
  by_contra hthere
  obtain ⟨node, hnode⟩ := Option.ne_none_iff_exists'.mp hthere
  rw [htree.parent hnode] at h
  cases h

theorem IsTree.origin (htree : fs.IsTree) (path : Path) :
    fs.node? (fs.origin path) = some .directory := by
  unfold FileSystem.origin
  split
  · rfl
  · exact htree.workingDirectory

theorem node?_linkStart (h : fs.node? location = some .directory) (target : Path) :
    fs.node? (linkStart location target) = some .directory := by
  unfold linkStart
  split
  · rfl
  · exact h

/-! ## Missing entries -/

/-- What names miss is missed with more names too. -/
theorem walk_append_of_noEntry (htree : fs.IsTree) (hstart : fs.node? location ≠ none)
    (h : arrival (fs.walk true links location names) = .error .noEntry) (hmore : more ≠ []) :
    fs.walk follow links location (names ++ more) = .error .noEntry := by
  fun_induction walk fs true links location names with
  | case2 links location hnone => exact absurd hnone hstart
  | case4 links location rest hdirectory ih =>
    rw [List.cons_append, walk_here (not_not.mp hdirectory), ih hstart h]
  | case5 links location rest hdirectory _ ih =>
    have hparent := htree.dropLast (not_not.mp hdirectory)
    rw [List.cons_append, walk_above (not_not.mp hdirectory), ih (by simp [hparent]) h]
  | case7 links location name rest hdirectory hhere habove hlength hnone
  | case8 links location name rest hdirectory hhere habove hlength hnone =>
    have hname : EntryName name := ⟨hhere, habove, Nat.not_lt.mp hlength⟩
    rw [List.cons_append, walk_absent (not_not.mp hdirectory) hname hnone]
    simp [hmore]
  | case11 location name rest hdirectory hhere habove hlength target hfound hgoes links ih =>
    have hname : EntryName name := ⟨hhere, habove, Nat.not_lt.mp hlength⟩
    have hgoes := List.append_ne_nil_of_right_ne_nil rest hmore
    have hstart := node?_linkStart (not_not.mp hdirectory) target
    rw [List.cons_append, walk_jump (not_not.mp hdirectory) hname hfound (.inl hgoes),
      ← List.append_assoc]
    exact ih (Option.ne_none_iff_exists'.mpr ⟨_, hstart⟩) h
  | case12 links location name rest hdirectory hhere habove hlength entry hplain hfound ih =>
    have hname : EntryName name := ⟨hhere, habove, Nat.not_lt.mp hlength⟩
    rw [List.cons_append, walk_down (not_not.mp hdirectory) hname hfound hplain,
      ih (by simp [hfound]) h]
  -- The other cases arrive or stop for another reason.
  | _ => simp [arrival, OsError.noEntry, OsError.notDirectory, OsError.nameTooLong,
      OsError.tooManyLinks] at h

theorem walk_append_of_arrival_error (htree : fs.IsTree) (hstart : fs.node? location ≠ none)
    (h : arrival (fs.walk true links location names) = .error reason) (hmore : more ≠ []) :
    fs.walk follow links location (names ++ more) = .error reason := by
  by_cases hreason : reason = .noEntry
  · subst hreason
    exact walk_append_of_noEntry htree hstart h hmore
  · rcases arrival_eq_error_iff.mp h with herror | ⟨hmissing, -⟩
    · exact walk_append_of_error herror hreason hmore
    · exact absurd hmissing hreason

/-! ## Looking for an entry and removing it -/

def closing (path : Path) : List Octets := if path.endsInSlash then [Path.here] else []

theorem steps_concat (hnames : path.names = parents ++ [name]) :
    steps path = parents ++ name :: closing path := by
  unfold steps closing
  split <;> simp [hnames]

theorem slot_of_arrival_error (hcheck : checkPath path = .ok ())
    (hnames : path.names = parents ++ [name])
    (h : arrival (fs.walk true maxLinks (fs.origin path) parents) = .error reason) :
    fs.slot path = .error reason := by
  rcases arrival_eq_error_iff.mp h with herror | ⟨rfl, directory, last, hvacant⟩
  · simp [FileSystem.slot, hcheck, hnames, herror, bind, Except.bind]
  · simp [FileSystem.slot, hcheck, hnames, hvacant, bind, Except.bind]

theorem walk_closing (h : fs.node? location = some .directory) :
    fs.walk follow links location (closing path) = .ok (.found location .directory) := by
  unfold closing
  split
  · exact (Leads.here h (.arrived h)).walk_eq
  · exact (Leads.arrived h).walk_eq

/-- An entry that is missed is so only because the path asks for a directory, and cannot be removed
then. -/
theorem unlink_of_entry_error {left : Nat}
    (hslot : fs.slot path = .ok (.entry ⟨directory, name, some node⟩))
    (hentry : fs.node? (directory ++ [name]) = some node)
    (h : arrival (fs.walk true left (directory ++ [name]) (closing path)) = .error reason) :
    fs.unlink path = .error reason := by
  by_cases hnode : node = .directory
  · rw [walk_closing (hnode ▸ hentry)] at h
    cases h
  unfold closing at h
  split at h
  · next hslash =>
    rw [walk_of_not_directory (by simp [hentry, hnode])] at h
    obtain rfl : .notDirectory = reason := Except.error.inj h
    simp only [unlink, hslot, bind, Except.bind]
    cases node with
    | directory => exact absurd rfl hnode
    | file | link | device => exact if_pos hslash
  · rw [(Leads.arrived hentry).walk_eq] at h
    cases h

/-- A last name that leads nowhere cannot be removed, unless it is that of a link. -/
theorem unlink_of_last_error {left : Nat} (htree : fs.IsTree) (hcheck : checkPath path = .ok ())
    (hnames : path.names = parents ++ [name])
    (hfront : Leads fs true maxLinks (fs.origin path) parents directory .directory)
    (hlink : ¬ fs.NamesLink path)
    (h : arrival (fs.walk true left directory (name :: closing path)) = .error reason) :
    fs.unlink path = .error reason := by
  have hslot := slot_of_leads hcheck hnames hfront
  have hdirectory := hfront.node?_eq
  by_cases hhere : name = Path.here
  · rw [hhere, walk_here hdirectory, walk_closing hdirectory] at h
    cases h
  by_cases habove : name = Path.above
  · rw [habove, walk_above hdirectory, walk_closing (htree.dropLast hdirectory)] at h
    cases h
  rw [if_neg hhere, if_neg habove] at hslot
  by_cases hlength : maxName < name.length
  · rw [walk, if_neg (not_not.mpr hdirectory), if_neg hhere, if_neg habove, if_pos hlength] at h
    obtain rfl : .nameTooLong = reason := Except.error.inj h
    rw [if_pos hlength] at hslot
    simp only [unlink, hslot, bind, Except.bind]
  have hname : EntryName name := ⟨hhere, habove, Nat.not_lt.mp hlength⟩
  rw [if_neg hlength] at hslot
  cases hentry : fs.node? (directory ++ [name]) with
  | none =>
    have hmissed : arrival (fs.walk true left directory (name :: closing path))
        = .error .noEntry := by
      rw [walk_absent hdirectory hname hentry]
      split <;> rfl
    obtain rfl : .noEntry = reason := Except.error.inj (hmissed.symm.trans h)
    simp only [unlink, hslot, hentry, bind, Except.bind]
  | some node =>
    have hplain : ∀ target, node ≠ .link target := by
      rintro target rfl
      exact hlink ⟨directory, name, target, hentry ▸ hslot⟩
    rw [walk_down hdirectory hname hentry hplain] at h
    rw [hentry] at hslot
    exact unlink_of_entry_error hslot hentry h

/-- Where nothing is found, and not for a link that leads nowhere, nothing can be removed, for the
same reason. -/
theorem unlink_of_status_error (htree : fs.IsTree) (hlink : ¬ fs.NamesLink path)
    (h : fs.status path = .error reason) : fs.unlink path = .error reason := by
  cases hcheck : checkPath path with
  | error other =>
    obtain rfl : other = reason := by
      simpa [status, locate, hcheck, bind, Except.bind] using h
    simp only [unlink, FileSystem.slot, hcheck, bind, Except.bind]
  | ok checked =>
  rw [status_eq hcheck] at h
  have horigin := htree.origin path
  rcases List.eq_nil_or_concat path.names with hnames | ⟨parents, name, hnames⟩
  · have hsteps : steps path = closing path := by
      rw [steps, closing, hnames]
      rfl
    rw [hsteps, walk_closing horigin] at h
    cases h
  rw [List.concat_eq_append] at hnames
  rw [steps_concat hnames] at h
  cases hfront : arrival (fs.walk true maxLinks (fs.origin path) parents) with
  | error other =>
    rw [walk_append_of_arrival_error htree (by simp [horigin]) hfront (List.cons_ne_nil _ _)] at h
    obtain rfl : other = reason := Except.error.inj h
    have hslot := slot_of_arrival_error hcheck hnames hfront
    simp only [unlink, hslot, bind, Except.bind]
  | ok target =>
    obtain ⟨directory, entry⟩ := target
    have hleads := leads_of_walk (arrival_eq_ok_iff.mp hfront)
    obtain ⟨left, hgoes⟩ := hleads.walk_append (List.cons_ne_nil name (closing path))
    rw [hgoes] at h
    by_cases hdirectory : entry = .directory
    · subst hdirectory
      exact unlink_of_last_error htree hcheck hnames hleads hlink h
    · rw [walk_of_not_directory (by simp [hleads.node?_eq, hdirectory])] at h
      obtain rfl : .notDirectory = reason := Except.error.inj h
      simp [unlink, FileSystem.slot, hcheck, hnames, hleads.walk_eq, hdirectory, bind, Except.bind]

/-- A link is removed wherever it leads, unless the path asks for a directory. -/
theorem unlink_of_namesLink (h : fs.NamesLink path) :
    ∃ place target, fs.node? place = some (.link target) ∧
      fs.unlink path =
        if path.endsInSlash then .error .notDirectory else .ok (fs.remove place) := by
  obtain ⟨directory, name, target, hslot⟩ := h
  have hnode := (names_of_slot hslot).2
  exact ⟨directory ++ [name], target, hnode.symm, by simp only [unlink, hslot, bind, Except.bind]⟩

/-- There is nothing to be removed where nothing is found, unless a link leads there. -/
theorem unlink_eq_noEntry_iff (htree : fs.IsTree) :
    fs.unlink path = .error .noEntry ↔ fs.status path = .error .noEntry ∧ ¬ fs.NamesLink path := by
  constructor
  · intro hunlink
    have hlink : ¬ fs.NamesLink path := by
      intro hlink
      obtain ⟨place, target, -, hremoved⟩ := unlink_of_namesLink hlink
      rw [hremoved] at hunlink
      split at hunlink <;> cases hunlink
    have habsent := pathExists_of_unlink hunlink
    unfold pathExists at habsent
    split at habsent
    · cases habsent
    next reason hstatus =>
      have hreason := unlink_of_status_error htree hlink hstatus
      obtain rfl : reason = .noEntry := Except.error.inj (hreason.symm.trans hunlink)
      exact ⟨hstatus, hlink⟩
  · rintro ⟨hstatus, hlink⟩
    exact unlink_of_status_error htree hlink hstatus

end XdpSteering.FileSystem
