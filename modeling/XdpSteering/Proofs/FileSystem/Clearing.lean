import XdpSteering.Proofs.FileSystem.Directories
import XdpSteering.Proofs.FileSystem.Removal

/-!
# Clearing away

What is left when a tree is removed at a path. A directory goes with all that is in it, a link goes
alone, and anything else stays. The path may lead through the directory itself; then it leads
nowhere once the directory is empty, and the directory stays.
-/

namespace XdpSteering.FileSystem

open XdpSteering.Text XdpSteering.Fallible

/-- An entry that is neither a directory nor a link. -/
def Node.IsPlain (node : Node) : Prop := node ≠ .directory ∧ ∀ target, node ≠ .link target

/-- What is left when what a path names was removed with all that is below it. -/
structure Cleared (fs : FileSystem) (path : Path) (after : FileSystem) : Prop where
  missing : ∀ reason, fs.linkStatus path = .error reason → after = fs
  plain : ∀ place node, fs.linkStatus path = .ok (place, node) → node.IsPlain → after = fs
  link : ∀ place target, fs.linkStatus path = .ok (place, .link target) → after = fs.remove place
  outside : ∀ place, fs.linkStatus path = .ok (place, .directory) →
    ∀ location, ¬ place <+: location → after.node? location = fs.node? location
  below : ∀ place, fs.linkStatus path = .ok (place, .directory) →
    ∀ location, isBelow place location = true → after.node? location = none
  /-- The directory itself stays only if the path leads through what was in it. -/
  directory : ∀ place, fs.linkStatus path = .ok (place, .directory) →
    after.node? place =
      if (fs.clear place).linkStatus path = .ok (place, .directory) then none else some .directory
  /-- Where something was removed the path finds nothing. -/
  gone : ∀ place node, fs.linkStatus path = .ok (place, node) → ¬ node.IsPlain →
    ∀ found, after.linkStatus path ≠ .ok found

variable {fs after : FileSystem} {path : Path} {location place : Location} {name : Octets}
  {parents : List Octets} {node : Node}

/-! ## Below a directory -/

theorem hasBelow_clear (fs : FileSystem) (place : Location) :
    (fs.clear place).hasBelow place = false := by
  simp [hasBelow, clear]

theorem isBelow_self (place : Location) : isBelow place place = false := by
  simp [isBelow]

theorem prefix_of_isBelow (h : isBelow place location = true) : place <+: location :=
  List.isPrefixOf_iff_prefix.mp (Bool.and_eq_true_iff.mp h).1

theorem node?_clear_self (fs : FileSystem) (place : Location) :
    (fs.clear place).node? place = fs.node? place :=
  node?_clear_of_not_below fs (isBelow_self place)

theorem node?_clear_of_outside (h : ¬ place <+: location) :
    (fs.clear place).node? location = fs.node? location :=
  node?_clear_of_not_below fs (by simpa using mt prefix_of_isBelow h)

/-- A path leads to a directory that has no entry any more only if it led to it before. -/
theorem linkStatus_ne_ok_of_within (hwithin : after.Within fs)
    (h : fs.linkStatus path = .ok (place, node)) (hgone : after.node? place = none)
    (found : Location × Node) : after.linkStatus path ≠ .ok found := by
  intro hfound
  obtain ⟨other, entry⟩ := found
  obtain ⟨rfl, rfl⟩ := Prod.mk.inj (Except.ok.inj ((hwithin.linkStatus hfound).symm.trans h))
  have hnode := (linkStatus_eq_ok_iff.mp hfound).2.node?_eq
  rw [hgone] at hnode
  cases hnode

theorem removeTree_of_plain (h : fs.linkStatus path = .ok (place, node)) (hnode : node.IsPlain) :
    (fs.removeTree path).1 = fs := by
  cases node with
  | directory => exact absurd rfl hnode.1
  | link target => exact absurd rfl (hnode.2 target)
  | file | device => simp only [removeTree, h]

section

variable (hnames : path.names = parents ++ [name]) (hname : EntryName name)
  (hslash : path.endsInSlash = false)

include hnames hname hslash

/-! ## Removing a directory -/

theorem removeDirectory_of_linkStatus (h : fs.linkStatus path = .ok (place, .directory)) :
    fs.removeDirectory path =
      if fs.hasBelow place then .error .notEmpty else .ok (fs.remove place) := by
  obtain ⟨hcheck, directory, hfront, rfl, hfound⟩ := leads_of_linkStatus hnames hname hslash h
  simp only [removeDirectory, slot_of_entryName hcheck hnames hname hfront, hfound, bind,
    Except.bind]

theorem linkStatus_of_slot {directory : Location} {entry : Octets}
    (h : fs.slot path = .ok (.entry ⟨directory, entry, some node⟩)) :
    fs.linkStatus path = .ok (directory ++ [entry], node) := by
  obtain ⟨front, hcheck, hslotNames, -, hfront, hnode⟩ := slot_eq_entry h
  obtain ⟨rfl, hlast⟩ := List.append_inj' (hnames.symm.trans hslotNames) rfl
  obtain rfl : name = entry := List.cons.inj hlast |>.1
  exact linkStatus_of_leads hnames hname hslash hcheck hfront hnode.symm

theorem within_clear (h : fs.linkStatus path = .ok (place, node)) : (fs.clear place).Within fs :=
  (shrinksBelow_clear (names_of_linkStatus hnames hname hslash h)).within

theorem linkStatus_of_removeDirectory (h : fs.removeDirectory path = .ok after) :
    ∃ place, fs.linkStatus path = .ok (place, .directory) := by
  obtain ⟨last, hslot, h⟩ := bind_eq_ok_iff.mp h
  match last with
  | .root | .here | .above => cases h
  | .entry ⟨_, _, none⟩ => cases h
  | .entry ⟨_, _, some .directory⟩ => exact ⟨_, linkStatus_of_slot hnames hname hslash hslot⟩
  | .entry ⟨_, _, some (.file _)⟩ | .entry ⟨_, _, some (.link _)⟩
  | .entry ⟨_, _, some .device⟩ => cases h

/-- Of a directory all that is in it is removed, and then the directory, if the path still leads to
it. -/
theorem removeTree_of_directory (h : fs.linkStatus path = .ok (place, .directory)) :
    (fs.removeTree path).1 =
      if (fs.clear place).linkStatus path = .ok (place, .directory) then
        (fs.clear place).remove place
      else fs.clear place := by
  unfold removeTree
  simp only [h]
  by_cases hstill : (fs.clear place).linkStatus path = .ok (place, .directory)
  · have hremoved := removeDirectory_of_linkStatus hnames hname hslash hstill
    rw [hasBelow_clear] at hremoved
    simp only [hremoved, hstill, Bool.false_eq_true, if_false, if_true]
  · cases hremoved : (fs.clear place).removeDirectory path with
    | error reason => simp only [if_neg hstill]
    | ok last =>
      obtain ⟨other, hother⟩ := linkStatus_of_removeDirectory hnames hname hslash hremoved
      have hbefore := (within_clear hnames hname hslash h).linkStatus hother
      obtain rfl : other = place := (Prod.mk.inj (Except.ok.inj (hbefore.symm.trans h))).1
      exact absurd hother hstill

/-! ## What is left -/

theorem removeTree_of_link {target : Path} (h : fs.linkStatus path = .ok (place, .link target)) :
    (fs.removeTree path).1 = fs.remove place ∧ fs.unlink path = .ok (fs.remove place) := by
  have hunlink := unlink_of_linkStatus hnames hname hslash h
  rw [if_neg (by simp)] at hunlink
  exact ⟨by simp only [removeTree, h, hunlink], hunlink⟩

theorem gone_of_directory (h : fs.linkStatus path = .ok (place, .directory))
    (found : Location × Node) : (fs.removeTree path).1.linkStatus path ≠ .ok found := by
  have hremoved := removeTree_of_directory hnames hname hslash h
  by_cases hstill : (fs.clear place).linkStatus path = .ok (place, .directory)
  · rw [if_pos hstill] at hremoved
    rw [hremoved]
    have hplace := names_of_linkStatus hnames hname hslash hstill
    exact linkStatus_ne_ok_of_within (shrinksBelow_remove hplace).within hstill
      (node?_remove_self _ _ hplace.ne_root) found
  · rw [if_neg hstill] at hremoved
    rw [hremoved]
    intro hfound
    have hbefore := (within_clear hnames hname hslash h).linkStatus hfound
    obtain rfl := Except.ok.inj (hbefore.symm.trans h)
    exact hstill hfound

/-- Removing a tree leaves nothing of a directory or a link that the path finds, and leaves anything
else in place. -/
theorem cleared_removeTree : fs.Cleared path (fs.removeTree path).1 where
  missing reason h := by simp only [removeTree, h]
  plain place node h hnode := removeTree_of_plain h hnode
  link place target h := (removeTree_of_link hnames hname hslash h).1
  outside place h location houtside := by
    rw [removeTree_of_directory hnames hname hslash h]
    have hkept : (fs.clear place).node? location = fs.node? location :=
      node?_clear_of_outside houtside
    split
    · refine (node?_remove_of_ne _ ?_).trans hkept
      rintro rfl
      exact houtside List.prefix_rfl
    · exact hkept
  below place h location hbelow := by
    rw [removeTree_of_directory hnames hname hslash h]
    have hgone := node?_clear_of_below fs hbelow
    split
    · refine (node?_remove_of_ne _ ?_).trans hgone
      rintro rfl
      rw [isBelow_self] at hbelow
      cases hbelow
    · exact hgone
  directory place h := by
    have hroot := (names_of_linkStatus hnames hname hslash h).ne_root
    rw [removeTree_of_directory hnames hname hslash h]
    split
    · exact node?_remove_self _ _ hroot
    · rw [node?_clear_self]
      exact (linkStatus_eq_ok_iff.mp h).2.node?_eq
  gone place node h hnode found := by
    cases node with
    | directory => exact gone_of_directory hnames hname hslash h found
    | link target =>
      obtain ⟨hremoved, hunlink⟩ := removeTree_of_link hnames hname hslash h
      rw [hremoved]
      exact linkStatus_ne_ok_of_unlink (unlink_gone hunlink)
    | file | device => exact absurd ⟨by simp, by simp⟩ hnode

end

end XdpSteering.FileSystem
