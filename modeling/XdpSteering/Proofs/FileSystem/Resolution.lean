import Mathlib.Tactic.Common
import XdpSteering.FileSystem

/-!
# Where names lead

A walk that arrives is a chain of steps, each of which stays, goes up, goes down, or goes on from
what a link stands for. A chain is there in every tree that has the same entries and more.
-/

namespace XdpSteering.FileSystem

open XdpSteering.Text

structure EntryName (name : Octets) : Prop where
  ne_here : name ≠ Path.here
  ne_above : name ≠ Path.above
  length_le : name.length ≤ maxName

/-- Where the path in a link starts, if the link is in a directory. -/
def linkStart (directory : Location) (target : Path) : Location :=
  if target.isAbsolute then [] else directory

/-- Names lead from a place to an entry. No more than `links` links are followed on the way, and one
that the last name names only if `follow` is set. -/
inductive Leads (fs : FileSystem) (follow : Bool) :
    Nat → Location → List Octets → Location → Node → Prop where
  | arrived {links : Nat} {location : Location} {node : Node}
      (found : fs.node? location = some node) : Leads fs follow links location [] location node
  | here {links : Nat} {location place : Location} {rest : List Octets} {node : Node}
      (directory : fs.node? location = some .directory)
      (onward : Leads fs follow links location rest place node) :
      Leads fs follow links location (Path.here :: rest) place node
  | above {links : Nat} {location place : Location} {rest : List Octets} {node : Node}
      (directory : fs.node? location = some .directory)
      (onward : Leads fs follow links location.dropLast rest place node) :
      Leads fs follow links location (Path.above :: rest) place node
  | down {links : Nat} {location place : Location} {name : Octets} {rest : List Octets}
      {entry node : Node} (directory : fs.node? location = some .directory) (named : EntryName name)
      (found : fs.node? (location ++ [name]) = some entry) (plain : ∀ target, entry ≠ .link target)
      (onward : Leads fs follow links (location ++ [name]) rest place node) :
      Leads fs follow links location (name :: rest) place node
  | link {links : Nat} {location : Location} {name : Octets} {target : Path}
      (directory : fs.node? location = some .directory) (named : EntryName name)
      (found : fs.node? (location ++ [name]) = some (.link target)) (kept : follow = false) :
      Leads fs follow links location [name] (location ++ [name]) (.link target)
  | jump {links : Nat} {location place : Location} {name : Octets} {rest : List Octets}
      {target : Path} {node : Node} (directory : fs.node? location = some .directory)
      (named : EntryName name) (found : fs.node? (location ++ [name]) = some (.link target))
      (followed : rest ≠ [] ∨ follow = true)
      (onward : Leads fs follow links (linkStart location target) (steps target ++ rest) place
        node) :
      Leads fs follow (links + 1) location (name :: rest) place node

variable {fs other : FileSystem} {follow : Bool} {links : Nat} {location place directory : Location}
  {name : Octets} {rest names more : List Octets} {target : Path} {node entry : Node}

/-! ## Steps of a walk -/

theorem walk_here (hdirectory : fs.node? location = some .directory) :
    fs.walk follow links location (Path.here :: rest) = fs.walk follow links location rest := by
  rw [walk]
  simp [hdirectory]

theorem walk_above (hdirectory : fs.node? location = some .directory) :
    fs.walk follow links location (Path.above :: rest)
      = fs.walk follow links location.dropLast rest := by
  rw [walk]
  simp [hdirectory, Path.above, Path.here]

theorem walk_absent (hdirectory : fs.node? location = some .directory) (hname : EntryName name)
    (habsent : fs.node? (location ++ [name]) = none) :
    fs.walk follow links location (name :: rest)
      = if rest.isEmpty then .ok (.vacant location name) else .error .noEntry := by
  rw [walk]
  simp [hdirectory, hname.ne_here, hname.ne_above, Nat.not_lt.mpr hname.length_le, habsent]

theorem walk_down (hdirectory : fs.node? location = some .directory) (hname : EntryName name)
    (hfound : fs.node? (location ++ [name]) = some entry)
    (hplain : ∀ target, entry ≠ .link target) :
    fs.walk follow links location (name :: rest)
      = fs.walk follow links (location ++ [name]) rest := by
  rw [walk]
  cases entry with
  | link target => exact absurd rfl (hplain target)
  | _ => simp [hdirectory, hname.ne_here, hname.ne_above, Nat.not_lt.mpr hname.length_le, hfound]

theorem walk_link (hdirectory : fs.node? location = some .directory) (hname : EntryName name)
    (hfound : fs.node? (location ++ [name]) = some (.link target)) (hkept : follow = false) :
    fs.walk follow links location [name] = .ok (.found (location ++ [name]) (.link target)) := by
  rw [walk]
  simp [hdirectory, hname.ne_here, hname.ne_above, Nat.not_lt.mpr hname.length_le, hfound, hkept]

theorem walk_jump (hdirectory : fs.node? location = some .directory) (hname : EntryName name)
    (hfound : fs.node? (location ++ [name]) = some (.link target))
    (hfollowed : rest ≠ [] ∨ follow = true) :
    fs.walk follow (links + 1) location (name :: rest)
      = fs.walk follow links (linkStart location target) (steps target ++ rest) := by
  have hgoes : (rest.isEmpty && !follow) = false := by
    rcases hfollowed with hrest | hfollow
    · simp [hrest]
    · simp [hfollow]
  rw [walk]
  simp [hdirectory, hname.ne_here, hname.ne_above, Nat.not_lt.mpr hname.length_le, hfound, hgoes,
    linkStart]

theorem Leads.walk_eq (h : Leads fs follow links location names place node) :
    fs.walk follow links location names = .ok (.found place node) := by
  induction h with
  | arrived found =>
    rw [walk]
    simp only [found]
  | here directory _ ih => rw [walk_here directory, ih]
  | above directory _ ih => rw [walk_above directory, ih]
  | down directory named found plain _ ih => rw [walk_down directory named found plain, ih]
  | link directory named found kept => exact walk_link directory named found kept
  | jump directory named found followed _ ih => rw [walk_jump directory named found followed, ih]

theorem leads_of_walk (h : fs.walk follow links location names = .ok (.found place node)) :
    Leads fs follow links location names place node := by
  fun_induction walk fs follow links location names with
  | case1 links location entry hfound =>
    obtain ⟨rfl, rfl⟩ := Place.found.inj (Except.ok.inj h)
    exact .arrived hfound
  | case4 links location rest hdirectory ih => exact .here (not_not.mp hdirectory) (ih h)
  | case5 links location rest hdirectory _ ih => exact .above (not_not.mp hdirectory) (ih h)
  | case9 links location name rest hdirectory hhere habove hlength target hfound hstops =>
    obtain ⟨rfl, rfl⟩ := Place.found.inj (Except.ok.inj h)
    obtain ⟨hrest, hfollow⟩ := Bool.and_eq_true_iff.mp hstops
    obtain rfl := List.isEmpty_iff.mp hrest
    exact .link (not_not.mp hdirectory) ⟨hhere, habove, Nat.not_lt.mp hlength⟩ hfound
      (by simpa using hfollow)
  | case11 location name rest hdirectory hhere habove hlength target hfound hgoes links ih =>
    refine .jump (not_not.mp hdirectory) ⟨hhere, habove, Nat.not_lt.mp hlength⟩ hfound ?_ (ih h)
    by_cases hrest : rest = []
    · exact .inr (by simpa [hrest] using hgoes)
    · exact .inl hrest
  | case12 links location name rest hdirectory hhere habove hlength entry hplain hfound ih =>
    exact .down (not_not.mp hdirectory) ⟨hhere, habove, Nat.not_lt.mp hlength⟩ hfound hplain (ih h)
  -- The other cases end without an entry.
  | _ => cases h

/-- A walk finds what the names lead to. -/
theorem walk_eq_found_iff :
    fs.walk follow links location names = .ok (.found place node)
      ↔ Leads fs follow links location names place node :=
  ⟨leads_of_walk, Leads.walk_eq⟩

theorem Leads.node?_eq (h : Leads fs follow links location names place node) :
    fs.node? place = some node := by
  induction h with
  | arrived found => exact found
  | link _ _ found _ => exact found
  | here _ _ ih | above _ _ ih => exact ih
  | down _ _ _ _ _ ih | jump _ _ _ _ _ ih => exact ih

/-! ## Parts of the way -/

/-- Names on the way lead to a directory, where the others are looked up. -/
theorem Leads.split (h : Leads fs follow links location (names ++ more) place node)
    (hmore : more ≠ []) :
    ∃ directory left, Leads fs true links location names directory .directory ∧
      Leads fs follow left directory more place node := by
  generalize hall : names ++ more = all at h
  induction h generalizing names with
  | arrived found => exact absurd (List.append_eq_nil_iff.mp hall).2 hmore
  | here directory onward ih =>
    obtain ⟨rfl, rfl⟩ | ⟨others, rfl, hrest⟩ := List.append_eq_cons_iff.mp hall
    · exact ⟨_, _, .arrived directory, .here directory onward⟩
    · obtain ⟨middle, left, hfront, hback⟩ := ih hrest.symm
      exact ⟨middle, left, .here directory hfront, hback⟩
  | above directory onward ih =>
    obtain ⟨rfl, rfl⟩ | ⟨others, rfl, hrest⟩ := List.append_eq_cons_iff.mp hall
    · exact ⟨_, _, .arrived directory, .above directory onward⟩
    · obtain ⟨middle, left, hfront, hback⟩ := ih hrest.symm
      exact ⟨middle, left, .above directory hfront, hback⟩
  | down directory named found plain onward ih =>
    obtain ⟨rfl, rfl⟩ | ⟨others, rfl, hrest⟩ := List.append_eq_cons_iff.mp hall
    · exact ⟨_, _, .arrived directory, .down directory named found plain onward⟩
    · obtain ⟨middle, left, hfront, hback⟩ := ih hrest.symm
      exact ⟨middle, left, .down directory named found plain hfront, hback⟩
  | link directory named found kept =>
    obtain ⟨rfl, rfl⟩ | ⟨others, rfl, hrest⟩ := List.append_eq_cons_iff.mp hall
    · exact ⟨_, links, .arrived directory, .link directory named found kept⟩
    · exact absurd (List.append_eq_nil_iff.mp hrest.symm).2 hmore
  | jump directory named found followed onward ih =>
    obtain ⟨rfl, rfl⟩ | ⟨others, rfl, rfl⟩ := List.append_eq_cons_iff.mp hall
    · exact ⟨_, _, .arrived directory, .jump directory named found followed onward⟩
    · obtain ⟨middle, left, hfront, hback⟩ := ih (List.append_assoc _ _ _)
      exact ⟨middle, left, .jump directory named found (.inr rfl) hfront, hback⟩

/-- Behind the first names, a name of the directory itself may be left out. -/
theorem Leads.without_here (names : List Octets)
    (h : Leads fs true links location (names ++ more) place node) :
    Leads fs true links location (names ++ more.filter (· ≠ Path.here)) place node := by
  generalize hall : names ++ more = all at h
  induction h generalizing names more with
  | arrived found =>
    obtain ⟨rfl, rfl⟩ := List.append_eq_nil_iff.mp hall
    exact .arrived found
  | here directory _ ih =>
    obtain ⟨rfl, rfl⟩ | ⟨others, rfl, hrest⟩ := List.append_eq_cons_iff.mp hall
    · simpa using ih [] (List.nil_append _)
    · exact .here directory (ih _ hrest.symm)
  | above directory _ ih =>
    obtain ⟨rfl, rfl⟩ | ⟨others, rfl, hrest⟩ := List.append_eq_cons_iff.mp hall
    · exact .above directory (ih [] (List.nil_append _))
    · exact .above directory (ih _ hrest.symm)
  | down directory named found plain _ ih =>
    obtain ⟨rfl, rfl⟩ | ⟨others, rfl, hrest⟩ := List.append_eq_cons_iff.mp hall
    · rw [List.nil_append, List.filter_cons_of_pos (by simpa using named.ne_here)]
      exact .down directory named found plain (ih [] (List.nil_append _))
    · exact .down directory named found plain (ih _ hrest.symm)
  | link _ _ _ kept => cases kept
  | jump directory named found _ _ ih =>
    obtain ⟨rfl, rfl⟩ | ⟨others, rfl, rfl⟩ := List.append_eq_cons_iff.mp hall
    · -- The path in the link stays as it is.
      rw [List.nil_append, List.filter_cons_of_pos (by simpa using named.ne_here)]
      exact .jump directory named found (.inr rfl) (ih _ rfl)
    · have honward := ih _ (List.append_assoc _ _ _)
      rw [List.append_assoc] at honward
      exact .jump directory named found (.inr rfl) honward

/-! ## More and less -/

/-- All that a tree has is in the same place of another one. -/
structure Within (fs other : FileSystem) : Prop where
  workingDirectory : fs.workingDirectory = other.workingDirectory
  kept : ∀ location node, fs.node? location = some node → other.node? location = some node

theorem Within.refl (fs : FileSystem) : fs.Within fs := ⟨rfl, fun _ _ h => h⟩

theorem Within.trans {last : FileSystem} (h : fs.Within other) (hnext : other.Within last) :
    fs.Within last :=
  ⟨h.workingDirectory.trans hnext.workingDirectory,
    fun location node hnode => hnext.kept location node (h.kept location node hnode)⟩

theorem within_put (node : Node) (h : fs.node? place = none) : fs.Within (fs.put place node) := by
  refine ⟨rfl, fun location entry hentry => ?_⟩
  have hne : location ≠ place := fun heq => by simp [heq, h] at hentry
  rw [node?_put_of_ne fs node hne, hentry]

theorem Within.leads (hwithin : fs.Within other)
    (h : Leads fs follow links location names place node) :
    Leads other follow links location names place node := by
  have hkept {location node} := hwithin.kept location node
  induction h with
  | arrived found => exact .arrived (hkept found)
  | here directory _ ih => exact .here (hkept directory) ih
  | above directory _ ih => exact .above (hkept directory) ih
  | down directory named found plain _ ih =>
    exact .down (hkept directory) named (hkept found) plain ih
  | link directory named found kept => exact .link (hkept directory) named (hkept found) kept
  | jump directory named found followed _ ih =>
    exact .jump (hkept directory) named (hkept found) followed ih

end XdpSteering.FileSystem
