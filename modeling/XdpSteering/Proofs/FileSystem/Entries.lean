import XdpSteering.Proofs.Fallible
import XdpSteering.Proofs.FileSystem.Resolution
import XdpSteering.Proofs.Path

/-!
# What changes leave alone

Every change of a file system is about the entry that a path names. Removing an entry, making the
directories on the way of a path, and removing a directory with all that is in it change nothing
anywhere else.
-/

namespace XdpSteering.FileSystem

open XdpSteering.Text XdpSteering.Fallible

/-- A path names an entry: what stands in front of the last component leads to its directory. -/
def Names (fs : FileSystem) (path : Path) (location : Location) : Prop :=
  ∃ parents name directory, path.components = parents ++ [name] ∧
    Leads fs true maxLinks (fs.origin path) parents directory .directory ∧
    location = directory ++ [name]

/-- An entry is on the way of a path: one of the components names it. -/
def OnTheWay (fs : FileSystem) (path : Path) (location : Location) : Prop :=
  ∃ parents name rest directory, path.components = parents ++ name :: rest ∧
    Leads fs true maxLinks (fs.origin path) parents directory .directory ∧
    location = directory ++ [name]

variable {fs after : FileSystem} {path parent : Path} {location place directory : Location}
  {name : Octets} {parents : List Octets} {node : Node} {slot : Slot}

theorem Names.onTheWay (h : fs.Names path place) : fs.OnTheWay path place := by
  obtain ⟨parents, name, directory, hcomponents, hleads, hplace⟩ := h
  exact ⟨parents, name, [], directory, hcomponents, hleads, hplace⟩

theorem Names.ne_root (h : fs.Names path place) : place ≠ [] := by
  obtain ⟨parents, name, directory, -, -, rfl⟩ := h
  simp

theorem Within.origin_eq {other : FileSystem} (hwithin : fs.Within other) (path : Path) :
    fs.origin path = other.origin path := by
  rw [origin, origin, hwithin.workingDirectory]

theorem Within.names {other : FileSystem} (hwithin : fs.Within other) (h : fs.Names path place) :
    other.Names path place := by
  obtain ⟨parents, name, directory, hcomponents, hleads, hplace⟩ := h
  exact ⟨parents, name, directory, hcomponents, hwithin.origin_eq path ▸ hwithin.leads hleads,
    hplace⟩

theorem Within.onTheWay {other : FileSystem} (hwithin : fs.Within other)
    (h : fs.OnTheWay path place) : other.OnTheWay path place := by
  obtain ⟨parents, name, rest, directory, hcomponents, hleads, hplace⟩ := h
  exact ⟨parents, name, rest, directory, hcomponents,
    hwithin.origin_eq path ▸ hwithin.leads hleads, hplace⟩

/-! ## Slots -/

theorem Leads.componentsOf {links : Nat} {names : List Octets}
    (h : Leads fs true links location names place node) (absolute : Bool) :
    Leads fs true links location (Path.componentsOf absolute names) place node := by
  cases names with
  | nil => exact h
  | cons first rest =>
    rw [Path.componentsOf]
    split
    · next hfirst =>
      obtain rfl : first = Path.here := by simpa using (Bool.and_eq_true_iff.mp hfirst).1
      have hrest := Leads.without_here [] h
      rwa [List.nil_append, List.filter_cons_of_neg (by simp)] at hrest
    · exact Leads.without_here [first] h

theorem names_of_leads (hnames : path.names = parents ++ [name]) (hhere : name ≠ Path.here)
    (h : Leads fs true maxLinks (fs.origin path) parents directory .directory) :
    fs.Names path (directory ++ [name]) := by
  refine ⟨Path.componentsOf path.isAbsolute parents, name, directory, ?_, h.componentsOf _, rfl⟩
  rw [Path.components_eq, hnames, Path.componentsOf_concat parents hhere]

theorem slot_of_root (hcheck : checkPath path = .ok ()) (hnames : path.names = []) :
    fs.slot path = .ok .root := by
  simp [FileSystem.slot, hcheck, hnames, bind, Except.bind]

/-- The last name of a path is looked up where the others lead. -/
theorem slot_of_leads (hcheck : checkPath path = .ok ()) (hnames : path.names = parents ++ [name])
    (h : Leads fs true maxLinks (fs.origin path) parents directory .directory) :
    fs.slot path =
      if name = Path.here then .ok .here
      else if name = Path.above then .ok .above
      else if maxName < name.length then .error .nameTooLong
      else .ok (.entry { directory, name, node := fs.node? (directory ++ [name]) }) := by
  simp [FileSystem.slot, hcheck, hnames, h.walk_eq, bind, Except.bind]

theorem slot_of_entryName (hcheck : checkPath path = .ok ())
    (hnames : path.names = parents ++ [name]) (hname : EntryName name)
    (h : Leads fs true maxLinks (fs.origin path) parents directory .directory) :
    fs.slot path = .ok (.entry { directory, name, node := fs.node? (directory ++ [name]) }) := by
  rw [slot_of_leads hcheck hnames h, if_neg hname.ne_here, if_neg hname.ne_above,
    if_neg (Nat.not_lt.mpr hname.length_le)]

theorem slot_eq_entry (h : fs.slot path = .ok (.entry slot)) :
    ∃ parents, checkPath path = .ok () ∧ path.names = parents ++ [slot.name] ∧
      EntryName slot.name ∧
      Leads fs true maxLinks (fs.origin path) parents slot.directory .directory ∧
      slot.node = fs.node? (slot.directory ++ [slot.name]) := by
  have hslot := h
  unfold FileSystem.slot at h
  obtain ⟨⟨⟩, hcheck, h⟩ := bind_eq_ok_iff.mp h
  cases hlast : path.names.getLast? with
  | none => simp [hlast] at h
  | some name =>
    rw [hlast] at h
    obtain ⟨found, hwalk, h⟩ := bind_eq_ok_iff.mp h
    cases found with
    | vacant => cases h
    | found directory node =>
      by_cases hdirectory : node = .directory
      · subst hdirectory
        have hnames : path.names = path.names.dropLast ++ [name] := by
          obtain ⟨front, hfront⟩ := List.getLast?_eq_some_iff.mp hlast
          rw [hfront, List.dropLast_concat]
        have hleads := leads_of_walk hwalk
        rw [slot_of_leads hcheck hnames hleads] at hslot
        split at hslot
        · cases hslot
        split at hslot
        · cases hslot
        split at hslot
        · cases hslot
        next hhere habove hlength =>
          obtain rfl := LastName.entry.inj (Except.ok.inj hslot)
          exact ⟨_, hcheck, hnames, ⟨hhere, habove, Nat.not_lt.mp hlength⟩, hleads, rfl⟩
      · simp [hdirectory] at h

theorem names_of_slot (h : fs.slot path = .ok (.entry slot)) :
    fs.Names path (slot.directory ++ [slot.name]) ∧
      slot.node = fs.node? (slot.directory ++ [slot.name]) := by
  obtain ⟨parents, -, hnames, hname, hleads, hnode⟩ := slot_eq_entry h
  exact ⟨names_of_leads hnames hname.ne_here hleads, hnode⟩

/-! ## Single entries -/

theorem unlink_eq_ok (h : fs.unlink path = .ok after) :
    ∃ place node, fs.Names path place ∧ fs.node? place = some node ∧ node ≠ .directory ∧
      after = fs.remove place := by
  obtain ⟨last, hslot, h⟩ := bind_eq_ok_iff.mp h
  cases last with
  | entry slot =>
    obtain ⟨hnames, hnode⟩ := names_of_slot hslot
    dsimp only at h
    split at h
    · cases h
    · cases h
    · next node hdirectory hfound =>
      split at h
      · cases h
      · exact ⟨_, node, hnames, hnode.symm.trans hfound, hdirectory,
          (Except.ok.inj h).symm⟩
  | root | here | above => cases h

theorem makeDirectory_eq_ok (h : fs.makeDirectory path = .ok after) :
    ∃ place, fs.Names path place ∧ fs.node? place = none ∧ after = fs.put place .directory := by
  obtain ⟨last, hslot, h⟩ := bind_eq_ok_iff.mp h
  cases last with
  | entry slot =>
    obtain ⟨hnames, hnode⟩ := names_of_slot hslot
    dsimp only at h
    split at h
    · next habsent => exact ⟨_, hnames, hnode.symm.trans habsent, (Except.ok.inj h).symm⟩
    · cases h
  | root | here | above => cases h

theorem removeDirectory_eq_ok (h : fs.removeDirectory path = .ok after) :
    ∃ place, fs.Names path place ∧ after = fs.remove place := by
  obtain ⟨last, hslot, h⟩ := bind_eq_ok_iff.mp h
  cases last with
  | entry slot =>
    obtain ⟨hnames, -⟩ := names_of_slot hslot
    dsimp only at h
    split at h
    · cases h
    · split at h
      · cases h
      · exact ⟨_, hnames, (Except.ok.inj h).symm⟩
    · cases h
  | root | here | above => cases h

end XdpSteering.FileSystem
