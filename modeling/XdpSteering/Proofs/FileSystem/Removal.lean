import XdpSteering.Proofs.FileSystem.Entries

/-!
# What is gone

An entry that was removed cannot be removed again, and its path leads nowhere: the names in front of
the last one may have led through the entry itself, but they lead to nothing else than before.
-/

namespace XdpSteering.FileSystem

open XdpSteering.Text XdpSteering.Fallible

variable {fs after : FileSystem} {path : Path} {location place directory : Location}
  {name : Octets} {names parents : List Octets} {node : Node} {links : Nat}

/-! ## A walk after a removal -/

/-- A walk for a directory arrived at it, or found nothing. -/
inductive Arrived (directory : Location) : Except OsError Place → Prop where
  | found : Arrived directory (.ok (.found directory .directory))
  | vacant (above : Location) (name : Octets) : Arrived directory (.ok (.vacant above name))
  | absent : Arrived directory (.error .noEntry)

theorem arrived_of_absent (hdirectory : fs.node? location = some .directory)
    (hname : EntryName name) (habsent : fs.node? (location ++ [name]) = none)
    (rest : List Octets) :
    Arrived directory (fs.walk true links location (name :: rest)) := by
  rw [walk_absent hdirectory hname habsent]
  split
  · exact .vacant location name
  · exact .absent

theorem arrived_remove (hplace : fs.node? place = some node) (hnode : node ≠ .directory)
    (h : Leads fs true links location names directory .directory) :
    Arrived directory ((fs.remove place).walk true links location names) := by
  have hroot : place ≠ [] := by
    rintro rfl
    exact hnode (Option.some.inj hplace).symm
  have hkept {location : Location} (hdirectory : fs.node? location = some .directory) :
      (fs.remove place).node? location = some .directory := by
    have hne : location ≠ place := by
      rintro rfl
      exact hnode (Option.some.inj (hplace.symm.trans hdirectory))
    rw [node?_remove_of_ne fs hne, hdirectory]
  generalize hlast : Node.directory = last at h
  -- The steps in front of the removed entry are made again; behind it there are none.
  induction h with
  | arrived found =>
    rw [(Leads.arrived (hkept (hlast ▸ found))).walk_eq]
    exact .found
  | here directory _ ih =>
    rw [walk_here (hkept directory)]
    exact ih hlast
  | above directory _ ih =>
    rw [walk_above (hkept directory)]
    exact ih hlast
  | @down links location target name rest entry _ directory named found plain _ ih =>
    by_cases hgone : location ++ [name] = place
    · exact arrived_of_absent (hkept directory) named
        (hgone ▸ node?_remove_self fs place hroot) rest
    · rw [walk_down (hkept directory) named
        ((node?_remove_of_ne fs hgone).trans found) plain]
      exact ih hlast
  | link _ _ _ kept => cases kept
  | @jump links location target name rest _ _ directory named found followed _ ih =>
    by_cases hgone : location ++ [name] = place
    · exact arrived_of_absent (hkept directory) named
        (hgone ▸ node?_remove_self fs place hroot) rest
    · rw [walk_jump (hkept directory) named
        ((node?_remove_of_ne fs hgone).trans found) followed]
      exact ih hlast

/-! ## Removing twice -/

/-- What was removed cannot be removed again. -/
theorem unlink_gone (h : fs.unlink path = .ok after) : after.unlink path = .error .noEntry := by
  obtain ⟨last, hslot, h⟩ := bind_eq_ok_iff.mp h
  cases last with
  | root | here | above => cases h
  | entry slot =>
    obtain ⟨parents, hcheck, hnames, hname, hleads, hnode⟩ := slot_eq_entry hslot
    dsimp only at h
    split at h
    · cases h
    · cases h
    next node hdirectory hfound =>
    split at h
    · cases h
    obtain rfl := Except.ok.inj h
    have harrived := arrived_remove (hnode.symm.trans hfound) hdirectory hleads
    have horigin : (fs.remove (slot.directory ++ [slot.name])).origin path = fs.origin path := rfl
    have habsent : (fs.remove (slot.directory ++ [slot.name])).node?
        (slot.directory ++ [slot.name]) = none := node?_remove_self fs _ (by simp)
    generalize fs.remove (slot.directory ++ [slot.name]) = after at harrived horigin habsent
    have hslotAfter : after.slot path = .error .noEntry ∨
        ∃ slot, after.slot path = .ok (.entry slot) ∧ slot.node = none := by
      generalize hwalk : after.walk true maxLinks (fs.origin path) parents = walked at harrived
      cases harrived with
      | found =>
        have hfront := horigin ▸ leads_of_walk hwalk
        exact .inr ⟨_, slot_of_entryName hcheck hnames hname hfront, habsent⟩
      | vacant | absent =>
        refine .inl ?_
        simp [FileSystem.slot, hcheck, hnames, horigin, hwalk, bind, Except.bind]
    rcases hslotAfter with herror | ⟨slot, hentry, hnone⟩
    · simp [unlink, herror, bind, Except.bind]
    · simp [unlink, hentry, hnone, bind, Except.bind]

/-! ## Paths that lead nowhere -/

theorem Leads.first_ne_none {follow : Bool} {rest : List Octets}
    (h : Leads fs follow links location (name :: rest) place node) (hhere : name ≠ Path.here)
    (habove : name ≠ Path.above) : fs.node? (location ++ [name]) ≠ none := by
  cases h with
  | here => exact absurd rfl hhere
  | above => exact absurd rfl habove
  | down _ _ found _ _ => simp [found]
  | link _ _ found _ => simp [found]
  | jump _ _ found _ _ => simp [found]

theorem unlink_ne_noEntry_of_leads {follow : Bool} {left : Nat} {more : List Octets}
    (hcheck : checkPath path = .ok ()) (hnames : path.names = parents ++ [name])
    (hfront : Leads fs true maxLinks (fs.origin path) parents directory .directory)
    (hback : Leads fs follow left directory (name :: more) place node) :
    fs.unlink path ≠ .error .noEntry := by
  unfold unlink
  rw [slot_of_leads hcheck hnames hfront]
  by_cases hhere : name = Path.here
  · rw [if_pos hhere]
    simp [bind, Except.bind, OsError.isDirectory, OsError.noEntry]
  by_cases habove : name = Path.above
  · rw [if_neg hhere, if_pos habove]
    simp [bind, Except.bind, OsError.isDirectory, OsError.noEntry]
  rw [if_neg hhere, if_neg habove]
  split
  · simp [bind, Except.bind, OsError.nameTooLong, OsError.noEntry]
  obtain ⟨entry, hentry⟩ := Option.ne_none_iff_exists'.mp (hback.first_ne_none hhere habove)
  simp only [hentry, bind, Except.bind]
  cases entry with
  | directory => simp [OsError.isDirectory, OsError.noEntry]
  | file | link | device =>
    dsimp only
    split <;> simp [OsError.notDirectory, OsError.noEntry]

/-- A path whose last name cannot be removed for want of an entry leads nowhere. -/
theorem locate_ne_found_of_unlink {follow : Bool} (h : fs.unlink path = .error .noEntry) :
    fs.locate follow path ≠ .ok (.found place node) := by
  intro hlocate
  obtain ⟨⟨⟩, hcheck, hwalk⟩ := bind_eq_ok_iff.mp hlocate
  rcases List.eq_nil_or_concat path.names with hnames | ⟨parents, name, hnames⟩
  · simp [unlink, slot_of_root hcheck hnames, bind, Except.bind, OsError.isDirectory,
      OsError.noEntry] at h
  · rw [List.concat_eq_append] at hnames
    obtain ⟨more, hsteps⟩ : ∃ more, steps path = parents ++ name :: more := by
      unfold steps
      split
      · exact ⟨[Path.here], by simp [hnames]⟩
      · exact ⟨[], hnames⟩
    rw [hsteps] at hwalk
    obtain ⟨directory, left, hfront, hback⟩ :=
      (leads_of_walk hwalk).split (List.cons_ne_nil _ _)
    exact unlink_ne_noEntry_of_leads hcheck hnames hfront hback h

theorem pathExists_of_unlink (h : fs.unlink path = .error .noEntry) :
    fs.pathExists path = false := by
  unfold pathExists
  split
  · next found hstatus =>
    obtain ⟨target, hlocate, htarget⟩ := bind_eq_ok_iff.mp hstatus
    cases target with
    | vacant => cases htarget
    | found place node => exact absurd hlocate (locate_ne_found_of_unlink h)
  · rfl

theorem linkStatus_ne_ok_of_unlink (h : fs.unlink path = .error .noEntry) :
    fs.linkStatus path ≠ .ok (place, node) := by
  intro hstatus
  obtain ⟨target, hlocate, htarget⟩ := bind_eq_ok_iff.mp hstatus
  cases target with
  | vacant => cases htarget
  | found => exact locate_ne_found_of_unlink h hlocate

end XdpSteering.FileSystem
