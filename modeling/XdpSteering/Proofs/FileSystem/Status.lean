import XdpSteering.Proofs.FileSystem.Entries

/-!
# What a path names and what can be removed

The last name of a path is looked up where the others lead, whether the path is looked at or its
entry is to be removed. So what is found at a path says what comes of removing it.
-/

namespace XdpSteering.FileSystem

open XdpSteering.Text XdpSteering.Fallible

variable {fs : FileSystem} {path : Path} {location place directory : Location} {name : Octets}
  {names more parents : List Octets} {node : Node} {follow : Bool} {links : Nat} {reason : OsError}

/-! ## Walks along more names -/

theorem walk_of_not_directory (h : fs.node? location ≠ some .directory) :
    fs.walk follow links location (name :: more) = .error .notDirectory := by
  rw [walk, if_pos h]

theorem walk_no_jump {target : Path} (hdirectory : fs.node? location = some .directory)
    (hname : EntryName name) (hfound : fs.node? (location ++ [name]) = some (.link target))
    (hmore : more ≠ []) : fs.walk follow 0 location (name :: more) = .error .tooManyLinks := by
  rw [walk]
  simp [hdirectory, hname.ne_here, hname.ne_above, Nat.not_lt.mpr hname.length_le, hfound, hmore]

/-- Behind what names lead to, a walk goes on from there. -/
theorem Leads.walk_append (h : Leads fs true links location names place node) (hmore : more ≠ []) :
    ∃ left, fs.walk follow links location (names ++ more) = fs.walk follow left place more := by
  induction h with
  | arrived found => exact ⟨_, rfl⟩
  | here directory _ ih =>
    obtain ⟨left, hwalk⟩ := ih
    exact ⟨left, (walk_here directory).trans hwalk⟩
  | above directory _ ih =>
    obtain ⟨left, hwalk⟩ := ih
    exact ⟨left, (walk_above directory).trans hwalk⟩
  | down directory named found plain _ ih =>
    obtain ⟨left, hwalk⟩ := ih
    exact ⟨left, (walk_down directory named found plain).trans hwalk⟩
  | link _ _ _ kept => cases kept
  | @jump _ _ _ _ rest _ _ directory named found _ _ ih =>
    obtain ⟨left, hwalk⟩ := ih
    have hgoes := List.append_ne_nil_of_right_ne_nil rest hmore
    refine ⟨left, (walk_jump directory named found (.inl hgoes)).trans ?_⟩
    rw [← List.append_assoc, hwalk]

/-- What stops a walk stops it with more names too. Only a missing entry counts for less where the
names end than where they go on. -/
theorem walk_append_of_error (h : fs.walk true links location names = .error reason)
    (hreason : reason ≠ .noEntry) (hmore : more ≠ []) :
    fs.walk follow links location (names ++ more) = .error reason := by
  fun_induction walk fs true links location names with
  | case3 links location name rest hdirectory =>
    rw [← h]
    exact walk_of_not_directory hdirectory
  | case4 links location rest hdirectory ih =>
    rw [List.cons_append, walk_here (not_not.mp hdirectory), ih h]
  | case5 links location rest hdirectory _ ih =>
    rw [List.cons_append, walk_above (not_not.mp hdirectory), ih h]
  | case6 links location name rest hdirectory hhere habove hlength =>
    rw [← h, List.cons_append, walk, if_neg hdirectory, if_neg hhere, if_neg habove, if_pos hlength]
  | case10 location name rest hdirectory hhere habove hlength target hfound hgoes =>
    have hname : EntryName name := ⟨hhere, habove, Nat.not_lt.mp hlength⟩
    rw [← h]
    have hgoes := List.append_ne_nil_of_right_ne_nil rest hmore
    exact walk_no_jump (not_not.mp hdirectory) hname hfound hgoes
  | case11 location name rest hdirectory hhere habove hlength target hfound hgoes links ih =>
    have hname : EntryName name := ⟨hhere, habove, Nat.not_lt.mp hlength⟩
    have hgoes := List.append_ne_nil_of_right_ne_nil rest hmore
    rw [List.cons_append, walk_jump (not_not.mp hdirectory) hname hfound (.inl hgoes),
      ← List.append_assoc]
    exact ih h
  | case12 links location name rest hdirectory hhere habove hlength entry hplain hfound ih =>
    have hname : EntryName name := ⟨hhere, habove, Nat.not_lt.mp hlength⟩
    rw [List.cons_append, walk_down (not_not.mp hdirectory) hname hfound hplain, ih h]
  -- The other cases arrive or miss something.
  | _ => exact absurd h (by simp [hreason.symm])

/-! ## Looking at an entry and removing it -/

/-- The last name of a path leads to the entry with this name and nowhere else. -/
theorem leads_single_iff (hname : EntryName name) :
    Leads fs false links directory [name] place node ↔
      fs.node? directory = some .directory ∧ place = directory ++ [name] ∧
        fs.node? place = some node := by
  constructor
  · intro h
    cases h with
    | here => exact absurd rfl hname.ne_here
    | above => exact absurd rfl hname.ne_above
    | down isDirectory _ found _ onward =>
      cases onward with
      | arrived arrives => exact ⟨isDirectory, rfl, arrives⟩
    | link isDirectory _ found _ => exact ⟨isDirectory, rfl, found⟩
    | jump _ _ _ followed _ => simp at followed
  · rintro ⟨hdirectory, rfl, hfound⟩
    cases node with
    | link target => exact .link hdirectory hname hfound rfl
    | directory | file | device =>
      exact .down hdirectory hname hfound (by simp) (.arrived hfound)

abbrev arrival : Except OsError Place → Except OsError (Location × Node)
  | .ok (.found place node) => .ok (place, node)
  | .ok (.vacant ..) => .error .noEntry
  | .error reason => .error reason

theorem arrival_eq_ok_iff {walked : Except OsError Place} :
    arrival walked = .ok (place, node) ↔ walked = .ok (.found place node) := by
  rcases walked with _ | _ | _ <;> simp [arrival]

theorem arrival_eq_error_iff {walked : Except OsError Place} :
    arrival walked = .error reason ↔
      walked = .error reason ∨
        reason = .noEntry ∧ ∃ directory name, walked = .ok (.vacant directory name) := by
  rcases walked with _ | _ | _ <;> simp [arrival, eq_comm]

theorem linkStatus_eq (hcheck : checkPath path = .ok ()) :
    fs.linkStatus path = arrival (fs.walk false maxLinks (fs.origin path) (steps path)) := by
  simp only [linkStatus, locate, hcheck, bind, Except.bind]
  cases fs.walk false maxLinks (fs.origin path) (steps path) with
  | error => rfl
  | ok target => cases target <;> rfl

theorem status_eq (hcheck : checkPath path = .ok ()) :
    fs.status path = arrival (fs.walk true maxLinks (fs.origin path) (steps path)) := by
  simp only [status, locate, hcheck, bind, Except.bind]
  cases fs.walk true maxLinks (fs.origin path) (steps path) with
  | error => rfl
  | ok target => cases target <;> rfl

theorem linkStatus_eq_ok_iff :
    fs.linkStatus path = .ok (place, node) ↔
      checkPath path = .ok () ∧
        Leads fs false maxLinks (fs.origin path) (steps path) place node := by
  rw [← walk_eq_found_iff]
  cases hcheck : checkPath path with
  | error reason => simp [linkStatus, locate, hcheck, bind, Except.bind]
  | ok checked => simp [linkStatus_eq hcheck, arrival_eq_ok_iff]

theorem status_eq_ok_iff :
    fs.status path = .ok (place, node) ↔
      checkPath path = .ok () ∧
        Leads fs true maxLinks (fs.origin path) (steps path) place node := by
  rw [← walk_eq_found_iff]
  cases hcheck : checkPath path with
  | error reason => simp [status, locate, hcheck, bind, Except.bind]
  | ok checked => simp [status_eq hcheck, arrival_eq_ok_iff]

/-- What a path names is the same in every tree that has more. -/
theorem Within.linkStatus {other : FileSystem} {found : Location × Node}
    (hwithin : fs.Within other) (h : fs.linkStatus path = .ok found) :
    other.linkStatus path = .ok found := by
  rw [linkStatus_eq_ok_iff] at h ⊢
  exact ⟨h.1, hwithin.origin_eq path ▸ hwithin.leads h.2⟩

theorem Within.status {other : FileSystem} {found : Location × Node}
    (hwithin : fs.Within other) (h : fs.status path = .ok found) :
    other.status path = .ok found := by
  rw [status_eq_ok_iff] at h ⊢
  exact ⟨h.1, hwithin.origin_eq path ▸ hwithin.leads h.2⟩

theorem steps_eq (hnames : path.names = names) (hslash : path.endsInSlash = false) :
    steps path = names := by
  rw [steps, hslash, hnames]
  rfl

section

variable (hnames : path.names = parents ++ [name]) (hname : EntryName name)
  (hslash : path.endsInSlash = false)

include hnames hname hslash

/-- What is found at a path is in the directory to which the names in front of the last one lead. -/
theorem leads_of_linkStatus (h : fs.linkStatus path = .ok (place, node)) :
    checkPath path = .ok () ∧ ∃ directory,
      Leads fs true maxLinks (fs.origin path) parents directory .directory ∧
        place = directory ++ [name] ∧ fs.node? place = some node := by
  obtain ⟨target, hlocate, htarget⟩ := bind_eq_ok_iff.mp h
  obtain ⟨⟨⟩, hcheck, hwalk⟩ := bind_eq_ok_iff.mp hlocate
  cases target with
  | vacant => cases htarget
  | found found entry =>
    obtain ⟨rfl, rfl⟩ := Prod.mk.inj (Except.ok.inj htarget)
    rw [steps_eq hnames hslash] at hwalk
    obtain ⟨directory, left, hfront, hback⟩ := (leads_of_walk hwalk).split (List.cons_ne_nil _ _)
    obtain ⟨-, hplace, hfound⟩ := (leads_single_iff hname).mp hback
    exact ⟨hcheck, directory, hfront, hplace, hfound⟩

theorem linkStatus_of_leads (hcheck : checkPath path = .ok ())
    (hfront : Leads fs true maxLinks (fs.origin path) parents directory .directory)
    (hfound : fs.node? (directory ++ [name]) = some node) :
    fs.linkStatus path = .ok (directory ++ [name], node) := by
  obtain ⟨left, hgoes⟩ := hfront.walk_append (List.cons_ne_nil name [])
  have hback : Leads fs false left directory [name] (directory ++ [name]) node :=
    (leads_single_iff hname).mpr ⟨hfront.node?_eq, rfl, hfound⟩
  rw [linkStatus_eq_ok_iff, steps_eq hnames hslash]
  exact ⟨hcheck, leads_of_walk (hgoes.trans hback.walk_eq)⟩

theorem names_of_linkStatus (h : fs.linkStatus path = .ok (place, node)) : fs.Names path place := by
  obtain ⟨-, directory, hfront, rfl, -⟩ := leads_of_linkStatus hnames hname hslash h
  exact names_of_leads hnames hname.ne_here hfront

/-- What is found at a path is removed, unless it is a directory. -/
theorem unlink_of_linkStatus (h : fs.linkStatus path = .ok (place, node)) :
    fs.unlink path =
      if node = .directory then .error .isDirectory else .ok (fs.remove place) := by
  obtain ⟨hcheck, directory, hfront, rfl, hfound⟩ := leads_of_linkStatus hnames hname hslash h
  simp only [unlink, slot_of_entryName hcheck hnames hname hfront, hfound, hslash, bind,
    Except.bind]
  cases node <;> rfl

/-- Where nothing is found there is nothing to be removed. -/
theorem unlink_of_linkStatus_noEntry (h : fs.linkStatus path = .error .noEntry) :
    fs.unlink path = .error .noEntry := by
  cases hcheck : checkPath path with
  | error reason =>
    obtain rfl : reason = .noEntry := by
      simpa [linkStatus, locate, hcheck, bind, Except.bind] using h
    simp only [unlink, FileSystem.slot, hcheck, bind, Except.bind]
  | ok checked =>
    have hlook : fs.linkStatus path = _ := linkStatus_eq hcheck
    rw [steps_eq hnames hslash, h] at hlook
    cases hwalk : fs.walk true maxLinks (fs.origin path) parents with
    | error reason =>
      by_cases hreason : reason = .noEntry
      · simp [unlink, FileSystem.slot, hcheck, hnames, hwalk, hreason, bind, Except.bind]
      · rw [walk_append_of_error hwalk hreason (List.cons_ne_nil name [])] at hlook
        exact absurd (Except.error.inj hlook).symm hreason
    | ok target =>
      cases target with
      | vacant => simp [unlink, FileSystem.slot, hcheck, hnames, hwalk, bind, Except.bind]
      | found directory entry =>
        have hfront := leads_of_walk hwalk
        obtain ⟨left, hgoes⟩ := hfront.walk_append (List.cons_ne_nil name [])
        rw [hgoes] at hlook
        by_cases hdirectory : entry = .directory
        · subst hdirectory
          cases hentry : fs.node? (directory ++ [name]) with
          | none =>
            simp only [unlink, slot_of_entryName hcheck hnames hname hfront, hentry, bind,
              Except.bind]
          | some node =>
            have hback : Leads fs false left directory [name] (directory ++ [name]) node :=
              (leads_single_iff hname).mpr ⟨hfront.node?_eq, rfl, hentry⟩
            rw [hback.walk_eq] at hlook
            cases hlook
        · rw [walk_of_not_directory (by simp [hfront.node?_eq, hdirectory])] at hlook
          simp [arrival, OsError.notDirectory, OsError.noEntry] at hlook

end

/-! ## What a path resolves to -/

/-- A path resolves to an entry: it can be looked up, and its names lead there, links followed. -/
structure ResolvesTo (fs : FileSystem) (path : Path) (node : Node) : Prop where
  ne_nil : path.octets ≠ []
  length_le : path.octets.length ≤ maxPath
  no_zero : 0 ∉ path.octets
  leads : ∃ place, Leads fs true maxLinks (fs.origin path) (steps path) place node

theorem checkPath_eq_ok_iff :
    checkPath path = .ok () ↔
      path.octets ≠ [] ∧ path.octets.length ≤ maxPath ∧ 0 ∉ path.octets := by
  unfold checkPath
  by_cases hzero : 0 ∈ path.octets
  · simp [hzero]
  by_cases hempty : path.octets = []
  · simp [hempty]
  by_cases hlength : maxPath < path.octets.length
  · simp [hzero, hempty, hlength]
  · simp [hzero, hempty, hlength, Nat.not_lt.mp hlength]

theorem resolvesTo_iff : fs.ResolvesTo path node ↔ ∃ place, fs.status path = .ok (place, node) := by
  simp only [status_eq_ok_iff, checkPath_eq_ok_iff]
  constructor
  · rintro ⟨hne, hlength, hzero, place, hleads⟩
    exact ⟨place, ⟨hne, hlength, hzero⟩, hleads⟩
  · rintro ⟨place, ⟨hne, hlength, hzero⟩, hleads⟩
    exact ⟨hne, hlength, hzero, place, hleads⟩

theorem ResolvesTo.unique {other : Node} (h : fs.ResolvesTo path node)
    (hother : fs.ResolvesTo path other) : node = other := by
  obtain ⟨place, hstatus⟩ := resolvesTo_iff.mp h
  obtain ⟨second, hsecond⟩ := resolvesTo_iff.mp hother
  exact (Prod.mk.inj (Except.ok.inj (hstatus.symm.trans hsecond))).2

theorem pathExists_iff : fs.pathExists path = true ↔ ∃ node, fs.ResolvesTo path node := by
  simp only [resolvesTo_iff, pathExists]
  cases fs.status path with
  | error reason => simp
  | ok found => exact ⟨fun _ => ⟨found.2, found.1, rfl⟩, fun _ => rfl⟩

theorem isFile_iff : fs.isFile path = true ↔ ∃ content, fs.ResolvesTo path (.file content) := by
  simp only [resolvesTo_iff, isFile]
  cases fs.status path with
  | error reason => simp
  | ok found =>
    obtain ⟨place, node⟩ := found
    cases node <;> simp

end XdpSteering.FileSystem
