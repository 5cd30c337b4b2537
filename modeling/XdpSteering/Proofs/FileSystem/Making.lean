import XdpSteering.Proofs.FileSystem.Directories
import XdpSteering.Proofs.FileSystem.Trees

/-!
# Making what is missing

Directories are made only behind names that lead to a directory, and only where it lacks the next
one. What a path leads to behind that name is new, unless the path goes up again.
-/

namespace XdpSteering.FileSystem

open XdpSteering.Text XdpSteering.Fallible

/-- The names in front of a component lead to a directory that has no entry with its name. -/
structure Lacks (fs : FileSystem) (path : Path) (directory : Location) (parents : List Octets)
    (name : Octets) (rest : List Octets) : Prop where
  components : path.components = parents ++ name :: rest
  named : EntryName name
  leads : Leads fs true maxLinks (fs.origin path) parents directory .directory
  absent : fs.node? (directory ++ [name]) = none

/-- Wherever a path goes up, it does so from a directory that is there. -/
def GoesUpWithin (fs : FileSystem) (path : Path) : Prop :=
  ∀ front rest, path.components = front ++ Path.above :: rest →
    ∃ directory, Leads fs true maxLinks (fs.origin path) front directory .directory

variable {fs after : FileSystem} {path : Path} {location place directory : Location}
  {name : Octets} {names parents rest : List Octets} {node : Node} {follow : Bool} {links : Nat}

/-! ## What is made -/

theorem lacks_of_makeDirectory (h : fs.makeDirectory path = .ok after) :
    ∃ directory parents name rest, fs.Lacks path directory parents name rest := by
  obtain ⟨last, hslot, h⟩ := bind_eq_ok_iff.mp h
  match last with
  | .root | .here | .above => cases h
  | .entry ⟨_, _, some _⟩ => cases h
  | .entry ⟨directory, name, none⟩ =>
    obtain ⟨-, -, -, hname, -, hnode⟩ := slot_eq_entry hslot
    obtain ⟨parents, last, above, hcomponents, hleads, hplace⟩ := (names_of_slot hslot).1
    obtain ⟨rfl, hlast⟩ := List.append_inj' hplace rfl
    obtain rfl : name = last := (List.cons.inj hlast).1
    exact ⟨directory, parents, name, [], hcomponents, hname, hleads, hnode.symm⟩

theorem Lacks.of_parent (h : fs.Lacks (path.parent?.getD ⟨[]⟩) directory parents name rest) :
    ∃ last, fs.Lacks path directory parents name (rest ++ [last]) := by
  obtain ⟨habsolute, last, hcomponents⟩ := components_of_parent h.components
  have hleads := h.leads
  rw [origin, habsolute] at hleads
  exact ⟨last, hcomponents, h.named, hleads, h.absent⟩

theorem ensureDirectory_of_error {reason : OsError} (h : fs.makeDirectory path = .error reason)
    (hensure : fs.ensureDirectory path = .ok after) : after = fs := by
  rw [ensureDirectory, h] at hensure
  dsimp only at hensure
  split at hensure
  · exact (Except.ok.inj hensure).symm
  · cases hensure

/-- Where a directory cannot be made at once, it takes one that is made above. -/
theorem makeDirectoriesWithin_of_error {fuel : Nat} {reason : OsError}
    (h : fs.makeDirectory path = .error reason)
    (habove : (fs.makeDirectoriesWithin (path.parent?.getD ⟨[]⟩) fuel).1 = fs) :
    (fs.makeDirectoriesWithin path (fuel + 1)).1 = fs := by
  unfold makeDirectoriesWithin
  rw [h]
  generalize fs.makeDirectoriesWithin (path.parent?.getD ⟨[]⟩) fuel = made at habove
  obtain ⟨made, result⟩ := made
  obtain rfl : made = fs := habove
  dsimp only
  split
  · rfl
  split
  · cases result with
    | error other => rfl
    | ok checked =>
      cases hensure : made.ensureDirectory path with
      | ok last => simpa only [hensure] using ensureDirectory_of_error h hensure
      | error other => simp only [hensure]
  · split <;> rfl

/-- Where anything is made, a directory lacks the next component. -/
theorem lacks_of_makeDirectoriesWithin {fuel : Nat}
    (h : (fs.makeDirectoriesWithin path fuel).1 ≠ fs) :
    ∃ directory parents name rest, fs.Lacks path directory parents name rest := by
  induction fuel generalizing path with
  | zero => exact absurd rfl h
  | succ fuel ih =>
    cases hmake : fs.makeDirectory path with
    | ok made => exact lacks_of_makeDirectory hmake
    | error reason =>
      obtain ⟨directory, parents, name, rest, hlacks⟩ :=
        ih (mt (makeDirectoriesWithin_of_error hmake) h)
      obtain ⟨last, hlonger⟩ := hlacks.of_parent
      exact ⟨directory, parents, name, rest ++ [last], hlonger⟩

section

variable (hnames : path.names = parents ++ [name]) (hname : EntryName name)
  (hslash : path.endsInSlash = false)

include hnames hname hslash

theorem makeDirectory_of_linkStatus (h : fs.linkStatus path = .ok (place, node)) :
    fs.makeDirectory path = .error .nameTaken := by
  obtain ⟨hcheck, directory, hfront, rfl, hfound⟩ := leads_of_linkStatus hnames hname hslash h
  simp only [makeDirectory, slot_of_entryName hcheck hnames hname hfront, hfound, bind, Except.bind]

/-- Where there is an entry already, nothing is made. -/
theorem makeDirectories_of_linkStatus (h : fs.linkStatus path = .ok (place, node)) :
    (fs.makeDirectories path).1 = fs := by
  have hmake := makeDirectory_of_linkStatus hnames hname hslash h
  unfold makeDirectories makeDirectoriesWithin
  simp only [hmake, OsError.nameTaken, OsError.noEntry, OsError.system.injEq]
  split
  · rfl
  · rw [if_neg (by decide)]
    split <;> rfl

end

/-! ## What is new -/

theorem Leads.unique {other : Location} {entry : Node}
    (h : Leads fs follow links location names place node)
    (hother : Leads fs follow links location names other entry) : other = place ∧ entry = node := by
  have hsame := hother.walk_eq.symm.trans h.walk_eq
  exact Place.found.inj (Except.ok.inj hsame)

/-- Below a directory that is new there is only what is new, and no link. -/
theorem Leads.absent_of_absent (htree : fs.IsTree) (hgrows : fs.GrowsAlong path after)
    (h : Leads after follow links location names place node) (habsent : fs.node? location = none)
    (habove : Path.above ∉ names) : fs.node? place = none := by
  induction h with
  | arrived => exact habsent
  | here _ _ ih => exact ih habsent (fun hmem => habove (List.mem_cons_of_mem _ hmem))
  | above => exact absurd List.mem_cons_self habove
  | down _ _ _ _ _ ih =>
    exact ih (htree.absent_concat habsent _) (fun hmem => habove (List.mem_cons_of_mem _ hmem))
  | link => exact htree.absent_concat habsent _
  | jump _ _ found _ _ _ =>
    rcases hgrows.fresh _ _ found with hold | ⟨hdirectory, -⟩
    · rw [htree.absent_concat habsent _] at hold
      cases hold
    · cases hdirectory

theorem Leads.absent_of_lacks (htree : fs.IsTree) (hgrows : fs.GrowsAlong path after)
    (hname : EntryName name) (habsent : fs.node? (directory ++ [name]) = none)
    (h : Leads after follow links directory (name :: rest) place node)
    (habove : Path.above ∉ rest) : fs.node? place = none := by
  cases h with
  | here => exact absurd rfl hname.ne_here
  | above => exact absurd rfl hname.ne_above
  | down _ _ _ _ onward => exact onward.absent_of_absent htree hgrows habsent habove
  | link => exact habsent
  | jump _ _ found _ _ =>
    rcases hgrows.fresh _ _ found with hold | ⟨hdirectory, -⟩
    · rw [habsent] at hold
      cases hold
    · cases hdirectory

theorem goesUpWithin_of_not_mem (h : Path.above ∉ path.components) : fs.GoesUpWithin path :=
  fun front rest hcomponents => absurd (by simp [hcomponents]) h

theorem Lacks.above_not_mem (hlacks : fs.Lacks path directory parents name rest)
    (hup : fs.GoesUpWithin path) : Path.above ∉ rest := by
  intro hmem
  obtain ⟨inner, outer, rfl⟩ := List.append_of_mem hmem
  have hcomponents : path.components = (parents ++ name :: inner) ++ Path.above :: outer := by
    simp [hlacks.components]
  -- The names in front of this one would lead through the entry that is missing.
  obtain ⟨lower, hfront⟩ := hup _ _ hcomponents
  obtain ⟨middle, left, hmiddle, honward⟩ := hfront.split (List.cons_ne_nil name inner)
  obtain ⟨rfl, -⟩ := hlacks.leads.unique hmiddle
  exact honward.first_ne_none hlacks.named.ne_here hlacks.named.ne_above hlacks.absent

/-- What a path names once the missing directories were made is new, if something was missing and
the path goes up from nothing that was. -/
theorem absent_of_lacks (htree : fs.IsTree) (hgrows : fs.GrowsAlong path after)
    (hlacks : fs.Lacks path directory parents name rest)
    (hup : fs.GoesUpWithin path) (h : after.Names path place) :
    fs.node? place = none := by
  obtain ⟨front, last, above, hcomponents, hfront, rfl⟩ := h
  have habove := hlacks.above_not_mem hup
  have hleads := hgrows.within.leads hlacks.leads
  rw [hgrows.within.origin_eq path] at hleads
  have hsplit := hcomponents.symm.trans hlacks.components
  rcases List.eq_nil_or_concat rest with rfl | ⟨others, final, rfl⟩
  · -- The last component is the one that was missing.
    obtain ⟨rfl, hlast⟩ := List.append_inj' hsplit rfl
    obtain rfl : last = name := (List.cons.inj hlast).1
    obtain ⟨rfl, -⟩ := hfront.unique hleads
    exact hlacks.absent
  · rw [List.concat_eq_append, ← List.cons_append, ← List.append_assoc] at hsplit
    obtain ⟨rfl, -⟩ := List.append_inj' hsplit rfl
    have hothers : Path.above ∉ others := fun hmem => habove (by simp [hmem])
    obtain ⟨middle, left, hmiddle, honward⟩ := hfront.split (List.cons_ne_nil name others)
    obtain ⟨rfl, -⟩ := hmiddle.unique hleads
    exact htree.absent_concat
      (honward.absent_of_lacks htree hgrows hlacks.named hlacks.absent hothers) last

end XdpSteering.FileSystem
