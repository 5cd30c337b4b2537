import XdpSteering.Proofs.FileSystem.Status

/-!
# Making and removing directories

A directory is made with those above it that are missing, and removed with all that is in it. In
either case, and wherever it stops, nothing changes but on the way of the path or below what the
path names.
-/

namespace XdpSteering.FileSystem

open XdpSteering.Text XdpSteering.Fallible

variable {fs middle after : FileSystem} {path : Path} {location place directory : Location}
  {name : Octets} {parents : List Octets} {node : Node}

/-! ## Making directories -/

/-- Directories were made on the way of a path, and nothing else changed. -/
structure GrowsAlong (fs : FileSystem) (path : Path) (after : FileSystem) : Prop where
  within : fs.Within after
  fresh : ∀ location node, after.node? location = some node →
    fs.node? location = some node ∨ (node = .directory ∧ after.OnTheWay path location)

theorem GrowsAlong.refl (fs : FileSystem) (path : Path) : fs.GrowsAlong path fs :=
  ⟨.refl fs, fun _ _ h => .inl h⟩

theorem GrowsAlong.trans (h : fs.GrowsAlong path middle) (hnext : middle.GrowsAlong path after) :
    fs.GrowsAlong path after := by
  refine ⟨h.within.trans hnext.within, fun location node hnode => ?_⟩
  rcases hnext.fresh location node hnode with hmiddle | hmade
  · rcases h.fresh location node hmiddle with hfs | ⟨hdirectory, hway⟩
    · exact .inl hfs
    · exact .inr ⟨hdirectory, hnext.within.onTheWay hway⟩
  · exact .inr hmade

theorem growsAlong_put (hnames : fs.Names path place) (habsent : fs.node? place = none) :
    fs.GrowsAlong path (fs.put place .directory) := by
  have hwithin := within_put .directory habsent
  refine ⟨hwithin, fun location node hnode => ?_⟩
  by_cases hplace : location = place
  · rw [hplace, node?_put_self fs place .directory hnames.ne_root] at hnode
    have hway := (hwithin.names hnames).onTheWay
    exact .inr ⟨(Option.some.inj hnode).symm, hplace ▸ hway⟩
  · rw [node?_put_of_ne fs .directory hplace] at hnode
    exact .inl hnode

theorem growsAlong_makeDirectory (h : fs.makeDirectory path = .ok after) :
    fs.GrowsAlong path after := by
  obtain ⟨place, hnames, habsent, rfl⟩ := makeDirectory_eq_ok h
  exact growsAlong_put hnames habsent

theorem growsAlong_ensureDirectory (h : fs.ensureDirectory path = .ok after) :
    fs.GrowsAlong path after := by
  unfold ensureDirectory at h
  split at h
  · next made hmade =>
    rw [← Except.ok.inj h]
    exact growsAlong_makeDirectory hmade
  · split at h
    · rw [← Except.ok.inj h]
      exact .refl fs path
    · cases h

/-- The components of the path to a directory stand in front of the last one of a path in it. -/
theorem components_of_parent {rest : List Octets}
    (h : (path.parent?.getD ⟨[]⟩).components = parents ++ name :: rest) :
    (path.parent?.getD ⟨[]⟩).isAbsolute = path.isAbsolute ∧
      ∃ last, path.components = parents ++ name :: (rest ++ [last]) := by
  cases hparent : path.parent? with
  | none =>
    rw [hparent] at h
    simp [Path.components, Path.names, Path.pieces] at h
  | some parent =>
    rw [hparent, Option.getD_some] at h
    obtain ⟨hdropped, habsolute⟩ := Path.components_parent? hparent
    have hfront : path.components.dropLast = parents ++ name :: rest := hdropped.symm.trans h
    have hne : path.components ≠ [] := by
      rintro hnil
      simp [hnil] at hfront
    refine ⟨habsolute, path.components.getLast hne, ?_⟩
    calc path.components
        = path.components.dropLast ++ [path.components.getLast hne] :=
          (List.dropLast_concat_getLast hne).symm
      _ = parents ++ name :: (rest ++ [path.components.getLast hne]) := by simp [hfront]

/-- What is on the way of the path to a directory is on the way of the paths in it. -/
theorem onTheWay_of_parent (h : fs.OnTheWay (path.parent?.getD ⟨[]⟩) location) :
    fs.OnTheWay path location := by
  obtain ⟨parents, name, rest, directory, hcomponents, hleads, hlocation⟩ := h
  obtain ⟨habsolute, last, hlonger⟩ := components_of_parent hcomponents
  rw [origin, habsolute] at hleads
  exact ⟨parents, name, rest ++ [last], directory, hlonger, hleads, hlocation⟩

theorem GrowsAlong.of_parent (h : fs.GrowsAlong (path.parent?.getD ⟨[]⟩) after) :
    fs.GrowsAlong path after := by
  refine ⟨h.within, fun location node hnode => ?_⟩
  rcases h.fresh location node hnode with hfs | ⟨hdirectory, hway⟩
  · exact .inl hfs
  · exact .inr ⟨hdirectory, onTheWay_of_parent hway⟩

theorem growsAlong_makeDirectoriesWithin (fs : FileSystem) (path : Path) (fuel : Nat) :
    fs.GrowsAlong path (fs.makeDirectoriesWithin path fuel).1 := by
  induction fuel generalizing fs path with
  | zero => exact .refl fs path
  | succ fuel ih =>
    unfold makeDirectoriesWithin
    split
    · exact .refl fs path
    split
    · next made hmade => exact growsAlong_makeDirectory hmade
    · split
      · -- The directories above come first; what was made of them stays.
        have habove := (ih fs (path.parent?.getD ⟨[]⟩)).of_parent
        split
        · next made error heq =>
          rw [heq] at habove
          exact habove
        · next made heq =>
          rw [heq] at habove
          split
          · next last hlast => exact habove.trans (growsAlong_ensureDirectory hlast)
          · exact habove
      · split
        · exact .refl fs path
        · exact .refl fs path

/-- Making a directory makes directories on its way and changes nothing else, also when it fails. -/
theorem growsAlong_makeDirectories (fs : FileSystem) (path : Path) :
    fs.GrowsAlong path (fs.makeDirectories path).1 :=
  growsAlong_makeDirectoriesWithin fs path _

/-! ## Removing directories -/

/-- Something was removed at or below what a path names, and nothing else changed. -/
structure ShrinksBelow (fs : FileSystem) (path : Path) (after : FileSystem) : Prop where
  within : after.Within fs
  below : ∀ location, after.node? location ≠ fs.node? location →
    ∃ place, fs.Names path place ∧ place <+: location

theorem ShrinksBelow.refl (fs : FileSystem) (path : Path) : fs.ShrinksBelow path fs :=
  ⟨.refl fs, fun _ h => absurd rfl h⟩

theorem ShrinksBelow.trans (h : fs.ShrinksBelow path middle)
    (hnext : middle.ShrinksBelow path after) : fs.ShrinksBelow path after := by
  refine ⟨hnext.within.trans h.within, fun location hchanged => ?_⟩
  by_cases hmiddle : after.node? location = middle.node? location
  · exact h.below location (hmiddle ▸ hchanged)
  · obtain ⟨place, hnames, hbelow⟩ := hnext.below location hmiddle
    exact ⟨place, h.within.names hnames, hbelow⟩

theorem shrinksBelow_of_gone (hnames : fs.Names path place)
    (hworking : after.workingDirectory = fs.workingDirectory)
    (h : ∀ location, after.node? location = fs.node? location ∨
      place <+: location ∧ after.node? location = none) : fs.ShrinksBelow path after := by
  refine ⟨⟨hworking, fun location node hnode => ?_⟩, fun location hchanged => ?_⟩
  · rcases h location with hkept | ⟨-, hgone⟩
    · rw [← hkept, hnode]
    · rw [hgone] at hnode
      cases hnode
  · rcases h location with hkept | ⟨hbelow, -⟩
    · exact absurd hkept hchanged
    · exact ⟨place, hnames, hbelow⟩

theorem shrinksBelow_remove (hnames : fs.Names path place) :
    fs.ShrinksBelow path (fs.remove place) := by
  refine shrinksBelow_of_gone hnames rfl fun location => ?_
  by_cases hplace : location = place
  · have hgone := node?_remove_self fs place hnames.ne_root
    exact .inr ⟨hplace ▸ List.prefix_rfl, hplace ▸ hgone⟩
  · exact .inl (node?_remove_of_ne fs hplace)

theorem shrinksBelow_clear (hnames : fs.Names path place) :
    fs.ShrinksBelow path (fs.clear place) := by
  refine shrinksBelow_of_gone hnames rfl fun location => ?_
  cases hinside : isBelow place location with
  | true =>
    have hprefix : place.isPrefixOf location = true := (Bool.and_eq_true_iff.mp hinside).1
    exact .inr ⟨List.isPrefixOf_iff_prefix.mp hprefix, node?_clear_of_below fs hinside⟩
  | false => exact .inl (node?_clear_of_not_below fs hinside)

/-- Removing a tree removes nothing but what the path names and what is below it, also when it
fails. -/
theorem shrinksBelow_removeTree (hnames : path.names = parents ++ [name]) (hname : EntryName name)
    (hslash : path.endsInSlash = false) : fs.ShrinksBelow path (fs.removeTree path).1 := by
  unfold removeTree
  split
  · exact .refl fs path
  · split
    · next after hunlink =>
      obtain ⟨place, node, hplace, -, -, rfl⟩ := unlink_eq_ok hunlink
      exact shrinksBelow_remove hplace
    · exact .refl fs path
  · next location hstatus =>
    have hemptied := shrinksBelow_clear (names_of_linkStatus hnames hname hslash hstatus)
    dsimp only
    split
    · next after hremove =>
      obtain ⟨place, hplace, rfl⟩ := removeDirectory_eq_ok hremove
      exact hemptied.trans (shrinksBelow_remove hplace)
    · exact hemptied
  · exact .refl fs path

end XdpSteering.FileSystem
