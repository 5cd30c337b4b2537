import XdpSteering.Proofs.FileSystem.Clearing

/-!
# Pinning

An object is pinned under a name that is free in a directory, and it is neither a directory nor a
link. So no path leads anywhere else than before, except to what was pinned; and what clearing the
directory away leaves is the same as if nothing had been pinned in it.
-/

namespace XdpSteering.FileSystem

open XdpSteering.Text

/-- Objects were pinned in the directory to which a path leads, and nothing else changed. -/
inductive PinnedIn (fs : FileSystem) (path : Path) : FileSystem → Prop where
  | nothing : PinnedIn fs path fs
  | pin {middle : FileSystem} {place : Location} {name : Octets} {object : Node}
      (others : PinnedIn fs path middle) (into : middle.status path = .ok (place, .directory))
      (named : EntryName name) (free : middle.node? (place ++ [name]) = none)
      (plain : object.IsPlain) : PinnedIn fs path (middle.put (place ++ [name]) object)

/-- All that a tree has is in another one, which has no more directories and links. -/
structure AddsPlain (fs after : FileSystem) : Prop where
  within : fs.Within after
  back : ∀ location node, after.node? location = some node → ¬ node.IsPlain →
    fs.node? location = some node

variable {fs middle loaded after : FileSystem} {path : Path} {location place : Location}
  {name : Octets} {steps parents : List Octets} {node entry : Node} {found : Location × Node}
  {follow : Bool} {links : Nat}

theorem AddsPlain.refl (fs : FileSystem) : fs.AddsPlain fs := ⟨.refl fs, fun _ _ h _ => h⟩

theorem AddsPlain.trans (h : fs.AddsPlain middle) (hnext : middle.AddsPlain after) :
    fs.AddsPlain after :=
  ⟨h.within.trans hnext.within, fun location node hnode hplain =>
    h.back location node (hnext.back location node hnode hplain) hplain⟩

theorem addsPlain_put (hplace : place ≠ []) (h : fs.node? place = none) (hentry : entry.IsPlain) :
    fs.AddsPlain (fs.put place entry) := by
  refine ⟨within_put entry h, fun location node hnode hplain => ?_⟩
  by_cases heq : location = place
  · rw [heq, node?_put_self fs place entry hplace] at hnode
    exact absurd (Option.some.inj hnode ▸ hentry) hplain
  · rwa [node?_put_of_ne fs entry heq] at hnode

theorem isBelow_concat (place : Location) (name : Octets) :
    isBelow place (place ++ [name]) = true := by
  have hbegins : place.isPrefixOf (place ++ [name]) = true :=
    List.isPrefixOf_iff_prefix.mpr (List.prefix_append place [name])
  simp [isBelow, hbegins]

theorem PinnedIn.addsPlain (h : fs.PinnedIn path after) : fs.AddsPlain after := by
  induction h with
  | nothing => exact .refl fs
  | pin _ _ _ free plain ih => exact ih.trans (addsPlain_put (by simp) free plain)

/-! ## Where paths lead -/

/-- Nothing is looked up in what is no directory. -/
theorem Leads.eq_of_not_directory (h : Leads fs follow links location steps place node)
    (hentry : fs.node? location = some entry) (hdirectory : entry ≠ .directory) : node = entry := by
  have hnot : fs.node? location ≠ some .directory := fun heq =>
    hdirectory (Option.some.inj (hentry.symm.trans heq))
  cases h with
  | arrived found => exact Option.some.inj (found.symm.trans hentry)
  | here directory | above directory | down directory | link directory | jump directory =>
    exact absurd directory hnot

theorem not_isPlain_directory : ¬ Node.IsPlain .directory := fun h => h.1 rfl

theorem not_isPlain_link (target : Path) : ¬ Node.IsPlain (.link target) := fun h => h.2 target rfl

/-- Directories and links are led to as before. -/
theorem AddsPlain.leads (hadds : fs.AddsPlain after)
    (h : Leads after follow links location steps place node) (hnode : ¬ node.IsPlain) :
    Leads fs follow links location steps place node := by
  induction h with
  | arrived found => exact .arrived (hadds.back _ _ found hnode)
  | here directory _ ih => exact .here (hadds.back _ _ directory not_isPlain_directory) (ih hnode)
  | above directory _ ih => exact .above (hadds.back _ _ directory not_isPlain_directory) (ih hnode)
  | @down _ _ _ _ _ entry _ directory named found plain onward ih =>
    have hentry : ¬ entry.IsPlain := fun h =>
      hnode (onward.eq_of_not_directory found h.1 ▸ h)
    exact .down (hadds.back _ _ directory not_isPlain_directory) named
      (hadds.back _ _ found hentry) plain (ih hnode)
  | link directory named found kept =>
    exact .link (hadds.back _ _ directory not_isPlain_directory) named
      (hadds.back _ _ found hnode) kept
  | jump directory named found followed _ ih =>
    exact .jump (hadds.back _ _ directory not_isPlain_directory) named
      (hadds.back _ _ found (not_isPlain_link _)) followed (ih hnode)

theorem AddsPlain.status (hadds : fs.AddsPlain after)
    (h : after.status path = .ok (place, node)) (hnode : ¬ node.IsPlain) :
    fs.status path = .ok (place, node) := by
  rw [status_eq_ok_iff] at h ⊢
  exact ⟨h.1, hadds.within.origin_eq path ▸ hadds.leads h.2 hnode⟩

theorem AddsPlain.names (hadds : fs.AddsPlain after) (h : after.Names path place) :
    fs.Names path place := by
  obtain ⟨parents, name, directory, hcomponents, hleads, hplace⟩ := h
  have hback := hadds.leads hleads not_isPlain_directory
  exact ⟨parents, name, directory, hcomponents, hadds.within.origin_eq path ▸ hback, hplace⟩

/-- If anything was pinned, the path led to a directory before, and nothing changed but in it. -/
theorem PinnedIn.eq_or_into (h : fs.PinnedIn path after) :
    after = fs ∨ ∃ place, fs.status path = .ok (place, .directory) ∧
      ∀ location, isBelow place location = false →
        after.node? location = fs.node? location := by
  induction h with
  | nothing => exact .inl rfl
  | @pin middle place name object others into _ _ _ ih =>
    have hstatus := others.addsPlain.status into not_isPlain_directory
    refine .inr ⟨place, hstatus, fun location hbelow => ?_⟩
    have hne : location ≠ place ++ [name] := by
      rintro rfl
      rw [isBelow_concat] at hbelow
      cases hbelow
    rw [node?_put_of_ne middle object hne]
    rcases ih with rfl | ⟨other, hother, hsame⟩
    · rfl
    · obtain ⟨rfl, -⟩ := Prod.mk.inj (Except.ok.inj (hother.symm.trans hstatus))
      exact hsame location hbelow

section Into

variable (h : fs.PinnedIn path after) (hinto : fs.status path = .ok (place, .directory))

include h hinto

theorem PinnedIn.node?_eq (hbelow : isBelow place location = false) :
    after.node? location = fs.node? location := by
  rcases h.eq_or_into with rfl | ⟨other, hother, hsame⟩
  · rfl
  · obtain ⟨rfl, -⟩ := Prod.mk.inj (Except.ok.inj (hother.symm.trans hinto))
    exact hsame location hbelow

/-- Once the directory is empty, it is as if nothing had been pinned in it. -/
theorem PinnedIn.node?_clear (location : Location) :
    (after.clear place).node? location = (fs.clear place).node? location := by
  cases hbelow : isBelow place location with
  | true => rw [node?_clear_of_below after hbelow, node?_clear_of_below fs hbelow]
  | false =>
    rw [node?_clear_of_not_below after hbelow, node?_clear_of_not_below fs hbelow,
      h.node?_eq hinto hbelow]

theorem PinnedIn.linkStatus_clear_iff :
    (after.clear place).linkStatus path = .ok found ↔
      (fs.clear place).linkStatus path = .ok found := by
  have hdirectory := h.addsPlain.within.workingDirectory
  have hback : (after.clear place).Within (fs.clear place) :=
    ⟨hdirectory.symm, fun location node hnode => (h.node?_clear hinto location).symm.trans hnode⟩
  have hforth : (fs.clear place).Within (after.clear place) :=
    ⟨hdirectory, fun location node hnode => (h.node?_clear hinto location).trans hnode⟩
  exact ⟨hback.linkStatus, hforth.linkStatus⟩

end Into

section

variable (hnames : path.names = parents ++ [name]) (hname : EntryName name)
  (hslash : path.endsInSlash = false)

include hnames hname hslash

/-- What is found behind links is found at the entry itself, unless that is a link. -/
theorem status_of_linkStatus (h : fs.linkStatus path = .ok (place, node))
    (hplain : ∀ target, node ≠ .link target) : fs.status path = .ok (place, node) := by
  obtain ⟨hcheck, directory, hfront, rfl, hfound⟩ := leads_of_linkStatus hnames hname hslash h
  obtain ⟨left, hgoes⟩ := hfront.walk_append (List.cons_ne_nil name [])
  have hback : Leads fs true left directory [name] (directory ++ [name]) node :=
    .down hfront.node?_eq hname hfound hplain (.arrived hfound)
  rw [status_eq_ok_iff, steps_eq hnames hslash]
  exact ⟨hcheck, leads_of_walk (hgoes.trans hback.walk_eq)⟩

theorem linkStatus_of_status (h : fs.status path = .ok found) :
    ∃ entry, fs.linkStatus path = .ok entry := by
  obtain ⟨place, node⟩ := found
  obtain ⟨hcheck, hleads⟩ := status_eq_ok_iff.mp h
  rw [steps_eq hnames hslash] at hleads
  obtain ⟨directory, left, hfront, hback⟩ := hleads.split (List.cons_ne_nil name [])
  cases hentry : fs.node? (directory ++ [name]) with
  | none => exact absurd hentry (hback.first_ne_none hname.ne_here hname.ne_above)
  | some entry => exact ⟨_, linkStatus_of_leads hnames hname hslash hcheck hfront hentry⟩

/-- Of what is pinned in a directory nothing is found at the path of the directory. -/
theorem PinnedIn.linkStatus (h : fs.PinnedIn path after)
    (hfound : after.linkStatus path = .ok found) : fs.linkStatus path = .ok found := by
  rcases h.eq_or_into with rfl | ⟨place, hstatus, -⟩
  · exact hfound
  · obtain ⟨entry, hentry⟩ := linkStatus_of_status hnames hname hslash hstatus
    have hsame := (h.addsPlain.within.linkStatus hentry).symm.trans hfound
    rwa [Except.ok.inj hsame] at hentry

/-- A directory in which something was pinned is cleared away as it would be without it. -/
theorem Cleared.of_pinnedIn (hcleared : loaded.Cleared path after) (h : fs.PinnedIn path loaded)
    (hfound : fs.linkStatus path = .ok (place, node)) (hlink : ∀ target, node ≠ .link target) :
    fs.Cleared path after := by
  rcases h.eq_or_into with rfl | ⟨into, hinto, -⟩
  · exact hcleared
  have hstatus := status_of_linkStatus hnames hname hslash hfound hlink
  obtain ⟨rfl, rfl⟩ := Prod.mk.inj (Except.ok.inj (hinto.symm.trans hstatus))
  have hloaded := h.addsPlain.within.linkStatus hfound
  -- What the path leads to is the directory, whoever asks.
  have hsame {other : Location} {entry : Node} (hother : fs.linkStatus path = .ok (other, entry)) :
      into = other ∧ .directory = entry :=
    Prod.mk.inj (Except.ok.inj (hfound.symm.trans hother))
  constructor
  case missing =>
    intro reason hmissing
    rw [hfound] at hmissing
    cases hmissing
  case plain =>
    intro other entry hother hplain
    obtain ⟨-, rfl⟩ := hsame hother
    exact absurd hplain not_isPlain_directory
  case link =>
    intro other target hother
    cases (hsame hother).2
  case outside =>
    intro other hother location houtside
    obtain ⟨rfl, -⟩ := hsame hother
    have hbelow : isBelow into location = false := by
      simpa using mt prefix_of_isBelow houtside
    exact (hcleared.outside into hloaded location houtside).trans (h.node?_eq hinto hbelow)
  case below =>
    intro other hother location hbelow
    obtain ⟨rfl, -⟩ := hsame hother
    exact hcleared.below into hloaded location hbelow
  case directory =>
    intro other hother
    obtain ⟨rfl, -⟩ := hsame hother
    rw [hcleared.directory into hloaded]
    exact if_congr (h.linkStatus_clear_iff hinto) rfl rfl
  case gone =>
    intro other entry hother hplain found
    exact hcleared.gone other entry (h.addsPlain.within.linkStatus hother) hplain found

end

end XdpSteering.FileSystem
