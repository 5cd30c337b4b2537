import XdpSteering.Proofs.Execution.Frame
import XdpSteering.Proofs.FileSystem.Making
import XdpSteering.Proofs.FileSystem.Pins

/-!
# What a diagnosis leaves behind

A diagnosis that does not load its object removes the directory that it made for its pins, with all
that is in it. It removes what was there before only where its path led before, or goes up behind a
directory that was missing.
-/

namespace XdpSteering

/-- A load leaves the files as they are but for what it pins in the directory for the pins, whether
it fails or not. -/
def Bpf.PinsByName (bpf : Bpf) : Prop :=
  ∀ (request : LoadRequest) (files : FileSystem),
    files.PinnedIn request.pins (bpf.load request files).1

namespace Diagnosis

open Operation FileSystem Text

variable {A : Type} {host : Host} {conf : Conf} {files loaded : FileSystem} {world : World}

/-! ## Runs -/

theorem pinnedIn_loading (h : host.bpf.PinsByName) (conf : Conf) (pins : Path)
    (files : FileSystem) : files.PinnedIn pins (Loader.loading host conf pins files).1 := by
  cases hread : files.read conf.objectPath with
  | error reason =>
    rw [Loader.loading_of_unreadable hread]
    exact .nothing
  | ok content =>
    rw [Loader.loading, hread]
    exact h ⟨content, pins, _, _⟩ files

theorem cleanOnError_error (scratch : Path) (error : SteerError) (world : World) :
    ∃ after, cleanOnError scratch (.error error : Except SteerError A) world = .error error after ∧
      after.files = (world.files.removeTree scratch).1 := by
  obtain ⟨after, hremove, hremoved⟩ := removeScratch_run scratch world
  exact ⟨after, bind_ok hremove, hremoved⟩

/-! ## The files -/

/-- What a diagnosis leaves of the files that a failed load left. -/
structure CleansUp (conf : Conf) (before loaded after : FileSystem) : Prop where
  /-- At most directories are made on the way, and objects are pinned in the last of them. -/
  made : before.GrowsAlong (scratchPath conf) (withScratch conf before)
  pinned : (withScratch conf before).PinnedIn (scratchPath conf) loaded
  removed : loaded.Cleared (scratchPath conf) after
  /-- Where something is at the path, nothing is made. -/
  unmade : ∀ found, before.linkStatus (scratchPath conf) = .ok found →
    withScratch conf before = before
  /-- What was at the path before is all that is removed, and nothing stays that was pinned in
  it. -/
  there : ∀ place node, before.linkStatus (scratchPath conf) = .ok (place, node) →
    (∀ target, node ≠ .link target) → before.Cleared (scratchPath conf) after
  /-- A link goes alone; what was pinned in a directory behind it stays. -/
  link : ∀ place target, before.linkStatus (scratchPath conf) = .ok (place, .link target) →
    before.PinnedIn (scratchPath conf) loaded ∧ after = loaded.remove place ∧
      ∀ found, after.linkStatus (scratchPath conf) ≠ .ok found
  /-- If nothing was there, and the path goes up from nothing that was missing, all that was
  anywhere stays. -/
  absent : before.IsTree → before.GoesUpWithin (scratchPath conf) →
    (∀ found, before.linkStatus (scratchPath conf) ≠ .ok found) →
      before.Within after ∧ ∀ found, after.linkStatus (scratchPath conf) ≠ .ok found

theorem cleared_removeTree_scratchPath (conf : Conf) (files : FileSystem) :
    files.Cleared (scratchPath conf) (files.removeTree (scratchPath conf)).1 :=
  cleared_removeTree (names_scratchPath conf) entryName_scratchName (endsInSlash_scratchPath conf)

theorem withScratch_of_linkStatus {found : Location × Node}
    (h : files.linkStatus (scratchPath conf) = .ok found) : withScratch conf files = files :=
  makeDirectories_of_linkStatus (names_scratchPath conf) entryName_scratchName
    (endsInSlash_scratchPath conf) h

theorem linkStatus_of_pinnedIn {found : Location × Node}
    (h : files.PinnedIn (scratchPath conf) loaded)
    (hfound : loaded.linkStatus (scratchPath conf) = .ok found) :
    files.linkStatus (scratchPath conf) = .ok found :=
  h.linkStatus (names_scratchPath conf) entryName_scratchName (endsInSlash_scratchPath conf) hfound

/-- The directory for the pins is new where something was made, unless its path goes up there. -/
theorem absent_of_withScratch {place : Location} (htree : files.IsTree)
    (hup : files.GoesUpWithin (scratchPath conf))
    (hmade : withScratch conf files ≠ files)
    (h : (withScratch conf files).Names (scratchPath conf) place) : files.node? place = none := by
  obtain ⟨directory, parents, name, rest, hlacks⟩ := lacks_of_makeDirectoriesWithin hmade
  exact absent_of_lacks htree (growsAlong_makeDirectories files _) hlacks hup h

section Made

variable (htree : files.IsTree) (hup : files.GoesUpWithin (scratchPath conf))
  (hmade : withScratch conf files ≠ files)
  (hpinned : (withScratch conf files).PinnedIn (scratchPath conf) loaded)

include htree hup hmade hpinned

theorem within_removeTree : files.Within (loaded.removeTree (scratchPath conf)).1 := by
  have hgrows : files.Within (withScratch conf files) := (growsAlong_makeDirectories files _).within
  have hadds := hpinned.addsPlain
  have hkept : files.Within loaded := hgrows.trans hadds.within
  have hshrinks := shrinksBelow_removeTree_scratchPath conf loaded
  refine ⟨hkept.workingDirectory.trans hshrinks.within.workingDirectory.symm,
    fun location node hnode => ?_⟩
  rw [← hkept.kept location node hnode]
  by_contra hchanged
  obtain ⟨place, hnames, hbelow⟩ := hshrinks.below location hchanged
  exact htree.node?_ne_none_above hnode hbelow
    (absent_of_withScratch htree hup hmade (hadds.names hnames))

theorem gone_removeTree (found : Location × Node) :
    (loaded.removeTree (scratchPath conf)).1.linkStatus (scratchPath conf) ≠ .ok found := by
  have hcleared := cleared_removeTree_scratchPath conf loaded
  cases hstatus : loaded.linkStatus (scratchPath conf) with
  | error reason =>
    rw [hcleared.missing _ hstatus, hstatus]
    simp
  | ok target =>
    obtain ⟨place, node⟩ := target
    have hbefore := linkStatus_of_pinnedIn hpinned hstatus
    have hnames := names_of_linkStatus (names_scratchPath conf) entryName_scratchName
      (endsInSlash_scratchPath conf) hbefore
    have hnode := (linkStatus_eq_ok_iff.mp hbefore).2.node?_eq
    refine hcleared.gone place node hstatus ?_ found
    -- What is new is a directory.
    rcases (growsAlong_makeDirectories files _).fresh place node hnode with hold | ⟨rfl, -⟩
    · rw [absent_of_withScratch htree hup hmade hnames] at hold
      cases hold
    · exact fun hplain => hplain.1 rfl

end Made

theorem cleansUp_removeTree
    (hpinned : (withScratch conf files).PinnedIn (scratchPath conf) loaded) :
    CleansUp conf files loaded (loaded.removeTree (scratchPath conf)).1 where
  made := growsAlong_makeDirectories files _
  pinned := hpinned
  removed := cleared_removeTree_scratchPath conf loaded
  unmade found h := withScratch_of_linkStatus h
  there place node h hplain := by
    rw [withScratch_of_linkStatus h] at hpinned
    exact (cleared_removeTree_scratchPath conf loaded).of_pinnedIn (names_scratchPath conf)
      entryName_scratchName (endsInSlash_scratchPath conf) hpinned h hplain
  link place target h := by
    rw [withScratch_of_linkStatus h] at hpinned
    have hcleared := cleared_removeTree_scratchPath conf loaded
    have hloaded := hpinned.addsPlain.within.linkStatus h
    exact ⟨hpinned, hcleared.link place target hloaded,
      hcleared.gone place _ hloaded fun hplain => hplain.2 target rfl⟩
  absent htree hup hnothing := by
    by_cases hmade : withScratch conf files = files
    · -- Nothing could be made, and so nothing is removed.
      rw [hmade] at hpinned
      have hnone : ∀ found, loaded.linkStatus (scratchPath conf) ≠ .ok found := fun found h =>
        hnothing found (linkStatus_of_pinnedIn hpinned h)
      have hsame : (loaded.removeTree (scratchPath conf)).1 = loaded := by
        cases hstatus : loaded.linkStatus (scratchPath conf) with
        | ok found => exact absurd hstatus (hnone found)
        | error reason => exact (cleared_removeTree_scratchPath conf loaded).missing reason hstatus
      rw [hsame]
      exact ⟨hpinned.addsPlain.within, hnone⟩
    · exact ⟨within_removeTree htree hup hmade hpinned, gone_removeTree htree hup hmade hpinned⟩

/-- A diagnosis whose object is not loaded fails with the reason, after it removed the directory for
its pins. Without the interface it fails before that and changes nothing. Whatever else fails, the
directory is removed, and it stays if nothing does. -/
theorem failed_diagnosis_cleans_up (host : Host) (hpins : host.bpf.PinsByName) (conf : Conf)
    (world : World) :
    (conf.interface ∉ host.interfaces → ∃ pieces, run host conf world =
      .error (.interfaceNotFound conf.interface) (world.wrote pieces)) ∧
    (conf.interface ∈ host.interfaces → ∀ loaded failure,
      Loader.loading host conf (scratchPath conf) (withScratch conf world.files)
          = (loaded, .error failure) →
        ∃ after, run host conf world = .error (.load failure) after ∧
          CleansUp conf world.files loaded after.files) ∧
    ∀ (A : Type),
      (∀ value : A, cleanOnError (scratchPath conf) (.ok value) world = .ok value world) ∧
      (∀ error, ∃ after,
        cleanOnError (scratchPath conf) (.error error : Except SteerError A) world
          = .error error after ∧
        world.files.Cleared (scratchPath conf) after.files) := by
  refine ⟨fun hmissing => run_of_no_interface hmissing world,
    fun hinterface loaded failure hload => ?_, fun A => ⟨fun value => rfl, fun error => ?_⟩⟩
  · have hpinned := pinnedIn_loading hpins conf (scratchPath conf) (withScratch conf world.files)
    rw [hload] at hpinned
    obtain ⟨after, hrun, hfiles⟩ := run_of_failure hinterface world hload
    exact ⟨after, hrun, hfiles ▸ cleansUp_removeTree hpinned⟩
  · obtain ⟨after, hrun, hfiles⟩ := cleanOnError_error (scratchPath conf) error world
    exact ⟨after, hrun, hfiles ▸ cleared_removeTree_scratchPath conf world.files⟩

theorem pinnedIn_pinMap (pins : Path) (files : FileSystem) :
    files.PinnedIn pins (Bpf.pinMap pins files) := by
  unfold Bpf.pinMap
  split
  · next place hstatus =>
    dsimp only
    split
    · next hfree =>
      exact .pin .nothing hstatus ⟨by decide, by decide, by decide⟩ hfree ⟨by simp, by simp⟩
    · exact .nothing
  · exact .nothing

theorem pinsByName_rejecting (object : Octets) : (Bpf.rejecting object).PinsByName := by
  intro request files
  simp only [Bpf.rejecting]
  split
  · exact pinnedIn_pinMap request.pins files
  · exact .nothing

theorem pinsByName_plain (reason : OsError) : (Bpf.plain reason).PinsByName :=
  fun _ _ => .nothing

def usedPins (object : Octets) (scratch : List (Location × Node)) : FileSystem where
  entries := [([Utf8.encode "object"], .file object), ([Utf8.encode "store"], .directory),
    ([Utf8.encode "pins"], .directory),
    ([Utf8.encode "pins", Utf8.encode "socket_map"], .file [])] ++ scratch
  workingDirectory := []

def scratchPlace : Location := [Utf8.encode "pins", scratchName]

def oldPins : FileSystem :=
  usedPins [] [(scratchPlace, .directory), (scratchPlace ++ [Utf8.encode "old"], .file [])]

def linkedScratch (object : Octets) : FileSystem :=
  usedPins object [(scratchPlace, .link (Path.ofString "/store"))]

def diagnosed (pinPath : String) : Conf :=
  { interface := "lo", program := { objectPath := "object" }, socketMap := { pinPath } }

def diagnosedOn (interfaces : List String) (bpf : Bpf) : Host :=
  { status := .ok "", interfaces, kernel := ⟨6, 8, 0⟩, bpf }

theorem scratchPath_diagnosed : scratchPath (diagnosed "pins") = Path.ofString "pins/diagnose" := by
  decide +kernel

theorem CleansUp.old_gone {after : FileSystem}
    (h : CleansUp (diagnosed "pins") oldPins loaded after) :
    after.node? (scratchPlace ++ [Utf8.encode "old"]) = none ∧ after.node? scratchPlace = none ∧
      after.node? [Utf8.encode "pins", Utf8.encode "socket_map"] = some (.file []) := by
  have hstatus : oldPins.linkStatus (Path.ofString "pins/diagnose")
      = .ok (scratchPlace, .directory) := by cbv
  have hstill : (oldPins.clear scratchPlace).linkStatus (Path.ofString "pins/diagnose")
      = .ok (scratchPlace, .directory) := by cbv
  rw [← scratchPath_diagnosed] at hstatus hstill
  have hcleared := h.there scratchPlace .directory hstatus (by simp)
  refine ⟨hcleared.below _ hstatus _ (by decide +kernel),
    (hcleared.directory _ hstatus).trans (if_pos hstill), ?_⟩
  exact (hcleared.outside _ hstatus _ (by decide +kernel)).trans (by decide +kernel)

theorem CleansUp.within_new {after : FileSystem}
    (h : CleansUp (diagnosed "pins/new") oldPins loaded after) : oldPins.Within after := by
  have hpath : scratchPath (diagnosed "pins/new") = Path.ofString "pins/new/diagnose" := by
    decide +kernel
  have hup : oldPins.GoesUpWithin (Path.ofString "pins/new/diagnose") :=
    goesUpWithin_of_not_mem (by decide +kernel)
  have hstatus : oldPins.linkStatus (Path.ofString "pins/new/diagnose") = .error .noEntry := by
    cbv
  rw [← hpath] at hup hstatus
  exact (h.absent ⟨by decide +kernel, rfl⟩ hup (by simp [hstatus])).1

theorem loading_rejecting (object : Octets) :
    Loader.loading (diagnosedOn ["lo"] (.rejecting object)) (diagnosed "pins")
        (scratchPath (diagnosed "pins")) (linkedScratch object)
      = (Bpf.pinMap (scratchPath (diagnosed "pins")) (linkedScratch object),
          .error (.other "error relocating function" [])) := by
  have hread : (linkedScratch object).read (diagnosed "pins").objectPath = .ok object := by cbv
  rw [Loader.loading, hread]
  exact if_pos rfl

theorem CleansUp.link_gone {object : Octets} {after : FileSystem}
    (h : CleansUp (diagnosed "pins") (linkedScratch object)
      (Bpf.pinMap (scratchPath (diagnosed "pins")) (linkedScratch object)) after) :
    after.node? scratchPlace = none ∧
      after.node? [Utf8.encode "store", Utf8.encode "socket_map"] = some (.file []) := by
  have hstatus : (linkedScratch object).linkStatus (Path.ofString "pins/diagnose")
      = .ok (scratchPlace, .link (Path.ofString "/store")) := by cbv
  have hpinned : (Bpf.pinMap (Path.ofString "pins/diagnose") (linkedScratch object)).node?
      [Utf8.encode "store", Utf8.encode "socket_map"] = some (.file []) := by cbv
  rw [← scratchPath_diagnosed] at hstatus hpinned
  obtain ⟨-, hafter, -⟩ := h.link _ _ hstatus
  rw [hafter]
  exact ⟨node?_remove_self _ _ (by simp [scratchPlace]),
    (node?_remove_of_ne _ (by decide +kernel)).trans hpinned⟩

/-- What an earlier diagnosis left is removed, and the pinned map stays. Below a directory that is
missing nothing is removed. Behind a link there stays what was pinned for an object that the kernel
then rejected. -/
theorem diagnosis_removes_what_an_earlier_one_left :
    let host := diagnosedOn ["lo"] (.plain .notPermitted)
    (∃ pieces, run (diagnosedOn [] (.plain .notPermitted)) (diagnosed "pins") { files := oldPins }
      = .error (.interfaceNotFound "lo") (World.wrote { files := oldPins } pieces)) ∧
    (∃ failure after, run host (diagnosed "pins") { files := oldPins }
        = .error (.load failure) after ∧
      after.files.node? (scratchPlace ++ [Utf8.encode "old"]) = none ∧
      after.files.node? scratchPlace = none ∧
      after.files.node? [Utf8.encode "pins", Utf8.encode "socket_map"] = some (.file [])) ∧
    (∃ failure after, run host (diagnosed "pins/new") { files := oldPins }
        = .error (.load failure) after ∧
      oldPins.Within after.files) ∧
    ∀ object, ∃ failure after,
      run (diagnosedOn ["lo"] (.rejecting object)) (diagnosed "pins")
          { files := linkedScratch object } = .error (.load failure) after ∧
        after.files.node? scratchPlace = none ∧
        after.files.node? [Utf8.encode "store", Utf8.encode "socket_map"] = some (.file []) := by
  intro host
  have hload (pinPath : String) : ∃ failure, Loader.loading host (diagnosed pinPath)
      (scratchPath (diagnosed pinPath)) (withScratch (diagnosed pinPath) oldPins)
        = (withScratch (diagnosed pinPath) oldPins, .error failure) :=
    Loader.loading_of_refuses (Bpf.refuses_plain _) _ _ _
  have hcleans (pinPath : String) :=
    (failed_diagnosis_cleans_up host (pinsByName_plain _) (diagnosed pinPath)
      { files := oldPins }).2.1 List.mem_cons_self
  obtain ⟨hmissing, -, -⟩ := failed_diagnosis_cleans_up (diagnosedOn [] (.plain .notPermitted))
    (pinsByName_plain _) (diagnosed "pins") { files := oldPins }
  refine ⟨hmissing List.not_mem_nil, ?_, ?_, fun object => ?_⟩
  · obtain ⟨failure, hload⟩ := hload "pins"
    obtain ⟨after, hrun, hafter⟩ := hcleans "pins" _ failure hload
    exact ⟨failure, after, hrun, hafter.old_gone⟩
  · obtain ⟨failure, hload⟩ := hload "pins/new"
    obtain ⟨after, hrun, hafter⟩ := hcleans "pins/new" _ failure hload
    exact ⟨failure, after, hrun, hafter.within_new⟩
  · have hstatus : (linkedScratch object).linkStatus (Path.ofString "pins/diagnose")
        = .ok (scratchPlace, .link (Path.ofString "/store")) := by cbv
    rw [← scratchPath_diagnosed] at hstatus
    have hload := loading_rejecting object
    rw [← withScratch_of_linkStatus hstatus] at hload
    obtain ⟨-, hcleans, -⟩ := failed_diagnosis_cleans_up
      (diagnosedOn ["lo"] (.rejecting object)) (pinsByName_rejecting object) (diagnosed "pins")
      { files := linkedScratch object }
    obtain ⟨after, hrun, hafter⟩ := hcleans List.mem_cons_self _ _ hload
    rw [withScratch_of_linkStatus hstatus] at hafter
    exact ⟨_, after, hrun, hafter.link_gone⟩

def usedScratch (name : String) (entry : Node) : FileSystem where
  entries := [([Utf8.encode "x"], .directory), ([Utf8.encode "x", scratchName], .directory),
    ([Utf8.encode "x", scratchName, Utf8.encode name], entry)]
  workingDirectory := []

/-- A path that goes up from a directory that was missing leads to what was there, though it led
nowhere before. A path through what is removed does not lead to the directory any more, which
stays. -/
theorem diagnosis_on_a_path_that_goes_up :
    (let host : Host := { status := .ok "", interfaces := ["lo"], kernel := ⟨6, 8, 0⟩ }
      let conf : Conf := { interface := "lo", socketMap := { pinPath := "new/../x" } }
      let files := usedScratch "keep" (.file [])
      let keep : Location := [Utf8.encode "x", scratchName, Utf8.encode "keep"]
      files.pathExists (scratchPath conf) = false ∧ files.node? keep = some (.file []) ∧
        ∃ failure after, run host conf { files } = .error (.load failure) after ∧
          after.files.node? keep = none) ∧
    (let conf : Conf := { interface := "lo", socketMap := { pinPath := "x/diagnose/sub/../.." } }
      let files := usedScratch "sub" .directory
      let error : SteerError := .internal "boom"
      files.linkStatus (scratchPath conf) = .ok ([Utf8.encode "x", scratchName], .directory) ∧
        ∃ after, cleanOnError (scratchPath conf) (.error error : Except SteerError Unit) { files }
            = .error error after ∧
          after.files.node? [Utf8.encode "x", scratchName] = some .directory) := by
  constructor
  · intro host conf files keep
    have hpath : scratchPath conf = Path.ofString "new/../x/diagnose" := by decide +kernel
    have habsent : (usedScratch "keep" (.file [])).pathExists (Path.ofString "new/../x/diagnose")
        = false := by cbv
    have hgone : (((usedScratch "keep" (.file [])).makeDirectories
        (Path.ofString "new/../x/diagnose")).1.removeTree
          (Path.ofString "new/../x/diagnose")).1.node?
            [Utf8.encode "x", scratchName, Utf8.encode "keep"] = none := by cbv
    rw [← hpath] at habsent hgone
    have hinterface : conf.interface ∈ host.interfaces := List.mem_cons_self
    have hrefuses : host.bpf.Refuses := Bpf.refuses_plain _
    obtain ⟨failure, hload⟩ :=
      Loader.loading_of_refuses hrefuses conf (scratchPath conf) (withScratch conf files)
    obtain ⟨after, hrun, hfiles⟩ := run_of_failure hinterface { files } hload
    exact ⟨habsent, by decide +kernel, _, after, hrun, hfiles ▸ hgone⟩
  · intro conf files error
    have hpath : scratchPath conf = Path.ofString "x/diagnose/sub/../../diagnose" := by
      decide +kernel
    have hstatus : (usedScratch "sub" .directory).linkStatus
        (Path.ofString "x/diagnose/sub/../../diagnose")
          = .ok ([Utf8.encode "x", scratchName], .directory) := by cbv
    have hstays : ((usedScratch "sub" .directory).removeTree
        (Path.ofString "x/diagnose/sub/../../diagnose")).1.node? [Utf8.encode "x", scratchName]
          = some .directory := by cbv
    rw [← hpath] at hstatus hstays
    obtain ⟨after, hrun, hfiles⟩ :=
      cleanOnError_error (A := Unit) (scratchPath conf) error { files }
    exact ⟨hstatus, after, hrun, hfiles ▸ hstays⟩

end Diagnosis

end XdpSteering
