import XdpSteering.Diagnosis
import XdpSteering.Proofs.FileSystem.Directories
import XdpSteering.Proofs.Loader
import XdpSteering.Proofs.Path

/-!
# Runs of a diagnosis

A diagnosis pins its objects in a directory of its own, in the one in which the map is pinned. Where
its object is not loaded, it fails after it removed the directory.
-/

namespace XdpSteering.Diagnosis

open Operation FileSystem Text

def scratchName : Octets := Utf8.encode "diagnose"

def withScratch (conf : Conf) (files : FileSystem) : FileSystem :=
  (files.makeDirectories (scratchPath conf)).1

/-! ## The directory for the pins -/

theorem names_scratchPath (conf : Conf) :
    (scratchPath conf).names = conf.socketMap.pinDirectory.names ++ [scratchName] :=
  Path.names_join rfl

theorem entryName_scratchName : EntryName scratchName := ⟨by decide, by decide, by decide⟩

theorem endsInSlash_scratchPath (conf : Conf) : (scratchPath conf).endsInSlash = false :=
  Path.endsInSlash_join (by decide)

theorem components_scratchPath (conf : Conf) :
    (scratchPath conf).components = conf.socketMap.pinDirectory.components ++ [scratchName] :=
  Path.components_join rfl rfl (by decide)

theorem origin_scratchPath (conf : Conf) (files : FileSystem) :
    files.origin (scratchPath conf) = files.origin conf.socketMap.pinDirectory := by
  rw [origin, origin, scratchPath, Path.isAbsolute_join rfl]

/-- What is on the way to the directory for the pins is this directory, or on the way to the one in
which it is. -/
theorem onTheWay_scratchPath {conf : Conf} {files : FileSystem} {location : Location}
    (h : files.OnTheWay (scratchPath conf) location) :
    files.Names (scratchPath conf) location ∨
      files.OnTheWay conf.socketMap.pinDirectory location := by
  obtain ⟨parents, name, rest, directory, hcomponents, hleads, hlocation⟩ := h
  rcases List.eq_nil_or_concat rest with rfl | ⟨others, last, hrest⟩
  · exact .inl ⟨parents, name, directory, hcomponents, hleads, hlocation⟩
  · rw [components_scratchPath, hrest, List.concat_eq_append, ← List.cons_append,
      ← List.append_assoc] at hcomponents
    have hpin := (List.append_inj' hcomponents rfl).1
    exact .inr ⟨parents, name, others, directory, hpin, origin_scratchPath conf files ▸ hleads,
      hlocation⟩

theorem shrinksBelow_removeTree_scratchPath (conf : Conf) (files : FileSystem) :
    files.ShrinksBelow (scratchPath conf) (files.removeTree (scratchPath conf)).1 :=
  shrinksBelow_removeTree (names_scratchPath conf) entryName_scratchName
    (endsInSlash_scratchPath conf)

/-! ## Steps -/

theorem makeScratch_run (scratch : Path) (world : World) :
    ∃ after, makeScratch scratch world = .ok () after ∧
      after.files = (world.files.makeDirectories scratch).1 := by
  have hmake := Loader.makeDirectories_run scratch world
  unfold makeScratch
  rw [bind_ok hmake]
  cases (world.files.makeDirectories scratch).2 with
  | ok value => exact ⟨_, rfl, rfl⟩
  | error reason => exact ⟨_, rfl, rfl⟩

theorem removeScratch_run (scratch : Path) (world : World) :
    ∃ after, removeScratch scratch world = .ok () after ∧
      after.files = (world.files.removeTree scratch).1 := by
  have hremove := request_run (fun files => files.removeTree scratch) world
  unfold removeScratch
  rw [bind_ok hremove]
  cases (world.files.removeTree scratch).2 with
  | ok value => exact ⟨_, rfl, rfl⟩
  | error reason => exact ⟨_, rfl, rfl⟩

theorem keeps_checkCapabilities (host : Host) : Keeps (checkCapabilities host) :=
  (keeps_report _).bind fun _ => (keeps_require _ _).attempt.bind fun _ =>
    (keeps_report _).bind fun _ => keeps_pure _

theorem checkCapabilities_run (host : Host) (world : World) :
    ∃ held pieces, checkCapabilities host world = .ok held (world.wrote pieces) := by
  have hrequire := require_run host Capability.loader (world.wrote [.event checkingEvent])
  unfold checkCapabilities
  rw [bind_ok (report_run checkingEvent world)]
  split at hrequire
  · rw [bind_ok (attempt_ok hrequire), bind_ok (report_run _ _), World.wrote_wrote,
      World.wrote_wrote]
    exact ⟨_, _, rfl⟩
  · rw [bind_ok (attempt_error hrequire), bind_ok (report_run _ _), World.wrote_wrote,
      World.wrote_wrote]
    exact ⟨_, _, rfl⟩

theorem giveUp_run (host : Host) (conf : Conf) (failure : LoadFailure) (diagnosis : Diagnosis)
    (world : World) :
    ∃ after, giveUp host conf failure diagnosis world = .error (.load failure) after ∧
      after.files = (world.files.removeTree (scratchPath conf)).1 := by
  have hreport := report_run (loadFailedEvent conf.objectPath failure) world
  obtain ⟨removed, hremove, hremoved⟩ := removeScratch_run (scratchPath conf) (world.wrote _)
  unfold giveUp
  rw [bind_ok hreport, bind_ok hremove]
  exact ⟨_, rfl, hremoved⟩

/-! ## Runs -/

variable {host : Host} {conf : Conf} {loaded : FileSystem} {failure : LoadFailure}

theorem run_of_no_interface (h : conf.interface ∉ host.interfaces) (world : World) :
    ∃ pieces, run host conf world =
      .error (.interfaceNotFound conf.interface) (world.wrote pieces) := by
  obtain ⟨held, pieces, hcheck⟩ :=
    checkCapabilities_run host (world.wrote [.event (startedEvent conf.interface)])
  refine ⟨[.event (startedEvent conf.interface)] ++ pieces, ?_⟩
  unfold run
  rw [bind_ok (report_run _ world), bind_ok hcheck, Loader.checkInterface,
    if_neg (by simpa using h), World.wrote_wrote]
  rfl

/-- Without its object a diagnosis fails, and removes the directory for its pins. -/
theorem run_of_failure (h : conf.interface ∈ host.interfaces) (world : World)
    (hload : Loader.loading host conf (scratchPath conf) (withScratch conf world.files)
      = (loaded, .error failure)) :
    ∃ after, run host conf world = .error (.load failure) after ∧
      after.files = (loaded.removeTree (scratchPath conf)).1 := by
  obtain ⟨held, pieces, hcheck⟩ :=
    checkCapabilities_run host (world.wrote [.event (startedEvent conf.interface)])
  have hinterface : Loader.checkInterface host conf.interface = .ok () :=
    if_pos (by simpa using h)
  unfold run
  rw [bind_ok (report_run _ world), bind_ok hcheck, hinterface, bind_ok (ofExcept_ok () _),
    Loader.liftMemoryLimit, bind_ok (report_run _ _), bind_ok (report_run _ _)]
  dsimp only
  rw [bind_ok (report_run _ _)]
  -- So far there are only reports; the directory is made and removed in what follows.
  generalize hreached : World.wrote _ _ = reached
  have hkept : reached.files = world.files := by
    rw [← hreached]
    rfl
  obtain ⟨made, hmake, hmade⟩ := makeScratch_run (scratchPath conf) reached
  rw [hkept] at hmade
  rw [withScratch, ← hmade] at hload
  rw [bind_ok hmake, bind_ok (Loader.loadObject_run host conf _ made)]
  simp only [hload]
  obtain ⟨after, hgive, hafter⟩ := giveUp_run host conf failure
    { interface := conf.interface, attachMode := conf.attachMode, capabilitiesHeld := held }
    { made with files := loaded }
  exact ⟨after, hgive, hafter⟩

end XdpSteering.Diagnosis
