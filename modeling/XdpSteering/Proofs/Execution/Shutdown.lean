import XdpSteering.Loader
import XdpSteering.Proofs.FileSystem.Removal
import XdpSteering.Proofs.FileSystem.Status
import XdpSteering.Proofs.Pin

/-!
# The end of a run

When a run ends the program is detached and the map is released. The map is released however the
detaching went, every failure is warned of, and the first one is what the shutdown comes to.
-/

namespace XdpSteering.Loader

open Operation Text

variable {conf : Conf} {detached released : Except SteerError Unit} {world : World}

/-! ## What is released -/

def pinError (conf : Conf) (reason : OsError) : SteerError :=
  .io ("failed to remove pin " ++ conf.socketMap.mapPath.display) reason

/-- The files before and after the map is released, and what releasing it comes to. -/
structure Releases (conf : Conf) (before after : FileSystem) (released : Except SteerError Unit) :
    Prop where
  persistent : conf.socketMap.persist = true → after = before ∧ released = .ok ()
  /-- What the pin names is removed and gone, whatever it is but a directory. -/
  removed : conf.socketMap.persist = false →
    ∀ place node, before.linkStatus conf.socketMap.mapPath = .ok (place, node) →
      node ≠ .directory →
        after = before.remove place ∧ released = .ok () ∧
          ∀ found, after.linkStatus conf.socketMap.mapPath ≠ .ok found
  missing : conf.socketMap.persist = false →
    before.linkStatus conf.socketMap.mapPath = .error .noEntry → after = before ∧ released = .ok ()
  /-- A directory is in the place of the pin. -/
  occupied : conf.socketMap.persist = false →
    ∀ place, before.linkStatus conf.socketMap.mapPath = .ok (place, .directory) →
      after = before ∧ released = .error (pinError conf .isDirectory)
  refused : conf.socketMap.persist = false →
    ∀ reason, before.unlink conf.socketMap.mapPath = .error reason → reason ≠ .noEntry →
      after = before ∧ released = .error (pinError conf reason)

theorem names_mapPath (conf : Conf) :
    conf.socketMap.mapPath.names
      = conf.socketMap.pinDirectory.names ++ [Utf8.encode socketMapName] :=
  Path.names_join rfl

theorem endsInSlash_mapPath (conf : Conf) : conf.socketMap.mapPath.endsInSlash = false :=
  Path.endsInSlash_join (by decide)

theorem entryName_socketMapName : FileSystem.EntryName (Utf8.encode socketMapName) :=
  ⟨by decide, by decide, by decide⟩

theorem unlink_mapPath {files : FileSystem} {place : Location} {node : FileSystem.Node}
    (h : files.linkStatus conf.socketMap.mapPath = .ok (place, node)) :
    files.unlink conf.socketMap.mapPath =
      if node = .directory then .error .isDirectory else .ok (files.remove place) :=
  FileSystem.unlink_of_linkStatus (names_mapPath conf) entryName_socketMapName
    (endsInSlash_mapPath conf) h

theorem releases_of_persist (hpersist : conf.socketMap.persist = true) (files : FileSystem) :
    Releases conf files files (.ok ()) := by
  have hkept : conf.socketMap.persist ≠ false := by simp [hpersist]
  exact ⟨fun _ => ⟨rfl, rfl⟩, (absurd · hkept), (absurd · hkept), (absurd · hkept),
    (absurd · hkept)⟩

theorem releases_of_unlink {before after : FileSystem} (hpersist : conf.socketMap.persist = false)
    (hremoved : ∀ files, before.unlink conf.socketMap.mapPath = .ok files →
      after = files ∧ released = .ok ())
    (hmissing : before.unlink conf.socketMap.mapPath = .error .noEntry →
      after = before ∧ released = .ok ())
    (hrefused : ∀ reason, before.unlink conf.socketMap.mapPath = .error reason →
      reason ≠ .noEntry → after = before ∧ released = .error (pinError conf reason)) :
    Releases conf before after released where
  persistent h := by
    rw [hpersist] at h
    cases h
  removed _ place node hstatus hnode := by
    have hunlink := unlink_mapPath hstatus
    rw [if_neg hnode] at hunlink
    obtain ⟨rfl, hresult⟩ := hremoved _ hunlink
    exact ⟨rfl, hresult, fun found =>
      FileSystem.linkStatus_ne_ok_of_unlink (FileSystem.unlink_gone hunlink)⟩
  missing _ hstatus := hmissing (FileSystem.unlink_of_linkStatus_noEntry (names_mapPath conf)
    entryName_socketMapName (endsInSlash_mapPath conf) hstatus)
  occupied _ place hstatus := hrefused _ (unlink_mapPath hstatus) (by decide)
  refused _ := hrefused

def isWarning : Output → Bool
  | .event event => event.level = .warn
  | .text _ => false

theorem release_run (conf : Conf) (world : World) :
    ∃ files told released,
      attempt (release conf) world = .ok released (World.wrote { world with files } told) ∧
        told.filter isWarning = [] ∧ Releases conf world.files files released := by
  have hunpin := Pin.unpinMap_run conf.socketMap.mapPath world
  unfold release
  dsimp only
  by_cases hpersist : conf.socketMap.persist = true
  · have hreport := attempt_ok (report_run (persistedEvent conf.socketMap.mapPath) world)
    rw [if_pos hpersist]
    exact ⟨world.files, _, .ok (), hreport, rfl, releases_of_persist hpersist world.files⟩
  rw [if_neg hpersist]
  have hpersist : conf.socketMap.persist = false := by simpa using hpersist
  cases hunlink : world.files.unlink conf.socketMap.mapPath with
  | ok files =>
    rw [hunlink] at hunpin
    refine ⟨files, _, .ok (), attempt_ok (bind_ok hunpin), rfl, ?_⟩
    exact releases_of_unlink hpersist (by simp [hunlink]) (by simp [hunlink]) (by simp [hunlink])
  | error reason =>
    rw [hunlink] at hunpin
    by_cases hreason : reason = .noEntry
    · simp only [if_pos hreason] at hunpin
      refine ⟨world.files, [], .ok (), ?_, rfl, ?_⟩
      · rw [World.wrote_nil]
        exact attempt_ok (bind_ok hunpin)
      · exact releases_of_unlink hpersist (by simp [hunlink]) (by simp) (by simp [hunlink, hreason])
    · simp only [if_neg hreason] at hunpin
      refine ⟨world.files, [], .error (pinError conf reason), ?_, rfl, ?_⟩
      · rw [World.wrote_nil]
        exact attempt_error (bind_error hunpin)
      · refine releases_of_unlink hpersist (by simp [hunlink]) (by simp [hunlink, hreason]) ?_
        rintro other hother -
        obtain rfl := Except.error.inj (hunlink.symm.trans hother)
        exact ⟨rfl, rfl⟩

/-! ## What is reported -/

def failure? : Except SteerError Unit → Option SteerError
  | .ok () => none
  | .error error => some error

/-- The warnings of what failed: one for each step, that of the detaching first. -/
def warnings (detached released : Except SteerError Unit) : List Output :=
  ((failure? detached).toList.map detachFailedEvent
    ++ (failure? released).toList.map unpinFailedEvent).map .event

theorem shutdownEvents_eq (detached released : Except SteerError Unit) :
    (shutdownEvents detached released).map .event = warnings detached released := by
  cases detached <;> cases released <;> rfl

theorem filter_warnings (detached released : Except SteerError Unit) :
    (warnings detached released).filter isWarning = warnings detached released := by
  cases detached <;> cases released <;> rfl

theorem shutdownResult_run (detached released : Except SteerError Unit) (world : World) :
    ∃ result, attempt (shutdownResult detached released) world
        = .ok result (world.wrote (warnings detached released)) ∧
      failure? result = (failure? detached).or (failure? released) := by
  have hreports := reportAll_run (shutdownEvents detached released) world
  rw [shutdownEvents_eq] at hreports
  cases detached with
  | error error => exact ⟨.error error, attempt_error (bind_ok hreports), rfl⟩
  | ok done =>
    cases released with
    | error error => exact ⟨.error error, attempt_error (bind_ok hreports), rfl⟩
    | ok done => exact ⟨.ok (), attempt_ok (bind_ok hreports), rfl⟩

end XdpSteering.Loader
