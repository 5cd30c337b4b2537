import XdpSteering.Loader
import XdpSteering.Proofs.FileSystem.Directories
import XdpSteering.Proofs.Pin

/-!
# Loads that fail

The directory for the map is made before anything is loaded. Where the object cannot be read, or the
kernel refuses all that is asked of it, nothing else comes of a run.
-/

namespace XdpSteering

open Operation

/-! ## Requests that are refused -/

/-- No link is opened and no object loaded: the requests that could change files change none. -/
structure Bpf.Refuses (bpf : Bpf) : Prop where
  openLink : ∀ files path, ∃ failure, bpf.openLink files path = .error failure
  load : ∀ request files, ∃ failure, bpf.load request files = (files, .error failure)

theorem Bpf.refuses_plain (reason : OsError) : (Bpf.plain reason).Refuses :=
  ⟨fun _ _ => ⟨_, rfl⟩, fun _ _ => ⟨_, rfl⟩⟩

/-- The map of an object is pinned in a directory, unless something has its name there. -/
def Bpf.pinMap (pins : Path) (files : FileSystem) : FileSystem :=
  match files.status pins with
  | .ok (place, .directory) =>
    let pin := place ++ [Text.Utf8.encode socketMapName]
    if files.node? pin = none then files.put pin (.file []) else files
  | _ => files

/-- Requests to a kernel that rejects an object once its map was pinned. -/
def Bpf.rejecting (object : Text.Octets) : Bpf :=
  { Bpf.plain .notPermitted with
    load := fun request files =>
      if request.content = object then
        (pinMap request.pins files, .error (.other "error relocating function" []))
      else (files, .error .malformed) }

theorem Pin.keeps_detachLink {host : Host} (h : host.bpf.Refuses) (path : Path) :
    Keeps (detachLink host path) := by
  intro world
  cases hexists : world.files.pathExists path with
  | false => rw [filesAfter_of_ok (detachLink_of_absent hexists host)]
  | true =>
    obtain ⟨failure, hopen⟩ := h.openLink world.files path
    have hrun := detachLink_of_exists hexists host
    rw [hopen] at hrun
    rw [filesAfter_of_error hrun]

/-! ## Loading -/

namespace Loader

variable {host : Host} {conf : Conf} {pins : Path} {files loaded : FileSystem} {reason : OsError}
  {failure : LoadFailure}

def withPins (conf : Conf) (files : FileSystem) : FileSystem :=
  (files.makeDirectories conf.socketMap.pinDirectory).1

theorem makeDirectories_run (directory : Path) (world : World) :
    makeDirectories directory world =
      .ok (world.files.makeDirectories directory).2
        { world with files := (world.files.makeDirectories directory).1 } := rfl

theorem loading_of_unreadable (h : files.read conf.objectPath = .error reason) (host : Host)
    (pins : Path) :
    loading host conf pins files = (files, .error (.unreadable conf.objectPath reason)) := by
  rw [loading, h]

theorem loading_of_refuses (h : host.bpf.Refuses) (conf : Conf) (pins : Path)
    (files : FileSystem) : ∃ failure, loading host conf pins files = (files, .error failure) := by
  cases hread : files.read conf.objectPath with
  | error reason => exact ⟨_, loading_of_unreadable hread host pins⟩
  | ok content =>
    rw [loading, hread]
    exact h.load _ files

theorem loadObject_run (host : Host) (conf : Conf) (pins : Path) (world : World) :
    loadObject host conf pins world =
      .ok (loading host conf pins world.files).2
        { world with files := (loading host conf pins world.files).1 } := rfl

/-- Where the object is not loaded, the directory for the map is all that is made. -/
theorem load_of_failure {world : World}
    (h : loading host conf conf.socketMap.pinDirectory (withPins conf world.files)
      = (withPins conf world.files, .error failure)) :
    ∃ error, load host conf world
      = .error error { world with files := withPins conf world.files } := by
  have hmake := makeDirectories_run conf.socketMap.pinDirectory world
  unfold load
  rw [bind_ok hmake]
  cases (world.files.makeDirectories conf.socketMap.pinDirectory).2 with
  | error reason => exact ⟨_, rfl⟩
  | ok made =>
    simp only [Except.mapError]
    rw [bind_ok (ofExcept_ok made _), bind_ok (loadObject_run host conf _ _)]
    rw [withPins] at h
    simp only [h]
    exact ⟨_, rfl⟩

theorem growsAlong_load_bind {A : Type} (h : host.bpf.Refuses) (conf : Conf)
    (next : Object → Operation A) :
    Respects (fun before after => before.GrowsAlong conf.socketMap.pinDirectory after)
      (load host conf >>= next) := by
  intro world
  obtain ⟨failure, hload⟩ :=
    loading_of_refuses h conf conf.socketMap.pinDirectory (withPins conf world.files)
  obtain ⟨error, hrun⟩ := load_of_failure hload
  rw [filesAfter_of_error (bind_error hrun)]
  exact FileSystem.growsAlong_makeDirectories world.files _

theorem growsAlong_run (h : host.bpf.Refuses) (conf : Conf) :
    Respects (fun before after => before.GrowsAlong conf.socketMap.pinDirectory after)
      (run host conf) := by
  have hrefl (files : FileSystem) : files.GrowsAlong conf.socketMap.pinDirectory files :=
    .refl files _
  refine Respects.bind_of_keeps (keeps_require _ _) (fun _ => ?_) hrefl
  exact Respects.bind_of_keeps (keeps_report _) (fun _ => growsAlong_load_bind h conf _) hrefl

end Loader

end XdpSteering
