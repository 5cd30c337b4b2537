import XdpSteering.PinStatus
import XdpSteering.Proofs.Operation

/-!
# What is done to pins

Each operation on a pin is said in terms of where its path leads. Of the files only the one that
removes a pin changes anything.
-/

namespace XdpSteering

open Operation

namespace Pin

theorem isPinned_run (path : Path) (world : World) :
    isPinned path world = .ok (world.files.pathExists path) world := rfl

theorem openMap_of_absent {path : Path} {world : World} (h : world.files.pathExists path = false)
    (host : Host) : openMap host path world = .error (.mapUnavailable path) world := by
  unfold openMap
  rw [bind_ok (isPinned_run path world), h]
  rfl

theorem openMap_of_exists {path : Path} {world : World} (h : world.files.pathExists path = true)
    (host : Host) :
    openMap host path world =
      match host.bpf.openSockets world.files path with
      | .ok sockets => .ok sockets (world.wrote [.event (openedEvent path sockets.capacity)])
      | .error error => .error error world := by
  have hfiles : files world = .ok world.files world := rfl
  unfold openMap
  rw [bind_ok (isPinned_run path world), h, if_pos rfl, bind_ok hfiles]
  cases host.bpf.openSockets world.files path <;> rfl

theorem detachLink_of_absent {path : Path} {world : World}
    (h : world.files.pathExists path = false) (host : Host) :
    detachLink host path world = .ok false world := by
  unfold detachLink
  rw [bind_ok (isPinned_run path world), h]
  rfl

theorem detachLink_of_exists {path : Path} {world : World}
    (h : world.files.pathExists path = true) (host : Host) :
    detachLink host path world =
      match host.bpf.openLink world.files path with
      | .error failure => .error (.link failure) world
      | .ok link =>
        match link.unpin world.files with
        | (files, .ok ()) =>
          .ok true (World.wrote { world with files } [.event (detachedEvent path)])
        | (files, .error reason) =>
          .error (.io ("failed to unpin link " ++ path.display) reason) { world with files } := by
  have hfiles : files world = .ok world.files world := rfl
  unfold detachLink
  rw [bind_ok (isPinned_run path world), h, if_pos rfl, bind_ok hfiles]
  cases host.bpf.openLink world.files path with
  | error failure => rfl
  | ok link =>
    have hunpin := request_run link.unpin world
    simp only [Except.mapError]
    rw [bind_ok (ofExcept_ok link world), bind_ok hunpin]
    obtain ⟨after, result⟩ := link.unpin world.files
    cases result <;> rfl

theorem unpinMap_run (path : Path) (world : World) :
    unpinMap path world =
      match world.files.unlink path with
      | .ok files => .ok true (World.wrote { world with files } [.event (unpinnedEvent path)])
      | .error reason =>
        if reason = .noEntry then .ok false world
        else .error (.io ("failed to remove pin " ++ path.display) reason) world := by
  have hfiles : files world = .ok world.files world := rfl
  unfold unpinMap
  rw [bind_ok hfiles]
  cases world.files.unlink path with
  | ok after => rfl
  | error reason =>
    dsimp only
    split <;> rfl

theorem keeps_isPinned (path : Path) : Keeps (isPinned path) := fun _ => rfl

theorem keeps_openMap (host : Host) (path : Path) : Keeps (openMap host path) := by
  refine (keeps_isPinned path).bind fun pinned => ?_
  cases pinned with
  | false => exact keeps_throw _
  | true =>
    exact keeps_files.bind fun _ => (keeps_ofExcept _).bind fun _ => (keeps_report _).bind fun _ =>
      keeps_pure _

end Pin

theorem SocketMap.ofData_ne_mapUnavailable (data : MapData) (path : Path) :
    ofData data ≠ .error (.mapUnavailable path) := by
  unfold ofData
  cases data.duplicate with
  | error reason => simp [Except.mapError, bind, Except.bind]
  | ok done => cases data.sockets <;> simp [Except.mapError, bind, Except.bind]

/-- What is there but cannot be opened is told from what is not there. -/
theorem Bpf.openSockets_ne_mapUnavailable (bpf : Bpf) (files : FileSystem) (path other : Path) :
    bpf.openSockets files path ≠ .error (.mapUnavailable other) := by
  unfold openSockets
  cases bpf.openMap files path with
  | error failure => simp [Except.mapError, bind, Except.bind]
  | ok data => exact SocketMap.ofData_ne_mapUnavailable data other

end XdpSteering
