import XdpSteering.Proofs.Execution
import XdpSteering.Proofs.Execution.Status
import XdpSteering.Proofs.FileSystem.Removal

/-!
# After the map was unpinned

Removing the pin of the map comes to a good end in two ways: the pin was removed, or there was none.
In both, whatever the paths lead through, no later command finds a map, and none of them changes the
files.
-/

namespace XdpSteering.Execution

open Operation Text

/-! ## Sessions -/

structure Answer where
  result : Except SteerError Unit
  output : List Output
  /-- The files as the command leaves them. -/
  files : FileSystem

/-- A command and the machine on which it is carried out. -/
structure Request where
  host : Host
  command : Command

/-- Carries out a command by a process of its own. -/
def answer (conf : Conf) (files : FileSystem) (request : Request) : Answer :=
  match execute request.host conf (some request.command) { files } with
  | .ok () after => ⟨.ok (), after.output, after.files⟩
  | .error error after => ⟨.error error, after.output, after.files⟩

def session (conf : Conf) (files : FileSystem) : List Request → List Answer
  | [] => []
  | request :: rest =>
    let first := answer conf files request
    first :: session conf first.files rest

/-- A command that looks for the pinned map, with the capabilities that it needs. -/
inductive LooksForMap : Request → Prop where
  | unpin {host : Host} (held : missing host (some .unpin) = []) : LooksForMap ⟨host, .unpin⟩
  | status (host : Host) : LooksForMap ⟨host, .status⟩
  | register {host : Host} (queue : QueueIndex) (pid descriptor : Int32)
      (held : missing host (some (.register queue pid descriptor)) = []) :
      LooksForMap ⟨host, .register queue pid descriptor⟩
  | unregister {host : Host} (queue : QueueIndex)
      (held : missing host (some (.unregister queue)) = []) :
      LooksForMap ⟨host, .unregister queue⟩

def missedPin (path : Path) : Event where
  level := .warn
  target := .pins
  name := "cli.unpin.no_map"
  message := "no pinned socket map found"
  fields := [("ebpf.map.pin_path", .shown path.display)]

/-- A command finds no map: it says so, and leaves the files as they are. The processes of the
machine have no part in it. -/
inductive FindsNoMap (conf : Conf) (files : FileSystem) : Request → Answer → Prop where
  | unpin (host : Host) :
      FindsNoMap conf files ⟨host, .unpin⟩
        ⟨.ok (), checks host (some .unpin) ++ [.event (missedPin conf.socketMap.mapPath)], files⟩
  | status (host : Host) {event : Event} {summary : String}
      (tells : TellsStatus conf false (files.pathExists conf.linkPinPath) event summary) :
      FindsNoMap conf files ⟨host, .status⟩ ⟨.ok (), [.event event, .text summary], files⟩
  | register (host : Host) (queue : QueueIndex) (pid descriptor : Int32) :
      FindsNoMap conf files ⟨host, .register queue pid descriptor⟩
        ⟨.error (.mapUnavailable conf.socketMap.mapPath),
          checks host (some (.register queue pid descriptor)), files⟩
  | unregister (host : Host) (queue : QueueIndex) :
      FindsNoMap conf files ⟨host, .unregister queue⟩
        ⟨.error (.mapUnavailable conf.socketMap.mapPath),
          checks host (some (.unregister queue)), files⟩

variable {host : Host} {conf : Conf} {files : FileSystem} {world after : World}
  {request : Request} {found : Answer}

theorem FindsNoMap.files_eq (h : FindsNoMap conf files request found) : found.files = files := by
  cases h <;> rfl

/-! ## Unpinning -/

/-- What removing the pin of the map comes to, for a process that may do so. -/
theorem unpin_run (hheld : missing host (some .unpin) = []) (world : World) :
    unpin host conf world =
      match world.files.unlink conf.socketMap.mapPath with
      | .ok files => .ok () (World.wrote { world with files }
          (checks host (some .unpin) ++ [.event (Pin.unpinnedEvent conf.socketMap.mapPath)]))
      | .error reason =>
        if reason = .noEntry then
          .ok () (world.wrote
            (checks host (some .unpin) ++ [.event (noMapEvent conf.socketMap.mapPath)]))
        else
          .error (.io ("failed to remove pin " ++ conf.socketMap.mapPath.display) reason)
            (world.wrote (checks host (some .unpin))) := by
  have hunpin := Pin.unpinMap_run conf.socketMap.mapPath (world.wrote (checks host (some .unpin)))
  have hgranted : Capability.lacking host.status Capability.mapAdmin = [] := hheld
  rw [World.files_wrote] at hunpin
  refine (require_bind_of_held hgranted world).trans ?_
  cases hunlink : world.files.unlink conf.socketMap.mapPath with
  | ok removed =>
    rw [hunlink] at hunpin
    refine (bind_ok hunpin).trans (congrArg (EStateM.Result.ok ()) ?_)
    exact World.wrote_wrote { world with files := removed } _ _
  | error reason =>
    rw [hunlink] at hunpin
    by_cases hreason : reason = .noEntry
    · simp only [if_pos hreason] at hunpin ⊢
      refine (bind_ok hunpin).trans (congrArg (EStateM.Result.ok ()) ?_)
      exact World.wrote_wrote world _ _
    · simp only [if_neg hreason] at hunpin ⊢
      exact bind_error hunpin

/-- Where the map was unpinned, its pin cannot be removed for want of an entry. -/
theorem unlink_of_unpin (h : unpin host conf world = .ok () after) :
    after.files.unlink conf.socketMap.mapPath = .error .noEntry := by
  by_cases hheld : missing host (some .unpin) = []
  · rw [unpin_run hheld] at h
    split at h
    · next removed hunlink =>
      -- The pin was removed.
      obtain ⟨-, rfl⟩ := EStateM.Result.ok.inj h
      exact FileSystem.unlink_gone hunlink
    · next reason hunlink =>
      split at h
      · next hreason =>
        -- There was none, and nothing was changed.
        obtain ⟨-, rfl⟩ := EStateM.Result.ok.inj h
        exact hreason ▸ hunlink
      · cases h
  · have hlacking : Capability.lacking host.status Capability.mapAdmin ≠ [] := hheld
    have hfails : unpin host conf world = .error _ _ := require_bind_of_lacking hlacking world
    rw [hfails] at h
    cases h

/-! ## Commands without a map -/

section

variable (hgone : files.unlink conf.socketMap.mapPath = .error .noEntry)

include hgone

theorem answer_unpin (hheld : missing host (some .unpin) = []) :
    FindsNoMap conf files ⟨host, .unpin⟩ (answer conf files ⟨host, .unpin⟩) := by
  have hrun : execute host conf (some .unpin) { files } = _ := unpin_run hheld { files }
  rw [hgone] at hrun
  simp only [answer, hrun, if_true]
  exact .unpin host

/-- What needs the map gets no further than to look for it. -/
theorem openMap_bind_of_gone {required : List Capability} {next : SocketMap → Operation Unit}
    (hheld : Capability.lacking host.status required = []) :
    (require host required >>= fun _ => Pin.openMap host conf.socketMap.mapPath >>= next) { files }
      = .error (.mapUnavailable conf.socketMap.mapPath)
          (World.wrote { files } (Capability.reports host.status required)) := by
  have habsent := FileSystem.pathExists_of_unlink hgone
  rw [require_bind_of_held hheld]
  exact bind_error (Pin.openMap_of_absent habsent host)

theorem answer_status (host : Host) :
    FindsNoMap conf files ⟨host, .status⟩ (answer conf files ⟨host, .status⟩) := by
  have habsent := FileSystem.pathExists_of_unlink hgone
  have hcollect : PinStatus.collect host conf { files } = _ := collect_of_absent habsent host
  have hrun : execute host conf (some .status) { files } = _ := showStatus_of_collect hcollect
  simp only [answer, hrun]
  exact .status host (tellsStatus conf ⟨none, files.pathExists conf.linkPinPath⟩)

theorem answer_register (queue : QueueIndex) (pid descriptor : Int32)
    (hheld : missing host (some (.register queue pid descriptor)) = []) :
    FindsNoMap conf files ⟨host, .register queue pid descriptor⟩
      (answer conf files ⟨host, .register queue pid descriptor⟩) := by
  have hrun : execute host conf (some (.register queue pid descriptor)) { files } = _ :=
    openMap_bind_of_gone hgone hheld
  simp only [answer, hrun]
  exact .register host queue pid descriptor

theorem answer_unregister (queue : QueueIndex)
    (hheld : missing host (some (.unregister queue)) = []) :
    FindsNoMap conf files ⟨host, .unregister queue⟩
      (answer conf files ⟨host, .unregister queue⟩) := by
  have hrun : execute host conf (some (.unregister queue)) { files } = _ :=
    openMap_bind_of_gone hgone hheld
  simp only [answer, hrun]
  exact .unregister host queue

theorem findsNoMap_answer (hlooks : LooksForMap request) :
    FindsNoMap conf files request (answer conf files request) := by
  cases hlooks with
  | unpin held => exact answer_unpin hgone held
  | status host => exact answer_status hgone host
  | register queue pid descriptor held => exact answer_register hgone queue pid descriptor held
  | unregister queue held => exact answer_unregister hgone queue held

theorem findsNoMap_session {requests : List Request}
    (hlook : ∀ request ∈ requests, LooksForMap request) :
    List.Forall₂ (FindsNoMap conf files) requests (session conf files requests) := by
  induction requests with
  | nil => exact .nil
  | cons request rest ih =>
    have hfirst := findsNoMap_answer hgone (hlook request List.mem_cons_self)
    have hrest := ih fun other hmem => hlook other (List.mem_cons_of_mem _ hmem)
    rw [session]
    refine .cons hfirst ?_
    -- The first answer left the files alone, so that the pin is gone for the next one.
    rwa [hfirst.files_eq]

end

/-- Once the map was unpinned no command finds it, however often it is looked for, and the files
stay as they are. -/
theorem unpinned_map_is_not_found (h : execute host conf (some .unpin) world = .ok () after)
    {requests : List Request} (hlook : ∀ request ∈ requests, LooksForMap request) :
    List.Forall₂ (FindsNoMap conf after.files) requests (session conf after.files requests) :=
  findsNoMap_session (unlink_of_unpin h) hlook

/-- The pin is a link in a directory behind a link: it is gone for good. -/
theorem pin_behind_links_is_not_found :
    let host : Host :=
      { status := .ok "CapEff:\t0000008000080000\n", interfaces := [], kernel := ⟨6, 8, 0⟩ }
    let conf : Conf := { socketMap := { pinPath := "pins" } }
    let store : Octets := Utf8.encode "store"
    let files : FileSystem :=
      { entries := [([store], .directory),
          ([Utf8.encode "pins"], .link (Path.ofString "store")),
          ([store, Utf8.encode "socket_map"], .link (Path.ofString "elsewhere"))]
        workingDirectory := [] }
    let requests : List Request :=
      [⟨host, .unpin⟩, ⟨host, .status⟩, ⟨host, .register 3 1 5⟩, ⟨host, .unregister 3⟩]
    ∃ after, execute host conf (some .unpin) { files } = .ok () after ∧
      after.files = files.remove [store, Utf8.encode "socket_map"] ∧
      List.Forall₂ (FindsNoMap conf after.files) requests
        (session conf after.files requests) := by
  intro host conf store files requests
  have hstore : FileSystem.EntryName store := ⟨by decide, by decide, by decide⟩
  have hpins : FileSystem.EntryName (Utf8.encode "pins") := ⟨by decide, by decide, by decide⟩
  have hdirectory : files.node? ([] ++ [store]) = some .directory := by decide +kernel
  have hlink : files.node? ([] ++ [Utf8.encode "pins"]) = some (.link (Path.ofString "store")) := by
    decide +kernel
  have hsteps : FileSystem.steps (Path.ofString "store") = [store] := by decide +kernel
  have horigin : files.origin conf.socketMap.mapPath = [] := by decide +kernel
  have hleads : files.Leads true FileSystem.maxLinks (files.origin conf.socketMap.mapPath)
      [Utf8.encode "pins"] [store] .directory := by
    rw [horigin]
    refine .jump rfl hpins hlink (.inr rfl) ?_
    rw [hsteps]
    exact .down rfl hstore hdirectory (fun _ h => nomatch h) (.arrived hdirectory)
  have hnames : conf.socketMap.mapPath.names
      = [Utf8.encode "pins"] ++ [Utf8.encode "socket_map"] := by decide +kernel
  have hslot := FileSystem.slot_of_leads (by decide +kernel) hnames hleads
  have hunlink : files.unlink conf.socketMap.mapPath
      = .ok (files.remove [store, Utf8.encode "socket_map"]) := by
    rw [FileSystem.unlink, hslot]
    decide +kernel
  have hrun : execute host conf (some .unpin) { files } = _ := unpin_run (by decide) { files }
  rw [hunlink] at hrun
  have hlook : ∀ request ∈ requests, LooksForMap request := by
    simp only [requests, List.forall_mem_cons]
    exact ⟨.unpin (by decide), .status host, .register 3 1 5 (by decide), .unregister 3 (by decide),
      by simp⟩
  exact ⟨_, hrun, rfl, unpinned_map_is_not_found hrun hlook⟩

end XdpSteering.Execution
