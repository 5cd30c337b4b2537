import Mathlib.Data.List.Permutation
import XdpSteering.Proofs.Execution.Status
import XdpSteering.Proofs.FileSystem.Removal
import XdpSteering.Proofs.FileSystem.Trees

/-!
# Nothing is pinned

Detaching a program, opening a map and showing the status look through links: nothing is pinned
where a path leads nowhere. Removing a pin is about the entry itself. It finds nothing only if there
is no entry, removes a link that leads nowhere, and fails where the path is no path to an entry.
-/

namespace XdpSteering.Execution

open Operation Text FileSystem

variable {host : Host} {conf : Conf} {world after : World} {path : Path} {reason : OsError}

/-! ## Looking through links -/

theorem openMap_eq_mapUnavailable_iff :
    Pin.openMap host path world = .error (.mapUnavailable path) after ↔
      world.files.pathExists path = false ∧ after = world := by
  cases hexists : world.files.pathExists path with
  | false => simp [Pin.openMap_of_absent hexists, eq_comm]
  | true =>
    have hother := host.bpf.openSockets_ne_mapUnavailable world.files path path
    rw [Pin.openMap_of_exists hexists]
    cases hopen : host.bpf.openSockets world.files path with
    | ok sockets => simp
    | error error =>
      rw [hopen] at hother
      have hne : error ≠ .mapUnavailable path := fun heq => hother (congrArg Except.error heq)
      simp [hne]

theorem detachLink_eq_false_iff :
    Pin.detachLink host path world = .ok false after ↔
      world.files.pathExists path = false ∧ after = world := by
  cases hexists : world.files.pathExists path with
  | false => simp [Pin.detachLink_of_absent hexists, eq_comm]
  | true =>
    rw [Pin.detachLink_of_exists hexists]
    cases host.bpf.openLink world.files path with
    | error failure => simp
    | ok link =>
      dsimp only
      split <;> simp

theorem showsNoMap_iff :
    (∃ link, ShowsStatus host conf world false link) ↔
      world.files.pathExists conf.socketMap.mapPath = false := by
  simp only [showsStatus_iff]
  constructor
  · rintro ⟨link, -, hmap, -⟩
    exact hmap.symm
  · intro hmap
    refine ⟨_, showStatus_ends_iff.mpr fun h => ?_, hmap.symm, rfl⟩
    rw [hmap] at h
    cases h

theorem showsNoLink_iff :
    (∃ map, ShowsStatus host conf world map false) ↔
      world.files.pathExists conf.linkPinPath = false ∧
        ∃ after, showStatus host conf world = .ok () after := by
  simp only [showsStatus_iff]
  constructor
  · rintro ⟨map, hends, -, hlink⟩
    exact ⟨hlink.symm, hends⟩
  · rintro ⟨hlink, hends⟩
    exact ⟨_, hends, rfl, hlink.symm⟩

/-! ## Looking at the entry -/

theorem unpinMap_eq_false_iff (htree : world.files.IsTree) :
    Pin.unpinMap path world = .ok false after ↔
      (world.files.status path = .error .noEntry ∧ ¬ world.files.NamesLink path) ∧
        after = world := by
  rw [← unlink_eq_noEntry_iff htree, Pin.unpinMap_run]
  cases world.files.unlink path with
  | ok files => simp
  | error reason =>
    by_cases hreason : reason = .noEntry
    · simp [hreason, eq_comm]
    · simp [hreason]

theorem unpinMap_of_namesLink (h : world.files.NamesLink path) :
    ∃ place target, world.files.node? place = some (.link target) ∧
      Pin.unpinMap path world =
        if path.endsInSlash then
          .error (.io ("failed to remove pin " ++ path.display) .notDirectory) world
        else
          .ok true (World.wrote { world with files := world.files.remove place }
            [.event (Pin.unpinnedEvent path)]) := by
  obtain ⟨place, target, hnode, hunlink⟩ := unlink_of_namesLink h
  refine ⟨place, target, hnode, ?_⟩
  rw [Pin.unpinMap_run, hunlink]
  cases path.endsInSlash <;> rfl

theorem unpinMap_of_status_error (htree : world.files.IsTree)
    (hlink : ¬ world.files.NamesLink path) (h : world.files.status path = .error reason)
    (hreason : reason ≠ .noEntry) :
    Pin.unpinMap path world =
      .error (.io ("failed to remove pin " ++ path.display) reason) world := by
  rw [Pin.unpinMap_run, unlink_of_status_error htree hlink h]
  exact if_neg hreason

/-! ## Absence -/

/-- All that looks through links agrees on whether anything is pinned at a path. -/
structure MissedAlike (host : Host) (world : World) (path : Path) : Prop where
  detachLink : ∀ after, Pin.detachLink host path world = .ok false after ↔
    world.files.pathExists path = false ∧ after = world
  openMap : ∀ after, Pin.openMap host path world = .error (.mapUnavailable path) after ↔
    world.files.pathExists path = false ∧ after = world
  showsNoMap : ∀ conf, conf.socketMap.mapPath = path →
    ((∃ link, ShowsStatus host conf world false link) ↔ world.files.pathExists path = false)
  /-- Nothing is shown if there is a map that cannot be opened. -/
  showsNoLink : ∀ conf, conf.linkPinPath = path →
    ((∃ map, ShowsStatus host conf world map false) ↔
      world.files.pathExists path = false ∧ ∃ after, showStatus host conf world = .ok () after)
  showStatus : ∀ conf, (∃ after, showStatus host conf world = .ok () after) ↔
    (world.files.pathExists conf.socketMap.mapPath = true →
      ∃ sockets, host.bpf.openSockets world.files conf.socketMap.mapPath = .ok sockets)

/-- Whether there was a pin to be removed is a matter of the entry, and where the path leads nowhere
the reason counts. -/
structure MissedByRemoval (world : World) (path : Path) : Prop where
  missed : ∀ after, Pin.unpinMap path world = .ok false after ↔
    (world.files.status path = .error .noEntry ∧ ¬ world.files.NamesLink path) ∧ after = world
  refused : ∀ reason, world.files.status path = .error reason → reason ≠ .noEntry →
    ¬ world.files.NamesLink path →
    Pin.unpinMap path world = .error (.io ("failed to remove pin " ++ path.display) reason) world
  link : world.files.NamesLink path →
    ∃ place target, world.files.node? place = some (.link target) ∧
      Pin.unpinMap path world =
        if path.endsInSlash then
          .error (.io ("failed to remove pin " ++ path.display) .notDirectory) world
        else
          .ok true (World.wrote { world with files := world.files.remove place }
            [.event (Pin.unpinnedEvent path)])

/-- Whatever looks through links agrees on where nothing is pinned. Removing a pin agrees with it
where the path leads to no entry, but neither for a link that leads nowhere nor for a path that is
none. -/
theorem absence_is_agreed_on_but_for_removal (host : Host) {world : World}
    (htree : world.files.IsTree) (path : Path) :
    MissedAlike host world path ∧ MissedByRemoval world path := by
  refine ⟨⟨fun after => detachLink_eq_false_iff, fun after => openMap_eq_mapUnavailable_iff, ?_,
    ?_, fun conf => showStatus_ends_iff⟩, ⟨fun after => unpinMap_eq_false_iff htree, ?_,
    unpinMap_of_namesLink⟩⟩
  · rintro conf rfl
    exact showsNoMap_iff
  · rintro conf rfl
    exact showsNoLink_iff
  · intro reason hstatus hreason hlink
    exact unpinMap_of_status_error htree hlink hstatus hreason

def brokenPins : FileSystem where
  entries := [([Utf8.encode "pin"], .link (Path.ofString "gone")),
    ([Utf8.encode "plain"], .file [])]
  workingDirectory := []

/-- Neither a link that leads nowhere nor a path through a plain file leads anywhere, and neither of
them is missed when its pin is removed. -/
theorem removal_tells_absent_pins_apart :
    let link := Path.ofString "pin"
    let throughFile := Path.ofString "plain/pin"
    brokenPins.IsTree ∧
      ¬ (brokenPins.pathExists link = false ↔
        ∃ after, Pin.unpinMap link { files := brokenPins } = .ok false after) ∧
      ¬ (brokenPins.pathExists throughFile = false ↔
        ∃ after, Pin.unpinMap throughFile { files := brokenPins } = .ok false after) := by
  have hlink : brokenPins.pathExists (Path.ofString "pin") = false := by cbv
  have hthrough : brokenPins.pathExists (Path.ofString "plain/pin") = false := by cbv
  have hremoved : brokenPins.unlink (Path.ofString "pin")
      = .ok (brokenPins.remove [Utf8.encode "pin"]) := by cbv
  have hrefused : brokenPins.unlink (Path.ofString "plain/pin") = .error .notDirectory := by cbv
  refine ⟨⟨by decide +kernel, rfl⟩, fun hiff => ?_, fun hiff => ?_⟩
  · obtain ⟨after, hmissed⟩ := hiff.mp hlink
    rw [Pin.unpinMap_run, hremoved] at hmissed
    cases hmissed
  · obtain ⟨after, hmissed⟩ := hiff.mp hthrough
    rw [Pin.unpinMap_run, hrefused] at hmissed
    cases hmissed

def linkedPins (pins : List Octets) : FileSystem where
  entries := [([Utf8.encode "store"], .directory),
      ([Utf8.encode "pins"], .link (Path.ofString "store"))]
    ++ pins.map fun pin => ([Utf8.encode "store", pin], .file [])
  workingDirectory := []

def willingMap : SocketMap where
  capacity := 64
  set _ _ := .ok ()
  clear _ := .ok ()

/-- Requests to a kernel for which every file is a pinned map. -/
def mapsInFiles : Bpf :=
  { Bpf.plain .notPermitted with
    openMap := fun files path =>
      match files.status path with
      | .ok (_, .file _) => .ok { duplicate := .ok (), sockets := .ok willingMap }
      | _ => .error (.openFailed .notPermitted) }

/-- In a directory behind a link there is no pin: all agree on that, and nothing is removed. Where
the map is pinned in it, there is still no link. -/
theorem pin_behind_link_is_absent :
    let host : Host :=
      { status := .ok "", interfaces := [], kernel := ⟨6, 8, 0⟩, bpf := mapsInFiles }
    let conf : Conf := { socketMap := { pinPath := "pins" } }
    let path := conf.socketMap.mapPath
    let world : World := { files := linkedPins [] }
    let pinned : World := { files := linkedPins [Utf8.encode "socket_map"] }
    (world.files.IsTree ∧
      Pin.detachLink host path world = .ok false world ∧
      Pin.openMap host path world = .error (.mapUnavailable path) world ∧
      (∃ link, ShowsStatus host conf world false link) ∧
      Pin.unpinMap path world = .ok false world) ∧
    ∃ map, ShowsStatus host conf pinned map false := by
  intro host conf path world pinned
  have hpath : path = Path.ofString "pins/socket_map" := by decide +kernel
  have hlinkPath : conf.linkPinPath = Path.ofString "pins/link_eth0" := by decide +kernel
  constructor
  · have htree : world.files.IsTree := ⟨by decide +kernel, rfl⟩
    have hstatus : (linkedPins []).status (Path.ofString "pins/socket_map") = .error .noEntry := by
      cbv
    have habsent : (linkedPins []).pathExists (Path.ofString "pins/socket_map") = false := by cbv
    have hslot : (linkedPins []).slot (Path.ofString "pins/socket_map")
        = .ok (.entry ⟨[Utf8.encode "store"], Utf8.encode "socket_map", none⟩) := by cbv
    have hlink : ¬ (linkedPins []).NamesLink (Path.ofString "pins/socket_map") := by
      rintro ⟨directory, name, target, hentry⟩
      rw [hslot] at hentry
      cases hentry
    rw [← hpath] at hstatus habsent hlink
    obtain ⟨halike, hremoval⟩ := absence_is_agreed_on_but_for_removal host htree path
    exact ⟨htree, (halike.detachLink _).mpr ⟨habsent, rfl⟩, (halike.openMap _).mpr ⟨habsent, rfl⟩,
      (halike.showsNoMap conf rfl).mpr habsent, (hremoval.missed _).mpr ⟨⟨hstatus, hlink⟩, rfl⟩⟩
  · have htree : pinned.files.IsTree := ⟨by decide +kernel, rfl⟩
    have hstatus : (linkedPins [Utf8.encode "socket_map"]).status (Path.ofString "pins/socket_map")
        = .ok ([Utf8.encode "store", Utf8.encode "socket_map"], .file []) := by cbv
    have habsent : (linkedPins [Utf8.encode "socket_map"]).pathExists
        (Path.ofString "pins/link_eth0") = false := by cbv
    rw [← hpath] at hstatus
    rw [← hlinkPath] at habsent
    have hopen : host.bpf.openSockets pinned.files path = .ok willingMap := by
      simp only [Bpf.openSockets, host, mapsInFiles, pinned, hstatus]
      rfl
    obtain ⟨halike, -⟩ := absence_is_agreed_on_but_for_removal host htree conf.linkPinPath
    have hends := (halike.showStatus conf).mpr fun _ => ⟨_, hopen⟩
    exact (halike.showsNoLink conf rfl).mpr ⟨habsent, hends⟩

end XdpSteering.Execution
