import Mathlib.Data.List.Permutation
import XdpSteering.Proofs.Diagnosis.Run
import XdpSteering.Proofs.Execution
import XdpSteering.Proofs.Execution.Status

/-!
# What commands leave alone

Most commands only look at the files. Removing the pin of the map removes one entry, running the
program makes the directory for the map, and a diagnosis makes and removes a directory of its own.
Until a link is opened or an object loaded nothing else in the tree of files changes, whether a
command fails or not.
-/

namespace XdpSteering

open Operation

/-! ## Removing a pin -/

/-- At most the entry that a path names was removed, and that is no directory. -/
def LosesEntry (path : Path) (before after : FileSystem) : Prop :=
  after = before ∨
    ∃ place node, before.Names path place ∧ before.node? place = some node ∧ node ≠ .directory ∧
      after = before.remove place

theorem Pin.losesEntry_unpinMap (path : Path) : Respects (LosesEntry path) (unpinMap path) := by
  intro world
  rw [filesAfter, unpinMap_run]
  cases hunlink : world.files.unlink path with
  | ok after => exact .inr (FileSystem.unlink_eq_ok hunlink)
  | error reason =>
    by_cases hreason : reason = .noEntry
    · exact .inl (by simp only [if_pos hreason])
    · exact .inl (by simp only [if_neg hreason])

namespace Loader

theorem losesEntry_release (conf : Conf) :
    Respects (LosesEntry conf.socketMap.mapPath) (release conf) := by
  unfold release
  dsimp only
  split
  · exact (keeps_report _).respects fun _ => .inl rfl
  · exact (Pin.losesEntry_unpinMap _).bind_keeps fun _ => keeps_pure _

theorem keeps_release {conf : Conf} (h : conf.socketMap.persist = true) : Keeps (release conf) := by
  unfold release
  dsimp only
  rw [if_pos h]
  exact keeps_report _

theorem keeps_shutdownResult (detached released : Except SteerError Unit) :
    Keeps (shutdownResult detached released) :=
  (keeps_reportAll _).bind fun _ => (keeps_ofExcept _).bind fun _ => keeps_ofExcept _

theorem losesEntry_shutdown (conf : Conf) (detached : Except SteerError Unit) :
    Respects (LosesEntry conf.socketMap.mapPath) (shutdown conf detached) :=
  (losesEntry_release conf).attempt.bind_keeps fun released =>
    keeps_shutdownResult detached released

theorem keeps_shutdown {conf : Conf} (h : conf.socketMap.persist = true)
    (detached : Except SteerError Unit) : Keeps (shutdown conf detached) :=
  (keeps_release h).attempt.bind fun released => keeps_shutdownResult detached released

end Loader

/-! ## Trying out a directory -/

namespace Diagnosis

open FileSystem

def InScratch (conf : Conf) (files : FileSystem) (location : Location) : Prop :=
  ∃ place, files.Names (scratchPath conf) place ∧ place <+: location

/-- The files that are left once the directory for the pins was made and removed. -/
def withoutScratch (conf : Conf) (files : FileSystem) : FileSystem :=
  ((withScratch conf files).removeTree (scratchPath conf)).1

/-- Where nothing is loaded a diagnosis leaves the files as they are, or makes and removes a
directory. -/
theorem run_files {host : Host} (h : host.bpf.Refuses) (conf : Conf) :
    Respects (fun before after => after = before ∨ after = withoutScratch conf before)
      (run host conf) := by
  intro world
  by_cases hinterface : conf.interface ∈ host.interfaces
  · obtain ⟨failure, hload⟩ :=
      Loader.loading_of_refuses h conf (scratchPath conf) (withScratch conf world.files)
    obtain ⟨after, hrun, hfiles⟩ := run_of_failure hinterface world hload
    rw [filesAfter_of_error hrun]
    exact .inr hfiles
  · obtain ⟨pieces, hrun⟩ := run_of_no_interface hinterface world
    rw [filesAfter_of_error hrun]
    exact .inl rfl

/-- Outside of its directory a diagnosis at most makes directories on the way there. -/
theorem node?_withoutScratch (conf : Conf) (files : FileSystem) {location : Location}
    (houtside : ¬ InScratch conf (withScratch conf files) location) :
    (withoutScratch conf files).node? location = files.node? location ∨
      files.node? location = none ∧
        (withoutScratch conf files).node? location = some .directory ∧
        (withScratch conf files).OnTheWay conf.socketMap.pinDirectory location := by
  have hgrows : files.GrowsAlong (scratchPath conf) (withScratch conf files) :=
    growsAlong_makeDirectories files (scratchPath conf)
  have hshrinks := shrinksBelow_removeTree_scratchPath conf (withScratch conf files)
  have hsame : (withoutScratch conf files).node? location
      = (withScratch conf files).node? location :=
    by_contra fun hchanged => houtside (hshrinks.below location hchanged)
  rw [hsame]
  cases hbefore : files.node? location with
  | some node => exact .inl (hgrows.within.kept location node hbefore)
  | none =>
    cases hmade : (withScratch conf files).node? location with
    | none => exact .inl rfl
    | some node =>
      rcases hgrows.fresh location node hmade with hkept | ⟨rfl, hway⟩
      · rw [hbefore] at hkept
        cases hkept
      · rcases onTheWay_scratchPath hway with hscratch | hpin
        · exact absurd ⟨location, hscratch, List.prefix_rfl⟩ houtside
        · exact .inr ⟨rfl, rfl, hpin⟩

end Diagnosis

/-! ## Sockets -/

theorem SocketMap.keeps_register (sockets : SocketMap) (queue : QueueIndex) (descriptor : Int32) :
    Keeps (sockets.register queue descriptor) :=
  (keeps_ofExcept _).bind fun _ => (keeps_ofExcept _).bind fun _ => keeps_report _

theorem SocketMap.keeps_unregister (sockets : SocketMap) (queue : QueueIndex) :
    Keeps (sockets.unregister queue) :=
  (keeps_ofExcept _).bind fun _ => (keeps_ofExcept _).bind fun _ => keeps_report _

theorem Peer.keeps_takeOver (host : Host) (pid descriptor : Int32) :
    Keeps (takeOver host pid descriptor) :=
  (keeps_ofExcept _).bind fun _ => (keeps_report _).bind fun _ => keeps_pure _

/-! ## All commands -/

namespace Execution

def MayLeave (conf : Conf) (before after : FileSystem) : Option Command → Prop
  | none => before.GrowsAlong conf.socketMap.pinDirectory after
  | some .unpin => LosesEntry conf.socketMap.mapPath before after
  | some .diagnose =>
    ∀ location, ¬ Diagnosis.InScratch conf (Diagnosis.withScratch conf before) location →
      after.node? location = before.node? location ∨
        before.node? location = none ∧ after.node? location = some .directory ∧
          (Diagnosis.withScratch conf before).OnTheWay conf.socketMap.pinDirectory location
  | some (.register ..) => after = before
  | some (.unregister _) => after = before
  | some .detach => after = before
  | some .status => after = before

theorem keeps_register (host : Host) (conf : Conf) (queue : QueueIndex) (pid descriptor : Int32) :
    Keeps (register host conf queue pid descriptor) :=
  (keeps_require _ _).bind fun _ => (Pin.keeps_openMap _ _).bind fun sockets =>
    (Peer.keeps_takeOver _ _ _).bind fun _ => (sockets.keeps_register _ _).bind fun _ =>
      keeps_report _

theorem keeps_unregister (host : Host) (conf : Conf) (queue : QueueIndex) :
    Keeps (unregister host conf queue) :=
  (keeps_require _ _).bind fun _ => (Pin.keeps_openMap _ _).bind fun sockets =>
    (sockets.keeps_unregister _).bind fun _ => keeps_report _

theorem keeps_detach {host : Host} (h : host.bpf.Refuses) (conf : Conf) :
    Keeps (detach host conf) := by
  refine (keeps_require _ _).bind fun _ => (Pin.keeps_detachLink h _).bind fun found => ?_
  cases found with
  | true => exact keeps_pure _
  | false => exact keeps_report _

theorem losesEntry_unpin (host : Host) (conf : Conf) :
    Respects (LosesEntry conf.socketMap.mapPath) (unpin host conf) := by
  refine Respects.bind_of_keeps (keeps_require _ _) (fun _ => ?_) fun _ => .inl rfl
  refine (Pin.losesEntry_unpinMap _).bind_keeps fun found => ?_
  cases found with
  | true => exact keeps_pure _
  | false => exact keeps_report _

theorem mayLeave_execute {host : Host} (h : host.bpf.Refuses) (conf : Conf)
    (command : Option Command) :
    Respects (fun before after => MayLeave conf before after command)
      (execute host conf command) := by
  match command with
  | none => exact Loader.growsAlong_run h conf
  | some (.register queue pid descriptor) => exact keeps_register host conf queue pid descriptor
  | some (.unregister queue) => exact keeps_unregister host conf queue
  | some .detach => exact keeps_detach h conf
  | some .unpin => exact losesEntry_unpin host conf
  | some .status => exact keeps_showStatus host conf
  | some .diagnose =>
    intro world location houtside
    rcases Diagnosis.run_files h conf world with hkept | hchanged
    · exact .inl (congrArg (FileSystem.node? · location) hkept)
    · exact hchanged ▸ Diagnosis.node?_withoutScratch conf world.files houtside

/-! ### Runs that make no such request -/

/-- A run comes to what it would come to if the requests that could change files were refused. -/
def WithoutBpf (host : Host) (conf : Conf) (command : Option Command) (world : World) : Prop :=
  ∃ bpf : Bpf, bpf.Refuses ∧
    execute { host with bpf } conf command world = execute host conf command world

/-- What a command needs of the kernel's objects is missing: a pin, or the file of the object. -/
def Misses (conf : Conf) (files : FileSystem) : Option Command → Prop
  | none => ∃ reason, (Loader.withPins conf files).read conf.objectPath = .error reason
  | some .diagnose =>
    ∃ reason, (Diagnosis.withScratch conf files).read conf.objectPath = .error reason
  | some .detach => files.pathExists conf.linkPinPath = false
  | some .unpin => True
  | some (.register ..) => files.pathExists conf.socketMap.mapPath = false
  | some (.unregister _) => files.pathExists conf.socketMap.mapPath = false
  | some .status => files.pathExists conf.socketMap.mapPath = false

section Missing

variable {conf : Conf} {world : World} {bpf : Bpf}

theorem loadObject_with_bpf {pins : Path} {reason : OsError}
    (h : world.files.read conf.objectPath = .error reason) (host : Host) :
    Loader.loadObject { host with bpf } conf pins world
      = Loader.loadObject host conf pins world := by
  rw [Loader.loadObject_run, Loader.loadObject_run, Loader.loading_of_unreadable h,
    Loader.loading_of_unreadable h]

theorem run_with_bpf (host : Host) (h : Misses conf world.files none) :
    Loader.run { host with bpf } conf world = Loader.run host conf world := by
  obtain ⟨reason, hread⟩ := h
  refine (keeps_require _ _).bind_congr rfl fun _ checked hchecked =>
    (keeps_report _).bind_congr rfl fun _ lifted hlifted => ?_
  rw [← hchecked, ← hlifted] at hread
  have hload := Loader.loading_of_unreadable hread { host with bpf } conf.socketMap.pinDirectory
  obtain ⟨error, hfails⟩ := Loader.load_of_failure hload
  refine bind_congr ?_ fun object loaded hloaded => ?_
  · refine bind_congr rfl fun result made hmade =>
      (keeps_ofExcept _).bind_congr rfl fun _ reached hreached => ?_
    rw [Loader.makeDirectories_run] at hmade
    have hmade : made.files = Loader.withPins conf lifted.files :=
      congrArg World.files (EStateM.Result.ok.inj hmade).2.symm
    rw [← hmade, ← hreached] at hread
    exact bind_congr (loadObject_with_bpf hread host) fun _ _ _ => rfl
  · rw [hfails] at hloaded
    cases hloaded

theorem diagnosis_with_bpf (host : Host) (h : Misses conf world.files (some .diagnose)) :
    Diagnosis.run { host with bpf } conf world = Diagnosis.run host conf world := by
  obtain ⟨reason, hread⟩ := h
  refine (keeps_report _).bind_congr rfl fun _ started hstarted =>
    (Diagnosis.keeps_checkCapabilities _).bind_congr rfl fun held checked hchecked =>
    (keeps_ofExcept _).bind_congr rfl fun _ found hfound =>
    (keeps_report _).bind_congr rfl fun _ lifted hlifted =>
    (keeps_report _).bind_congr rfl fun _ named hnamed =>
    (keeps_report _).bind_congr rfl fun _ tested htested => ?_
  have hkept : tested.files = world.files := by
    rw [htested, hnamed, hlifted, hfound, hchecked, hstarted]
  obtain ⟨made, hmake, hmade⟩ := Diagnosis.makeScratch_run (Diagnosis.scratchPath conf) tested
  rw [Diagnosis.withScratch, ← hkept, ← hmade] at hread
  rw [bind_ok hmake, bind_ok hmake]
  refine bind_congr (loadObject_with_bpf hread host) fun loaded after hloaded => ?_
  rw [Loader.loadObject_run, Loader.loading_of_unreadable hread] at hloaded
  obtain rfl := (EStateM.Result.ok.inj hloaded).1
  rfl

theorem openMap_with_bpf {A : Type} {path : Path} (h : world.files.pathExists path = false)
    (host : Host) (required : List Capability) (next onward : SocketMap → Operation A) :
    (require { host with bpf } required >>= fun _ =>
      Pin.openMap { host with bpf } path >>= next) world =
    (require host required >>= fun _ => Pin.openMap host path >>= onward) world := by
  refine (keeps_require _ _).bind_congr rfl fun _ checked hchecked => ?_
  rw [← hchecked] at h
  rw [bind_error (Pin.openMap_of_absent h _), bind_error (Pin.openMap_of_absent h _)]

/-- Where a pin or the object is missing, the run ends before any request that could change
files. -/
theorem withoutBpf_of_misses (host : Host) {command : Option Command}
    (h : Misses conf world.files command) : WithoutBpf host conf command world := by
  refine ⟨.plain .noEntry, Bpf.refuses_plain _, ?_⟩
  match command, h with
  | none, h => exact run_with_bpf host h
  | some (.register ..), h => exact openMap_with_bpf h host _ _ _
  | some (.unregister _), h => exact openMap_with_bpf h host _ _ _
  | some .detach, h =>
    refine (keeps_require _ _).bind_congr rfl fun _ checked hchecked => ?_
    rw [← hchecked] at h
    rw [bind_ok (Pin.detachLink_of_absent h _), bind_ok (Pin.detachLink_of_absent h _)]
  | some .unpin, h => rfl
  | some .status, h =>
    exact bind_congr ((collect_of_absent h _).trans (collect_of_absent h _).symm) fun _ _ _ => rfl
  | some .diagnose, h => exact diagnosis_with_bpf host h

end Missing

/-- Whatever the files are, a command that ends before any request to the kernel's objects changes
nothing but what it may, and so does the end of a run: it removes at most the pin of the map, and
not even that if the map is to outlive the loader. -/
theorem commands_keep_to_their_entries (conf : Conf) (world : World) :
    (∀ host command, WithoutBpf host conf command world →
      MayLeave conf world.files (filesAfter (execute host conf command) world) command) ∧
    (∀ detached,
      if conf.socketMap.persist then
        filesAfter (Loader.shutdown conf detached) world = world.files
      else
        LosesEntry conf.socketMap.mapPath world.files
          (filesAfter (Loader.shutdown conf detached) world)) := by
  refine ⟨fun host command hwithout => ?_, fun detached => ?_⟩
  · obtain ⟨bpf, hrefuses, hsame⟩ := hwithout
    have hrefused : ({ host with bpf } : Host).bpf.Refuses := hrefuses
    have hleft := mayLeave_execute hrefused conf command world
    rwa [filesAfter, hsame] at hleft
  split
  · next hpersist => exact Loader.keeps_shutdown hpersist detached world
  · exact Loader.losesEntry_shutdown conf detached world

def keptFile : FileSystem where
  entries := [([Text.Utf8.encode "pins"], .directory),
    ([Text.Utf8.encode "pins", Text.Utf8.encode "keep"], .file [])]
  workingDirectory := []

/-- Nothing is pinned for an object that is not there, and what is there stays. -/
theorem run_without_object_keeps_files :
    let host : Host :=
      { status := .ok "CapEff:\tffffffffffffffff"
        interfaces := ["lo"]
        kernel := ⟨6, 8, 0⟩
        bpf := .rejecting [0x7f, 0x45, 0x4c, 0x46] }
    let conf : Conf := { interface := "lo", socketMap := { pinPath := "pins" } }
    let world : World := { files := keptFile }
    ¬ host.bpf.Refuses ∧ WithoutBpf host conf none world ∧
      (filesAfter (execute host conf none) world).node?
        [Text.Utf8.encode "pins", Text.Utf8.encode "keep"] = some (.file []) ∧
      filesAfter (Loader.shutdown conf (.ok ())) world = keptFile := by
  intro host conf world
  have hbpf : ¬ host.bpf.Refuses := by
    intro hrefuses
    let request : LoadRequest := ⟨[0x7f, 0x45, 0x4c, 0x46], Path.ofString "pins", [], []⟩
    have hpinned : (host.bpf.load request keptFile).1.entries.length = 3 := by cbv
    obtain ⟨failure, hload⟩ := hrefuses.load request keptFile
    have hkept := congrArg (fun result => result.1.entries.length) hload
    cases hpinned.symm.trans hkept
  have hread : ∃ reason, (Loader.withPins conf keptFile).read conf.objectPath = .error reason := by
    exact ⟨.noEntry, by cbv⟩
  have hwithout : WithoutBpf host conf none world := withoutBpf_of_misses host hread
  obtain ⟨hleaves, hshutdown⟩ := commands_keep_to_their_entries conf world
  have hgrows := hleaves host none hwithout
  exact ⟨hbpf, hwithout, hgrows.within.kept _ _ (by decide +kernel), hshutdown (.ok ())⟩

end Execution

end XdpSteering
