import XdpSteering.Execution
import XdpSteering.Proofs.Pin

/-!
# What a status tells

Showing the status says of the map and of the link whether there is anything at the path. It comes
to an end unless something is at the path of the map that cannot be opened.
-/

namespace XdpSteering.Execution

open Operation

def Said (pinned : Bool) (said : String) : Prop :=
  if pinned then ∃ more, said = "✓ yes (" ++ more ++ ")" else said = "✗ no"

structure TellsStatus (conf : Conf) (map link : Bool) (event : Event) (summary : String) :
    Prop where
  level : event.level = .info
  name : event.name = "cli.status"
  fields : event.fields = [("ebpf.map.pinned", .flag map), ("ebpf.link.pinned", .flag link)]
  summary : ∃ front back mapSaid linkSaid, Said map mapSaid ∧ Said link linkSaid ∧
    summary = front ++ "Socket map:    " ++ conf.socketMap.mapPath.display
      ++ "\n  Pinned:      " ++ mapSaid ++ "\nXDP link:      " ++ conf.linkPinPath.display
      ++ "\n  Pinned:      " ++ linkSaid ++ "\n" ++ back

/-- Showing the status comes to a good end, and tells whether a map and a link are pinned. -/
def ShowsStatus (host : Host) (conf : Conf) (world : World) (map link : Bool) : Prop :=
  ∃ opened event summary, TellsStatus conf map link event summary ∧
    showStatus host conf world
      = .ok () (world.wrote (opened ++ [.event event, .text summary]))

variable {host : Host} {conf : Conf} {world : World} {map link : Bool}

/-! ## What is said -/

theorem said_mapText (capacity : Option UInt32) :
    Said capacity.isSome (PinStatus.mapText capacity) := by
  cases capacity with
  | none => rfl
  | some capacity =>
    refine ⟨toString capacity.toNat ++ " queues", ?_⟩
    rw [PinStatus.mapText, String.append_assoc, String.append_assoc, String.append_assoc]
    rfl

theorem said_linkText (pinned : Bool) : Said pinned (PinStatus.linkText pinned) := by
  cases pinned with
  | false => rfl
  | true => exact ⟨"program stays attached", rfl⟩

theorem tellsStatus (conf : Conf) (status : PinStatus) :
    TellsStatus conf status.mapCapacity.isSome status.linkPinned status.event
      (status.render conf) where
  level := rfl
  name := rfl
  fields := rfl
  summary := by
    have hline : "\n  Pinned:      " = "\n" ++ "  Pinned:      " := rfl
    have hlink : "\nXDP link:      " = "\n" ++ "XDP link:      " := rfl
    refine ⟨Summary.heading "xsksteer status" ++ Summary.line "Interface:     " conf.interface,
      Summary.rule, _, _, said_mapText status.mapCapacity, said_linkText status.linkPinned, ?_⟩
    simp only [PinStatus.render, Summary.line, hline, hlink, String.append_assoc]

/-! ## When it is said -/

theorem collect_of_absent (h : world.files.pathExists conf.socketMap.mapPath = false)
    (host : Host) :
    PinStatus.collect host conf world
      = .ok ⟨none, world.files.pathExists conf.linkPinPath⟩ (world.wrote []) := by
  unfold PinStatus.collect
  dsimp only
  rw [bind_ok (Pin.isPinned_run _ world), h, World.wrote_nil]
  rfl

theorem collect_of_exists (h : world.files.pathExists conf.socketMap.mapPath = true)
    (host : Host) :
    PinStatus.collect host conf world =
      match host.bpf.openSockets world.files conf.socketMap.mapPath with
      | .ok sockets => .ok ⟨some sockets.capacity, world.files.pathExists conf.linkPinPath⟩
          (world.wrote [.event (Pin.openedEvent conf.socketMap.mapPath sockets.capacity)])
      | .error error => .error error world := by
  have hopen := Pin.openMap_of_exists h host
  unfold PinStatus.collect
  dsimp only
  rw [bind_ok (Pin.isPinned_run _ world), h, if_pos rfl]
  cases hsockets : host.bpf.openSockets world.files conf.socketMap.mapPath with
  | error error =>
    rw [hsockets] at hopen
    exact bind_error hopen
  | ok sockets =>
    rw [hsockets] at hopen
    exact bind_ok hopen

theorem showStatus_of_collect {status : PinStatus} {pieces : List Output}
    (h : PinStatus.collect host conf world = .ok status (world.wrote pieces)) :
    showStatus host conf world
      = .ok () (world.wrote (pieces ++ [.event status.event, .text (status.render conf)])) := by
  unfold showStatus
  refine (bind_ok h).trans ((bind_ok (report_run _ _)).trans ?_)
  exact congrArg (EStateM.Result.ok ()) ((World.wrote_wrote _ _ _).trans (World.wrote_wrote _ _ _))

/-- Where the status is shown the map opens, if there is anything at its path. -/
theorem showStatus_cases (host : Host) (conf : Conf) (world : World) :
    (∃ (status : PinStatus) (pieces : List Output), showStatus host conf world
        = .ok () (world.wrote (pieces ++ [.event status.event, .text (status.render conf)])) ∧
      status.mapCapacity.isSome = world.files.pathExists conf.socketMap.mapPath ∧
      status.linkPinned = world.files.pathExists conf.linkPinPath ∧
      (world.files.pathExists conf.socketMap.mapPath = true →
        ∃ sockets, host.bpf.openSockets world.files conf.socketMap.mapPath = .ok sockets)) ∨
    (∃ error, showStatus host conf world = .error error world ∧
      world.files.pathExists conf.socketMap.mapPath = true ∧
      host.bpf.openSockets world.files conf.socketMap.mapPath = .error error) := by
  cases hmap : world.files.pathExists conf.socketMap.mapPath with
  | false =>
    have hshown := showStatus_of_collect (collect_of_absent hmap host)
    exact .inl ⟨_, _, hshown, rfl, rfl, fun h => by cases h⟩
  | true =>
    have hcollect := collect_of_exists hmap host
    cases hopen : host.bpf.openSockets world.files conf.socketMap.mapPath with
    | ok sockets =>
      rw [hopen] at hcollect
      exact .inl ⟨_, _, showStatus_of_collect hcollect, rfl, rfl, fun _ => ⟨sockets, rfl⟩⟩
    | error error =>
      rw [hopen] at hcollect
      exact .inr ⟨error, bind_error hcollect, rfl, rfl⟩

theorem eq_of_wrote {pieces others : List Output} {first second : Event} {text other : String}
    (h : world.wrote (pieces ++ [.event first, .text text])
      = world.wrote (others ++ [.event second, .text other])) : first = second := by
  have hpieces := List.append_cancel_left (congrArg World.output h)
  have hlast := (List.append_inj' hpieces rfl).2
  exact Output.event.inj (List.cons.inj hlast).1

/-- A status that is shown tells of both pins whether there is anything at the path. -/
theorem showsStatus_iff :
    ShowsStatus host conf world map link ↔
      (∃ after, showStatus host conf world = .ok () after) ∧
        map = world.files.pathExists conf.socketMap.mapPath ∧
        link = world.files.pathExists conf.linkPinPath := by
  rcases showStatus_cases host conf world with
    ⟨status, pieces, hrun, hmap, hlink, -⟩ | ⟨error, hrun, -, -⟩
  · rw [← hmap, ← hlink]
    constructor
    · rintro ⟨opened, event, summary, htells, hshows⟩
      -- The two runs are the same, and so is the report.
      obtain rfl := eq_of_wrote (EStateM.Result.ok.inj (hshows.symm.trans hrun)).2
      have hfields := htells.fields
      simp only [PinStatus.event, List.cons.injEq, Prod.mk.injEq, FieldValue.flag.injEq] at hfields
      exact ⟨⟨_, hrun⟩, hfields.1.2.symm, hfields.2.1.2.symm⟩
    · rintro ⟨-, rfl, rfl⟩
      exact ⟨pieces, _, _, tellsStatus conf status, hrun⟩
  · simp [ShowsStatus, hrun]

/-- Showing the status comes to a good end unless there is something at the path of the map that
cannot be opened. -/
theorem showStatus_ends_iff :
    (∃ after, showStatus host conf world = .ok () after) ↔
      (world.files.pathExists conf.socketMap.mapPath = true →
        ∃ sockets, host.bpf.openSockets world.files conf.socketMap.mapPath = .ok sockets) := by
  rcases showStatus_cases host conf world with
    ⟨status, pieces, hrun, -, -, hopens⟩ | ⟨error, hrun, hmap, hopen⟩
  · exact ⟨fun _ => hopens, fun _ => ⟨_, hrun⟩⟩
  · simp [hrun, hmap, hopen]

theorem keeps_showStatus (host : Host) (conf : Conf) : Keeps (showStatus host conf) := by
  refine Keeps.bind ?_ fun status => (keeps_report _).bind fun _ => keeps_print _
  refine Keeps.bind (Pin.keeps_isPinned _) fun pinned => ?_
  cases pinned with
  | false => exact (keeps_pure _).bind fun _ => (Pin.keeps_isPinned _).bind fun _ => keeps_pure _
  | true =>
    exact (Pin.keeps_openMap _ _).bind fun _ => (keeps_pure _).bind fun _ =>
      (Pin.keeps_isPinned _).bind fun _ => keeps_pure _

end XdpSteering.Execution
