import XdpSteering.Execution
import XdpSteering.Proofs.Operation

/-!
# What commands insist on

Every command but two insists on capabilities before anything else. A process that lacks one of them
is turned down with all those that it lacks.
-/

namespace XdpSteering.Execution

open Operation

def insistsOn : Option Command → List Capability
  | none => Capability.loader
  | some (.register ..) => Capability.register
  | some (.unregister _) => Capability.mapAdmin
  | some .detach => Capability.linkAdmin
  | some .unpin => Capability.mapAdmin
  | some .status => []
  | some .diagnose => []

def missing (host : Host) (command : Option Command) : List Capability :=
  Capability.lacking host.status (insistsOn command)

def checks (host : Host) (command : Option Command) : List Output :=
  Capability.reports host.status (insistsOn command)

variable {A : Type} {host : Host} {required : List Capability} {next : Unit → Operation A}

theorem mem_missing_iff {command : Option Command} {capability : Capability} :
    capability ∈ missing host command ↔
      capability ∈ insistsOn command ∧ Capability.Lacks host.status capability := by
  simp [missing, Capability.lacking]

theorem require_bind_of_lacking (h : Capability.lacking host.status required ≠ []) (world : World) :
    (require host required >>= next) world =
      .error (.internal (Capability.missingMessage (Capability.lacking host.status required)))
        (world.wrote (Capability.reports host.status required)) :=
  bind_error (by rw [require_run, if_neg h])

theorem require_bind_of_held (h : Capability.lacking host.status required = []) (world : World) :
    (require host required >>= next) world =
      next () (world.wrote (Capability.reports host.status required)) :=
  bind_ok (by rw [require_run, if_pos h])

/-- A command for which a capability is missing comes to nothing else than saying so. -/
theorem execute_of_missing (conf : Conf) {command : Option Command} (h : missing host command ≠ [])
    (world : World) :
    execute host conf command world =
      .error (.internal (Capability.missingMessage (missing host command)))
        (world.wrote (checks host command)) := by
  match command, h with
  | none, h => exact require_bind_of_lacking h world
  | some (.register ..), h => exact require_bind_of_lacking h world
  | some (.unregister _), h => exact require_bind_of_lacking h world
  | some .detach, h => exact require_bind_of_lacking h world
  | some .unpin, h => exact require_bind_of_lacking h world
  | some .status, h => exact absurd rfl h
  | some .diagnose, h => exact absurd rfl h

end XdpSteering.Execution
