import XdpSteering.Proofs.Capability.Check

/-!
# What the remedy in a message is good for

The message about missing capabilities tells the user to grant four of them. They are enough for
what only changes or removes pinned objects. Loading asks for one more, and so does taking a socket
from another process.
-/

namespace XdpSteering.Capability

def remedy : List Capability := [.bpf, .netAdmin, .perfmon, .sysResource]

def fileName (capability : Capability) : String :=
  String.ofList (capability.name.toList.map Char.toLower)

def remedyLine : String :=
  "  2. Grant file capabilities: setcap " ++ ",".intercalate (remedy.map fileName)
    ++ "+ep xsksteer\n"

variable {status : Except SteerError String} {mask : UInt64} {capability : Capability}
  {required others : List Capability} {text : String}

theorem map_fileName_remedy :
    remedy.map fileName = ["cap_bpf", "cap_net_admin", "cap_perfmon", "cap_sys_resource"] := by
  decide +kernel

theorem intercalate_fileNames :
    ",".intercalate ["cap_bpf", "cap_net_admin", "cap_perfmon", "cap_sys_resource"]
        ++ "+ep xsksteer\n"
      = "cap_bpf,cap_net_admin,cap_perfmon,cap_sys_resource+ep xsksteer\n" := by
  decide +kernel

theorem remedyLine_eq :
    remedyLine = "  2. Grant file capabilities: setcap "
      ++ "cap_bpf,cap_net_admin,cap_perfmon,cap_sys_resource+ep xsksteer\n" := by
  unfold remedyLine
  simp only [map_fileName_remedy, String.append_assoc, intercalate_fileNames]

theorem missingMessage_eq (missing : List Capability) :
    missingMessage missing =
      ("Missing required capabilities:\n\n"
        ++ String.join (missing.map fun capability =>
          "  ❌ " ++ capability.name ++ " - required to " ++ capability.description ++ "\n")
        ++ "\n💡 Solutions:\n" ++ "  1. Run as root: sudo xsksteer\n")
      ++ remedyLine ++ "  3. In Docker: use --privileged flag\n" := by
  unfold missingMessage
  rw [remedyLine_eq]
  simp only [String.append_assoc]

/-- Of what is part of the remedy nothing is missing, and all that an older kernel grants in another
way is part of it. -/
theorem lacking_of_remedy (hmask : heldMask status = .ok mask)
    (hgranted : ∀ capability ∈ remedy, capability.isIn mask = true) (required : List Capability) :
    lacking status required =
      (required.filter (· ∉ remedy)).filter fun capability => capability.isIn mask = false := by
  rw [lacking_of_mask hmask, List.filter_filter]
  refine List.filter_congr fun capability _ => ?_
  by_cases hremedy : capability ∈ remedy
  · simp [hremedy, hgranted capability hremedy]
  · have hbpf : capability ≠ .bpf := fun h => hremedy (h ▸ by decide)
    have hperfmon : capability ≠ .perfmon := fun h => hremedy (h ▸ by decide)
    simp [hremedy, hbpf, hperfmon]

section

variable (hmask : heldMask status = .ok mask)
  (hgranted : ∀ capability ∈ remedy, capability.isIn mask = true)

include hmask hgranted

theorem check_of_within_remedy (hrequired : required.filter (· ∉ remedy) = []) :
    (check status required).2 = .ok () := by
  rw [check_result, lacking_of_remedy hmask hgranted, hrequired, List.filter_nil, if_pos rfl]

theorem check_of_one_beyond_remedy (hrequired : required.filter (· ∉ remedy) = [capability]) :
    (check status required).2 =
      if capability.isIn mask then .ok ()
      else .error (.internal (missingMessage [capability])) := by
  rw [check_result, lacking_of_remedy hmask hgranted, hrequired]
  cases hbit : capability.isIn mask <;> simp [hbit]

end

/-- Every message about missing capabilities tells the same remedy. A process that holds it, and
whatever else, passes the checks of what changes or removes pinned objects. It passes the check of
the loader exactly if it holds `sysAdmin` as well, and that of a registration exactly if it holds
`sysPtrace`: otherwise it is told that this one is missing, and to grant what it holds already. -/
theorem remedy_is_enough_for_pinned_objects (hread : effectiveMask text = .ok mask)
    (hgranted : ∀ capability ∈ remedy, capability.isIn mask = true) :
    (∀ missing, ∃ front back, missingMessage missing = front ++ remedyLine ++ back) ∧
    (check (.ok text) mapAdmin).2 = .ok () ∧
    (check (.ok text) linkAdmin).2 = .ok () ∧
    (check (.ok text) loader).2 =
      (if sysAdmin.isIn mask then .ok () else .error (.internal (missingMessage [sysAdmin]))) ∧
    (check (.ok text) register).2 =
      if sysPtrace.isIn mask then .ok ()
      else .error (.internal (missingMessage [sysPtrace])) := by
  have hmask : heldMask (.ok text) = .ok mask := hread
  exact ⟨fun missing => ⟨_, _, missingMessage_eq missing⟩,
    check_of_within_remedy hmask hgranted (by decide),
    check_of_within_remedy hmask hgranted (by decide),
    check_of_one_beyond_remedy hmask hgranted (by decide),
    check_of_one_beyond_remedy hmask hgranted (by decide)⟩

/-- A process with the remedy and the capability to take sockets registers, but does not load. -/
theorem remedy_and_ptrace_are_not_enough_to_load :
    let text := "CapEff:\t000000c001081000\n"
    effectiveMask text = .ok 0xc001081000 ∧
      (∀ capability ∈ remedy, capability.isIn 0xc001081000 = true) ∧
      (check (.ok text) mapAdmin).2 = .ok () ∧ (check (.ok text) linkAdmin).2 = .ok () ∧
      (check (.ok text) register).2 = .ok () ∧
      (check (.ok text) loader).2 = .error (.internal (missingMessage [sysAdmin])) := by
  intro text
  have hread : effectiveMask "CapEff:\t000000c001081000\n" = .ok 0xc001081000 := by cbv
  have hgranted : ∀ capability ∈ remedy, capability.isIn 0xc001081000 = true := by decide
  obtain ⟨-, hmap, hlink, hloader, hregister⟩ :=
    remedy_is_enough_for_pinned_objects hread hgranted
  rw [if_neg (by decide)] at hloader
  rw [if_pos (by decide)] at hregister
  exact ⟨hread, hgranted, hmap, hlink, hregister, hloader⟩

/-- With nothing but the remedy a process is sent round in circles: neither does it load nor
register. -/
theorem remedy_alone_fails_two_checks :
    let text := statusText remedy
    effectiveMask text = .ok 0xc001001000 ∧
      (∀ capability ∈ remedy, capability.isIn 0xc001001000 = true) ∧
      (check (.ok text) loader).2 = .error (.internal (missingMessage [sysAdmin])) ∧
      (check (.ok text) register).2 = .error (.internal (missingMessage [sysPtrace])) := by
  have hread : effectiveMask (statusText remedy) = .ok 0xc001001000 := by cbv
  have hmask : heldMask (.ok (statusText remedy)) = .ok 0xc001001000 := hread
  refine ⟨hread, by decide, ?_, ?_⟩
  · rw [check_result, lacking_of_mask hmask]
    rfl
  · rw [check_result, lacking_of_mask hmask]
    rfl

end XdpSteering.Capability
