import XdpSteering.Proofs.Execution
import XdpSteering.Proofs.Fallible
import XdpSteering.Proofs.Program.Report

/-!
# What keeps a run from its command

A run reads its command line, then its configuration, and then insists on capabilities. The first of
these that stands in the way is what the run tells, and it leaves the files as they are. Behind them
the exit code says whether the command came to an end.
-/

namespace XdpSteering.Program

open Operation Fallible

inductive Obstacle where
  /-- The command line does not ask for a run. -/
  | notice (said : CommandLine.Notice)
  /-- There is no configuration. -/
  | settings (error : Conf.Error)
  /-- The process lacks capabilities on which the command insists. -/
  | capabilities (missing : List Capability)

namespace Obstacle

def exitCode : Obstacle → Nat
  | .notice (.describe _) => 0
  | .notice .tellVersion => 0
  | .notice _ => 2
  | .settings _ => 1
  | .capabilities _ => 1

def Told (environment : Environment) (outcome : Outcome) : Obstacle → Prop
  | .notice (.describe page) =>
    outcome.stdout = (CommandLine.Notice.describe page).text environment
  | .notice .tellVersion => outcome.stdout = CommandLine.Notice.tellVersion.text environment
  | .notice said =>
    outcome.stderr = said.text environment ∧ ∃ more, outcome.stderr = "error: " ++ more
  | .settings error =>
    ∃ more, outcome.stderr = "Error: " ++ (error.message ++ ("\n\nCaused by:" ++ more))
  | .capabilities missing =>
    outcome.stderr = "Error: " ++ (Capability.missingMessage missing ++ "\n")

/-- Obstacles that are told in the same words. -/
inductive Alike : Obstacle → Obstacle → Prop where
  | notice (said other : CommandLine.Notice) : Alike (.notice said) (.notice other)
  | settings {error other : Conf.Error} (message : error.message = other.message) :
      Alike (.settings error) (.settings other)
  | capabilities (missing : List Capability) :
      Alike (.capabilities missing) (.capabilities missing)

/-- The obstacle is the first one of a run: none stands before it. -/
inductive First (invocation : Invocation) : Obstacle → Prop where
  | notice {said : CommandLine.Notice}
      (read : CommandLine.parse invocation.environment invocation.arguments = .error said) :
      First invocation (.notice said)
  | settings {cli : Cli} {error : Conf.Error}
      (read : CommandLine.parse invocation.environment invocation.arguments = .ok cli)
      (prepared : Conf.prepare invocation.files invocation.environment cli (some 1)
        = .error error) :
      First invocation (.settings error)
  | capabilities {cli : Cli} {conf : Conf} {capability : Capability}
      (read : CommandLine.parse invocation.environment invocation.arguments = .ok cli)
      (prepared : Conf.prepare invocation.files invocation.environment cli (some 1)
        = .ok (conf, cli))
      (needed : capability ∈ Execution.insistsOn cli.command)
      (lacked : Capability.Lacks invocation.host.status capability) :
      First invocation (.capabilities (Execution.missing invocation.host cli.command))

end Obstacle

/-- A run came to nothing but telling about an obstacle. -/
structure Stopped (invocation : Invocation) (obstacle : Obstacle) (outcome : Outcome) : Prop where
  files : outcome.files = invocation.files
  exitCode : outcome.exitCode = obstacle.exitCode
  told : obstacle.Told invocation.environment outcome

variable {invocation : Invocation} {obstacle : Obstacle}

/-! ## The end of a run -/

theorem perform_of_ok {operation : Operation Unit} {world after : World}
    (h : operation world = .ok () after) : perform operation world = .ok () after := by
  have hattempt : attempt operation world = .ok (.ok ()) after := by simp only [attempt, h]
  exact bind_ok hattempt

theorem perform_of_error {operation : Operation Unit} {world after : World} {error : SteerError}
    (h : operation world = .error error after) :
    perform operation world = .error error (after.wrote [.event (failedEvent error)]) := by
  have hattempt : attempt operation world = .ok (.error error) after := by simp only [attempt, h]
  exact bind_ok hattempt

theorem exitCode_conclude (invocation : Invocation) (conf : Conf) (operation : Operation Unit) :
    ((conclude invocation conf operation).exitCode = 0 ↔
      ∃ after, operation { files := invocation.files } = .ok () after) ∧
    ((conclude invocation conf operation).exitCode = 1 ↔
      ∃ error after, operation { files := invocation.files } = .error error after) := by
  unfold conclude
  cases hrun : operation { files := invocation.files } with
  | ok value after => simp [perform_of_ok hrun]
  | error error after => simp [perform_of_error hrun]

theorem run_of_prepared {cli : Cli} {conf : Conf}
    (hread : CommandLine.parse invocation.environment invocation.arguments = .ok cli)
    (hprepared : Conf.prepare invocation.files invocation.environment cli (some 1)
      = .ok (conf, cli)) :
    run invocation
      = conclude invocation conf (Execution.execute invocation.host conf cli.command) := by
  simp only [run, hread, hprepared]

/-! ## Obstacles -/

def Begins (start text : String) : Prop := ∃ more, text = start ++ more

theorem Begins.append {start text : String} (h : Begins start text) (more : String) :
    Begins start (text ++ more) := by
  obtain ⟨rest, rfl⟩ := h
  exact ⟨rest ++ more, String.append_assoc ..⟩

theorem begins_withUsage (text usageLine ending : String) :
    Begins "error: " (CommandLine.Notice.withUsage text usageLine ending) :=
  .append (.append (.append ⟨text, rfl⟩ _) _) _

theorem begins_text (environment : Environment) {said : CommandLine.Notice}
    (h : said.isAnswer = false) : Begins "error: " (said.text environment) := by
  cases said with
  | describe page => cases h
  | tellVersion => cases h
  | missingValue opt =>
    exact .append (.append (.append ⟨"a value is required for '", rfl⟩ _) _) _
  | refusedValue opt value reason =>
    refine .append (.append (.append (.append (.append (.append ?_ _) _) _) _) _) _
    exact ⟨"invalid value '", rfl⟩
  | notText | repeatedOption | unknownArgument | shieldedCommand | unknownCommand | surplusValue
  | missingOptions => exact begins_withUsage _ _ _

theorem run_of_notice {notice : CommandLine.Notice}
    (hread : CommandLine.parse invocation.environment invocation.arguments = .error notice) :
    run invocation = notify invocation notice := by
  simp only [run, hread]

theorem stopped_of_notice {notice : CommandLine.Notice}
    (hread : CommandLine.parse invocation.environment invocation.arguments = .error notice) :
    Stopped invocation (.notice notice) (run invocation) := by
  rw [run_of_notice hread]
  cases hanswer : notice.isAnswer with
  | true =>
    cases notice with
    | describe | tellVersion => exact ⟨rfl, rfl, rfl⟩
    | _ => cases hanswer
  | false =>
    have htext := begins_text invocation.environment hanswer
    cases notice with
    | describe | tellVersion => cases hanswer
    | _ => exact ⟨rfl, rfl, rfl, htext⟩

theorem run_of_settings {cli : Cli} {error : Conf.Error}
    (hread : CommandLine.parse invocation.environment invocation.arguments = .ok cli)
    (hprepared : Conf.prepare invocation.files invocation.environment cli (some 1)
      = .error error) :
    run invocation = refuse invocation error := by
  simp only [run, hread, hprepared]

theorem stopped_of_settings {cli : Cli} {error : Conf.Error}
    (hread : CommandLine.parse invocation.environment invocation.arguments = .ok cli)
    (hprepared : Conf.prepare invocation.files invocation.environment cli (some 1)
      = .error error) :
    Stopped invocation (.settings error) (run invocation) := by
  rw [run_of_settings hread hprepared]
  exact ⟨rfl, rfl, _, failureText_confCauses error⟩

theorem stopped_of_capabilities {cli : Cli} {conf : Conf}
    (hread : CommandLine.parse invocation.environment invocation.arguments = .ok cli)
    (hprepared : Conf.prepare invocation.files invocation.environment cli (some 1)
      = .ok (conf, cli))
    (hmissing : Execution.missing invocation.host cli.command ≠ []) :
    Stopped invocation (.capabilities (Execution.missing invocation.host cli.command))
      (run invocation) := by
  have hfails := Execution.execute_of_missing conf hmissing { files := invocation.files }
  rw [run_of_prepared hread hprepared, conclude, perform_of_error hfails]
  exact ⟨rfl, rfl, failureText_nil _⟩

theorem Obstacle.First.stopped (h : obstacle.First invocation) :
    Stopped invocation obstacle (run invocation) := by
  cases h with
  | notice read => exact stopped_of_notice read
  | settings read prepared => exact stopped_of_settings read prepared
  | @capabilities cli _ capability read prepared needed lacked =>
    have hmem : capability ∈ Execution.missing invocation.host cli.command :=
      Execution.mem_missing_iff.mpr ⟨needed, lacked⟩
    exact stopped_of_capabilities read prepared (List.ne_nil_of_mem hmem)

theorem Obstacle.First.stderr_of_settings {error : Conf.Error}
    (h : (Obstacle.settings error).First invocation) :
    (run invocation).stderr = failureText error.message (confCauses error) := by
  cases h with
  | settings read prepared => rw [run_of_settings read prepared]; rfl

theorem Obstacle.First.stderr_of_capabilities {missing : List Capability}
    (h : (Obstacle.capabilities missing).First invocation) :
    (run invocation).stderr = failureText (Capability.missingMessage missing) [] :=
  h.stopped.told.trans (failureText_nil _).symm

/-- What a run tells, with its exit code, is told by no other obstacle. -/
theorem alike_of_stderr {second : Invocation} {other : Obstacle} (h : obstacle.First invocation)
    (hother : other.First second) (hcode : (run invocation).exitCode = (run second).exitCode)
    (hstderr : (run invocation).stderr = (run second).stderr) : obstacle.Alike other := by
  rw [h.stopped.exitCode, hother.stopped.exitCode] at hcode
  have hnotice (said : CommandLine.Notice) : (Obstacle.notice said).exitCode ≠ 1 := by
    cases said <;> simp [Obstacle.exitCode]
  cases obstacle with
  | notice said =>
    cases other with
    | notice another => exact .notice said another
    | settings | capabilities => exact absurd hcode (hnotice said)
  | settings error =>
    rw [h.stderr_of_settings] at hstderr
    cases other with
    | notice said => exact absurd hcode.symm (hnotice said)
    | settings another =>
      rw [hother.stderr_of_settings] at hstderr
      exact .settings (message_eq_of_failureText hstderr)
    | capabilities missing =>
      rw [hother.stderr_of_capabilities] at hstderr
      exact absurd hstderr (failureText_confCauses_ne error missing)
  | capabilities missing =>
    rw [h.stderr_of_capabilities] at hstderr
    cases other with
    | notice said => exact absurd hcode.symm (hnotice said)
    | settings another =>
      rw [hother.stderr_of_settings] at hstderr
      exact absurd hstderr.symm (failureText_confCauses_ne another missing)
    | capabilities lacked =>
      rw [hother.stderr_of_capabilities] at hstderr
      rw [missing_eq_of_failureText hstderr]
      exact .capabilities lacked

/-- A run stops at its first obstacle, where it leaves the files as they are. What it tells tells
the obstacle from any other. A run without one ends with the exit code zero if its command comes to
an end, and with one if it fails; so it would with any other command. -/
theorem first_obstacle_stops_run (invocation : Invocation) :
    (∀ obstacle, obstacle.First invocation → Stopped invocation obstacle (run invocation)) ∧
    (∀ (second : Invocation) (obstacle other : Obstacle),
      obstacle.First invocation → other.First second →
      (run invocation).exitCode = (run second).exitCode →
      (run invocation).stderr = (run second).stderr → obstacle.Alike other) ∧
    (∀ cli conf, CommandLine.parse invocation.environment invocation.arguments = .ok cli →
      Conf.prepare invocation.files invocation.environment cli (some 1) = .ok (conf, cli) →
      ((run invocation).exitCode = 0 ↔
        ∃ after, Execution.execute invocation.host conf cli.command { files := invocation.files }
          = .ok () after)) ∧
    (∀ conf operation,
      ((conclude invocation conf operation).exitCode = 0 ↔
        ∃ after, operation { files := invocation.files } = .ok () after) ∧
      ((conclude invocation conf operation).exitCode = 1 ↔
        ∃ error after, operation { files := invocation.files } = .error error after)) := by
  refine ⟨fun obstacle hfirst => hfirst.stopped, fun _ _ _ => alike_of_stderr,
    fun cli conf hread hprepared => ?_, exitCode_conclude invocation⟩
  rw [run_of_prepared hread hprepared]
  exact (exitCode_conclude invocation conf _).1

/-- Without capabilities the program does not make the directory for its map. -/
theorem run_without_capabilities_stops :
    let invocation : Invocation :=
      { host := { status := .ok "CapEff:\t0000000000000000\n", interfaces := ["eth0"],
                  kernel := ⟨6, 8, 0⟩ }
        files := { entries := [], workingDirectory := [] }
        environment := []
        arguments := []
        time := "" }
    let missing := [Capability.sysAdmin, Capability.netAdmin, Capability.sysResource]
    Obstacle.First invocation (.capabilities missing) ∧
      Stopped invocation (.capabilities missing) (run invocation) := by
  intro invocation missing
  have hlacked : Capability.Lacks invocation.host.status .netAdmin := ⟨0, rfl, rfl, rfl⟩
  have hneeded : Capability.netAdmin ∈ Execution.insistsOn none := by decide
  have hread : CommandLine.parse invocation.environment invocation.arguments = .ok {} := rfl
  have hprepared : Conf.prepare invocation.files invocation.environment {} (some 1)
      = .ok ({}, {}) := rfl
  have hfirst : Obstacle.First invocation (.capabilities missing) :=
    .capabilities hread hprepared hneeded hlacked
  exact ⟨hfirst, (first_obstacle_stops_run invocation).1 _ hfirst⟩

end XdpSteering.Program
