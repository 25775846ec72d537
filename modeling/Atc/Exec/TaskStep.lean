import Atc.Exec.Affinity

/-!
# `TaskStep.Run`

`Run` (`src/unnamed/part_004`, lines 124–281) with the functions it calls after placement:
`registerSource`, `ensureBuildDirExists`, `streamInputs`, `setupOutputs`, the `StreamTo` of
the sources and `containerDestination.StreamIn`; and `Result` and `Release`, which read what
`Run` leaves in the step.

`Run` fetches the config and asks the pool for a container with the step's identifier. A
container found is a restart: if it carries the exit-status property the result is recovered
from it, otherwise the step re-attaches to the process whose ID the container carries. Without
a container found, a new session places a container (`createContainer`), streams the inputs in,
starts the process and records its ID. Both end in the `select` on the signals and the process.

## Main definitions

* `Atc.Exec.registerSource` — the outputs of a finished task, bound in the repository, with
  the bodies of its two loops `registerOutput` and `registerMount`.
* `Atc.Exec.recoverOrAttach`, `Atc.Exec.startProcess`, `Atc.Exec.waitForProcess` — the three
  parts of `Run`: a restart, a new session, and the wait for the process.
* `Atc.Exec.run` — `TaskStep.Run`, as a program of remote calls that returns `Run`'s error and
  the fields of the step that `Result` and `Release` read.

## Implementation notes

The delegate's callbacks, the process's I/O, the `ready` channel and the environment built from
`Params` have no effect on what the step returns or registers, and are left out. An empty tar
stream is written into a buffer, which cannot fail, so `createContainerDir` is one `StreamIn`.
When `FindContainerForIdentifier` fails, the container it returns is Go's nil.
-/

namespace Atc.Exec

open Atc.Go

/-- `taskProcessPropertyName`. -/
def taskProcessPropertyName : String := "concourse:task-process"

/-- `taskExitStatusPropertyName`. -/
def taskExitStatusPropertyName : String := "concourse:exit-status"

/-! ### The outputs of a task -/

/-- The body of the inner loop of `registerSource`: a mount at the output's `artifactsPath`
binds the output's name to the output, with the handle of the mounted volume. -/
def registerMount (step : TaskStep) (container : Container) (output : TaskOutputConfig)
    (repo : SourceRepository) (mount : VolumeMount) : SourceRepository :=
  if mount.mountPath = artifactsPath output step.artifactsRoot then
    repo.registerSource output.name
      (.containerSource step.artifactsRoot container output mount.volume.handle)
  else repo

/-- The body of the outer loop of `registerSource`: every mount of the container is tried, or,
when the container reports no mounts, the output is bound with no handle. -/
def registerOutput (step : TaskStep) (container : Container) (repo : SourceRepository)
    (output : TaskOutputConfig) : SourceRepository :=
  if container.volumeMounts.length > 0 then
    container.volumeMounts.foldl (registerMount step container output) repo
  else
    repo.registerSource output.name (.containerSource step.artifactsRoot container output "")

/-- `TaskStep.registerSource`, on the repository it registers into: without outputs, the step's
whole working directory under its own name; otherwise each output in turn. -/
def registerSource (step : TaskStep) (config : TaskConfig) (container : Container)
    (repo : SourceRepository) : SourceRepository :=
  if config.outputs.length = 0 then
    repo.registerSource step.sourceName (.taskStep container step.artifactsRoot)
  else
    config.outputs.foldl (registerOutput step container) repo

/-! ### Setting up the container -/

/-- `createContainerDir`: an empty tar stream into `dir`. -/
def createContainerDir (container : Container) (dir : String) : ExceptT TaskError TaskProg Unit :=
  remote (Prog.query (.streamIn container dir))

/-- `TaskStep.ensureBuildDirExists`. -/
def ensureBuildDirExists (step : TaskStep) (container : Container) :
    ExceptT TaskError TaskProg Unit :=
  createContainerDir container step.artifactsRoot

/-- `StreamTo(destination)` of the two sources of this file: the source's directory is streamed
out of its container, and into the destination at `"."`. -/
def ArtifactSource.streamTo (dest : ContainerDestination) :
    ArtifactSource → ExceptT TaskError TaskProg Unit
  | .taskStep container artifactsRoot => do
    remote (Prog.query (.streamOut container (artifactsRoot ++ "/")))
    remote (Prog.query (.streamIn dest.container (dest.streamInPath ".")))
  | .containerSource artifactsRoot container outputConfig _ => do
    remote (Prog.query (.streamOut container (artifactsPath outputConfig artifactsRoot)))
    remote (Prog.query (.streamIn dest.container (dest.streamInPath ".")))

/-- `TaskStep.streamInputs`: each input to stream, from its source into its destination in the
container. -/
def streamInputs (step : TaskStep) (container : Container) :
    List InputPair → ExceptT TaskError TaskProg Unit
  | [] => pure ()
  | pair :: rest => do
    pair.source.streamTo ⟨container, pair.input, step.artifactsRoot⟩
    streamInputs step container rest

/-- `TaskStep.setupOutputs`: the directory of each output (`containerSource.initialize`). -/
def setupOutputs (step : TaskStep) (container : Container) :
    List TaskOutputConfig → ExceptT TaskError TaskProg Unit
  | [] => pure ()
  | output :: rest => do
    createContainerDir container (artifactsPath output step.artifactsRoot)
    setupOutputs step container rest

/-- The part of a new session of `Run` after placement: the build directory, the inputs, the
output directories, and the process, whose ID the container then records. -/
def runProcess (step : TaskStep) (config : TaskConfig) (container : Container)
    (inputsToStream : List InputPair) : ExceptT TaskError TaskProg Process := do
  ensureBuildDirExists step container
  streamInputs step container inputsToStream
  setupOutputs step container config.outputs
  let process ← remote (Prog.query (.run container
    { path := config.runPath, args := config.runArgs, dir := step.artifactsRoot, user := "root" }))
  remote (Prog.query (.setProperty container taskProcessPropertyName process.id))
  pure process

/-! ### `Run` -/

/-- The `select` at the end of `Run`. On a signal the outputs are registered and the container
stopped; on an exit status the outputs are registered, the status kept and written to the
container; an error of `Wait` is returned. -/
def waitForProcess (step : TaskStep) (config : TaskConfig) (container : Container)
    (process : Process) (st : StepState) : TaskProg (Except TaskError Unit × StepState) := do
  match ← (Prog.query (.wait process) : TaskProg WaitOutcome) with
  | .signalled =>
    let st := { st with repo := registerSource step config container st.repo }
    Prog.query (.stop container false)
    pure (.error .interrupted, st)
  | .exited status =>
    let st := { st with repo := registerSource step config container st.repo, exitStatus := status }
    match ← (Prog.query (.setProperty container taskExitStatusPropertyName (sprintfD status.val)) :
        TaskProg (Except String Unit)) with
    | .error e => pure (.error (.remote e), st)
    | .ok _ => pure (.ok (), st)
  | .failed msg => pure (.error (.remote msg), st)

/-- The branch of `Run` for a container found for the step's identifier: the exit status it
carries is recovered, or else the step re-attaches to the process whose ID it carries. -/
def recoverOrAttach (step : TaskStep) (config : TaskConfig) (container : Container)
    (st : StepState) : TaskProg (Except TaskError Unit × StepState) := do
  match ← (Prog.query (.property container taskExitStatusPropertyName) :
      TaskProg (Except String String)) with
  | .ok exitStatusProp =>
    match sscanfD exitStatusProp with
    | .error e => pure (.error (.remote e), st)
    | .ok exitStatus =>
      pure (.ok (), { st with exitStatus, repo := registerSource step config container st.repo })
  | .error _ =>
    match ← (Prog.query (.property container taskProcessPropertyName) :
        TaskProg (Except String String)) with
    | .error e => pure (.error (.remote e), st)
    | .ok processID =>
      match ← (Prog.query (.attach container processID) : TaskProg (Except String Process)) with
      | .error e => pure (.error (.remote e), st)
      | .ok process => waitForProcess step config container process st

/-- The worker spec of a task: its platform, the step's tags and the type of its image
resource. -/
def taskWorkerSpec (step : TaskStep) (config : TaskConfig) : WorkerSpec :=
  { platform := config.platform, tags := step.tags,
    resourceType := (config.imageResource.map (·.type)).getD "", teamID := 0 }

/-- The branch of `Run` for a new session: a container on a compatible worker, the setup, and
the process. -/
def startProcess (step : TaskStep) (config : TaskConfig) (st : StepState) :
    TaskProg (Except TaskError Unit × StepState) := do
  match ← (Prog.query (.allSatisfying (taskWorkerSpec step config)) :
      TaskProg (Except String (List Worker))) with
  | .error e => pure (.error (.remote e), st)
  | .ok compatibleWorkers =>
    match ← (createContainer step st.repo config compatibleWorkers).run with
    | .error e => pure (.error e, st)
    | .ok (container, inputsToStream) =>
      let st := { st with container := some container }
      match ← (runProcess step config container inputsToStream).run with
      | .error e => pure (.error e, st)
      | .ok process => waitForProcess step config container process st

/-- `TaskStep.Run`, from the fields of the step before the run. A failed
`FindContainerForIdentifier` leaves the nil container and starts a new session, as not finding
one does. -/
def run (step : TaskStep) (st : StepState) : TaskProg (Except TaskError Unit × StepState) := do
  match ← (Prog.query .fetchConfig : TaskProg (Except String TaskConfig)) with
  | .error e => pure (.error (.remote e), st)
  | .ok config =>
    match ← (Prog.query .findContainerForIdentifier : TaskProg (Except String (Option Container))) with
    | .ok (some container) => recoverOrAttach step config container { st with container := some container }
    | _ => startProcess step config { st with container := none }

/-! ### The parts of `Run`, one call at a time -/

section Paths

open Prog

variable {step : TaskStep} {config : TaskConfig} {container : Container} {st : StepState}
  {t : List TaskEvent} {r : Except TaskError Unit} {st' : StepState}

theorem path_waitForProcess {process : Process} :
    Path (waitForProcess step config container process st) t (r, st') ↔
      (t = [⟨.wait process, .signalled⟩, ⟨.stop container false, ()⟩] ∧ r = .error .interrupted ∧
        st' = { st with repo := registerSource step config container st.repo }) ∨
      (∃ status x, t = [⟨.wait process, .exited status⟩,
          ⟨.setProperty container taskExitStatusPropertyName (sprintfD status.val), x⟩] ∧
        r = x.mapError .remote ∧
        st' = { st with repo := registerSource step config container st.repo, exitStatus := status }) ∨
      (∃ msg, t = [⟨.wait process, .failed msg⟩] ∧ r = .error (.remote msg) ∧ st' = st) := by
  simp only [waitForProcess, bind_eq, query_bind, path_call]
  constructor
  · rintro ⟨o, t', rfl, h⟩
    cases o with
    | signalled =>
      simp only [pure_eq, call_bind, ret_bind, path_call, path_ret, Prod.mk.injEq] at h
      obtain ⟨u, t'', rfl, rfl, rfl, rfl⟩ := h
      exact .inl ⟨rfl, rfl, rfl⟩
    | exited s =>
      obtain ⟨x, t'', rfl, h₂⟩ := path_call.1 h
      refine .inr (.inl ⟨s, x, ?_⟩)
      cases x <;>
      · simp only [pure_eq, path_ret, Prod.mk.injEq] at h₂
        obtain ⟨rfl, rfl, rfl⟩ := h₂
        exact ⟨rfl, rfl, rfl⟩
    | failed msg =>
      simp only [pure_eq, path_ret, Prod.mk.injEq] at h
      obtain ⟨rfl, rfl, rfl⟩ := h
      exact .inr (.inr ⟨msg, rfl, rfl, rfl⟩)
  · rintro (⟨rfl, rfl, rfl⟩ | ⟨s, x, rfl, rfl, rfl⟩ | ⟨msg, rfl, rfl, rfl⟩)
    · exact ⟨_, _, rfl, path_call.2 ⟨(), [], rfl, path_ret.2 ⟨rfl, rfl⟩⟩⟩
    · cases x <;> exact ⟨_, _, rfl, path_call.2 ⟨_, [], rfl, path_ret.2 ⟨rfl, rfl⟩⟩⟩
    · exact ⟨_, _, rfl, path_ret.2 ⟨rfl, rfl⟩⟩

theorem path_recoverOrAttach :
    Path (recoverOrAttach step config container st) t (r, st') ↔
      (∃ v, t = [⟨.property container taskExitStatusPropertyName, .ok v⟩] ∧
        ((∃ e, sscanfD v = .error e ∧ r = .error (.remote e) ∧ st' = st) ∨
         (∃ s, sscanfD v = .ok s ∧ r = .ok () ∧
            st' = { st with exitStatus := s, repo := registerSource step config container st.repo }))) ∨
      (∃ e₁ e₂, t = [⟨.property container taskExitStatusPropertyName, .error e₁⟩,
          ⟨.property container taskProcessPropertyName, .error e₂⟩] ∧
        r = .error (.remote e₂) ∧ st' = st) ∨
      (∃ e₁ processID e₂, t = [⟨.property container taskExitStatusPropertyName, .error e₁⟩,
          ⟨.property container taskProcessPropertyName, .ok processID⟩,
          ⟨.attach container processID, .error e₂⟩] ∧ r = .error (.remote e₂) ∧ st' = st) ∨
      (∃ e₁ processID process t', t = ⟨.property container taskExitStatusPropertyName, .error e₁⟩ ::
          ⟨.property container taskProcessPropertyName, .ok processID⟩ ::
          ⟨.attach container processID, .ok process⟩ :: t' ∧
        Path (waitForProcess step config container process st) t' (r, st')) := by
  simp only [recoverOrAttach, bind_eq, query_bind, path_call]
  constructor
  · rintro ⟨x, t₁, rfl, h⟩
    rcases x with e₁ | v
    · obtain ⟨y, t₂, rfl, h₂⟩ := path_call.1 h
      rcases y with e₂ | pid
      · obtain ⟨rfl, h₃⟩ := path_ret.1 h₂
        cases h₃
        exact .inr (.inl ⟨e₁, e₂, rfl, rfl, rfl⟩)
      · obtain ⟨z, t₃, rfl, h₃⟩ := path_call.1 h₂
        rcases z with e₃ | p
        · obtain ⟨rfl, h₄⟩ := path_ret.1 h₃
          cases h₄
          exact .inr (.inr (.inl ⟨e₁, pid, e₃, rfl, rfl, rfl⟩))
        · exact .inr (.inr (.inr ⟨e₁, pid, p, t₃, rfl, h₃⟩))
    · refine .inl ⟨v, ?_⟩
      cases hs : sscanfD v with
      | error e =>
        simp only [hs, pure_eq, path_ret, Prod.mk.injEq] at h
        obtain ⟨rfl, rfl, rfl⟩ := h
        exact ⟨rfl, .inl ⟨e, rfl, rfl, rfl⟩⟩
      | ok s =>
        simp only [hs, pure_eq, path_ret, Prod.mk.injEq] at h
        obtain ⟨rfl, rfl, rfl⟩ := h
        exact ⟨rfl, .inr ⟨s, rfl, rfl, rfl⟩⟩
  · rintro (⟨v, rfl, ⟨e, hs, rfl, rfl⟩ | ⟨s, hs, rfl, rfl⟩⟩ | ⟨e₁, e₂, rfl, rfl, rfl⟩ |
      ⟨e₁, pid, e₂, rfl, rfl, rfl⟩ | ⟨e₁, pid, p, t', rfl, h⟩)
    · exact ⟨.ok v, [], rfl, by simp [hs]⟩
    · exact ⟨.ok v, [], rfl, by simp [hs]⟩
    · exact ⟨.error e₁, _, rfl, path_call.2 ⟨.error e₂, [], rfl, path_ret.2 ⟨rfl, rfl⟩⟩⟩
    · exact ⟨.error e₁, _, rfl, path_call.2 ⟨.ok pid, _, rfl,
        path_call.2 ⟨.error e₂, [], rfl, path_ret.2 ⟨rfl, rfl⟩⟩⟩⟩
    · exact ⟨.error e₁, _, rfl, path_call.2 ⟨.ok pid, _, rfl, path_call.2 ⟨.ok p, t', rfl, h⟩⟩⟩

theorem path_startProcess :
    Path (startProcess step config st) t (r, st') ↔
      (∃ e, t = [⟨.allSatisfying (taskWorkerSpec step config), .error e⟩] ∧
        r = .error (.remote e) ∧ st' = st) ∨
      (∃ ws t₁ e, t = ⟨.allSatisfying (taskWorkerSpec step config), .ok ws⟩ :: t₁ ∧
        Path (createContainer step st.repo config ws).run t₁ (.error e) ∧ r = .error e ∧ st' = st) ∨
      (∃ ws t₁ c its t₂ e, t = ⟨.allSatisfying (taskWorkerSpec step config), .ok ws⟩ :: (t₁ ++ t₂) ∧
        Path (createContainer step st.repo config ws).run t₁ (.ok (c, its)) ∧
        Path (runProcess step config c its).run t₂ (.error e) ∧ r = .error e ∧
        st' = { st with container := some c }) ∨
      (∃ ws t₁ c its t₂ process t₃,
        t = ⟨.allSatisfying (taskWorkerSpec step config), .ok ws⟩ :: (t₁ ++ t₂ ++ t₃) ∧
        Path (createContainer step st.repo config ws).run t₁ (.ok (c, its)) ∧
        Path (runProcess step config c its).run t₂ (.ok process) ∧
        Path (waitForProcess step config c process { st with container := some c }) t₃ (r, st')) := by
  simp only [startProcess, bind_eq, query_bind, path_call]
  constructor
  · rintro ⟨x, t₁, rfl, h⟩
    rcases x with e | ws
    · obtain ⟨rfl, h₂⟩ := path_ret.1 h
      cases h₂
      exact .inl ⟨e, rfl, rfl, rfl⟩
    obtain ⟨t₂, t₃, y, rfl, h₂, h₃⟩ := path_bind.1 h
    rcases y with e | ⟨c, its⟩
    · obtain ⟨rfl, h₄⟩ := path_ret.1 h₃
      cases h₄
      exact .inr (.inl ⟨ws, t₂, e, by simp, h₂, rfl, rfl⟩)
    obtain ⟨t₄, t₅, z, rfl, h₄, h₅⟩ := path_bind.1 h₃
    rcases z with e | p
    · obtain ⟨rfl, h₆⟩ := path_ret.1 h₅
      cases h₆
      exact .inr (.inr (.inl ⟨ws, t₂, c, its, t₄, e, by simp, h₂, h₄, rfl, rfl⟩))
    · exact .inr (.inr (.inr ⟨ws, t₂, c, its, t₄, p, t₅, by simp, h₂, h₄, h₅⟩))
  · rintro (⟨e, rfl, rfl, rfl⟩ | ⟨ws, t₁, e, rfl, h₁, rfl, rfl⟩ |
      ⟨ws, t₁, c, its, t₂, e, rfl, h₁, h₂, rfl, rfl⟩ | ⟨ws, t₁, c, its, t₂, p, t₃, rfl, h₁, h₂, h₃⟩)
    · exact ⟨_, _, rfl, path_ret.2 ⟨rfl, rfl⟩⟩
    · exact ⟨_, _, rfl, path_bind.2 ⟨t₁, [], _, by simp, h₁, path_ret.2 ⟨rfl, rfl⟩⟩⟩
    · exact ⟨_, _, rfl, path_bind.2 ⟨t₁, t₂, _, rfl, h₁,
        path_bind.2 ⟨t₂, [], _, by simp, h₂, path_ret.2 ⟨rfl, rfl⟩⟩⟩⟩
    · exact ⟨_, _, rfl, path_bind.2 ⟨t₁, t₂ ++ t₃, _, by simp, h₁,
        path_bind.2 ⟨t₂, t₃, _, rfl, h₂, h₃⟩⟩⟩

theorem path_run :
    Path (run step st) t (r, st') ↔
      (∃ e, t = [⟨.fetchConfig, .error e⟩] ∧ r = .error (.remote e) ∧ st' = st) ∨
      (∃ config c t', t = ⟨.fetchConfig, .ok config⟩ ::
          ⟨.findContainerForIdentifier, .ok (some c)⟩ :: t' ∧
        Path (recoverOrAttach step config c { st with container := some c }) t' (r, st')) ∨
      (∃ config x t', (∀ c, x ≠ .ok (some c)) ∧
        t = ⟨.fetchConfig, .ok config⟩ :: ⟨.findContainerForIdentifier, x⟩ :: t' ∧
        Path (startProcess step config { st with container := none }) t' (r, st')) := by
  simp only [run, bind_eq, query_bind, path_call]
  constructor
  · rintro ⟨x, t₁, rfl, h⟩
    rcases x with e | config
    · obtain ⟨rfl, h₂⟩ := path_ret.1 h
      cases h₂
      exact .inl ⟨e, rfl, rfl, rfl⟩
    obtain ⟨y, t₂, rfl, h₂⟩ := path_call.1 h
    rcases y with e | _ | c
    · exact .inr (.inr ⟨config, .error e, t₂, nofun, rfl, h₂⟩)
    · exact .inr (.inr ⟨config, .ok none, t₂, nofun, rfl, h₂⟩)
    · exact .inr (.inl ⟨config, c, t₂, rfl, h₂⟩)
  · rintro (⟨e, rfl, rfl, rfl⟩ | ⟨config, c, t', rfl, h⟩ | ⟨config, x, t', hx, rfl, h⟩)
    · exact ⟨_, _, rfl, path_ret.2 ⟨rfl, rfl⟩⟩
    · exact ⟨_, _, rfl, path_call.2 ⟨_, t', rfl, h⟩⟩
    · refine ⟨_, _, rfl, path_call.2 ⟨x, t', rfl, ?_⟩⟩
      rcases x with e | _ | c
      · exact h
      · exact h
      · exact absurd rfl (hx c)

end Paths

/-! ### `Result` and `Release` -/

/-- `Result(&Success)`: whether the step's exit status is 0. -/
def StepState.resultSuccess (st : StepState) : Bool :=
  st.exitStatus.val == 0

/-- `Result(&ExitStatus)`. -/
def StepState.resultExitStatus (st : StepState) : GoInt :=
  st.exitStatus

/-- The two TTLs `Release` chooses between. -/
inductive StepTTL where
  | successfulStepTTL
  | failedStepTTL
  deriving DecidableEq, Repr

/-- `Release`: the step's container with the TTL it is released for, or nothing without a
container. -/
def StepState.release (st : StepState) : Option (Container × StepTTL) :=
  st.container.map fun c => (c, if st.exitStatus.val = 0 then .successfulStepTTL else .failedStepTTL)

/-! ### The exit status `Result` reads -/

theorem raises_streamTo (dest : ContainerDestination) (source : ArtifactSource) :
    Raises (· ≠ .interrupted) (source.streamTo dest) := by
  cases source <;>
  exact (raises_remote (fun _ => nofun) _).bind fun _ => raises_remote (fun _ => nofun) _

theorem raises_streamInputs (step : TaskStep) (container : Container) :
    ∀ inputPairs, Raises (· ≠ .interrupted) (streamInputs step container inputPairs)
  | [] => raises_pure ()
  | pair :: rest =>
    (raises_streamTo _ pair.source).bind fun _ => raises_streamInputs step container rest

theorem raises_setupOutputs (step : TaskStep) (container : Container) :
    ∀ outputs, Raises (· ≠ .interrupted) (setupOutputs step container outputs)
  | [] => raises_pure ()
  | _ :: rest =>
    (raises_remote (fun _ => nofun) _).bind fun _ => raises_setupOutputs step container rest

/-- The setup of a new session does not watch the signals either. -/
theorem raises_runProcess (step : TaskStep) (config : TaskConfig) (container : Container)
    (inputsToStream : List InputPair) :
    Raises (· ≠ .interrupted) (runProcess step config container inputsToStream) :=
  (raises_remote (fun _ => nofun) _).bind fun _ =>
    (raises_streamInputs step container _).bind fun _ =>
      (raises_setupOutputs step container _).bind fun _ =>
        (raises_remote (fun _ => nofun) _).bind fun _ =>
          (raises_remote (fun _ => nofun) _).bind fun _ => raises_pure _

open Prog in
/-- **An interrupted run reports success.** `ErrInterrupted` is returned from the `select` on a
signal, before any exit status is observed, so the exit status keeps the zero it had when the
step was built: `Result(&Success)` reports true, and `Release` keeps the container for
`SuccessfulStepTTL`. -/
theorem run_interrupted_keeps_zero_status (step : TaskStep) (repo : SourceRepository)
    {t : List TaskEvent} {st : StepState}
    (h : Path (run step (StepState.init repo)) t (.error .interrupted, st)) :
    st.resultSuccess = true ∧ ∃ c, st.release = some (c, .successfulStepTTL) := by
  have hwait : ∀ config c p (st₀ : StepState) t', st₀.exitStatus = 0 → st₀.container = some c →
      Path (waitForProcess step config c p st₀) t' (.error .interrupted, st) →
      st.resultSuccess = true ∧ ∃ c, st.release = some (c, .successfulStepTTL) := by
    intro config c p st₀ t' h0 hc hw
    rcases path_waitForProcess.1 hw with ⟨-, -, rfl⟩ | ⟨_, x, -, hx, -⟩ | ⟨_, -, ⟨⟩, -⟩
    · exact ⟨by simp [StepState.resultSuccess, h0], c, by simp [StepState.release, h0, hc]⟩
    · cases x <;> cases hx
  rcases path_run.1 h with ⟨_, -, ⟨⟩, -⟩ | ⟨config, c, t', -, h'⟩ | ⟨config, x, t', -, -, h'⟩
  · rcases path_recoverOrAttach.1 h' with ⟨_, -, ⟨_, -, ⟨⟩, -⟩ | ⟨_, -, ⟨⟩, -⟩⟩ |
      ⟨_, _, -, ⟨⟩, -⟩ | ⟨_, _, _, -, ⟨⟩, -⟩ | ⟨_, _, _, _, -, hw⟩
    exact hwait config c _ _ _ rfl rfl hw
  · rcases path_startProcess.1 h' with ⟨_, -, ⟨⟩, -⟩ | ⟨_, _, e, -, hc, he, -⟩ |
      ⟨_, _, _, _, _, e, -, -, hp, he, -⟩ | ⟨_, _, c, _, _, _, _, -, -, -, hw⟩
    · cases he; exact absurd rfl (createContainer_ne_interrupted step repo config _ hc)
    · cases he; exact absurd rfl (raises_runProcess step config _ _ _ _ hp)
    · exact hwait config c _ _ _ rfl rfl hw

/-- Replies under which a new session goes through on one worker, which creates `container`,
and every other call succeeds; the `select` ends as `outcome` says. -/
def sessionReply (config : TaskConfig) (worker : Worker) (container : Container)
    (outcome : WaitOutcome) : (q : TaskReq) → TaskResp q
  | .fetchConfig => .ok config
  | .findContainerForIdentifier => .ok none
  | .allSatisfying _ => .ok [worker]
  | .createContainer .. => .ok container
  | .wait _ => outcome
  | .property .. => .ok ""
  | .attach .. | .run .. => .ok ⟨"process"⟩
  | .lookupVolume .. | .cacheVolume _ => .ok none
  | .createVolume .. | .initCheck .. | .getRun .. | .streamIn .. | .streamOut ..
  | .setProperty .. | .initWithCache .. => .ok default
  | .check .. => .ok []
  | .isInitialized _ => .ok true
  | .releaseResource _ | .initializeCache _ | .releaseVolume _ | .stop .. => ()

/-- A task with no inputs, no outputs and a plain image. -/
def sessionConfig : TaskConfig :=
  { platform := "linux", image := "busybox", imageResource := none, inputs := [], outputs := [],
    runPath := "true", runArgs := [] }

def sessionStep : TaskStep := ⟨"task", [], false, "/tmp/build/task"⟩

def sessionWorker : Worker := ⟨"worker", false, false⟩

def sessionContainer : Container := ⟨"container", []⟩

/-- The container spec a new session of `sessionConfig` asks `sessionWorker` for. -/
def sessionSpec : TaskContainerSpec :=
  { platform := "linux", tags := [], privileged := false, inputs := [], outputs := [],
    image := "busybox", imageVolume := none }

/-- The process spec of `sessionConfig`. -/
def sessionProcessSpec : ProcessSpec :=
  { path := "true", args := [], dir := "/tmp/build/task", user := "root" }

theorem sessionPlacement_path (repo : SourceRepository) :
    Prog.Path (createContainer sessionStep repo sessionConfig [sessionWorker]).run
      [⟨.createContainer sessionWorker sessionSpec, .ok sessionContainer⟩]
      (.ok (sessionContainer, [])) := by
  have h := Prog.path_run (sessionReply sessionConfig sessionWorker sessionContainer .signalled)
    (createContainer sessionStep repo sessionConfig [sessionWorker]).run
  rw [createContainer] at h ⊢
  exact h

theorem sessionProcess_path :
    Prog.Path (runProcess sessionStep sessionConfig sessionContainer []).run
      [⟨.streamIn sessionContainer "/tmp/build/task", .ok ()⟩,
        ⟨.run sessionContainer sessionProcessSpec, .ok ⟨"process"⟩⟩,
        ⟨.setProperty sessionContainer taskProcessPropertyName "process", .ok ()⟩]
      (.ok ⟨"process"⟩) :=
  Prog.path_run (sessionReply sessionConfig sessionWorker sessionContainer .signalled) _

/-- A new session on `sessionWorker` whose process is interrupted. -/
theorem session_interrupted_path : ∃ t st,
    Prog.Path (run sessionStep (StepState.init ⟨[]⟩)) t (.error .interrupted, st) ∧
      st.exitStatus = 0 ∧ st.container = some sessionContainer :=
  ⟨_, _, path_run.2 (.inr (.inr ⟨sessionConfig, .ok none, _, nofun, rfl,
    path_startProcess.2 (.inr (.inr (.inr ⟨[sessionWorker], _, sessionContainer, [], _,
      ⟨"process"⟩, _, rfl, sessionPlacement_path _, sessionProcess_path,
      path_waitForProcess.2 (.inl ⟨rfl, rfl, rfl⟩)⟩)))⟩)), rfl, rfl⟩

theorem session_interrupted_reports_success : ∃ t st,
    Prog.Path (run sessionStep (StepState.init ⟨[]⟩)) t (.error .interrupted, st) ∧
      st.resultSuccess = true ∧ ∃ c, st.release = some (c, .successfulStepTTL) := by
  obtain ⟨t, st, h, -⟩ := session_interrupted_path
  exact ⟨t, st, h, run_interrupted_keeps_zero_status _ _ h⟩

/-- **Interrupted, yet successful.** A new session whose process gets a signal returns
`ErrInterrupted`, and then `Result(&Success)` reports true and `Release` keeps the container for
`SuccessfulStepTTL`. -/
theorem run_reports_success_after_interrupt : ∃ t st,
    Prog.Path (run sessionStep (StepState.init ⟨[]⟩)) t (.error .interrupted, st) ∧
      st.resultSuccess = true ∧ st.release = some (sessionContainer, .successfulStepTTL) := by
  obtain ⟨t, st, h, h0, hc⟩ := session_interrupted_path
  exact ⟨t, st, h, by simp [StepState.resultSuccess, h0], by simp [StepState.release, h0, hc]⟩

end Atc.Exec
