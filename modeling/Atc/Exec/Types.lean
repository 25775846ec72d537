import Atc.Worker.Pool

/-!
# The task step: configuration, artifact sources and remote calls

The data of `exec.TaskStep` (`src/unnamed/part_004`): the task configuration it runs, the
artifact sources it finds its inputs in and registers its outputs as, the source repository of
the build, the errors it returns, and every remote call it makes, with the replies they may
get. The step's own functions are in `Atc.Exec.CreateContainer` and `Atc.Exec.TaskStep`.

## Main definitions

* `Atc.Exec.TaskConfig`, `Atc.Exec.TaskStep`, `Atc.Exec.StepState` — what a step runs, what it
  is built with, and the fields `Run` writes.
* `Atc.Exec.ArtifactSource`, `Atc.Exec.SourceRepository` — the two source kinds of this file
  (a task's working directory, a task output) and the per-build registry.
* `Atc.Exec.TaskReq`, `Atc.Exec.TaskResp` — the remote calls and their replies.
* `Atc.Exec.artifactsPath`, `Atc.Exec.inputDestination` — where outputs and inputs live in the
  container.

## Implementation notes

`config.Params` only feeds the process environment, built by iterating over a Go map (so in no
fixed order); it is left out, with the environment of the process spec. The step's logger, its
delegate's callbacks and the `ready` channel are left out: no call the step makes and no field
it writes depends on them. `ErrInterrupted` and the other errors of the package that are not under `src/`
are kept as constructors without their texts.
-/

namespace Atc.Exec

open Atc.Go

/-! ### Configuration -/

/-- `atc.TaskInputConfig`. -/
structure TaskInputConfig where
  name : String
  path : String
  deriving DecidableEq, Repr

/-- `atc.TaskOutputConfig`. -/
structure TaskOutputConfig where
  name : String
  path : String
  deriving DecidableEq, Repr

/-- `atc.ImageResource`: the resource type and source of a task's image. -/
structure ImageResource where
  type : String
  source : String
  deriving DecidableEq, Repr

/-- `atc.TaskConfig`, without `Params` (see the implementation notes). -/
structure TaskConfig where
  platform : String
  image : String
  imageResource : Option ImageResource
  inputs : List TaskInputConfig
  outputs : List TaskOutputConfig
  runPath : String
  runArgs : List String
  deriving DecidableEq, Repr, Inhabited

/-- The fields of `TaskStep` fixed when the step is built. The container identifier is left
implicit: every request of a step is for its own identifier. -/
structure TaskStep where
  sourceName : String
  tags : List String
  privileged : Bool
  artifactsRoot : String
  deriving DecidableEq, Repr

/-! ### Paths in the container -/

/-- `artifactsPath`: where an output lives, `artifactsRoot/<path or name>/`. -/
def artifactsPath (outputConfig : TaskOutputConfig) (artifactsRoot : String) : String :=
  join [artifactsRoot, if outputConfig.path.length = 0 then outputConfig.name
    else outputConfig.path] ++ "/"

/-- `TaskStep.inputDestination`: where an input volume is mounted. -/
def inputDestination (step : TaskStep) (config : TaskInputConfig) : String :=
  filepathJoin [step.artifactsRoot, if config.path = "" then config.name else config.path]

/-- A stream into the new container for one input (`containerDestination`). -/
structure ContainerDestination where
  container : Container
  inputConfig : TaskInputConfig
  artifactsRoot : String
  deriving DecidableEq, Repr

/-- The path `containerDestination.StreamIn(dst, _)` streams into. -/
def ContainerDestination.streamInPath (dest : ContainerDestination) (dst : String) : String :=
  let inputDst :=
    if dest.inputConfig.path.length = 0 then dest.inputConfig.name else dest.inputConfig.path
  dest.artifactsRoot ++ "/" ++ inputDst ++ "/" ++ dst

/-! ### Artifact sources and the repository -/

/-- The artifact sources of this file. -/
inductive ArtifactSource where
  /-- A `TaskStep` registered as its own source: its whole working directory. -/
  | taskStep (container : Container) (artifactsRoot : String)
  /-- `containerSource`: one output of a task, with the handle of its volume (`""` when the
  output lives only in the container). -/
  | containerSource (artifactsRoot : String) (container : Container) (outputConfig : TaskOutputConfig)
      (volumeHandle : String)
  deriving DecidableEq, Repr

/-- `exec.SourceRepository`: the sources registered during a build, newest first. -/
structure SourceRepository where
  sources : List (String × ArtifactSource)
  deriving DecidableEq, Repr

/-- `SourceRepository.RegisterSource`: the last registration of a name wins. -/
def SourceRepository.registerSource (repo : SourceRepository) (name : String)
    (source : ArtifactSource) : SourceRepository :=
  ⟨(name, source) :: repo.sources⟩

/-- `SourceRepository.SourceFor`. -/
def SourceRepository.sourceFor (repo : SourceRepository) (name : String) :
    Option ArtifactSource :=
  repo.sources.lookup name

@[simp] theorem SourceRepository.sourceFor_registerSource (repo : SourceRepository)
    (name name' : String) (source : ArtifactSource) :
    (repo.registerSource name source).sourceFor name' =
      if name' = name then some source else repo.sourceFor name' := by
  by_cases h : name' = name
  · simp [registerSource, sourceFor, List.lookup_cons, h]
  · simp [registerSource, sourceFor, List.lookup_cons, h, beq_eq_false_iff_ne.2 h]

/-- An input with the source it streams from (`inputPair`). -/
structure InputPair where
  input : TaskInputConfig
  source : ArtifactSource
  deriving DecidableEq, Repr

/-! ### Errors -/

/-- The errors `Run` returns. Errors of remote calls are passed through with their text. -/
inductive TaskError where
  /-- `MissingInputsError{Inputs}`. -/
  | missingInputs (inputs : List String)
  /-- `ErrImageUnavailable`. -/
  | imageUnavailable
  /-- `NewErrImageGetDidNotProduceVolume(taskName)`. -/
  | imageGetDidNotProduceVolume (taskName : String)
  /-- `errors.New("Failed to create container on all compatible workers")`. -/
  | allWorkersFailed
  /-- `ErrInterrupted`. -/
  | interrupted
  /-- An error of a remote call or of `fmt.Sscanf`, returned as it came. -/
  | remote (msg : String)
  /-- A Go runtime panic: a method called on the nil worker. -/
  | panic
  deriving DecidableEq, Repr

/-- The texts of the errors defined in `part_004`. -/
def TaskError.message : TaskError → Option String
  | .missingInputs inputs => some ("missing inputs: " ++ ", ".intercalate inputs)
  | .imageUnavailable => some "no versions of image available"
  | .imageGetDidNotProduceVolume taskName =>
    some ("getting the image for task '" ++ taskName ++ "' did not produce a volume")
  | .allWorkersFailed => some "Failed to create container on all compatible workers"
  | .remote msg => some msg
  | _ => none

/-! ### Remote calls -/

/-- A resource container of the image fetch (`resource.Resource`), by an identity. -/
structure Resource where
  id : Nat
  deriving DecidableEq, Repr, Inhabited

/-- The cache of the fetched image (`resource.Cache`), by an identity. -/
structure Cache where
  id : Nat
  deriving DecidableEq, Repr, Inhabited

/-- A process in a container (`garden.Process`), by its ID. -/
structure Process where
  id : String
  deriving DecidableEq, Repr, Inhabited

/-- `worker.TaskContainerSpec`. -/
structure TaskContainerSpec where
  platform : String
  tags : List String
  privileged : Bool
  inputs : List VolumeMount
  outputs : List VolumeMount
  image : String
  imageVolume : Option Volume
  deriving DecidableEq, Repr

/-- `garden.ProcessSpec`, without its environment. -/
structure ProcessSpec where
  path : String
  args : List String
  dir : String
  user : String
  deriving DecidableEq, Repr

/-- Which case of the `select` of `Run` fires: a signal, the process's exit status, or an
error of `process.Wait`. -/
inductive WaitOutcome where
  | signalled
  | exited (status : GoInt)
  | failed (msg : String)
  deriving DecidableEq

/-- The remote calls of a task step. -/
inductive TaskReq where
  /-- `configSource.FetchConfig(repo)`. -/
  | fetchConfig
  /-- `workerPool.FindContainerForIdentifier` for the step's run-stage identifier. -/
  | findContainerForIdentifier
  /-- `container.Property(name)`. -/
  | property (c : Container) (name : String)
  /-- `container.Attach(processID, io)`. -/
  | attach (c : Container) (processID : String)
  /-- `workerPool.AllSatisfying(spec)`. -/
  | allSatisfying (spec : WorkerSpec)
  /-- `LookupVolume(handle)` on the volume manager of `w`. -/
  | lookupVolume (w : Worker) (handle : String)
  /-- `CreateVolume` on the volume manager of `w`, with the step's privilege and a 5 minute
  TTL. -/
  | createVolume (w : Worker) (privileged : Bool)
  /-- `tracker.Init` of the check session of the image, on `w`. -/
  | initCheck (w : Worker) (image : ImageResource)
  /-- `checkingResource.Check(source, nil)`: the image's versions, newest first. -/
  | check (r : Resource) (source : String)
  /-- `resource.Release(0)`. -/
  | releaseResource (r : Resource)
  /-- `tracker.InitWithCache` of the get session of the image at `version`, on `w`. -/
  | initWithCache (w : Worker) (image : ImageResource) (version : String)
  /-- `cache.IsInitialized()`. -/
  | isInitialized (cache : Cache)
  /-- `Run` of the versioned source that gets the image. -/
  | getRun (r : Resource) (version : String)
  /-- `cache.Initialize()`, whose error the step ignores. -/
  | initializeCache (cache : Cache)
  /-- `imageResource.CacheVolume()`. -/
  | cacheVolume (r : Resource)
  /-- `chosenWorker.CreateContainer` for the step's run-stage identifier. -/
  | createContainer (w : Worker) (spec : TaskContainerSpec)
  /-- `volume.Release(0)`: stop heartbeating a volume. -/
  | releaseVolume (v : Volume)
  /-- `container.StreamIn` of a tar stream at `path`. -/
  | streamIn (c : Container) (path : String)
  /-- `container.StreamOut(path)`. -/
  | streamOut (c : Container) (path : String)
  /-- `container.Run(spec, io)`. -/
  | run (c : Container) (spec : ProcessSpec)
  /-- `container.SetProperty(name, value)`. -/
  | setProperty (c : Container) (name value : String)
  /-- The `select` on the signals, the exit status and the error of `process.Wait()`. -/
  | wait (p : Process)
  /-- `container.Stop(kill)`, whose error the step ignores. -/
  | stop (c : Container) (kill : Bool)
  deriving DecidableEq

/-- The replies to the calls of a task step; a Go error is the text it carries. -/
abbrev TaskResp : TaskReq → Type
  | .fetchConfig => Except String TaskConfig
  | .findContainerForIdentifier => Except String (Option Container)
  | .property .. => Except String String
  | .attach .. => Except String Process
  | .allSatisfying _ => Except String (List Worker)
  | .lookupVolume .. => Except String (Option Volume)
  | .createVolume .. => Except String Volume
  | .initCheck .. => Except String Resource
  | .check .. => Except String (List String)
  | .releaseResource _ => Unit
  | .initWithCache .. => Except String (Resource × Cache)
  | .isInitialized _ => Except String Bool
  | .getRun .. => Except String Unit
  | .initializeCache _ => Unit
  | .cacheVolume _ => Except String (Option Volume)
  | .createContainer .. => Except String Container
  | .releaseVolume _ => Unit
  | .streamIn .. => Except String Unit
  | .streamOut .. => Except String Unit
  | .run .. => Except String Process
  | .setProperty .. => Except String Unit
  | .wait _ => WaitOutcome
  | .stop .. => Unit

/-- Whether a request is a worker's `CreateContainer`. -/
def TaskReq.isCreateContainer : TaskReq → Bool
  | .createContainer .. => true
  | _ => false

/-- Whether a request is one of the calls placement makes besides `CreateContainer`: to the
volume managers, and for the image resource. -/
def TaskReq.isPlacement : TaskReq → Bool
  | .lookupVolume .. | .createVolume .. | .initCheck .. | .check .. | .releaseResource _
  | .initWithCache .. | .isInitialized _ | .getRun .. | .initializeCache _ | .cacheVolume _
  | .releaseVolume _ => true
  | _ => false

/-- Whether a request starts the task's process: `container.Run`. -/
def TaskReq.isRun : TaskReq → Bool
  | .run .. => true
  | _ => false

theorem TaskReq.isCreateContainer_of_isPlacement {q : TaskReq} (h : q.isPlacement = true) :
    q.isCreateContainer = false := by
  cases q <;> first | rfl | cases h

/-- The text of a Go error. -/
def errorOf {α : Type} : Except String α → Option String
  | .error e => some e
  | .ok _ => none

/-- The text of the error a call got back, if it got one. -/
def errorReply : (q : TaskReq) → TaskResp q → Option String
  | .fetchConfig, x => errorOf x
  | .findContainerForIdentifier, x => errorOf x
  | .property .., x => errorOf x
  | .attach .., x => errorOf x
  | .allSatisfying _, x => errorOf x
  | .lookupVolume .., x => errorOf x
  | .createVolume .., x => errorOf x
  | .initCheck .., x => errorOf x
  | .check .., x => errorOf x
  | .releaseResource _, _ => none
  | .initWithCache .., x => errorOf x
  | .isInitialized _, x => errorOf x
  | .getRun .., x => errorOf x
  | .initializeCache _, _ => none
  | .cacheVolume _, x => errorOf x
  | .createContainer .., x => errorOf x
  | .releaseVolume _, _ => none
  | .streamIn .., x => errorOf x
  | .streamOut .., x => errorOf x
  | .run .., x => errorOf x
  | .setProperty .., x => errorOf x
  | .wait _, .failed msg => some msg
  | .wait _, _ => none
  | .stop .., _ => none

/-- Programs of a task step. -/
abbrev TaskProg := Prog TaskReq TaskResp

/-- An event of a task step's run. -/
abbrev TaskEvent := Prog.Event TaskReq TaskResp

/-- A call whose Go error the step returns as it came. -/
def remote {α : Type} (p : TaskProg (Except String α)) : ExceptT TaskError TaskProg α :=
  ExceptT.mk (p.bind fun r => .ret (r.mapError .remote))

/-- A call that cannot fail. -/
def effect {α : Type} (p : TaskProg α) : ExceptT TaskError TaskProg α :=
  ExceptT.mk (p.bind fun a => .ret (.ok a))

/-- The `CreateContainer` call an event records, if it is one: the worker, the spec and the
reply. -/
def createContainerCall : TaskEvent → Option (Worker × TaskContainerSpec × Except String Container)
  | ⟨.createContainer w spec, x⟩ => some (w, spec, x)
  | _ => none

/-- The worker calls `CreateContainer` of a trace, in order. -/
def createContainerCalls (t : List TaskEvent) :
    List (Worker × TaskContainerSpec × Except String Container) :=
  t.filterMap createContainerCall

@[simp] theorem createContainerCalls_nil : createContainerCalls [] = [] := rfl

@[simp] theorem createContainerCalls_append (t₁ t₂ : List TaskEvent) :
    createContainerCalls (t₁ ++ t₂) = createContainerCalls t₁ ++ createContainerCalls t₂ :=
  List.filterMap_append _ _ _

@[simp] theorem createContainerCalls_cons_createContainer (w : Worker) (spec : TaskContainerSpec)
    (x : Except String Container) (t : List TaskEvent) :
    createContainerCalls (⟨.createContainer w spec, x⟩ :: t) = (w, spec, x) :: createContainerCalls t :=
  rfl

theorem createContainerCall_eq_none {e : TaskEvent} (h : e.1.isCreateContainer = false) :
    createContainerCall e = none := by
  rcases e with ⟨q, x⟩
  cases q <;> first | rfl | cases h

/-- A trace of calls none of which is `CreateContainer` has no `CreateContainer` calls. -/
theorem createContainerCalls_eq_nil {t : List TaskEvent}
    (h : ∀ e ∈ t, e.1.isCreateContainer = false) : createContainerCalls t = [] :=
  List.filterMap_eq_nil_iff.2 fun e he => createContainerCall_eq_none (h e he)

/-- A program that never asks a worker for a container. -/
abbrev NoCreate {α : Type} (p : TaskProg α) : Prop :=
  Prog.Calls (fun q => q.isCreateContainer = false) p

/-- A program that only makes placement's calls to the volume managers and for the image. -/
abbrev Placement {α : Type} (p : TaskProg α) : Prop :=
  Prog.Calls (fun q => q.isPlacement = true) p

theorem Placement.noCreate {α : Type} {p : TaskProg α} (hp : Placement p) : NoCreate p :=
  Prog.Calls.mono (fun _ => TaskReq.isCreateContainer_of_isPlacement) hp

/-- A program of placement's calls that cannot fail: the releases. -/
abbrev Releases {α : Type} (p : TaskProg α) : Prop :=
  Prog.Calls (fun q => q.isPlacement = true ∧ ∀ y, errorReply q y = none) p

theorem releases_query (q : TaskReq) (hq : q.isPlacement = true)
    (hy : ∀ y, errorReply q y = none) : Releases (Prog.query q) :=
  ⟨⟨hq, hy⟩, fun _ => trivial⟩

theorem Releases.placement {α : Type} {p : TaskProg α} (hp : Releases p) : Placement p :=
  Prog.Calls.mono (fun _ h => h.1) hp

theorem Releases.noCreate {α : Type} {p : TaskProg α} (hp : Releases p) : NoCreate p :=
  hp.placement.noCreate

theorem NoCreate.path {α : Type} {p : TaskProg α} (hp : NoCreate p) {t : List TaskEvent} {a : α}
    (h : Prog.Path p t a) : createContainerCalls t = [] :=
  createContainerCalls_eq_nil (Prog.Calls.path hp h)

theorem path_remote {α : Type} {p : TaskProg (Except String α)} {t : List TaskEvent}
    {r : Except TaskError α} :
    Prog.Path (remote p).run t r ↔ ∃ x, Prog.Path p t x ∧ r = x.mapError .remote := by
  simp only [remote, ExceptT.run, ExceptT.mk, Prog.path_bind, Prog.path_ret]
  constructor
  · rintro ⟨t₁, t₂, x, rfl, h, rfl, rfl⟩; exact ⟨x, by simpa using h, rfl⟩
  · rintro ⟨x, h, rfl⟩; exact ⟨t, [], x, by simp, h, rfl, rfl⟩

theorem path_effect {α : Type} {p : TaskProg α} {t : List TaskEvent} {r : Except TaskError α} :
    Prog.Path (effect p).run t r ↔ ∃ a, Prog.Path p t a ∧ r = .ok a := by
  simp only [effect, ExceptT.run, ExceptT.mk, Prog.path_bind, Prog.path_ret]
  constructor
  · rintro ⟨t₁, t₂, a, rfl, h, rfl, rfl⟩; exact ⟨a, by simpa using h, rfl⟩
  · rintro ⟨a, h, rfl⟩; exact ⟨t, [], a, by simp, h, rfl, rfl⟩

theorem noCreate_query (q : TaskReq) (hq : q.isCreateContainer = false) :
    NoCreate (Prog.query q) :=
  ⟨hq, fun _ => trivial⟩

/-- A call that cannot fail, followed by the rest of the function. -/
theorem path_effect_bind {α β : Type} {p : TaskProg α} {f : α → ExceptT TaskError TaskProg β}
    {t : List TaskEvent} {r : Except TaskError β} :
    Prog.Path (effect p >>= f).run t r ↔
      ∃ t₁ t₂ a, t = t₁ ++ t₂ ∧ Prog.Path p t₁ a ∧ Prog.Path (f a).run t₂ r := by
  rw [Prog.path_exceptBind]
  constructor
  · rintro (⟨e, he, -⟩ | ⟨t₁, t₂, a, rfl, h₁, h₂⟩)
    · obtain ⟨_, -, ⟨⟩⟩ := path_effect.1 he
    · obtain ⟨a, h, ⟨⟩⟩ := path_effect.1 h₁
      exact ⟨t₁, t₂, a, rfl, h, h₂⟩
  · rintro ⟨t₁, t₂, a, rfl, h₁, h₂⟩
    exact .inr ⟨t₁, t₂, a, rfl, path_effect.2 ⟨a, h₁, rfl⟩, h₂⟩

theorem noCreate_remote {α : Type} {p : TaskProg (Except String α)} (hp : NoCreate p) :
    NoCreate (remote p).run :=
  Prog.Calls.bind hp fun _ => trivial

theorem noCreate_effect {α : Type} {p : TaskProg α} (hp : NoCreate p) : NoCreate (effect p).run :=
  Prog.Calls.bind hp fun _ => trivial

/-! ### How a function fails -/

/-- Every error `p` returns satisfies `E`. -/
def Raises (E : TaskError → Prop) {α : Type} (p : ExceptT TaskError TaskProg α) : Prop :=
  ∀ t e, Prog.Path p.run t (.error e) → E e

theorem Raises.bind {E : TaskError → Prop} {α β : Type} {x : ExceptT TaskError TaskProg α}
    {f : α → ExceptT TaskError TaskProg β} (hx : Raises E x) (hf : ∀ a, Raises E (f a)) :
    Raises E (x >>= f) := by
  intro t e h
  rcases Prog.path_exceptBind.1 h with ⟨e', he, ⟨⟩⟩ | ⟨_, _, a, -, -, h⟩
  exacts [hx _ _ he, hf a _ _ h]

theorem raises_pure {E : TaskError → Prop} {α : Type} (a : α) :
    Raises E (pure a : ExceptT TaskError TaskProg α) := by
  intro t e h
  cases (Prog.path_exceptPure.1 h).2

theorem raises_throw {E : TaskError → Prop} {α : Type} {e : TaskError} (he : E e) :
    Raises E (throw e : ExceptT TaskError TaskProg α) := by
  intro t e' h
  obtain ⟨-, ⟨⟩⟩ := Prog.path_throw.1 h
  exact he

theorem raises_remote {E : TaskError → Prop} {α : Type} (hE : ∀ msg, E (.remote msg))
    (p : TaskProg (Except String α)) : Raises E (remote p) := by
  intro t e h
  obtain ⟨x | a, -, hx⟩ := path_remote.1 h
  · cases hx; exact hE _
  · cases hx

theorem raises_effect {E : TaskError → Prop} {α : Type} (p : TaskProg α) : Raises E (effect p) := by
  intro t e h
  obtain ⟨_, -, ⟨⟩⟩ := path_effect.1 h

/-- Each call of `p` that gets an error back, `CreateContainer` apart, ends `p`: the error is
returned as it came, and no worker is asked for a container after it. -/
def StopsAtError {α : Type} (p : ExceptT TaskError TaskProg α) : Prop :=
  ∀ t r, Prog.Path p.run t r → ∀ t₁ q x t₂ msg, t = t₁ ++ ⟨q, x⟩ :: t₂ →
    q.isCreateContainer = false → errorReply q x = some msg →
      r = .error (.remote msg) ∧ createContainerCalls t₂ = []

theorem StopsAtError.bind {α β : Type} {x : ExceptT TaskError TaskProg α}
    {f : α → ExceptT TaskError TaskProg β} (hx : StopsAtError x) (hf : ∀ a, StopsAtError (f a)) :
    StopsAtError (x >>= f) := by
  intro t r h t₁ q y t₂ msg ht hq hy
  rcases Prog.path_exceptBind.1 h with ⟨e, he, rfl⟩ | ⟨ta, tb, a, rfl, ha, hb⟩
  · obtain ⟨⟨⟩, h₂⟩ := hx _ _ he t₁ q y t₂ msg ht hq hy
    exact ⟨rfl, h₂⟩
  rcases List.append_eq_append_iff.1 ht with ⟨a', rfl, rfl⟩ | ⟨c, rfl, hc⟩
  · exact hf a _ _ hb a' q y t₂ msg rfl hq hy
  rcases List.cons_eq_append_iff.1 hc with ⟨rfl, rfl⟩ | ⟨c', rfl, -⟩
  · exact hf a _ _ hb [] q y t₂ msg rfl hq hy
  · cases (hx _ _ ha t₁ q y c' msg rfl hq hy).1

theorem stopsAtError_pure {α : Type} (a : α) : StopsAtError (pure a : ExceptT TaskError TaskProg α) := by
  intro t r h t₁ q y t₂ msg ht
  rw [(Prog.path_exceptPure.1 h).1] at ht
  simp at ht

theorem stopsAtError_throw {α : Type} (e : TaskError) :
    StopsAtError (throw e : ExceptT TaskError TaskProg α) := by
  intro t r h t₁ q y t₂ msg ht
  rw [(Prog.path_throw.1 h).1] at ht
  simp at ht

/-- A call whose Go error is returned: its reply is the only event. -/
theorem stopsAtError_remote_call {α : Type} (q : TaskReq) (k : TaskResp q → Except String α)
    (hk : ∀ y, q.isCreateContainer = false → errorReply q y = errorOf (k y)) :
    StopsAtError (remote (.call q fun y => .ret (k y))) := by
  intro t r h t₁ q' y t₂ msg ht hq hy
  obtain ⟨x, hx, rfl⟩ := path_remote.1 h
  obtain ⟨z, t', rfl, hz⟩ := Prog.path_call.1 hx
  obtain ⟨rfl, rfl⟩ := Prog.path_ret.1 hz
  rcases List.cons_eq_append_iff.1 ht with ⟨rfl, he⟩ | ⟨_, rfl, he⟩
  · cases he
    rw [hk _ hq] at hy
    cases hkz : k z with
    | error m => rw [hkz] at hy; cases hy; exact ⟨rfl, rfl⟩
    | ok a => rw [hkz] at hy; cases hy
  · simp at he

/-- A call that cannot fail, or whose failure the caller handles: `CreateContainer`. -/
theorem stopsAtError_effect {α : Type} {p : TaskProg α}
    (hp : Prog.Calls (fun q => q.isCreateContainer = false → ∀ y, errorReply q y = none) p) :
    StopsAtError (effect p) := by
  intro t r h t₁ q y t₂ msg ht hq hy
  obtain ⟨a, ha, -⟩ := path_effect.1 h
  have := Prog.Calls.path hp ha ⟨q, y⟩ (by simp [ht])
  simp [this hq y] at hy

theorem Releases.stopsAtError {α : Type} {p : TaskProg α} (hp : Releases p) :
    StopsAtError (effect p) :=
  stopsAtError_effect (Prog.Calls.mono (fun _ h _ => h.2) hp)

/-! ### The state `Run` writes -/

/-- The fields of `TaskStep` that `Run` writes and `Result` and `Release` read. -/
structure StepState where
  repo : SourceRepository
  container : Option Container
  exitStatus : GoInt

/-- A step as `newTaskStep` builds it and `Using` hands it the build's repository. -/
def StepState.init (repo : SourceRepository) : StepState :=
  ⟨repo, none, 0⟩

end Atc.Exec
