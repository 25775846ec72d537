import Atc.Exec.Types

/-!
# Container placement of the task step

`TaskStep.createContainer` and the functions it calls (`src/unnamed/part_004`, lines 283–384
and 484–655). A round chooses, among the compatible workers, one holding the most of the task's
inputs as volumes (`chooseWorkerWithMostVolumes`, which asks `inputsOn` of every worker),
creates a volume per output on it, fetches the image when the task names an image resource,
and asks the worker for the container. When the worker refuses, the round is run again on the
other workers; when none is left the step fails.

## Main definitions

* `Atc.Exec.inputsOn`, `Atc.Exec.chooseWorkerWithMostVolumes` — the volume count per worker.
* `Atc.Exec.createOutputMounts`, `Atc.Exec.getContainerImage`, `Atc.Exec.containerImage` —
  the output volumes and the image of the container.
* `Atc.Exec.createContainer` — the rounds, by well-founded recursion: each round drops the
  chosen worker, a member of the list.

## Main results

* `Atc.Exec.createContainer_round` — the shape of a round: the calls before the container is
  asked for, the request, and what follows its reply.
-/

namespace Atc.Exec

open Atc.Go

/-! ### Inputs on a worker -/

/-- `ArtifactSource.VolumeOn(w)`: a task's working directory is never a volume; an output
is looked up by its handle on the worker's volume manager, when it has a handle and the
worker a volume manager. -/
def ArtifactSource.volumeOn (w : Worker) : ArtifactSource → TaskProg (Except String (Option Volume))
  | .taskStep .. => pure (.ok none)
  | .containerSource _ _ _ volumeHandle =>
    if volumeHandle.length > 0 ∧ w.volumeManager then Prog.query (.lookupVolume w volumeHandle)
    else pure (.ok none)

/-- The loop of `TaskStep.inputsOn`, with its accumulators `mounts`, `inputPairs` and
`missingInputs`. -/
def inputsOnLoop (step : TaskStep) (repo : SourceRepository) (w : Worker) :
    List TaskInputConfig → List VolumeMount → List InputPair → List String →
      ExceptT TaskError TaskProg (List VolumeMount × List InputPair × List String)
  | [], mounts, inputPairs, missingInputs => pure (mounts, inputPairs, missingInputs)
  | input :: rest, mounts, inputPairs, missingInputs =>
    match repo.sourceFor input.name with
    | none => inputsOnLoop step repo w rest mounts inputPairs (missingInputs ++ [input.name])
    | some source => do
      match ← remote (source.volumeOn w) with
      | some volume =>
        inputsOnLoop step repo w rest (mounts ++ [⟨volume, inputDestination step input⟩])
          inputPairs missingInputs
      | none =>
        inputsOnLoop step repo w rest mounts (inputPairs ++ [⟨input, source⟩]) missingInputs

/-- `TaskStep.inputsOn`: the inputs with a volume on `w` become mounts, the others are to be
streamed; any input missing from the repository fails the call. -/
def inputsOn (step : TaskStep) (repo : SourceRepository) (inputs : List TaskInputConfig)
    (w : Worker) : ExceptT TaskError TaskProg (List VolumeMount × List InputPair) := do
  let (mounts, inputPairs, missingInputs) ← inputsOnLoop step repo w inputs [] [] []
  if missingInputs.length > 0 then throw (.missingInputs missingInputs)
  else pure (mounts, inputPairs)

/-- `mount.Volume.Release(0)` for each mount, in order. -/
def releaseMounts : List VolumeMount → TaskProg Unit
  | [] => pure ()
  | mount :: rest => do
    Prog.query (.releaseVolume mount.volume)
    releaseMounts rest

/-- The loop of `TaskStep.chooseWorkerWithMostVolumes` over the compatible workers, each with
the proof that it is one of them. A worker with at least as many mounts as the one held so far
replaces it, and the mounts held so far are released; otherwise its own mounts are. -/
def chooseLoop (step : TaskStep) (repo : SourceRepository) (inputs : List TaskInputConfig)
    {ws : List Worker} :
    List {w // w ∈ ws} → Option {w // w ∈ ws} → List VolumeMount → List InputPair →
      ExceptT TaskError TaskProg (Option {w // w ∈ ws} × List VolumeMount × List InputPair)
  | [], chosenWorker, inputMounts, inputsToStream =>
    pure (chosenWorker, inputMounts, inputsToStream)
  | w :: rest, chosenWorker, inputMounts, inputsToStream => do
    let (mounts, toStream) ← inputsOn step repo inputs w.1
    if mounts.length ≥ inputMounts.length then
      effect (releaseMounts inputMounts)
      chooseLoop step repo inputs rest (some w) mounts toStream
    else
      effect (releaseMounts mounts)
      chooseLoop step repo inputs rest chosenWorker inputMounts inputsToStream

/-- `TaskStep.chooseWorkerWithMostVolumes`. The chosen worker is `none` (Go's nil worker) only
for an empty list. -/
def chooseWorkerWithMostVolumes (step : TaskStep) (repo : SourceRepository)
    (compatibleWorkers : List Worker) (inputs : List TaskInputConfig) :
    ExceptT TaskError TaskProg
      (Option {w // w ∈ compatibleWorkers} × List VolumeMount × List InputPair) :=
  chooseLoop step repo inputs compatibleWorkers.attach none [] []

/-! ### Outputs and image -/

/-- The output loop of `createContainer`: a fresh volume per output, mounted at its
`artifactsPath`; the loop breaks at once on a worker without a volume manager. -/
def createOutputMounts (step : TaskStep) (w : Worker) :
    List TaskOutputConfig → ExceptT TaskError TaskProg (List VolumeMount)
  | [] => pure []
  | output :: rest =>
    if ¬ w.volumeManager then pure []
    else do
      let ourVolume ← remote (Prog.query (.createVolume w step.privileged))
      let mounts ← createOutputMounts step w rest
      pure (⟨ourVolume, artifactsPath output step.artifactsRoot⟩ :: mounts)

/-- `TaskStep.getContainerImage`: check the image resource for versions, get the newest one
into the cache unless it is there already, and return the resource that holds it. The check
resource is released (`defer`) on every return after it was initialised. -/
def getContainerImage (w : Worker) (image : ImageResource) : ExceptT TaskError TaskProg Resource := do
  let checkingResource ← remote (Prog.query (.initCheck w image))
  let body : ExceptT TaskError TaskProg Resource := do
    let versions ← remote (Prog.query (.check checkingResource image.source))
    match versions with
    | [] => throw .imageUnavailable
    | version :: _ =>
      let (getResource, cache) ← remote (Prog.query (.initWithCache w image version))
      let isInitialized ← remote (Prog.query (.isInitialized cache))
      if !isInitialized then do
        remote (Prog.query (.getRun getResource version))
        effect (Prog.query (.initializeCache cache))
        pure getResource
      else pure getResource
  ExceptT.mk (do
    let r ← body.run
    Prog.query (.releaseResource checkingResource)
    pure r)

/-- The image part of `createContainer` (lines 321–341): with an image resource, the fetched
resource and its cache volume as the container's image; otherwise the image named in the
config. -/
def containerImage (step : TaskStep) (w : Worker) (config : TaskConfig)
    (containerSpec : TaskContainerSpec) :
    ExceptT TaskError TaskProg (Option Resource × TaskContainerSpec) :=
  match config.imageResource with
  | some image => do
    let imageResource ← getContainerImage w image
    match ← remote (Prog.query (.cacheVolume imageResource)) with
    | none => throw (.imageGetDidNotProduceVolume step.sourceName)
    | some imageVolume => pure (some imageResource, { containerSpec with imageVolume := imageVolume })
  | none => pure (none, { containerSpec with image := config.image })

/-! ### The rounds -/

theorem length_filter_ne_lt {ws : List Worker} {w : Worker} (hw : w ∈ ws) :
    (ws.filter (· != w)).length < ws.length :=
  List.length_filter_lt_length_iff_exists.2 ⟨w, hw, by simp⟩

/-- `TaskStep.createContainer`. -/
def createContainer (step : TaskStep) (repo : SourceRepository) (config : TaskConfig)
    (compatibleWorkers : List Worker) : ExceptT TaskError TaskProg (Container × List InputPair) := do
  let (chosenWorker, inputMounts, inputsToStream) ←
    chooseWorkerWithMostVolumes step repo compatibleWorkers config.inputs
  let some ⟨chosenWorker, _⟩ := chosenWorker | throw .panic
  let outputMounts ← createOutputMounts step chosenWorker config.outputs
  let (imageResource, containerSpec) ← containerImage step chosenWorker config
    { platform := config.platform, tags := step.tags, privileged := step.privileged,
      inputs := inputMounts, outputs := outputMounts, image := "", imageVolume := none }
  match ← effect (Prog.query (.createContainer chosenWorker containerSpec) :
      TaskProg (Except String Container)) with
  | .error _ =>
    let newCompatibleWorkers := compatibleWorkers.filter (· != chosenWorker)
    if newCompatibleWorkers.length = 0 then throw .allWorkersFailed
    else createContainer step repo config newCompatibleWorkers
  | .ok container => do
    (match imageResource with
      | some r => effect (Prog.query (.releaseResource r))
      | none => pure ())
    effect (releaseMounts inputMounts)
    effect (releaseMounts outputMounts)
    pure (container, inputsToStream)
termination_by compatibleWorkers.length
decreasing_by exact length_filter_ne_lt ‹_›

/-! ### The calls of a round before `CreateContainer` -/

/-- What the functions a round calls before `CreateContainer` have in common: they only make
placement's calls (so never ask a worker for a container), never fail with "all workers failed"
or an interruption, and stop at the first error reply. -/
structure Preparation {α : Type} (p : ExceptT TaskError TaskProg α) : Prop where
  placement : Placement p.run
  raises : Raises (fun e => e ≠ .allWorkersFailed ∧ e ≠ .interrupted) p
  stops : StopsAtError p

theorem Preparation.noCreate {α : Type} {p : ExceptT TaskError TaskProg α} (hp : Preparation p) :
    NoCreate p.run :=
  hp.placement.noCreate

theorem Preparation.bind {α β : Type} {x : ExceptT TaskError TaskProg α}
    {f : α → ExceptT TaskError TaskProg β} (hx : Preparation x) (hf : ∀ a, Preparation (f a)) :
    Preparation (x >>= f) :=
  ⟨Prog.Calls.exceptBind hx.placement fun a => (hf a).placement,
    hx.raises.bind fun a => (hf a).raises, hx.stops.bind fun a => (hf a).stops⟩

theorem preparation_pure {α : Type} (a : α) : Preparation (pure a : ExceptT TaskError TaskProg α) :=
  ⟨trivial, raises_pure a, stopsAtError_pure a⟩

theorem preparation_throw {α : Type} {e : TaskError}
    (he : e ≠ .allWorkersFailed ∧ e ≠ .interrupted) :
    Preparation (throw e : ExceptT TaskError TaskProg α) :=
  ⟨trivial, raises_throw he, stopsAtError_throw e⟩

theorem preparation_remoteCall {α : Type} (q : TaskReq) (k : TaskResp q → Except String α)
    (hq : q.isPlacement = true) (hk : ∀ y, errorReply q y = errorOf (k y)) :
    Preparation (remote (.call q fun y => .ret (k y))) :=
  ⟨Prog.Calls.bind ⟨hq, fun _ => trivial⟩ fun _ => trivial, raises_remote (fun _ => ⟨nofun, nofun⟩) _,
    stopsAtError_remote_call q k fun y _ => hk y⟩

theorem preparation_effect {α : Type} {p : TaskProg α} (hp : Releases p) : Preparation (effect p) :=
  ⟨Prog.Calls.bind hp.placement fun _ => trivial, raises_effect p, hp.stopsAtError⟩

theorem preparation_volumeOn (w : Worker) (source : ArtifactSource) :
    Preparation (remote (source.volumeOn w)) := by
  cases source with
  | taskStep => exact preparation_pure none
  | containerSource _ _ _ h =>
    simp only [ArtifactSource.volumeOn]
    split_ifs
    · exact preparation_remoteCall (.lookupVolume w h) id rfl fun _ => rfl
    · exact preparation_pure none

theorem preparation_inputsOnLoop (step : TaskStep) (repo : SourceRepository) (w : Worker) :
    ∀ inputs mounts inputPairs missing,
      Preparation (inputsOnLoop step repo w inputs mounts inputPairs missing)
  | [], _, _, _ => preparation_pure _
  | input :: rest, mounts, inputPairs, missing => by
    simp only [inputsOnLoop]
    split
    · exact preparation_inputsOnLoop step repo w rest _ _ _
    · refine (preparation_volumeOn w _).bind fun v => ?_
      cases v <;> exact preparation_inputsOnLoop step repo w rest _ _ _

theorem preparation_inputsOn (step : TaskStep) (repo : SourceRepository)
    (inputs : List TaskInputConfig) (w : Worker) : Preparation (inputsOn step repo inputs w) := by
  refine (preparation_inputsOnLoop step repo w inputs [] [] []).bind fun r => ?_
  obtain ⟨mounts, inputPairs, missing⟩ := r
  dsimp only
  split_ifs
  · exact preparation_throw ⟨nofun, nofun⟩
  · exact preparation_pure _

theorem releases_releaseMounts : ∀ mounts : List VolumeMount, Releases (releaseMounts mounts)
  | [] => trivial
  | _ :: rest => ⟨⟨rfl, fun _ => rfl⟩, fun _ => releases_releaseMounts rest⟩

/-- `releaseMounts` releases the volume of each mount, in order. -/
theorem path_releaseMounts {u : Unit} :
    ∀ {mounts : List VolumeMount} {t : List TaskEvent},
      Prog.Path (releaseMounts mounts) t u ↔ t = mounts.map fun m => ⟨.releaseVolume m.volume, ()⟩
  | [], t => by simp [releaseMounts]
  | m :: rest, t => by
    rw [releaseMounts, Prog.bind_eq, Prog.query_bind, Prog.path_call]
    constructor
    · rintro ⟨⟨⟩, t', rfl, h⟩
      rw [path_releaseMounts.1 h]
      rfl
    · rintro rfl
      exact ⟨(), _, rfl, path_releaseMounts.2 rfl⟩

theorem preparation_chooseLoop (step : TaskStep) (repo : SourceRepository)
    (inputs : List TaskInputConfig) {ws : List Worker} :
    ∀ (l : List {w // w ∈ ws}) chosen inputMounts inputsToStream,
      Preparation (chooseLoop step repo inputs l chosen inputMounts inputsToStream)
  | [], _, _, _ => preparation_pure _
  | w :: rest, chosen, inputMounts, inputsToStream => by
    refine (preparation_inputsOn step repo inputs w.1).bind fun r => ?_
    obtain ⟨mounts, toStream⟩ := r
    dsimp only
    split_ifs <;>
      exact (preparation_effect (releases_releaseMounts _)).bind fun _ =>
        preparation_chooseLoop step repo inputs rest _ _ _

theorem preparation_createOutputMounts (step : TaskStep) (w : Worker) :
    ∀ outputs, Preparation (createOutputMounts step w outputs)
  | [] => preparation_pure _
  | output :: rest => by
    by_cases hvm : w.volumeManager
    · rw [createOutputMounts, if_neg (by simp [hvm])]
      refine (preparation_remoteCall (.createVolume w step.privileged) id rfl fun _ => rfl).bind
        fun _ => ?_
      exact (preparation_createOutputMounts step w rest).bind fun _ => preparation_pure _
    · rw [createOutputMounts, if_pos (by simp [hvm])]
      exact preparation_pure _

/-- A run of Go's `defer`: a run of the body, then one of the deferred call, and the body's
result. -/
theorem path_deferred {α : Type} {body : ExceptT TaskError TaskProg α} {after : TaskProg Unit}
    {t : List TaskEvent} {r : Except TaskError α}
    (h : Prog.Path (body.run.bind fun r => after.bind fun _ => .ret r) t r) :
    ∃ t₁ t₂, t = t₁ ++ t₂ ∧ Prog.Path body.run t₁ r ∧ Prog.Path after t₂ () := by
  obtain ⟨t₁, t₂, a, rfl, h₁, h₂⟩ := Prog.path_bind.1 h
  obtain ⟨t₃, t₄, u, rfl, h₃, h₄⟩ := Prog.path_bind.1 h₂
  obtain ⟨rfl, rfl⟩ := Prog.path_ret.1 h₄
  exact ⟨t₁, t₃, by simp, h₁, h₃⟩

/-- Go's `defer`: a body, then a release whatever the body returned. -/
theorem preparation_deferred {α : Type} {body : ExceptT TaskError TaskProg α}
    {after : TaskProg Unit} (hb : Preparation body) (ha : Releases after) :
    Preparation (ExceptT.mk (body.run.bind fun r => after.bind fun _ => .ret r)) := by
  refine ⟨Prog.Calls.bind hb.placement fun _ => Prog.Calls.bind ha.placement fun _ => trivial,
    fun t e h => ?_, fun t r h t₁ q y t₂ msg ht hq hy => ?_⟩
  · obtain ⟨_, _, -, h₁, -⟩ := path_deferred h
    exact hb.raises _ _ h₁
  obtain ⟨ta, tb, rfl, h₁, h₂⟩ := path_deferred h
  have hquiet : (⟨q, y⟩ : TaskEvent) ∉ tb := fun hm => by
    simp [((Prog.Calls.path ha h₂) _ hm).2 y] at hy
  rcases List.append_eq_append_iff.1 ht with ⟨a', rfl, hb'⟩ | ⟨c, rfl, hc⟩
  · exact (hquiet (by simp [hb'])).elim
  rcases List.cons_eq_append_iff.1 hc with ⟨rfl, hb'⟩ | ⟨c', rfl, rfl⟩
  · exact (hquiet (by simp [hb'])).elim
  obtain ⟨hr, hcalls⟩ := hb.stops _ _ h₁ t₁ q y c' msg rfl hq hy
  exact ⟨hr, by simp [hcalls, ha.noCreate.path h₂]⟩

theorem preparation_getContainerImage (w : Worker) (image : ImageResource) :
    Preparation (getContainerImage w image) := by
  refine (preparation_remoteCall (.initCheck w image) id rfl fun _ => rfl).bind fun checking => ?_
  have hbody : Preparation (do
      let versions ← remote (Prog.query (.check checking image.source))
      match versions with
      | [] => throw .imageUnavailable
      | version :: _ =>
        let (getResource, cache) ← remote (Prog.query (.initWithCache w image version))
        let isInitialized ← remote (Prog.query (.isInitialized cache))
        if !isInitialized then do
          remote (Prog.query (.getRun getResource version))
          effect (Prog.query (.initializeCache cache))
          pure getResource
        else pure getResource : ExceptT TaskError TaskProg Resource) := by
    refine (preparation_remoteCall (.check checking image.source) id rfl fun _ => rfl).bind
      fun versions => ?_
    cases versions with
    | nil => exact preparation_throw ⟨nofun, nofun⟩
    | cons version _ =>
      refine (preparation_remoteCall (.initWithCache w image version) id rfl fun _ => rfl).bind
        fun ⟨getResource, cache⟩ => ?_
      refine (preparation_remoteCall (.isInitialized cache) id rfl fun _ => rfl).bind
        fun isInit => ?_
      cases isInit
      · exact (preparation_remoteCall (.getRun getResource version) id rfl fun _ => rfl).bind
          fun _ => (preparation_effect (releases_query (.initializeCache cache) rfl fun _ => rfl)).bind
            fun _ => preparation_pure _
      · exact preparation_pure _
  exact preparation_deferred hbody (releases_query (.releaseResource checking) rfl fun _ => rfl)

theorem preparation_containerImage (step : TaskStep) (w : Worker) (config : TaskConfig)
    (spec : TaskContainerSpec) : Preparation (containerImage step w config spec) := by
  unfold containerImage
  split
  · refine (preparation_getContainerImage w _).bind fun r => ?_
    refine (preparation_remoteCall (.cacheVolume r) id rfl fun _ => rfl).bind fun v => ?_
    cases v
    · exact preparation_throw ⟨nofun, nofun⟩
    · exact preparation_pure _
  · exact preparation_pure _

open Prog in
/-- The image part of a round sets only the image of the spec. -/
theorem containerImage_mounts {step : TaskStep} {w : Worker} {config : TaskConfig}
    {spec : TaskContainerSpec} {t : List TaskEvent} {res : Option Resource}
    {spec' : TaskContainerSpec} (h : Path (containerImage step w config spec).run t (.ok (res, spec'))) :
    spec'.inputs = spec.inputs ∧ spec'.outputs = spec.outputs := by
  unfold containerImage at h
  split at h
  · rcases path_exceptBind.1 h with ⟨e, -, ⟨⟩⟩ | ⟨t₁, t₂, r, rfl, -, h₂⟩
    rcases path_exceptBind.1 h₂ with ⟨e, -, ⟨⟩⟩ | ⟨t₃, t₄, v, rfl, -, h₄⟩
    cases v with
    | none => obtain ⟨-, ⟨⟩⟩ := path_throw.1 h₄
    | some v => obtain ⟨-, ⟨⟩⟩ := path_exceptPure.1 h₄; exact ⟨rfl, rfl⟩
  · obtain ⟨-, ⟨⟩⟩ := path_exceptPure.1 h; exact ⟨rfl, rfl⟩

theorem preparation_chooseWorkerWithMostVolumes (step : TaskStep) (repo : SourceRepository)
    (ws : List Worker) (inputs : List TaskInputConfig) :
    Preparation (chooseWorkerWithMostVolumes step repo ws inputs) :=
  preparation_chooseLoop step repo inputs _ _ _ _

/-! ### The shape of a round -/

/-- The spec of the container a round asks for, before its image is set. -/
def baseSpec (step : TaskStep) (config : TaskConfig) (inputMounts outputMounts : List VolumeMount) :
    TaskContainerSpec :=
  { platform := config.platform, tags := step.tags, privileged := step.privileged,
    inputs := inputMounts, outputs := outputMounts, image := "", imageVolume := none }

open Prog in
/-- **A round of `createContainer`.** A run either fails before any worker is asked for the
container, with an error other than "all workers failed" or an interruption, or it chooses a
worker `w` of the list with its input mounts, creates the output volumes and sets the image,
and asks `w`, and only `w`, for the container with the resulting spec. When `w` creates it,
the image resource, the input mounts and the output mounts are released, in this order, and
the container is returned; when `w` refuses, the run fails
with "all workers failed" if `w` was the only worker left, and is otherwise a run of
`createContainer` on the other workers. -/
theorem createContainer_round {step : TaskStep} {repo : SourceRepository} {config : TaskConfig}
    {ws : List Worker} {t : List TaskEvent} {r : Except TaskError (Container × List InputPair)}
    (h : Path (createContainer step repo config ws).run t r) :
    (createContainerCalls t = [] ∧ ∃ e, r = .error e ∧ e ≠ .allWorkersFailed ∧ e ≠ .interrupted) ∨
    ∃ (w : Worker) (hw : w ∈ ws) (inputMounts : List VolumeMount) (inputsToStream : List InputPair)
      (outputMounts : List VolumeMount) (imageResource : Option Resource) (spec : TaskContainerSpec)
      (x : Except String Container) (t₁ t₂ t₃ t₄ : List TaskEvent),
      t = t₁ ++ t₂ ++ t₃ ++ ⟨.createContainer w spec, x⟩ :: t₄ ∧
      createContainerCalls t = (w, spec, x) :: createContainerCalls t₄ ∧
      Path (chooseWorkerWithMostVolumes step repo ws config.inputs).run t₁
        (.ok (some ⟨w, hw⟩, inputMounts, inputsToStream)) ∧
      Path (createOutputMounts step w config.outputs).run t₂ (.ok outputMounts) ∧
      Path (containerImage step w config (baseSpec step config inputMounts outputMounts)).run t₃
        (.ok (imageResource, spec)) ∧
      (∀ c, x = .ok c → createContainerCalls t₄ = [] ∧ r = .ok (c, inputsToStream)) ∧
      (∀ e, x = .error e →
        (ws.filter (· != w) = [] ∧ t₄ = [] ∧ r = .error .allWorkersFailed) ∨
        (ws.filter (· != w) ≠ [] ∧
          Path (createContainer step repo config (ws.filter (· != w))).run t₄ r)) ∧
      (∀ c, x = .ok c → t₄ = imageResource.toList.map (fun res => ⟨.releaseResource res, ()⟩) ++
        (inputMounts ++ outputMounts).map fun m => ⟨.releaseVolume m.volume, ()⟩) := by
  rw [createContainer] at h
  have hchoose := preparation_chooseWorkerWithMostVolumes step repo ws config.inputs
  rcases path_exceptBind.1 h with ⟨e, he, rfl⟩ | ⟨t₁, ta, ⟨chosen, im, its⟩, rfl, h₁, ha⟩
  · exact .inl ⟨hchoose.noCreate.path he, e, rfl, hchoose.raises _ _ he⟩
  have hc₁ := hchoose.noCreate.path h₁
  rcases chosen with _ | ⟨w, hw⟩
  · obtain ⟨rfl, rfl⟩ := path_throw.1 ha
    exact .inl ⟨by simpa using hc₁, _, rfl, nofun, nofun⟩
  have houtputs := preparation_createOutputMounts step w config.outputs
  rcases path_exceptBind.1 ha with ⟨e, he, rfl⟩ | ⟨t₂, tb, om, rfl, h₂, hb⟩
  · exact .inl ⟨by simp [hc₁, houtputs.noCreate.path he], e, rfl, houtputs.raises _ _ he⟩
  have hc₂ := houtputs.noCreate.path h₂
  have himage := preparation_containerImage step w config (baseSpec step config im om)
  rcases path_exceptBind.1 hb with ⟨e, he, rfl⟩ | ⟨t₃, tc, ⟨res, spec⟩, rfl, h₃, hc⟩
  · exact .inl ⟨by simp [hc₁, hc₂, himage.noCreate.path he], e, rfl, himage.raises _ _ he⟩
  have hc₃ := himage.noCreate.path h₃
  obtain ⟨t₄, t₅, x, rfl, h₄, h₅⟩ := path_effect_bind.1 hc
  obtain ⟨rfl, rfl⟩ := path_query.1 h₄
  -- after the container: the image resource, then the input and the output mounts, released
  have htail : ∀ c, x = .ok c → r = .ok (c, its) ∧
      t₅ = res.toList.map (fun r => ⟨.releaseResource r, ()⟩) ++
        (im ++ om).map fun m => ⟨.releaseVolume m.volume, ()⟩ := by
    rintro c rfl
    rcases path_exceptBind.1 h₅ with ⟨e, he, rfl⟩ | ⟨t₆, t₇, _, rfl, h₆, h₇⟩
    · cases res <;> simp [path_effect] at he
    obtain ⟨t₈, t₉, _, rfl, h₈, h₉⟩ := path_effect_bind.1 h₇
    obtain ⟨t₁₀, t₁₁, _, rfl, h₁₀, h₁₁⟩ := path_effect_bind.1 h₉
    obtain ⟨rfl, rfl⟩ := path_exceptPure.1 h₁₁
    have h₆' : t₆ = res.toList.map fun r => ⟨.releaseResource r, ()⟩ := by
      cases res with
      | none => exact (path_exceptPure.1 h₆).1
      | some r =>
        obtain ⟨⟨⟩, h, -⟩ := path_effect.1 h₆
        exact path_query.1 h
    rw [h₆', path_releaseMounts.1 h₈, path_releaseMounts.1 h₁₀, List.map_append, List.append_nil]
    exact ⟨rfl, rfl⟩
  refine .inr ⟨w, hw, im, its, om, res, spec, x, t₁, t₂, t₃, t₅, by simp,
    by simp [hc₁, hc₂, hc₃], h₁, h₂, h₃, fun c hc => ⟨?_, (htail c hc).1⟩, ?_,
    fun c hc => (htail c hc).2⟩
  · rw [(htail c hc).2]
    refine createContainerCalls_eq_nil fun e he => ?_
    simp only [List.mem_append, List.mem_map] at he
    rcases he with ⟨_, -, rfl⟩ | ⟨_, -, rfl⟩ <;> rfl
  · rintro e rfl
    by_cases hnil : ws.filter (· != w) = []
    · rw [if_pos (by simp [hnil])] at h₅
      exact .inl ⟨hnil, path_throw.1 h₅⟩
    · rw [if_neg (by simpa using hnil)] at h₅
      exact .inr ⟨hnil, h₅⟩

/-! ### The rounds as a whole -/

/-- The `CreateContainer` calls of a run of `createContainer` on `ws`, with the run's result:
the rounds of the recursion, each of which asks one worker of the list still left. -/
inductive Attempts :
    List Worker → List (Worker × TaskContainerSpec × Except String Container) →
      Except TaskError (Container × List InputPair) → Prop
  /-- The run fails before a worker is asked. -/
  | stop {ws : List Worker} {e : TaskError} (he : e ≠ .allWorkersFailed) : Attempts ws [] (.error e)
  /-- The worker asked creates the container, which is returned. -/
  | created {ws : List Worker} {w : Worker} {spec : TaskContainerSpec} {c : Container}
      {its : List InputPair} (hw : w ∈ ws) : Attempts ws [(w, spec, .ok c)] (.ok (c, its))
  /-- The last worker left refuses. -/
  | exhausted {ws : List Worker} {w : Worker} {spec : TaskContainerSpec} {msg : String}
      (hw : w ∈ ws) (hnil : ws.filter (· != w) = []) :
      Attempts ws [(w, spec, .error msg)] (.error .allWorkersFailed)
  /-- A worker refuses and the others are tried. -/
  | retry {ws : List Worker} {w : Worker} {spec : TaskContainerSpec} {msg : String}
      {rest : List (Worker × TaskContainerSpec × Except String Container)}
      {r : Except TaskError (Container × List InputPair)} (hw : w ∈ ws)
      (hne : ws.filter (· != w) ≠ []) (h : Attempts (ws.filter (· != w)) rest r) :
      Attempts ws ((w, spec, .error msg) :: rest) r

/-- **The rounds of `createContainer`.** Every run is described by `Attempts`.

**Proof sketch.** Strong induction on the length of the list, one round at a time
(`createContainer_round`); a retry runs on the list without the refusing worker, which is
shorter. -/
theorem createContainer_attempts (step : TaskStep) (repo : SourceRepository) (config : TaskConfig) :
    ∀ (ws : List Worker) {t : List TaskEvent} {r : Except TaskError (Container × List InputPair)},
      Prog.Path (createContainer step repo config ws).run t r →
        Attempts ws (createContainerCalls t) r
  | ws, t, r, h => by
    rcases createContainer_round h with ⟨hc, e, rfl, he⟩ |
      ⟨w, hw, _, _, _, _, spec, x, _, _, _, t₄, _, hc, _, _, _, hok, herr, -⟩
    · rw [hc]; exact .stop he.1
    rw [hc]
    rcases x with msg | c
    · rcases herr msg rfl with ⟨hnil, rfl, rfl⟩ | ⟨hne, h₄⟩
      · exact .exhausted hw hnil
      · exact .retry hw hne (createContainer_attempts step repo config _ h₄)
    · obtain ⟨h₄, rfl⟩ := hok c rfl
      rw [h₄]; exact .created hw
termination_by ws => ws.length
decreasing_by exact length_filter_ne_lt hw

/-- `createContainer` never fails with an interruption: it does not watch the signals. -/
theorem createContainer_ne_interrupted (step : TaskStep) (repo : SourceRepository)
    (config : TaskConfig) :
    ∀ (ws : List Worker) {t : List TaskEvent} {e : TaskError},
      Prog.Path (createContainer step repo config ws).run t (.error e) → e ≠ .interrupted
  | ws, t, e, h => by
    rcases createContainer_round h with ⟨-, e', ⟨⟩, -, he⟩ |
      ⟨w, hw, _, _, _, _, _, x, _, _, _, t₄, _, _, _, _, _, hok, herr, -⟩
    · exact he
    rcases x with msg | c
    · rcases herr msg rfl with ⟨-, -, ⟨⟩⟩ | ⟨-, h₄⟩
      · exact nofun
      · exact createContainer_ne_interrupted step repo config _ h₄
    · cases (hok c rfl).2
termination_by ws => ws.length
decreasing_by exact length_filter_ne_lt hw

namespace Attempts

variable {ws : List Worker} {l : List (Worker × TaskContainerSpec × Except String Container)}
  {r : Except TaskError (Container × List InputPair)}

/-- Every worker asked is one of the list, and none is asked twice. -/
theorem nodup (h : Attempts ws l r) : (∀ a ∈ l, a.1 ∈ ws) ∧ (l.map (·.1)).Nodup := by
  induction h with
  | stop => exact ⟨nofun, List.nodup_nil⟩
  | created hw | exhausted hw => exact ⟨List.forall_mem_singleton.2 hw, List.nodup_singleton _⟩
  | @retry ws w spec msg rest r hw _ _ ih =>
    have hrest : ∀ a ∈ rest, a.1 ∈ ws ∧ a.1 ≠ w := fun a ha => by
      simpa using ih.1 a ha
    refine ⟨List.forall_mem_cons.2 ⟨hw, fun a ha => (hrest a ha).1⟩, List.nodup_cons.2 ⟨?_, ih.2⟩⟩
    intro hm
    obtain ⟨a, ha, rfl⟩ := List.mem_map.1 hm
    exact (hrest a ha).2 rfl

end Attempts

/-- Every call `createContainer` makes is one of placement's or a `CreateContainer`. -/
theorem placementOrCreate_createContainer (step : TaskStep) (repo : SourceRepository)
    (config : TaskConfig) :
    ∀ ws : List Worker, Prog.Calls (fun q => q.isPlacement = true ∨ q.isCreateContainer = true)
      (createContainer step repo config ws).run
  | ws => by
    have hprep : ∀ {α : Type} {p : ExceptT TaskError TaskProg α}, Preparation p →
        Prog.Calls (fun q => q.isPlacement = true ∨ q.isCreateContainer = true) p.run :=
      fun hp => Prog.Calls.mono (fun _ => Or.inl) hp.placement
    rw [createContainer]
    refine Prog.Calls.exceptBind (hprep (preparation_chooseWorkerWithMostVolumes step repo ws
      config.inputs)) fun ⟨chosen, im, its⟩ => ?_
    rcases chosen with _ | ⟨w, hw⟩
    · trivial
    refine Prog.Calls.exceptBind (hprep (preparation_createOutputMounts step w config.outputs))
      fun om => ?_
    refine Prog.Calls.exceptBind (hprep (preparation_containerImage step w config _))
      fun ⟨res, spec⟩ => ?_
    refine Prog.Calls.exceptBind ⟨.inr rfl, fun _ => trivial⟩ fun x => ?_
    rcases x with msg | c
    · dsimp only
      split_ifs
      · trivial
      · exact placementOrCreate_createContainer step repo config _
    · have hres : Preparation (match res with
          | some r => effect (Prog.query (.releaseResource r))
          | none => pure () : ExceptT TaskError TaskProg Unit) := by
        cases res with
        | none => exact preparation_pure ()
        | some r => exact preparation_effect (releases_query (.releaseResource r) rfl fun _ => rfl)
      exact hprep (hres.bind fun _ => (preparation_effect (releases_releaseMounts _)).bind fun _ =>
        (preparation_effect (releases_releaseMounts _)).bind fun _ => preparation_pure _)
termination_by ws => ws.length
decreasing_by exact length_filter_ne_lt hw

end Atc.Exec
