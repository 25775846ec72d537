import Atc.Exec.CreateContainer

/-!
# Volume references of container placement

`LookupVolume` and `CreateVolume` hand the step a reference to a volume, which the step gives
back with `Release(0)`. `createContainer` releases the references of a worker that is not
chosen, and, once a container is created, those of the chosen worker; a round that ends
otherwise returns without releasing what the round holds.

## Main definitions

* `Atc.Exec.acquiredVolumes`, `Atc.Exec.releasedVolumes` — the references a trace takes and
  gives back.

## Main results

* `Atc.Exec.volumes_chooseLoop` — the choice of a worker gives back every reference it took
  but the chosen worker's mounts.
* `Atc.Exec.createContainer_ok_keeps_refused_volumes` — a placement that returns a container
  keeps exactly the references of the mounts of the containers refused.
* `Atc.Exec.createContainer_leaks_volume_on_refusal` — a run on one worker that refuses the
  container keeps the reference to the input volume it looked up.
-/

namespace Atc.Exec

/-- The volume references a trace takes: the volumes `LookupVolume` finds and `CreateVolume`
creates. -/
def acquiredVolumes : List TaskEvent → List Volume
  | [] => []
  | ⟨.lookupVolume .., .ok (some v)⟩ :: t => v :: acquiredVolumes t
  | ⟨.createVolume .., .ok v⟩ :: t => v :: acquiredVolumes t
  | _ :: t => acquiredVolumes t

/-- The volume references a trace gives back with `Release`. -/
def releasedVolumes : List TaskEvent → List Volume
  | [] => []
  | ⟨.releaseVolume v, _⟩ :: t => v :: releasedVolumes t
  | _ :: t => releasedVolumes t

/-! ### The references of a trace -/

@[simp] theorem acquiredVolumes_nil : acquiredVolumes [] = [] := rfl

@[simp] theorem releasedVolumes_nil : releasedVolumes [] = [] := rfl

theorem acquiredVolumes_cons (e : TaskEvent) (t : List TaskEvent) :
    acquiredVolumes (e :: t) = acquiredVolumes [e] ++ acquiredVolumes t := by
  rcases e with ⟨q, x⟩
  cases q <;> try rfl
  · rcases x with _ | ⟨_ | _⟩ <;> rfl
  · cases x <;> rfl

theorem releasedVolumes_cons (e : TaskEvent) (t : List TaskEvent) :
    releasedVolumes (e :: t) = releasedVolumes [e] ++ releasedVolumes t := by
  rcases e with ⟨q, x⟩
  cases q <;> rfl

theorem acquiredVolumes_append (t₁ t₂ : List TaskEvent) :
    acquiredVolumes (t₁ ++ t₂) = acquiredVolumes t₁ ++ acquiredVolumes t₂ := by
  induction t₁ with
  | nil => rfl
  | cons e t ih =>
    rw [List.cons_append, acquiredVolumes_cons, ih, acquiredVolumes_cons e t, List.append_assoc]

theorem releasedVolumes_append (t₁ t₂ : List TaskEvent) :
    releasedVolumes (t₁ ++ t₂) = releasedVolumes t₁ ++ releasedVolumes t₂ := by
  induction t₁ with
  | nil => rfl
  | cons e t ih =>
    rw [List.cons_append, releasedVolumes_cons, ih, releasedVolumes_cons e t, List.append_assoc]

/-- The calls that take or give back a volume reference. -/
def TaskReq.isVolume : TaskReq → Bool
  | .lookupVolume .. | .createVolume .. | .releaseVolume _ => true
  | _ => false

/-- A program that takes and gives back no volume reference. -/
abbrev NoVolume {α : Type} (p : TaskProg α) : Prop :=
  Prog.Calls (fun q => q.isVolume = false) p

theorem volumes_eq_nil {t : List TaskEvent} (h : ∀ e ∈ t, e.1.isVolume = false) :
    acquiredVolumes t = [] ∧ releasedVolumes t = [] := by
  induction t with
  | nil => exact ⟨rfl, rfl⟩
  | cons e t ih =>
    obtain ⟨h₁, h₂⟩ := ih fun e' he' => h e' (List.mem_cons_of_mem _ he')
    have he := h e (List.mem_cons_self _ _)
    rw [acquiredVolumes_cons, releasedVolumes_cons, h₁, h₂]
    rcases e with ⟨q, x⟩
    cases q <;> first | exact ⟨rfl, rfl⟩ | cases he

/-- The releases `releaseMounts` makes give back the mounts' volumes and take nothing. -/
theorem acquiredVolumes_releases :
    ∀ mounts : List VolumeMount,
      acquiredVolumes (mounts.map fun m => ⟨.releaseVolume m.volume, ()⟩) = []
  | [] => rfl
  | _ :: rest => acquiredVolumes_releases rest

theorem releasedVolumes_releases :
    ∀ mounts : List VolumeMount,
      releasedVolumes (mounts.map fun m => ⟨.releaseVolume m.volume, ()⟩) = mounts.map (·.volume)
  | [] => rfl
  | m :: rest => congrArg (m.volume :: ·) (releasedVolumes_releases rest)

/-- Releasing the image resource takes and gives back no volume reference. -/
theorem volumes_resourceReleases (res : Option Resource) :
    acquiredVolumes (res.toList.map fun r => ⟨.releaseResource r, ()⟩) = [] ∧
      releasedVolumes (res.toList.map fun r => ⟨.releaseResource r, ()⟩) = [] := by
  cases res <;> exact ⟨rfl, rfl⟩

/-! ### The references of the parts of a round -/

section Parts

open Prog

variable {step : TaskStep} {repo : SourceRepository} {w : Worker} {t : List TaskEvent}

theorem volumes_volumeOn {source : ArtifactSource} {o : Option Volume}
    (h : Path (remote (source.volumeOn w)).run t (.ok o)) :
    acquiredVolumes t = o.toList ∧ releasedVolumes t = [] := by
  obtain ⟨x, hx, hxo⟩ := path_remote.1 h
  cases source with
  | taskStep =>
    obtain ⟨rfl, rfl⟩ := path_ret.1 hx
    cases hxo
    exact ⟨rfl, rfl⟩
  | containerSource _ _ _ handle =>
    simp only [ArtifactSource.volumeOn] at hx
    split_ifs at hx
    · obtain rfl := path_query.1 hx
      rcases x with _ | o'
      · cases hxo
      · cases hxo
        cases o <;> exact ⟨rfl, rfl⟩
    · obtain ⟨rfl, rfl⟩ := path_ret.1 hx
      cases hxo
      exact ⟨rfl, rfl⟩

/-- `inputsOn`'s loop takes a reference to each volume it mounts, and gives back none. -/
theorem volumes_inputsOnLoop (step : TaskStep) (repo : SourceRepository) (w : Worker) :
    ∀ (inputs : List TaskInputConfig) (mounts : List VolumeMount) (pairs : List InputPair)
      (missing : List String) {t : List TaskEvent} {mounts' pairs' missing'},
      Path (inputsOnLoop step repo w inputs mounts pairs missing).run t
        (.ok (mounts', pairs', missing')) →
      ∃ new, mounts' = mounts ++ new ∧ acquiredVolumes t = new.map (·.volume) ∧
        releasedVolumes t = []
  | [], _, _, _, _, _, _, _, h => by
    obtain ⟨rfl, h'⟩ := path_exceptPure.1 h
    cases h'
    exact ⟨[], (List.append_nil _).symm, rfl, rfl⟩
  | input :: rest, mounts, pairs, missing, t, _, _, _, h => by
    rw [inputsOnLoop] at h
    split at h
    · exact volumes_inputsOnLoop step repo w rest _ _ _ h
    rcases path_exceptBind.1 h with ⟨e, -, ⟨⟩⟩ | ⟨t₁, t₂, o, rfl, h₁, h₂⟩
    obtain ⟨ha₁, hr₁⟩ := volumes_volumeOn h₁
    cases o with
    | some v =>
      obtain ⟨new, rfl, ha₂, hr₂⟩ := volumes_inputsOnLoop step repo w rest _ _ _ h₂
      exact ⟨⟨v, inputDestination step input⟩ :: new, by simp,
        by simp [acquiredVolumes_append, ha₁, ha₂],
        by simp [releasedVolumes_append, hr₁, hr₂]⟩
    | none =>
      obtain ⟨new, rfl, ha₂, hr₂⟩ := volumes_inputsOnLoop step repo w rest _ _ _ h₂
      exact ⟨new, rfl, by simp [acquiredVolumes_append, ha₁, ha₂],
        by simp [releasedVolumes_append, hr₁, hr₂]⟩

theorem volumes_inputsOn {inputs : List TaskInputConfig} {mounts : List VolumeMount}
    {pairs : List InputPair} (h : Path (inputsOn step repo inputs w).run t (.ok (mounts, pairs))) :
    acquiredVolumes t = mounts.map (·.volume) ∧ releasedVolumes t = [] := by
  rcases path_exceptBind.1 h with ⟨e, -, ⟨⟩⟩ | ⟨t₁, t₂, ⟨m, p, missing⟩, rfl, h₁, h₂⟩
  obtain ⟨new, rfl, ha, hr⟩ := volumes_inputsOnLoop step repo w inputs [] [] [] h₁
  dsimp only at h₂
  split_ifs at h₂
  · obtain ⟨-, ⟨⟩⟩ := path_throw.1 h₂
  · obtain ⟨rfl, h'⟩ := path_exceptPure.1 h₂
    cases h'
    simp [acquiredVolumes_append, releasedVolumes_append, ha, hr]

/-- **The references of the choice of a worker.** What `chooseWorkerWithMostVolumes`' loop
takes, with the mounts it held when it started, is what it gives back with the mounts it holds
at the end.

**Proof sketch.** Induction on the workers. Each worker's mounts are taken by `inputsOn`; the
loop then gives back either the mounts it held or the worker's own, and holds the others. -/
theorem volumes_chooseLoop (step : TaskStep) (repo : SourceRepository)
    (inputs : List TaskInputConfig) {ws : List Worker} :
    ∀ (l : List {w // w ∈ ws}) chosen (inputMounts : List VolumeMount) inputsToStream
      {t : List TaskEvent} {chosen' inputMounts' inputsToStream'},
      Path (chooseLoop step repo inputs l chosen inputMounts inputsToStream).run t
        (.ok (chosen', inputMounts', inputsToStream')) →
      (acquiredVolumes t ++ inputMounts.map (·.volume)).Perm
        (releasedVolumes t ++ inputMounts'.map (·.volume))
  | [], _, _, _, _, _, _, _, h => by
    obtain ⟨rfl, h'⟩ := path_exceptPure.1 h
    cases h'
    exact List.Perm.refl _
  | w :: rest, chosen, im, its, t, _, _, _, h => by
    rw [chooseLoop] at h
    rcases path_exceptBind.1 h with ⟨e, -, ⟨⟩⟩ | ⟨t₁, t₂, ⟨mounts, toStream⟩, rfl, h₁, h₂⟩
    obtain ⟨ha₁, hr₁⟩ := volumes_inputsOn h₁
    dsimp only at h₂
    split_ifs at h₂ <;>
    · obtain ⟨t₃, t₄, _, rfl, h₃, h₄⟩ := path_effect_bind.1 h₂
      have ih := List.perm_iff_count.1 (volumes_chooseLoop step repo inputs rest _ _ _ h₄)
      rw [path_releaseMounts.1 h₃] at *
      refine List.perm_iff_count.2 fun a => ?_
      have := ih a
      simp only [acquiredVolumes_append, releasedVolumes_append, ha₁, hr₁,
        acquiredVolumes_releases, releasedVolumes_releases, List.count_append,
        List.count_nil] at this ⊢
      omega

theorem volumes_createOutputMounts (step : TaskStep) (w : Worker) :
    ∀ (outputs : List TaskOutputConfig) {t : List TaskEvent} {mounts : List VolumeMount},
      Path (createOutputMounts step w outputs).run t (.ok mounts) →
      acquiredVolumes t = mounts.map (·.volume) ∧ releasedVolumes t = []
  | [], _, _, h => by
    obtain ⟨rfl, h'⟩ := path_exceptPure.1 h
    cases h'
    exact ⟨rfl, rfl⟩
  | output :: rest, t, mounts, h => by
    rw [createOutputMounts] at h
    split_ifs at h
    swap
    · obtain ⟨rfl, h'⟩ := path_exceptPure.1 h
      cases h'
      exact ⟨rfl, rfl⟩
    rcases path_exceptBind.1 h with ⟨e, -, ⟨⟩⟩ | ⟨t₁, t₂, v, rfl, h₁, h₂⟩
    obtain ⟨x, hx, hxv⟩ := path_remote.1 h₁
    obtain rfl := path_query.1 hx
    rcases x with _ | v'
    · cases hxv
    cases hxv
    rcases path_exceptBind.1 h₂ with ⟨e, -, ⟨⟩⟩ | ⟨t₃, t₄, ms, rfl, h₃, h₄⟩
    obtain ⟨rfl, h'⟩ := path_exceptPure.1 h₄
    cases h'
    obtain ⟨ha, hr⟩ := volumes_createOutputMounts step w rest h₃
    rw [acquiredVolumes_append, releasedVolumes_append, acquiredVolumes_append,
      releasedVolumes_append, ha, hr, acquiredVolumes_nil, releasedVolumes_nil, List.append_nil]
    exact ⟨rfl, rfl⟩

/-- Fetching the image takes and gives back no volume reference. -/
theorem noVolume_getContainerImage (w : Worker) (image : ImageResource) :
    NoVolume (getContainerImage w image).run := by
  refine Calls.exceptBind (Calls.bind ⟨rfl, fun _ => trivial⟩ fun _ => trivial) fun checking => ?_
  have hbody : NoVolume (do
      let versions ← remote (Prog.query (.check checking image.source))
      match versions with
      | [] => throw .imageUnavailable
      | version :: _ =>
        let (getResource, cache) ← remote (Prog.query (.initWithCache w image version))
        let isInitialized ← remote (Prog.query (.isInitialized cache))
        if !isInitialized then do
          remote (Prog.query (.getRun getResource version))
          effect (Prog.query (.initializeCache cache))
          pure getResource
        else pure getResource : ExceptT TaskError TaskProg Resource).run := by
    refine Calls.exceptBind (Calls.bind ⟨rfl, fun _ => trivial⟩ fun _ => trivial)
      fun versions => ?_
    cases versions with
    | nil => trivial
    | cons version _ =>
      refine Calls.exceptBind (Calls.bind ⟨rfl, fun _ => trivial⟩ fun _ => trivial)
        fun ⟨getResource, cache⟩ => ?_
      refine Calls.exceptBind (Calls.bind ⟨rfl, fun _ => trivial⟩ fun _ => trivial)
        fun isInit => ?_
      cases isInit
      · exact Calls.exceptBind (Calls.bind ⟨rfl, fun _ => trivial⟩ fun _ => trivial) fun _ =>
          Calls.exceptBind (Calls.bind ⟨rfl, fun _ => trivial⟩ fun _ => trivial) fun _ => trivial
      · trivial
  exact Calls.bind hbody fun _ => Calls.bind ⟨rfl, fun _ => trivial⟩ fun _ => trivial

theorem noVolume_containerImage (step : TaskStep) (w : Worker) (config : TaskConfig)
    (spec : TaskContainerSpec) : NoVolume (containerImage step w config spec).run := by
  unfold containerImage
  split
  · refine Calls.exceptBind (noVolume_getContainerImage w _) fun r => ?_
    refine Calls.exceptBind (Calls.bind ⟨rfl, fun _ => trivial⟩ fun _ => trivial) fun v => ?_
    cases v <;> trivial
  · trivial

end Parts

/-! ### A task with one input volume -/

/-- One worker, with a volume manager. -/
def leakWorker : Worker := ⟨"worker", false, true⟩

/-- The output of an earlier task, whose volume has the handle `"volume"`. -/
def leakRepo : SourceRepository :=
  ⟨[("input", .containerSource "/tmp/build/get" ⟨"get", []⟩ ⟨"input", ""⟩ "volume")]⟩

/-- A task with that output as its only input, no outputs and no image resource. -/
def leakConfig : TaskConfig :=
  { platform := "linux", image := "", imageResource := none, inputs := [⟨"input", ""⟩],
    outputs := [], runPath := "true", runArgs := [] }

def leakStep : TaskStep := ⟨"task", [], false, "/tmp/build/task"⟩

/-- A second worker with a volume manager. -/
def otherWorker : Worker := ⟨"other", false, true⟩

/-- Every worker finds the volume and creates the container. -/
def acceptReply : (q : TaskReq) → TaskResp q
  | .lookupVolume _ handle => .ok (some ⟨handle⟩)
  | .createContainer .. => .ok ⟨"container", []⟩
  | .wait _ => .signalled
  | .releaseResource _ | .initializeCache _ | .releaseVolume _ | .stop .. => ()
  | .fetchConfig | .findContainerForIdentifier | .property .. | .attach .. | .allSatisfying _
  | .createVolume .. | .initCheck .. | .check .. | .initWithCache .. | .isInitialized _
  | .getRun .. | .cacheVolume _ | .streamIn .. | .streamOut .. | .run .. | .setProperty .. =>
    .error "unexpected"

/-! ### Successful placements -/

/-- The volumes the `CreateContainer` calls that failed asked to mount: the inputs and the
outputs of their specs. -/
def refusedVolumes : List (Worker × TaskContainerSpec × Except String Container) → List Volume
  | [] => []
  | (_, spec, .error _) :: l => (spec.inputs ++ spec.outputs).map (·.volume) ++ refusedVolumes l
  | (_, _, .ok _) :: l => refusedVolumes l

/-- **The references a successful placement keeps.** When `createContainer` returns a
container, the volume references the run took are, counted with their multiplicity, the ones it
gave back and the volumes of the specs that workers refused: the round that created the
container gives back everything it took, and each refused round keeps its input and output
mounts. With no refusal, every reference is given back exactly once.

**Proof sketch.** One round at a time (`createContainer_round`). The choice of the worker
gives back all it took but the chosen worker's mounts (`volumes_chooseLoop`), the outputs are
created (`volumes_createOutputMounts`), and the image takes no volume
(`noVolume_containerImage`). After the container, the round releases its input and output
mounts; after a refusal it recurses on the other workers. -/
theorem createContainer_ok_keeps_refused_volumes (step : TaskStep) (repo : SourceRepository)
    (config : TaskConfig) :
    ∀ (ws : List Worker) {t : List TaskEvent} {c : Container} {its : List InputPair},
      Prog.Path (createContainer step repo config ws).run t (.ok (c, its)) →
      (acquiredVolumes t).Perm (releasedVolumes t ++ refusedVolumes (createContainerCalls t))
  | ws, t, c, its, h => by
    rcases createContainer_round h with ⟨-, e, ⟨⟩, -⟩ |
      ⟨w, hw, im, its', om, res, spec, x, t₁, t₂, t₃, t₄, rfl, hc, h₁, h₂, h₃, hok, herr, htail⟩
    have h₁' := List.perm_iff_count.1 (volumes_chooseLoop step repo config.inputs _ _ _ _ h₁)
    obtain ⟨ha₂, hr₂⟩ := volumes_createOutputMounts step w config.outputs h₂
    obtain ⟨ha₃, hr₃⟩ := volumes_eq_nil ((noVolume_containerImage step w config _).path h₃)
    obtain ⟨hin, hout⟩ := containerImage_mounts h₃
    have hcc : ∀ u, acquiredVolumes (⟨.createContainer w spec, x⟩ :: u) = acquiredVolumes u ∧
        releasedVolumes (⟨.createContainer w spec, x⟩ :: u) = releasedVolumes u :=
      fun _ => ⟨rfl, rfl⟩
    rw [hc, List.perm_iff_count]
    intro a
    have e₁ := h₁' a
    simp only [acquiredVolumes_append, releasedVolumes_append, (hcc t₄).1, (hcc t₄).2, ha₂, hr₂,
      ha₃, hr₃, List.map_nil, List.count_append, List.count_nil] at e₁ ⊢
    rcases x with msg | c'
    · rcases herr msg rfl with ⟨-, -, ⟨⟩⟩ | ⟨-, h₄⟩
      have e₄ := List.perm_iff_count.1
        (createContainer_ok_keeps_refused_volumes step repo config _ h₄) a
      simp only [refusedVolumes, hin, hout, baseSpec, List.map_append, List.count_append] at e₄ ⊢
      omega
    · obtain ⟨hc₄, -⟩ := hok c' rfl
      rw [htail c' rfl, hc₄] at *
      simp only [refusedVolumes, acquiredVolumes_append, releasedVolumes_append,
        (volumes_resourceReleases res).1, (volumes_resourceReleases res).2,
        acquiredVolumes_releases, releasedVolumes_releases, List.map_append, List.count_append,
        List.count_nil] at e₁ ⊢
      omega
termination_by ws => ws.length
decreasing_by exact length_filter_ne_lt hw

/-- Both workers hold the input's volume; the second, chosen as the last of the most, creates
the container. Both references are given back. -/
theorem placement_gives_back_volumes : ∃ t c its,
    Prog.Path (createContainer leakStep leakRepo leakConfig [leakWorker, otherWorker]).run t
        (.ok (c, its)) ∧
      acquiredVolumes t = [⟨"volume"⟩, ⟨"volume"⟩] ∧
      (acquiredVolumes t).Perm (releasedVolumes t ++ refusedVolumes (createContainerCalls t)) := by
  have h := Prog.path_run acceptReply
    (createContainer leakStep leakRepo leakConfig [leakWorker, otherWorker]).run
  have hr : (Prog.run acceptReply
      (createContainer leakStep leakRepo leakConfig [leakWorker, otherWorker]).run).2 =
      .ok (⟨"container", []⟩, []) := by
    rw [createContainer]
    rfl
  rw [hr] at h
  exact ⟨_, _, _, h, by rw [createContainer]; rfl,
    createContainer_ok_keeps_refused_volumes _ _ _ _ h⟩

/-! ### A refused container -/

/-- The worker finds the volume and refuses the container. -/
def leakReply : (q : TaskReq) → TaskResp q
  | .lookupVolume _ handle => .ok (some ⟨handle⟩)
  | .createContainer .. => .error "insufficient resources"
  | .wait _ => .signalled
  | .releaseResource _ | .initializeCache _ | .releaseVolume _ | .stop .. => ()
  | .fetchConfig | .findContainerForIdentifier | .property .. | .attach .. | .allSatisfying _
  | .createVolume .. | .initCheck .. | .check .. | .initWithCache .. | .isInitialized _
  | .getRun .. | .cacheVolume _ | .streamIn .. | .streamOut .. | .run .. | .setProperty .. =>
    .error "unexpected"

/-- **A refused container leaks the input volume.** The run looks the input's volume up on the
worker, which then refuses the container; `createContainer` fails with "all workers failed"
and never releases the reference it took. -/
theorem createContainer_leaks_volume_on_refusal :
    ∃ t, Prog.Path (createContainer leakStep leakRepo leakConfig [leakWorker]).run t
        (.error .allWorkersFailed) ∧
      acquiredVolumes t = [⟨"volume"⟩] ∧ releasedVolumes t = [] := by
  have h := Prog.path_run leakReply (createContainer leakStep leakRepo leakConfig [leakWorker]).run
  rw [createContainer] at h ⊢
  exact ⟨_, h, rfl, rfl⟩

end Atc.Exec
