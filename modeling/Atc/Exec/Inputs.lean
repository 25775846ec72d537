import Atc.Exec.TaskStep

/-!
# The inputs of a new session

How the declared inputs of a task reach its container in a new session of `Run`. Placement asks
`inputsOn` of the first compatible worker before anything else: when the volume managers answer
every lookup, an input missing from the repository fails the run there, with the names of all
the missing inputs, before any container or output volume is asked for. A lookup that fails
instead ends `inputsOn` with its own error, and the missing inputs go unreported. When every
input is there, `inputsOn` of the chosen worker splits
them: an input whose source has a volume on the worker is mounted at its `inputDestination`,
every other input is streamed by its source into the container, at the path
`containerDestination.StreamIn` builds, which `path.Clean` takes to the same directory when the
step's `artifactsRoot` is not empty.

## Main results

* `Atc.Exec.createContainer_fails_on_missing_inputs` — placement with a missing input looks
  volumes up and fails with the missing names.
* `Atc.Exec.inputs_partition` — with every input in the repository, each input is mounted or
  streamed, and not both.
* `Atc.Exec.createContainer_ok_inputs` — the container created mounts the inputs with a volume
  on its worker, and the others are returned to be streamed.
* `Atc.Exec.streamInputs_ok` — one `StreamTo` per input streamed, into its directory.
* `Atc.Exec.clean_streamInPath` — the streamed and the mounted location of an input agree.
* `Atc.Exec.run_places_declared_inputs` — the four together, for a new session of `Run`.
* `Atc.Exec.run_hides_missing_inputs_behind_lookup_error` — a new session with a missing input
  and a failed lookup fails with the lookup error, not `MissingInputsError`.
-/

namespace Atc.Exec

open Prog Atc.Go

/-! ### A missing input -/

/-- A program that only looks volumes up. -/
abbrev LooksUpOnly {α : Type} (p : TaskProg α) : Prop :=
  Calls (fun q => ∃ w handle, q = .lookupVolume w handle) p

theorem looksUpOnly_volumeOn (w : Worker) (source : ArtifactSource) :
    LooksUpOnly (remote (source.volumeOn w)).run := by
  refine Calls.bind ?_ fun _ => trivial
  cases source with
  | taskStep => trivial
  | containerSource _ _ _ handle =>
    simp only [ArtifactSource.volumeOn]
    split_ifs
    · exact ⟨⟨w, handle, rfl⟩, fun _ => trivial⟩
    · trivial

theorem looksUpOnly_inputsOnLoop (step : TaskStep) (repo : SourceRepository) (w : Worker) :
    ∀ inputs mounts inputPairs missing,
      LooksUpOnly (inputsOnLoop step repo w inputs mounts inputPairs missing).run
  | [], _, _, _ => trivial
  | input :: rest, mounts, inputPairs, missing => by
    simp only [inputsOnLoop]
    split
    · exact looksUpOnly_inputsOnLoop step repo w rest _ _ _
    · refine Calls.exceptBind (looksUpOnly_volumeOn w _) fun v => ?_
      cases v <;> exact looksUpOnly_inputsOnLoop step repo w rest _ _ _

theorem looksUpOnly_inputsOn (step : TaskStep) (repo : SourceRepository)
    (inputs : List TaskInputConfig) (w : Worker) : LooksUpOnly (inputsOn step repo inputs w).run := by
  refine Calls.exceptBind (looksUpOnly_inputsOnLoop step repo w inputs [] [] []) fun r => ?_
  obtain ⟨mounts, inputPairs, missing⟩ := r
  dsimp only
  split_ifs <;> trivial

section Layout

variable {layout : Layout}

/-- The loop of `chooseWorkerWithMostVolumes` fails on its first worker when an input is
missing, having only looked volumes up. -/
theorem chooseLoop_missing (step : TaskStep) (repo : SourceRepository)
    (inputs : List TaskInputConfig) {ws : List Worker}
    (hm : missingInputNames repo inputs ≠ []) :
    ∀ (l : List {w // w ∈ ws}), l ≠ [] → ∀ chosen inputMounts inputsToStream {t : List TaskEvent} {r},
      Path (chooseLoop step repo inputs l chosen inputMounts inputsToStream).run t r →
      (∀ e ∈ t, HonestLayout layout e) →
      r = .error (.missingInputs (missingInputNames repo inputs)) ∧
        ∀ e ∈ t, ∃ w handle, e.1 = .lookupVolume w handle
  | [], hl, _, _, _, _, _, _, _ => absurd rfl hl
  | w :: rest, _, chosen, inputMounts, inputsToStream, t, r, h, ht => by
    rcases path_exceptBind.1 h with ⟨e, he, rfl⟩ | ⟨t₁, t₂, res, rfl, h₁, -⟩
    · have hw := inputsOn_honest step repo inputs w.1 he ht
      rw [if_neg hm] at hw
      exact ⟨by cases hw; rfl, (looksUpOnly_inputsOn step repo inputs w.1).path he⟩
    · have hw := inputsOn_honest step repo inputs w.1 h₁ fun e he => ht e (List.mem_append_left _ he)
      rw [if_neg hm] at hw
      cases hw

/-- **A missing input fails placement.** On a non-empty list of workers, `createContainer` with
an input missing from the repository only looks volumes up, and fails with the names of the
missing inputs, in the order they are declared. -/
theorem createContainer_fails_on_missing_inputs (step : TaskStep) (repo : SourceRepository)
    (config : TaskConfig) {ws : List Worker} (hws : ws ≠ [])
    (hm : missingInputNames repo config.inputs ≠ []) {t : List TaskEvent}
    {r : Except TaskError (Container × List InputPair)}
    (h : Path (createContainer step repo config ws).run t r) (ht : ∀ e ∈ t, HonestLayout layout e) :
    r = .error (.missingInputs (missingInputNames repo config.inputs)) ∧
      ∀ e ∈ t, ∃ w handle, e.1 = .lookupVolume w handle := by
  rw [createContainer] at h
  have hl : ws.attach ≠ [] := by simpa [List.attach_eq_nil_iff] using hws
  rcases path_exceptBind.1 h with ⟨e, he, rfl⟩ | ⟨t₁, t₂, res, rfl, h₁, -⟩
  · obtain ⟨⟨⟩, hlook⟩ := chooseLoop_missing step repo config.inputs hm _ hl _ _ _ he ht
    exact ⟨rfl, hlook⟩
  · cases (chooseLoop_missing step repo config.inputs hm _ hl _ _ _ h₁
      fun e he => ht e (List.mem_append_left _ he)).1

/-! ### Every input, mounted or streamed -/

theorem mem_inputsToStreamOn {repo : SourceRepository} {inputs : List TaskInputConfig}
    {w : Worker} {p : InputPair} :
    p ∈ inputsToStreamOn layout repo inputs w ↔
      p.input ∈ inputs ∧ repo.sourceFor p.input.name = some p.source ∧
        p.source.volumeIn layout w = none := by
  obtain ⟨i, s⟩ := p
  simp only [inputsToStreamOn, List.mem_filterMap, Option.bind_eq_some]
  constructor
  · rintro ⟨a, ha, s', hs', hif⟩
    split_ifs at hif with hv
    cases hif
    exact ⟨ha, hs', by simpa using hv⟩
  · rintro ⟨hi, hs, hv⟩
    exact ⟨i, hi, s, hs, by simp [hv]⟩

theorem length_inputMountsOn_add (step : TaskStep) (repo : SourceRepository) (w : Worker) :
    ∀ {inputs : List TaskInputConfig}, (∀ i ∈ inputs, repo.sourceFor i.name ≠ none) →
      (inputMountsOn layout step repo inputs w).length +
        (inputsToStreamOn layout repo inputs w).length = inputs.length
  | [], _ => rfl
  | i :: rest, hpresent => by
    obtain ⟨s, hs⟩ := Option.ne_none_iff_exists'.1 (hpresent i (List.mem_cons_self _ _))
    have ih := length_inputMountsOn_add step repo w fun j hj => hpresent j (List.mem_cons_of_mem _ hj)
    cases hv : s.volumeIn layout w <;>
      simp [inputMountsOn, inputsToStreamOn, inputVolume, hs, hv] at ih ⊢ <;> omega

/-- **Mounted or streamed, not both.** With every declared input in the repository, the mounts
and the inputs to stream on a worker are one per input: each input whose source has a volume on
the worker is mounted at its `inputDestination` and not streamed, and each other input is
streamed from its source. -/
theorem inputs_partition (step : TaskStep) (repo : SourceRepository) (w : Worker)
    {inputs : List TaskInputConfig} (hm : missingInputNames repo inputs = []) :
    (inputMountsOn layout step repo inputs w).length +
        (inputsToStreamOn layout repo inputs w).length = inputs.length ∧
    ∀ i ∈ inputs,
      (∃ v, inputVolume layout repo w i = some v ∧
        ⟨v, inputDestination step i⟩ ∈ inputMountsOn layout step repo inputs w ∧
        ∀ p ∈ inputsToStreamOn layout repo inputs w, p.input ≠ i) ∨
      (inputVolume layout repo w i = none ∧ ∃ s, repo.sourceFor i.name = some s ∧
        ⟨i, s⟩ ∈ inputsToStreamOn layout repo inputs w) := by
  have hpresent : ∀ i ∈ inputs, repo.sourceFor i.name ≠ none := by
    simpa [missingInputNames, List.filter_eq_nil_iff] using hm
  refine ⟨length_inputMountsOn_add step repo w hpresent, fun i hi => ?_⟩
  obtain ⟨s, hs⟩ := Option.ne_none_iff_exists'.1 (hpresent i hi)
  cases hv : s.volumeIn layout w with
  | some v =>
    refine .inl ⟨v, by simp [inputVolume, hs, hv], ?_, fun p hp hpi => ?_⟩
    · exact List.mem_filterMap.2 ⟨i, hi, by simp [inputVolume, hs, hv]⟩
    · obtain ⟨-, hs', hv'⟩ := mem_inputsToStreamOn.1 hp
      rw [hpi, hs] at hs'
      cases hs'
      rw [hv] at hv'
      cases hv'
  | none => exact .inr ⟨by simp [inputVolume, hs, hv], s, hs, mem_inputsToStreamOn.2 ⟨hi, hs, hv⟩⟩

end Layout

/-! ### Streaming -/

/-- `StreamTo` streams the source out, then into the destination at `"."`. -/
theorem streamTo_ok {dest : ContainerDestination} {source : ArtifactSource} {t : List TaskEvent}
    (h : Path (source.streamTo dest).run t (.ok ())) :
    ∃ q x y, t = [⟨q, x⟩, ⟨.streamIn dest.container (dest.streamInPath "."), y⟩] := by
  cases source <;>
  · rcases path_exceptBind.1 h with ⟨e, -, ⟨⟩⟩ | ⟨t₁, t₂, _, rfl, h₁, h₂⟩
    obtain ⟨x, hx, -⟩ := path_remote.1 h₁
    obtain ⟨y, hy, -⟩ := path_remote.1 h₂
    obtain ⟨rfl, -⟩ := path_query.1 hx
    obtain ⟨rfl, -⟩ := path_query.1 hy
    exact ⟨_, _, _, rfl⟩

/-- **One `StreamTo` per input streamed.** A run of `streamInputs` that returns nil is one
run of `StreamTo` for each input to stream, in order, each into the input's directory. -/
theorem streamInputs_ok (step : TaskStep) (c : Container) :
    ∀ (pairs : List InputPair) {t : List TaskEvent},
      Path (streamInputs step c pairs).run t (.ok ()) →
      ∃ ts : List (List TaskEvent), t = ts.flatten ∧
        List.Forall₂ (fun p tp =>
          Path (p.source.streamTo ⟨c, p.input, step.artifactsRoot⟩).run tp (.ok ()) ∧
          ∃ q x y, tp = [⟨q, x⟩,
            ⟨.streamIn c ((ContainerDestination.mk c p.input step.artifactsRoot).streamInPath "."), y⟩])
          pairs ts
  | [], t, h => by
    obtain ⟨rfl, -⟩ := path_exceptPure.1 h
    exact ⟨[], rfl, .nil⟩
  | p :: rest, t, h => by
    rcases path_exceptBind.1 h with ⟨e, -, ⟨⟩⟩ | ⟨t₁, t₂, _, rfl, h₁, h₂⟩
    obtain ⟨ts, rfl, hts⟩ := streamInputs_ok step c rest h₂
    exact ⟨t₁ :: ts, rfl, .cons ⟨h₁, streamTo_ok h₁⟩ hts⟩

/-- **The streamed and the mounted location agree.** `path.Clean` takes the path an input is
streamed into, `artifactsRoot/<path or name>/.`, to the `inputDestination` its volume would be
mounted at, when the step's `artifactsRoot` is not empty. -/
theorem clean_streamInPath (step : TaskStep) (c : Container) (i : TaskInputConfig)
    (hroot : step.artifactsRoot ≠ "") :
    clean ((ContainerDestination.mk c i step.artifactsRoot).streamInPath ".") =
      inputDestination step i := by
  have hdst : (if i.path.length = 0 then i.name else i.path) =
      if i.path = "" then i.name else i.path := by
    by_cases h : i.path = ""
    · simp [h]
    · rw [if_neg h, if_neg (show ¬ i.path.length = 0 from
        fun h' => h (String.ext (List.length_eq_zero.1 h')))]
  have hne : step.artifactsRoot ++ "/" ++ (if i.path = "" then i.name else i.path) ≠ "" := by
    intro h
    have := congrArg String.length h
    simp only [String.length_append, show "/".length = 1 from rfl,
      show "".length = 0 from rfl] at this
    omega
  simp only [ContainerDestination.streamInPath, inputDestination, hdst,
    filepathJoin_pair _ hroot, String.append_assoc _ "/" "."]
  exact clean_append_slashDot hne

/-! ### A new session -/

section Layout

variable {layout : Layout}

/-- **The container created for the inputs.** Under a layout, a container is created only when
every input is in the repository; it is the container of the last worker asked, whose spec
mounts the inputs with a volume on that worker, and the other inputs are returned to be
streamed.

**Proof sketch.** One round at a time (`createContainer_round`): a refused round recurses on the
other workers; in the round that creates the container, the chooser returned the mounts and
inputs to stream of its worker (`chooseWorkerWithMostVolumes_honest`), and it would have failed
on a missing input (`chooseLoop_missing`). -/
theorem createContainer_ok_inputs (step : TaskStep) (repo : SourceRepository)
    (config : TaskConfig) :
    ∀ (ws : List Worker) {t : List TaskEvent} {c : Container} {its : List InputPair},
      Path (createContainer step repo config ws).run t (.ok (c, its)) →
      (∀ e ∈ t, HonestLayout layout e) →
      missingInputNames repo config.inputs = [] ∧
      ∃ w spec, (createContainerCalls t).getLast? = some (w, spec, .ok c) ∧
        spec.inputs = inputMountsOn layout step repo config.inputs w ∧
        its = inputsToStreamOn layout repo config.inputs w
  | ws, t, c, its, h, ht => by
    rcases createContainer_round h with ⟨-, e, ⟨⟩, -⟩ |
      ⟨w, hw, im, its', om, res, spec, x, t₁, t₂, t₃, t₄, rfl, hc, h₁, -, h₃, hok, herr, -⟩
    rw [hc]
    rcases x with msg | c'
    · rcases herr msg rfl with ⟨-, -, ⟨⟩⟩ | ⟨-, h₄⟩
      obtain ⟨hm, w', spec', hlast, hrest⟩ :=
        createContainer_ok_inputs step repo config _ h₄ fun e he => ht e (by simp [he])
      exact ⟨hm, w', spec', by simp [List.getLast?_cons, hlast], hrest⟩
    · obtain ⟨h₄, ⟨⟩⟩ := hok c' rfl
      have ht₁ : ∀ e ∈ t₁, HonestLayout layout e := fun e he => ht e (by simp [he])
      obtain ⟨rfl, rfl, -⟩ := chooseWorkerWithMostVolumes_honest step repo config.inputs h₁ ht₁
      refine ⟨?_, w, spec, by simp [h₄], (containerImage_mounts h₃).1, rfl⟩
      by_contra hm
      have hl : ws.attach ≠ [] := by
        simpa [List.attach_eq_nil_iff] using List.ne_nil_of_mem hw
      cases (chooseLoop_missing step repo config.inputs hm _ hl _ _ _ h₁ ht₁).1
termination_by ws => ws.length
decreasing_by exact length_filter_ne_lt hw

/-- **A new session with a missing input.** A run that finds no container for its identifier
and gets a non-empty list of compatible workers fails, when an input is missing from the
repository, with the names of the missing inputs in declared order, after only looking volumes
up: no container and no output volume is asked for. -/
theorem run_fails_on_missing_inputs {step : TaskStep} {st : StepState} {t : List TaskEvent}
    {r : Except TaskError Unit} {st' : StepState} (h : Path (run step st) t (r, st'))
    (ht : ∀ e ∈ t, HonestLayout layout e) {config : TaskConfig}
    {x : Except String (Option Container)} {ws : List Worker} {rest : List TaskEvent}
    (hrun : t = ⟨.fetchConfig, .ok config⟩ :: ⟨.findContainerForIdentifier, x⟩ ::
      ⟨.allSatisfying (taskWorkerSpec step config), .ok ws⟩ :: rest)
    (hx : ∀ c, x ≠ .ok (some c)) (hws : ws ≠ []) (hm : missingInputNames st.repo config.inputs ≠ []) :
    r = .error (.missingInputs (missingInputNames st.repo config.inputs)) ∧
      ∀ e ∈ rest, ∃ w handle, e.1 = .lookupVolume w handle := by
  subst hrun
  have htr : ∀ e ∈ rest, HonestLayout layout e := fun e he => ht e (by simp [he])
  rcases path_run.1 h with ⟨_, ⟨⟩, -⟩ | ⟨_, c, _, ⟨⟩, -⟩ | ⟨_, _, _, -, ⟨⟩, h'⟩
  · exact absurd rfl (hx c)
  rcases path_startProcess.1 h' with ⟨_, ⟨⟩, -⟩ | ⟨_, _, _, ⟨⟩, hcc, rfl, -⟩ |
    ⟨_, t₁, _, _, _, _, ⟨⟩, hcc, -⟩ | ⟨_, t₁, _, _, _, _, _, ⟨⟩, hcc, -⟩
  · obtain ⟨⟨⟩, hlook⟩ := createContainer_fails_on_missing_inputs step st.repo config hws hm hcc htr
    exact ⟨rfl, hlook⟩
  · cases (createContainer_fails_on_missing_inputs step st.repo config hws hm hcc
      fun e he => htr e (List.mem_append_left _ he)).1
  · cases (createContainer_fails_on_missing_inputs step st.repo config hws hm hcc
      fun e he => htr e (by simp [he])).1

end Layout

/-! ### A lookup error before the missing input is reported -/

/-- A task with two inputs: `a`, which no step registered, and `b`. -/
def lookupConfig : TaskConfig := { sessionConfig with inputs := [⟨"a", ""⟩, ⟨"b", ""⟩] }

/-- A repository holding `b` only: an output of an earlier task, with a volume handle. -/
def lookupRepo : SourceRepository :=
  ⟨[("b", .containerSource "/tmp/build/put" sessionContainer ⟨"b", ""⟩ "vol")]⟩

/-- A worker with a volume manager. -/
def lookupWorker : Worker := ⟨"worker", false, true⟩

/-- The replies of `sessionReply`, except that `LookupVolume` fails. -/
def lookupReply : (q : TaskReq) → TaskResp q
  | .lookupVolume .. => .error "lookup failed"
  | q => sessionReply lookupConfig lookupWorker sessionContainer .signalled q

theorem lookupPlacement_path :
    Path (createContainer sessionStep lookupRepo lookupConfig [lookupWorker]).run
      [⟨.lookupVolume lookupWorker "vol", .error "lookup failed"⟩]
      (.error (.remote "lookup failed")) := by
  have h := Prog.path_run lookupReply
    (createContainer sessionStep lookupRepo lookupConfig [lookupWorker]).run
  rw [createContainer] at h ⊢
  exact h

/-- **A lookup error hides the missing inputs.** `inputsOn` returns the error of `VolumeOn` as
soon as it gets one (`src/unnamed/part_004`, lines 532–535), before it reports the inputs it
found missing. A new session whose task declares `a`, missing from the repository, and `b`,
whose volume lookup fails, therefore fails with the lookup error and not with
`MissingInputsError`, which `Run` documents for any input missing from the repository (lines
115–116). -/
theorem run_hides_missing_inputs_behind_lookup_error :
    missingInputNames lookupRepo lookupConfig.inputs = ["a"] ∧
      ∃ t st, Path (run sessionStep (StepState.init lookupRepo)) t
        (.error (.remote "lookup failed"), st) :=
  ⟨by decide, _, _, path_run.2 (.inr (.inr ⟨lookupConfig, .ok none, _, nofun, rfl,
    path_startProcess.2 (.inr (.inl ⟨[lookupWorker], _, _, rfl, lookupPlacement_path, rfl, rfl⟩))⟩))⟩

/-- **How the declared inputs reach a new container.** When the volume managers answer by a
layout: a new session on a non-empty list of compatible workers fails, when inputs are missing
from the repository, with their names in declared order, having only looked volumes up. A
container created is asked for by the last worker asked, with every input in the repository:
each input with a volume on that worker is mounted at its `inputDestination` and not streamed,
and every other input is returned to be streamed, one per input. Streaming the inputs is one
`StreamTo` per input, into its directory, which is the `inputDestination` up to `path.Clean`
when the step's `artifactsRoot` is not empty. -/
theorem run_places_declared_inputs (step : TaskStep) (layout : Layout) :
    (∀ (st : StepState) t r st', Path (run step st) t (r, st') →
      (∀ e ∈ t, HonestLayout layout e) →
      ∀ config x ws rest, t = ⟨.fetchConfig, .ok config⟩ :: ⟨.findContainerForIdentifier, x⟩ ::
          ⟨.allSatisfying (taskWorkerSpec step config), .ok ws⟩ :: rest →
        (∀ c, x ≠ .ok (some c)) → ws ≠ [] → missingInputNames st.repo config.inputs ≠ [] →
        r = .error (.missingInputs (missingInputNames st.repo config.inputs)) ∧
          ∀ e ∈ rest, ∃ w handle, e.1 = .lookupVolume w handle) ∧
    (∀ repo config ws t c its, Path (createContainer step repo config ws).run t (.ok (c, its)) →
      (∀ e ∈ t, HonestLayout layout e) →
      missingInputNames repo config.inputs = [] ∧
      ∃ w spec, (createContainerCalls t).getLast? = some (w, spec, .ok c) ∧
        spec.inputs = inputMountsOn layout step repo config.inputs w ∧
        its = inputsToStreamOn layout repo config.inputs w ∧
        spec.inputs.length + its.length = config.inputs.length ∧
        ∀ i ∈ config.inputs,
          (∃ v, inputVolume layout repo w i = some v ∧ ⟨v, inputDestination step i⟩ ∈ spec.inputs ∧
            ∀ p ∈ its, p.input ≠ i) ∨
          (inputVolume layout repo w i = none ∧ ∃ s, repo.sourceFor i.name = some s ∧ ⟨i, s⟩ ∈ its)) ∧
    (∀ c pairs t, Path (streamInputs step c pairs).run t (.ok ()) →
      ∃ ts : List (List TaskEvent), t = ts.flatten ∧
        List.Forall₂ (fun p tp =>
          Path (p.source.streamTo ⟨c, p.input, step.artifactsRoot⟩).run tp (.ok ()) ∧
          ∃ q x y, tp = [⟨q, x⟩,
            ⟨.streamIn c ((ContainerDestination.mk c p.input step.artifactsRoot).streamInPath "."), y⟩])
          pairs ts) ∧
    (step.artifactsRoot ≠ "" → ∀ c i,
      clean ((ContainerDestination.mk c i step.artifactsRoot).streamInPath ".") =
        inputDestination step i) := by
  refine ⟨fun st t r st' h ht config x ws rest hrun hx hws hm =>
      run_fails_on_missing_inputs h ht hrun hx hws hm,
    fun repo config ws t c its h ht => ?_, fun c pairs t h => streamInputs_ok step c pairs h,
    fun hroot c i => clean_streamInPath step c i hroot⟩
  obtain ⟨hm, w, spec, hlast, hi, rfl⟩ := createContainer_ok_inputs step repo config ws h ht
  exact ⟨hm, w, spec, hlast, hi, rfl, hi ▸ inputs_partition step repo w hm⟩

end Atc.Exec
