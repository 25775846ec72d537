import Atc.Exec.TaskStep

/-!
# The outputs a run registers

`registerSource` binds the outputs of a finished task in the build's repository, by reading the
volume mounts the container reports: an output is bound, with the handle of its volume, for
each mount at the output's `artifactsPath`, and with no handle when the container reports no
mounts at all. An output with mounts but none at its path would not be bound. `createContainer`
rules that out: on a worker with a volume manager it mounts a fresh volume at the
`artifactsPath` of every output, and on a worker without one it mounts nothing, inputs
included. A run that returns nil ends by registering the outputs of its container, so every
declared output is bound.

## Main definitions

* `Atc.Exec.RequestedMounts` — the mounts `createContainer` asks a worker for, as
  `registerSource` reads them.

## Main results

* `Atc.Exec.registerSource_sources` — `registerSource` only puts bindings in front of the
  repository, the same ones whatever the repository.
* `Atc.Exec.sourceFor_registerSource_requested` — what `registerSource` binds for a container
  with the mounts `createContainer` requested.
* `Atc.Exec.createContainer_requests_mounts` — every container `createContainer` asks for is
  requested with such mounts.
* `Atc.Exec.run_ok_registers` — a run that returns nil has registered the outputs of the
  container it ends with.
* `Atc.Exec.run_binds_declared_outputs` — after a run that returns nil, every declared output,
  or the step itself, is bound.
-/

namespace Atc.Exec

open Prog Atc.Go

/-! ### What `registerSource` adds to the repository -/

/-- A fold whose every step puts bindings in front of the repository puts them in front as a
whole, and the same ones whatever the repository. -/
theorem foldl_prepends {α : Type} (f : SourceRepository → α → SourceRepository)
    (hf : ∀ repo a, (f repo a).sources = (f ⟨[]⟩ a).sources ++ repo.sources) :
    ∀ (l : List α) (repo : SourceRepository),
      (l.foldl f repo).sources = (l.foldl f ⟨[]⟩).sources ++ repo.sources
  | [], _ => rfl
  | a :: l, repo => by
    rw [List.foldl_cons, List.foldl_cons, foldl_prepends f hf l,
      foldl_prepends f hf l (f ⟨[]⟩ a), hf repo a, List.append_assoc]

theorem registerMount_sources (step : TaskStep) (c : Container) (output : TaskOutputConfig)
    (repo : SourceRepository) (mount : VolumeMount) :
    (registerMount step c output repo mount).sources =
      (registerMount step c output ⟨[]⟩ mount).sources ++ repo.sources := by
  unfold registerMount
  split_ifs <;> rfl

theorem registerOutput_sources (step : TaskStep) (c : Container) (repo : SourceRepository)
    (output : TaskOutputConfig) :
    (registerOutput step c repo output).sources =
      (registerOutput step c ⟨[]⟩ output).sources ++ repo.sources := by
  unfold registerOutput
  split_ifs
  · exact foldl_prepends _ (registerMount_sources step c output) _ _
  · rfl

/-- **`registerSource` only adds bindings.** It puts the bindings of the outputs in front of the
repository, and they do not depend on the repository. -/
theorem registerSource_sources (step : TaskStep) (config : TaskConfig) (c : Container)
    (repo : SourceRepository) :
    (registerSource step config c repo).sources =
      (registerSource step config c ⟨[]⟩).sources ++ repo.sources := by
  unfold registerSource
  split_ifs
  · rfl
  · exact foldl_prepends _ (registerOutput_sources step c) _ _

/-- A name is bound after `registerSource` as `registerSource` binds it on its own, and
otherwise as before. -/
theorem sourceFor_registerSource (step : TaskStep) (config : TaskConfig) (c : Container)
    (repo : SourceRepository) (name : String) :
    (registerSource step config c repo).sourceFor name =
      ((registerSource step config c ⟨[]⟩).sourceFor name).or (repo.sourceFor name) := by
  simp only [SourceRepository.sourceFor, registerSource_sources step config c repo,
    List.lookup_append]

/-! ### The bindings of the outputs -/

section Bindings

variable {step : TaskStep} {c : Container}

theorem sourceFor_registerMount_of_ne {output : TaskOutputConfig} {name : String}
    (hn : name ≠ output.name) (repo : SourceRepository) (mount : VolumeMount) :
    (registerMount step c output repo mount).sourceFor name = repo.sourceFor name := by
  unfold registerMount
  split_ifs <;> simp [hn]

theorem sourceFor_foldl_registerMount_of_ne {output : TaskOutputConfig} {name : String}
    (hn : name ≠ output.name) :
    ∀ (mounts : List VolumeMount) (repo : SourceRepository),
      (mounts.foldl (registerMount step c output) repo).sourceFor name = repo.sourceFor name
  | [], _ => rfl
  | m :: rest, repo => by
    rw [List.foldl_cons, sourceFor_foldl_registerMount_of_ne hn rest,
      sourceFor_registerMount_of_ne hn]

/-- Mounts at other paths than the output's leave the repository as it is. -/
theorem foldl_registerMount_of_forall_ne {output : TaskOutputConfig} :
    ∀ {mounts : List VolumeMount}, (∀ m ∈ mounts, m.mountPath ≠ artifactsPath output step.artifactsRoot) →
      ∀ repo, mounts.foldl (registerMount step c output) repo = repo
  | [], _, _ => rfl
  | m :: rest, h, repo => by
    rw [List.foldl_cons, registerMount, if_neg (h m (List.mem_cons_self _ _)),
      foldl_registerMount_of_forall_ne fun m hm => h m (List.mem_cons_of_mem _ hm)]

/-- **The inner loop of `registerSource`.** When a mount is at the output's path, the output is
bound with the handle of the last such mount. -/
theorem sourceFor_foldl_registerMount {output : TaskOutputConfig} :
    ∀ {mounts : List VolumeMount}, (∃ m ∈ mounts, m.mountPath = artifactsPath output step.artifactsRoot) →
      ∀ repo, ∃ m ∈ mounts, m.mountPath = artifactsPath output step.artifactsRoot ∧
        (mounts.foldl (registerMount step c output) repo).sourceFor output.name =
          some (.containerSource step.artifactsRoot c output m.volume.handle)
  | [], ⟨_, hm, _⟩, _ => absurd hm (List.not_mem_nil _)
  | m :: rest, _, repo => by
    rw [List.foldl_cons]
    by_cases hrest : ∃ m' ∈ rest, m'.mountPath = artifactsPath output step.artifactsRoot
    · obtain ⟨m', hm', hpath, hs⟩ := sourceFor_foldl_registerMount hrest (registerMount step c output repo m)
      exact ⟨m', List.mem_cons_of_mem _ hm', hpath, hs⟩
    · push_neg at hrest
      have hm : m.mountPath = artifactsPath output step.artifactsRoot := by
        by_contra hne
        obtain ⟨m', hm', hpath⟩ := ‹∃ m' ∈ m :: rest, _›
        rcases List.mem_cons.1 hm' with rfl | hm'
        · exact hne hpath
        · exact hrest m' hm' hpath
      refine ⟨m, List.mem_cons_self _ _, hm, ?_⟩
      rw [foldl_registerMount_of_forall_ne hrest, registerMount, if_pos hm]
      simp

theorem sourceFor_foldl_registerOutput_of_ne {name : String} :
    ∀ {outputs : List TaskOutputConfig}, (∀ o ∈ outputs, name ≠ o.name) →
      ∀ repo, (outputs.foldl (registerOutput step c) repo).sourceFor name = repo.sourceFor name
  | [], _, _ => rfl
  | o :: rest, h, repo => by
    have hn := h o (List.mem_cons_self _ _)
    rw [List.foldl_cons, sourceFor_foldl_registerOutput_of_ne fun o ho => h o (List.mem_cons_of_mem _ ho),
      registerOutput]
    split_ifs
    · exact sourceFor_foldl_registerMount_of_ne hn _ _
    · simp [hn]

/-- **The outer loop of `registerSource`.** When each output, registered on its own, binds its
name to itself with a handle that has the property `P`, then after the loop each output's name
is bound to the last output of that name, with such a handle. -/
theorem sourceFor_foldl_registerOutput {P : TaskOutputConfig → String → Prop} :
    ∀ {outputs : List TaskOutputConfig},
      (∀ o ∈ outputs, ∀ repo, ∃ handle, (registerOutput step c repo o).sourceFor o.name =
        some (.containerSource step.artifactsRoot c o handle) ∧ P o handle) →
      ∀ repo, ∀ o ∈ outputs, ∃ o' ∈ outputs, o'.name = o.name ∧ ∃ handle,
        (outputs.foldl (registerOutput step c) repo).sourceFor o.name =
          some (.containerSource step.artifactsRoot c o' handle) ∧ P o' handle
  | [], _, _, _, ho => absurd ho (List.not_mem_nil _)
  | o₀ :: rest, hself, repo, o, ho => by
    rw [List.foldl_cons]
    by_cases hlater : ∃ o'' ∈ rest, o''.name = o.name
    · obtain ⟨o'', ho'', hname⟩ := hlater
      obtain ⟨o', ho', hname', hs⟩ := sourceFor_foldl_registerOutput
        (fun o ho => hself o (List.mem_cons_of_mem _ ho)) (registerOutput step c repo o₀) o'' ho''
      exact ⟨o', List.mem_cons_of_mem _ ho', hname'.trans hname, hname ▸ hs⟩
    · push_neg at hlater
      obtain rfl : o = o₀ := by
        rcases List.mem_cons.1 ho with rfl | ho
        · rfl
        · exact absurd rfl (hlater o ho)
      obtain ⟨handle, hs, hP⟩ := hself o (List.mem_cons_self _ _) repo
      refine ⟨o, List.mem_cons_self _ _, rfl, handle, ?_, hP⟩
      rw [sourceFor_foldl_registerOutput_of_ne fun o'' ho'' => (hlater o'' ho'').symm, hs]

end Bindings

/-- The mounts `createContainer` asks a worker for, as `registerSource` reads them: on a worker
with a volume manager, an output mount at the `artifactsPath` of each output, in order, besides
the input mounts; on a worker without one, no mounts at all. -/
def RequestedMounts (step : TaskStep) (config : TaskConfig) (volumeManager : Bool)
    (inputMounts outputMounts : List VolumeMount) : Prop :=
  if volumeManager then
    outputMounts.map (·.mountPath) = config.outputs.map (artifactsPath · step.artifactsRoot)
  else inputMounts = [] ∧ outputMounts = []

instance (step : TaskStep) (config : TaskConfig) (volumeManager : Bool)
    (inputMounts outputMounts : List VolumeMount) :
    Decidable (RequestedMounts step config volumeManager inputMounts outputMounts) :=
  inferInstanceAs (Decidable (if volumeManager then _ else _))

/-- **What `registerSource` binds.** For a container that reports the mounts requested for it,
the step's own name is bound to its working directory when the config declares no outputs, and
otherwise every output's name is bound to the output (the last one of that name), with the
handle of an output volume at its `artifactsPath` when the worker has a volume manager, and with
the empty handle when it has none. -/
theorem sourceFor_registerSource_requested {step : TaskStep} {config : TaskConfig}
    {c : Container} {volumeManager : Bool} {inputMounts outputMounts : List VolumeMount}
    (hc : c.volumeMounts = inputMounts ++ outputMounts)
    (hreq : RequestedMounts step config volumeManager inputMounts outputMounts)
    (repo : SourceRepository) :
    (config.outputs = [] →
      (registerSource step config c repo).sourceFor step.sourceName =
        some (.taskStep c step.artifactsRoot)) ∧
    ∀ o ∈ config.outputs, ∃ o' ∈ config.outputs, o'.name = o.name ∧ ∃ handle,
      (registerSource step config c repo).sourceFor o.name =
        some (.containerSource step.artifactsRoot c o' handle) ∧
      if volumeManager then
        ∃ m ∈ outputMounts, m.mountPath = artifactsPath o' step.artifactsRoot ∧ handle = m.volume.handle
      else handle = "" := by
  refine ⟨fun h => by simp [registerSource, h], fun o ho => ?_⟩
  rw [registerSource, if_neg (by simpa using List.ne_nil_of_mem ho)]
  refine sourceFor_foldl_registerOutput (fun o ho repo => ?_) repo o ho
  unfold RequestedMounts at hreq
  cases volumeManager with
  | false =>
    obtain ⟨rfl, rfl⟩ := hreq
    exact ⟨"", by simp [registerOutput, hc], rfl⟩
  | true =>
    have hpath : artifactsPath o step.artifactsRoot ∈ outputMounts.map (·.mountPath) := by
      rw [if_pos rfl] at hreq
      rw [hreq]
      exact List.mem_map_of_mem _ ho
    obtain ⟨m, hm, hm'⟩ := List.mem_map.1 hpath
    obtain ⟨m', hm', hpath', hs⟩ := sourceFor_foldl_registerMount ⟨m, hm, hm'⟩
      (inputMounts.foldl (registerMount step c o) repo)
    have hlen : c.volumeMounts.length > 0 := by
      rw [hc, List.length_append]
      have := List.length_pos_of_mem hm
      omega
    refine ⟨m'.volume.handle, ?_, by rw [if_pos rfl]; exact ⟨m', hm', hpath', rfl⟩⟩
    rw [registerOutput, if_pos hlen, hc, List.foldl_append, hs]

/-! ### The mounts `createContainer` requests -/

theorem volumeOn_unmanaged {w : Worker} (hw : w.volumeManager = false) (source : ArtifactSource) :
    source.volumeOn w = pure (.ok none) := by
  cases source <;> simp [ArtifactSource.volumeOn, hw]

/-- On a worker without a volume manager the loop of `inputsOn` adds no mounts. -/
theorem inputsOnLoop_unmanaged (step : TaskStep) (repo : SourceRepository) {w : Worker}
    (hw : w.volumeManager = false) :
    ∀ (inputs : List TaskInputConfig) mounts inputPairs missing {t : List TaskEvent} {res},
      Path (inputsOnLoop step repo w inputs mounts inputPairs missing).run t (.ok res) →
      res.1 = mounts
  | [], _, _, _, _, _, h => by
    obtain ⟨-, ⟨⟩⟩ := path_exceptPure.1 h
    rfl
  | input :: rest, mounts, inputPairs, missing, t, res, h => by
    simp only [inputsOnLoop] at h
    split at h
    · exact inputsOnLoop_unmanaged step repo hw rest _ _ _ h
    · rw [volumeOn_unmanaged hw] at h
      rcases path_exceptBind.1 h with ⟨e, he, -⟩ | ⟨t₁, t₂, v, rfl, h₁, h₂⟩
      · obtain ⟨x, hx, hx'⟩ := path_remote.1 he
        obtain ⟨-, rfl⟩ := path_ret.1 hx
        cases hx'
      · obtain ⟨x, hx, hx'⟩ := path_remote.1 h₁
        obtain ⟨-, rfl⟩ := path_ret.1 hx
        cases hx'
        exact inputsOnLoop_unmanaged step repo hw rest _ _ _ h₂

theorem inputsOn_unmanaged {step : TaskStep} {repo : SourceRepository}
    {inputs : List TaskInputConfig} {w : Worker} (hw : w.volumeManager = false)
    {t : List TaskEvent} {mounts : List VolumeMount} {inputsToStream : List InputPair}
    (h : Path (inputsOn step repo inputs w).run t (.ok (mounts, inputsToStream))) : mounts = [] := by
  rcases path_exceptBind.1 h with ⟨e, -, ⟨⟩⟩ | ⟨t₁, t₂, ⟨m, p, missing⟩, rfl, h₁, h₂⟩
  obtain rfl : m = [] := inputsOnLoop_unmanaged step repo hw inputs [] [] [] h₁
  dsimp only at h₂
  split_ifs at h₂
  · obtain ⟨-, ⟨⟩⟩ := path_throw.1 h₂
  · obtain ⟨-, ⟨⟩⟩ := path_exceptPure.1 h₂
    rfl

/-- The loop of `chooseWorkerWithMostVolumes` never holds mounts for a worker without a volume
manager. -/
theorem chooseLoop_unmanaged (step : TaskStep) (repo : SourceRepository)
    (inputs : List TaskInputConfig) {ws : List Worker} :
    ∀ (l : List {w // w ∈ ws}) chosen (inputMounts : List VolumeMount) inputsToStream
      {t : List TaskEvent} {res},
      Path (chooseLoop step repo inputs l chosen inputMounts inputsToStream).run t (.ok res) →
      (∀ w, chosen = some w → w.1.volumeManager = false → inputMounts = []) →
      ∀ w, res.1 = some w → w.1.volumeManager = false → res.2.1 = []
  | [], _, _, _, _, _, h, hinv => by
    obtain ⟨-, ⟨⟩⟩ := path_exceptPure.1 h
    exact hinv
  | w :: rest, chosen, inputMounts, inputsToStream, t, res, h, hinv => by
    rcases path_exceptBind.1 h with ⟨e, -, ⟨⟩⟩ | ⟨t₁, t₂, ⟨mounts, toStream⟩, rfl, h₁, h₂⟩
    dsimp only at h₂
    split_ifs at h₂ <;> obtain ⟨t₃, t₄, _, rfl, -, h₄⟩ := path_effect_bind.1 h₂
    · refine chooseLoop_unmanaged step repo inputs rest _ _ _ h₄ ?_
      rintro w' ⟨⟩ hvm
      exact inputsOn_unmanaged hvm h₁
    · exact chooseLoop_unmanaged step repo inputs rest _ _ _ h₄ hinv

/-- The output loop of `createContainer` mounts a volume at each output's `artifactsPath` on a
worker with a volume manager, and nothing on a worker without one. -/
theorem createOutputMounts_requested (step : TaskStep) (w : Worker) :
    ∀ (outputs : List TaskOutputConfig) {t : List TaskEvent} {outputMounts : List VolumeMount},
      Path (createOutputMounts step w outputs).run t (.ok outputMounts) →
      if w.volumeManager then
        outputMounts.map (·.mountPath) = outputs.map (artifactsPath · step.artifactsRoot)
      else outputMounts = []
  | [], _, _, h => by
    obtain ⟨-, ⟨⟩⟩ := path_exceptPure.1 h
    split_ifs <;> rfl
  | output :: rest, t, outputMounts, h => by
    by_cases hvm : w.volumeManager
    · rw [createOutputMounts, if_neg (by simp [hvm])] at h
      rcases path_exceptBind.1 h with ⟨e, -, ⟨⟩⟩ | ⟨t₁, t₂, v, rfl, -, h₂⟩
      rcases path_exceptBind.1 h₂ with ⟨e, -, ⟨⟩⟩ | ⟨t₃, t₄, mounts, rfl, h₃, h₄⟩
      obtain ⟨-, ⟨⟩⟩ := path_exceptPure.1 h₄
      have ih := createOutputMounts_requested step w rest h₃
      rw [if_pos hvm] at ih ⊢
      simp [ih]
    · rw [createOutputMounts, if_pos (by simp [hvm])] at h
      obtain ⟨-, ⟨⟩⟩ := path_exceptPure.1 h
      rw [if_neg hvm]

/-- **The mounts of every container `createContainer` asks for.** Each worker asked is asked
for the output mounts at the outputs' paths when it has a volume manager, and for no mounts when
it has none.

**Proof sketch.** One round at a time (`createContainer_round`): the chosen worker without a
volume manager holds no input mounts (`chooseLoop_unmanaged`), the output loop mounts as
`createOutputMounts_requested` says, and the image part keeps both (`containerImage_mounts`). -/
theorem createContainer_requests_mounts (step : TaskStep) (repo : SourceRepository)
    (config : TaskConfig) :
    ∀ (ws : List Worker) {t : List TaskEvent} {r : Except TaskError (Container × List InputPair)},
      Path (createContainer step repo config ws).run t r →
      ∀ a ∈ createContainerCalls t,
        RequestedMounts step config a.1.volumeManager a.2.1.inputs a.2.1.outputs
  | ws, t, r, h => by
    rcases createContainer_round h with ⟨hc, -⟩ |
      ⟨w, hw, im, its, om, res, spec, x, t₁, t₂, t₃, t₄, rfl, hc, h₁, h₂, h₃, hok, herr, -⟩
    · simp [hc]
    rw [hc]
    refine List.forall_mem_cons.2 ⟨?_, ?_⟩
    · obtain ⟨hi, ho⟩ := containerImage_mounts h₃
      have hom := createOutputMounts_requested step w config.outputs h₂
      show RequestedMounts step config w.volumeManager spec.inputs spec.outputs
      rw [hi, ho, RequestedMounts]
      cases hvm : w.volumeManager
      · rw [if_neg (by simp [hvm])] at hom
        exact ⟨chooseLoop_unmanaged step repo config.inputs _ _ _ _ h₁ (fun _ h => nomatch h)
          ⟨w, hw⟩ rfl hvm, hom⟩
      · rwa [if_pos hvm] at hom
    · rcases x with msg | c
      · rcases herr msg rfl with ⟨-, rfl, -⟩ | ⟨-, h₄⟩
        · simp [createContainerCalls]
        · exact createContainer_requests_mounts step repo config _ h₄
      · simp [(hok c rfl).1]
termination_by ws => ws.length
decreasing_by exact length_filter_ne_lt hw

/-! ### What a run registers -/

section Run

variable {step : TaskStep} {config : TaskConfig} {c : Container} {st : StepState}
  {t : List TaskEvent} {st' : StepState}

theorem waitForProcess_ok {process : Process}
    (h : Path (waitForProcess step config c process st) t (.ok (), st')) :
    st'.container = st.container ∧ st'.repo = registerSource step config c st.repo := by
  rcases path_waitForProcess.1 h with ⟨-, ⟨⟩, -⟩ | ⟨_, _, -, -, rfl⟩ | ⟨_, -, ⟨⟩, -⟩
  exact ⟨rfl, rfl⟩

/-- **A run that returns nil registers its container's outputs**, with the config it fetched
first: the container it recovered from, re-attached to, or created. -/
theorem run_ok_registers (h : Path (run step st) t (.ok (), st')) :
    ∃ config c, t.head? = some ⟨.fetchConfig, .ok config⟩ ∧ st'.container = some c ∧
      st'.repo = registerSource step config c st.repo := by
  rcases path_run.1 h with ⟨_, -, ⟨⟩, -⟩ | ⟨config, c, t', rfl, h'⟩ | ⟨config, x, t', -, rfl, h'⟩
  · refine ⟨config, c, rfl, ?_⟩
    rcases path_recoverOrAttach.1 h' with ⟨_, -, ⟨_, -, ⟨⟩, -⟩ | ⟨_, -, -, rfl⟩⟩ |
      ⟨_, _, -, ⟨⟩, -⟩ | ⟨_, _, _, -, ⟨⟩, -⟩ | ⟨_, _, _, _, -, hw⟩
    · exact ⟨rfl, rfl⟩
    · exact waitForProcess_ok hw
  · rcases path_startProcess.1 h' with ⟨_, -, ⟨⟩, -⟩ | ⟨_, _, _, -, -, ⟨⟩, -⟩ |
      ⟨_, _, _, _, _, _, -, -, -, ⟨⟩, -⟩ | ⟨_, _, c, _, _, _, _, -, -, -, hw⟩
    exact ⟨config, c, rfl, waitForProcess_ok hw⟩

end Run

/-- **Every declared output is bound.** After a run that returns nil, with the config `config`
it fetched and the container `c` it ends with: for any request `createContainer` makes for
`config` whose mounts `c` reports, the step's own name is bound to its working directory when
`config` declares no outputs, and otherwise every output's name is bound to the output (the
last one of that name): with the handle of an output volume at its `artifactsPath` when the
worker asked has a volume manager, and with the empty handle when it has none. -/
theorem run_binds_declared_outputs (step : TaskStep) (st : StepState) {t : List TaskEvent}
    {st' : StepState} (h : Path (run step st) t (.ok (), st')) :
    ∃ config c, t.head? = some ⟨.fetchConfig, .ok config⟩ ∧ st'.container = some c ∧
      ∀ (repo : SourceRepository) (ws : List Worker) t' r' (w : Worker) (spec : TaskContainerSpec) x,
        Path (createContainer step repo config ws).run t' r' → (w, spec, x) ∈ createContainerCalls t' →
        c.volumeMounts = spec.inputs ++ spec.outputs →
        (config.outputs = [] →
          st'.repo.sourceFor step.sourceName = some (.taskStep c step.artifactsRoot)) ∧
        ∀ o ∈ config.outputs, ∃ o' ∈ config.outputs, o'.name = o.name ∧ ∃ handle,
          st'.repo.sourceFor o.name = some (.containerSource step.artifactsRoot c o' handle) ∧
          if w.volumeManager then
            ∃ m ∈ spec.outputs, m.mountPath = artifactsPath o' step.artifactsRoot ∧
              handle = m.volume.handle
          else handle = "" := by
  obtain ⟨config, c, hhead, hc, hrepo⟩ := run_ok_registers h
  refine ⟨config, c, hhead, hc, fun repo ws t' r' w spec x hcc hmem hmounts => ?_⟩
  rw [hrepo]
  exact sourceFor_registerSource_requested hmounts
    (createContainer_requests_mounts step repo config ws hcc _ hmem) st.repo

/-- The calls of a new session on `sessionWorker` whose process exits with `status`, where
`FindContainerForIdentifier` replies `find`. -/
def sessionTrace (find : Except String (Option Container)) (status : GoInt) : List TaskEvent :=
  [⟨.fetchConfig, .ok sessionConfig⟩, ⟨.findContainerForIdentifier, find⟩,
    ⟨.allSatisfying (taskWorkerSpec sessionStep sessionConfig), .ok [sessionWorker]⟩,
    ⟨.createContainer sessionWorker sessionSpec, .ok sessionContainer⟩,
    ⟨.streamIn sessionContainer "/tmp/build/task", .ok ()⟩,
    ⟨.run sessionContainer sessionProcessSpec, .ok ⟨"process"⟩⟩,
    ⟨.setProperty sessionContainer taskProcessPropertyName "process", .ok ()⟩,
    ⟨.wait ⟨"process"⟩, .exited status⟩,
    ⟨.setProperty sessionContainer taskExitStatusPropertyName (sprintfD status.val), .ok ()⟩]

/-- A new session on `sessionWorker` whose process exits with `status`, and whose exit status
is written to the container. -/
theorem session_path (repo : SourceRepository) {find : Except String (Option Container)}
    (hfind : ∀ c, find ≠ .ok (some c)) (status : GoInt) :
    Path (run sessionStep (StepState.init repo)) (sessionTrace find status)
      (.ok (), ⟨registerSource sessionStep sessionConfig sessionContainer repo,
        some sessionContainer, status⟩) :=
  path_run.2 (.inr (.inr ⟨sessionConfig, find, _, hfind, rfl,
    path_startProcess.2 (.inr (.inr (.inr ⟨[sessionWorker], _, sessionContainer, [], _,
      ⟨"process"⟩, _, rfl, sessionPlacement_path repo, sessionProcess_path,
      path_waitForProcess.2 (.inr (.inl ⟨status, .ok (), rfl, rfl, rfl⟩))⟩)))⟩))

theorem session_binds_task_source : ∃ t st,
    Path (run sessionStep (StepState.init ⟨[]⟩)) t (.ok (), st) ∧
      st.repo.sourceFor sessionStep.sourceName =
        some (.taskStep sessionContainer sessionStep.artifactsRoot) := by
  have h := session_path ⟨[]⟩
    (show ∀ c, (.ok none : Except String (Option Container)) ≠ .ok (some c) from nofun) 0
  obtain ⟨config, c, hhead, hc, hall⟩ := run_binds_declared_outputs _ _ h
  obtain ⟨⟩ := hhead
  obtain ⟨⟩ := hc
  exact ⟨_, _, h, (hall _ _ _ _ _ _ _ (sessionPlacement_path ⟨[]⟩) (List.mem_singleton_self _)
    rfl).1 rfl⟩

end Atc.Exec
