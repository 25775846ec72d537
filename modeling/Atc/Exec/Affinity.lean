import Atc.Exec.CreateContainer

/-!
# Volume affinity of container placement

What `inputsOn` and `chooseWorkerWithMostVolumes` compute when the workers' volume managers
answer `LookupVolume` by a fixed layout: a volume (or none) per worker and handle. Under such
answers `inputsOn` splits the declared inputs of a task into those with a volume on the worker
(mounted at their `inputDestination`) and those to be streamed, and the loop of
`chooseWorkerWithMostVolumes` holds, after each worker, one of the workers seen so far with the
most volumes. Every round of `createContainer` then asks a worker with the most volumes among
those not asked yet, with exactly that worker's volumes as the container's inputs.

## Main definitions

* `Atc.Exec.HonestLayout` — the volume managers answer by a layout.
* `Atc.Exec.inputMountsOn`, `Atc.Exec.inputsToStreamOn`, `Atc.Exec.missingInputNames`,
  `Atc.Exec.volumeCount` — what `inputsOn` returns on a worker under a layout.

## Main results

* `Atc.Exec.inputsOn_honest` — `inputsOn` under a layout.
* `Atc.Exec.chooseWorkerWithMostVolumes_honest` — the chosen worker has the most volumes.
* `Atc.Exec.createContainer_prefers_most_volumes` — every worker asked has the most volumes
  among the workers not asked before it, and its container mounts its own volumes.
-/

namespace Atc.Exec

/-! ### The answers of the volume managers -/

/-- The volume with a handle on a worker's volume manager, if it has one. -/
abbrev Layout := Worker → String → Option Volume

/-- Every `LookupVolume` is answered by `layout`. -/
def HonestLayout (layout : Layout) : TaskEvent → Prop
  | ⟨.lookupVolume w handle, x⟩ => x = .ok (layout w handle)
  | _ => True

theorem honestLayout_total (layout : Layout) (q : TaskReq) : ∃ x, HonestLayout layout ⟨q, x⟩ := by
  cases q with
  | lookupVolume w handle => exact ⟨.ok (layout w handle), rfl⟩
  | wait => exact ⟨.signalled, trivial⟩
  | _ => exact ⟨default, trivial⟩

section Layout

variable (layout : Layout)

/-- The volume `VolumeOn` reports for a source on `w`. -/
def ArtifactSource.volumeIn (w : Worker) : ArtifactSource → Option Volume
  | .taskStep .. => none
  | .containerSource _ _ _ volumeHandle =>
    if volumeHandle.length > 0 ∧ w.volumeManager then layout w volumeHandle else none

/-- The volume on `w` of the source an input names, if the repository has one. -/
def inputVolume (repo : SourceRepository) (w : Worker) (input : TaskInputConfig) : Option Volume :=
  (repo.sourceFor input.name).bind (·.volumeIn layout w)

/-- The number of declared inputs whose source reports a volume on `w`. -/
def volumeCount (repo : SourceRepository) (inputs : List TaskInputConfig) (w : Worker) : Nat :=
  (inputs.filter fun i => (inputVolume layout repo w i).isSome).length

/-- The mounts `inputsOn` returns on `w`: each volume at the destination of its input. -/
def inputMountsOn (step : TaskStep) (repo : SourceRepository) (inputs : List TaskInputConfig)
    (w : Worker) : List VolumeMount :=
  inputs.filterMap fun i => (inputVolume layout repo w i).map (⟨·, inputDestination step i⟩)

/-- The inputs `inputsOn` leaves to be streamed on `w`, with their sources. -/
def inputsToStreamOn (repo : SourceRepository) (inputs : List TaskInputConfig) (w : Worker) :
    List InputPair :=
  inputs.filterMap fun i => (repo.sourceFor i.name).bind fun s =>
    if (s.volumeIn layout w).isSome then none else some ⟨i, s⟩

/-- The names of the declared inputs missing from the repository, in order. -/
def missingInputNames (repo : SourceRepository) (inputs : List TaskInputConfig) : List String :=
  (inputs.filter fun i => (repo.sourceFor i.name).isNone).map (·.name)

theorem length_inputMountsOn (step : TaskStep) (repo : SourceRepository)
    (inputs : List TaskInputConfig) (w : Worker) :
    (inputMountsOn layout step repo inputs w).length = volumeCount layout repo inputs w := by
  simp [inputMountsOn, volumeCount, List.length_filterMap_eq_countP, List.countP_eq_length_filter]

variable {layout}

open Prog in
theorem volumeOn_honest (w : Worker) (source : ArtifactSource) {t : List TaskEvent}
    {r : Except TaskError (Option Volume)} (h : Path (remote (source.volumeOn w)).run t r)
    (ht : ∀ e ∈ t, HonestLayout layout e) : r = .ok (source.volumeIn layout w) := by
  obtain ⟨x, hx, rfl⟩ := path_remote.1 h
  cases source with
  | taskStep => obtain ⟨-, rfl⟩ := path_ret.1 hx; rfl
  | containerSource _ _ _ handle =>
    simp only [ArtifactSource.volumeOn, ArtifactSource.volumeIn] at hx ⊢
    split_ifs at hx ⊢
    · rw [path_query] at hx
      subst hx
      simp only [List.mem_singleton, forall_eq, HonestLayout] at ht
      rw [ht]; rfl
    · obtain ⟨-, rfl⟩ := path_ret.1 hx; rfl

open Prog in
/-- The loop of `inputsOn` under a layout, with its accumulators. -/
theorem inputsOnLoop_honest (step : TaskStep) (repo : SourceRepository) (w : Worker) :
    ∀ (inputs : List TaskInputConfig) mounts inputPairs missing {t : List TaskEvent} {r},
      Path (inputsOnLoop step repo w inputs mounts inputPairs missing).run t r →
      (∀ e ∈ t, HonestLayout layout e) →
      r = .ok (mounts ++ inputMountsOn layout step repo inputs w,
        inputPairs ++ inputsToStreamOn layout repo inputs w,
        missing ++ missingInputNames repo inputs)
  | [], _, _, _, _, _, h, _ => by
    obtain ⟨-, rfl⟩ := path_exceptPure.1 h
    simp [inputMountsOn, inputsToStreamOn, missingInputNames]
  | input :: rest, mounts, inputPairs, missing, t, r, h, ht => by
    simp only [inputsOnLoop] at h
    cases hs : repo.sourceFor input.name with
    | none =>
      simp only [hs] at h
      rw [inputsOnLoop_honest step repo w rest _ _ _ h ht]
      simp [inputMountsOn, inputsToStreamOn, missingInputNames, inputVolume, hs]
    | some s =>
      simp only [hs] at h
      obtain ⟨t₁, t₂, rfl, -, h₂⟩ := path_exceptBind_ok (fun _ _ h ht => volumeOn_honest w s h ht) h ht
      have ht₂ : ∀ e ∈ t₂, HonestLayout layout e := fun e he => ht e (List.mem_append_right _ he)
      cases hv : s.volumeIn layout w with
      | none =>
        simp only [hv] at h₂
        rw [inputsOnLoop_honest step repo w rest _ _ _ h₂ ht₂]
        simp [inputMountsOn, inputsToStreamOn, missingInputNames, inputVolume, hs, hv]
      | some v =>
        simp only [hv] at h₂
        rw [inputsOnLoop_honest step repo w rest _ _ _ h₂ ht₂]
        simp [inputMountsOn, inputsToStreamOn, missingInputNames, inputVolume, hs, hv]

open Prog in
/-- **`inputsOn` under a layout.** It fails with the names of the missing inputs when there
are any, and otherwise returns the mounts and the inputs to stream on `w`. -/
theorem inputsOn_honest (step : TaskStep) (repo : SourceRepository)
    (inputs : List TaskInputConfig) (w : Worker) {t : List TaskEvent} {r}
    (h : Path (inputsOn step repo inputs w).run t r) (ht : ∀ e ∈ t, HonestLayout layout e) :
    r = if missingInputNames repo inputs = [] then
      .ok (inputMountsOn layout step repo inputs w, inputsToStreamOn layout repo inputs w)
    else .error (.missingInputs (missingInputNames repo inputs)) := by
  obtain ⟨t₁, t₂, rfl, -, h₂⟩ :=
    path_exceptBind_ok (fun _ _ h ht => inputsOnLoop_honest step repo w inputs [] [] [] h ht) h ht
  dsimp only [List.nil_append] at h₂
  by_cases hm : missingInputNames repo inputs = []
  · rw [if_pos hm]
    rw [if_neg (by simp [hm])] at h₂
    exact (path_exceptPure.1 h₂).2
  · rw [if_neg hm]
    rw [if_pos (List.length_pos.2 hm)] at h₂
    exact (path_throw.1 h₂).2

/-! ### The worker with the most volumes -/

open Prog in
/-- **The loop of `chooseWorkerWithMostVolumes`.** When it succeeds, it holds either a worker
of the list with the most volumes among them, and at least as many as the mounts held before,
or, when every worker of the list has fewer volumes than those, what it held before. -/
theorem chooseLoop_honest (step : TaskStep) (repo : SourceRepository)
    (inputs : List TaskInputConfig) {ws : List Worker} :
    ∀ (l : List {w // w ∈ ws}) chosen (inputMounts : List VolumeMount) inputsToStream
      {t : List TaskEvent} {res},
      Path (chooseLoop step repo inputs l chosen inputMounts inputsToStream).run t (.ok res) →
      (∀ e ∈ t, HonestLayout layout e) →
      (∃ w ∈ l, res = (some w, inputMountsOn layout step repo inputs w.1,
          inputsToStreamOn layout repo inputs w.1) ∧
        inputMounts.length ≤ volumeCount layout repo inputs w.1 ∧
        ∀ w' ∈ l, volumeCount layout repo inputs w'.1 ≤ volumeCount layout repo inputs w.1) ∨
      (res = (chosen, inputMounts, inputsToStream) ∧
        ∀ w' ∈ l, volumeCount layout repo inputs w'.1 < inputMounts.length)
  | [], chosen, inputMounts, inputsToStream, t, res, h, _ => by
    obtain ⟨-, ⟨⟩⟩ := path_exceptPure.1 h
    exact .inr ⟨rfl, nofun⟩
  | w :: rest, chosen, inputMounts, inputsToStream, t, res, h, ht => by
    rcases path_exceptBind.1 h with ⟨e, -, ⟨⟩⟩ | ⟨t₁, t₂, ⟨mounts, toStream⟩, rfl, h₁, h₂⟩
    have ht₂ : ∀ e ∈ t₂, HonestLayout layout e := fun e he => ht e (List.mem_append_right _ he)
    have hw := inputsOn_honest step repo inputs w.1 h₁ fun e he => ht e (List.mem_append_left _ he)
    split_ifs at hw with hm
    obtain ⟨⟩ := hw
    have hcount := length_inputMountsOn layout step repo inputs w.1
    dsimp only at h₂
    split_ifs at h₂ with hge
    · obtain ⟨t₃, t₄, _, rfl, -, h₄⟩ := path_effect_bind.1 h₂
      rcases chooseLoop_honest step repo inputs rest _ _ _ h₄
          fun e he => ht₂ e (List.mem_append_right _ he) with
        ⟨w', hw', rfl, hle, hmax⟩ | ⟨rfl, hlt⟩
      · exact .inl ⟨w', List.mem_cons_of_mem _ hw', rfl, by omega,
          List.forall_mem_cons.2 ⟨by omega, hmax⟩⟩
      · exact .inl ⟨w, List.mem_cons_self _ _, rfl, by omega,
          List.forall_mem_cons.2 ⟨le_rfl, fun w' hw' => by have := hlt w' hw'; omega⟩⟩
    · obtain ⟨t₃, t₄, _, rfl, -, h₄⟩ := path_effect_bind.1 h₂
      rcases chooseLoop_honest step repo inputs rest _ _ _ h₄
          fun e he => ht₂ e (List.mem_append_right _ he) with
        ⟨w', hw', rfl, hle, hmax⟩ | ⟨rfl, hlt⟩
      · exact .inl ⟨w', List.mem_cons_of_mem _ hw', rfl, hle,
          List.forall_mem_cons.2 ⟨by omega, hmax⟩⟩
      · exact .inr ⟨rfl, List.forall_mem_cons.2 ⟨by rw [← hcount]; omega, hlt⟩⟩

open Prog in
/-- **Volume affinity.** The worker `chooseWorkerWithMostVolumes` chooses has the most volumes
among the compatible workers, and the mounts and inputs to stream it returns are that worker's.
-/
theorem chooseWorkerWithMostVolumes_honest (step : TaskStep) (repo : SourceRepository)
    {ws : List Worker} (inputs : List TaskInputConfig) {t : List TaskEvent} {w : Worker}
    {hw : w ∈ ws} {inputMounts : List VolumeMount} {inputsToStream : List InputPair}
    (h : Path (chooseWorkerWithMostVolumes step repo ws inputs).run t
      (.ok (some ⟨w, hw⟩, inputMounts, inputsToStream)))
    (ht : ∀ e ∈ t, HonestLayout layout e) :
    inputMounts = inputMountsOn layout step repo inputs w ∧
    inputsToStream = inputsToStreamOn layout repo inputs w ∧
    ∀ w' ∈ ws, volumeCount layout repo inputs w' ≤ volumeCount layout repo inputs w := by
  rcases chooseLoop_honest step repo inputs _ _ _ _ h ht with ⟨w', -, he, -, hmax⟩ | ⟨⟨⟩, -⟩
  obtain ⟨⟨⟩, rfl, rfl⟩ := Prod.mk.inj_iff.1 he |>.imp_right Prod.mk.inj_iff.1 |>.imp_left
    (Option.some.inj ·)
  exact ⟨rfl, rfl, fun w' hw' => hmax ⟨w', hw'⟩ (List.mem_attach _ _)⟩

/-! ### The rounds -/

open Prog in
/-- Every round asks a worker with the most volumes among those of the list not asked before,
with that worker's volumes as the container's inputs.

**Proof sketch.** Strong induction on the list, one round at a time (`createContainer_round`):
the round's worker has the most volumes of the list (`chooseWorkerWithMostVolumes_honest`),
and a worker not asked before a later round is one of the list the later rounds run on. -/
theorem createContainer_affinity (step : TaskStep) (repo : SourceRepository)
    (config : TaskConfig) :
    ∀ (ws : List Worker) {t : List TaskEvent} {r : Except TaskError (Container × List InputPair)},
      Path (createContainer step repo config ws).run t r → (∀ e ∈ t, HonestLayout layout e) →
      (∀ pre a post, createContainerCalls t = pre ++ a :: post → ∀ w' ∈ ws, w' ∉ pre.map (·.1) →
        volumeCount layout repo config.inputs w' ≤ volumeCount layout repo config.inputs a.1) ∧
      ∀ a ∈ createContainerCalls t, a.2.1.inputs = inputMountsOn layout step repo config.inputs a.1
  | ws, t, r, h, ht => by
    rcases createContainer_round h with ⟨hc, -⟩ |
      ⟨w, hw, im, its, om, res, spec, x, t₁, t₂, t₃, t₄, rfl, hc, h₁, -, h₃, hok, herr, -⟩
    · rw [hc]
      exact ⟨fun _ _ _ h => (List.cons_ne_nil _ _ (List.append_eq_nil.1 h.symm).2).elim,
        fun _ h => absurd h (List.not_mem_nil _)⟩
    obtain ⟨rfl, -, hmax⟩ :=
      chooseWorkerWithMostVolumes_honest step repo config.inputs h₁ fun e he => ht e (by simp [he])
    have hspec := (containerImage_mounts h₃).1
    have hrest : (∀ pre a post, createContainerCalls t₄ = pre ++ a :: post →
        ∀ w' ∈ ws.filter (· != w), w' ∉ pre.map (·.1) →
          volumeCount layout repo config.inputs w' ≤ volumeCount layout repo config.inputs a.1) ∧
        ∀ a ∈ createContainerCalls t₄,
          a.2.1.inputs = inputMountsOn layout step repo config.inputs a.1 := by
      have hnext : createContainerCalls t₄ = [] ∨
          Path (createContainer step repo config (ws.filter (· != w))).run t₄ r := by
        rcases x with msg | c
        · rcases herr msg rfl with ⟨-, rfl, -⟩ | ⟨-, h₄⟩
          exacts [.inl rfl, .inr h₄]
        · exact .inl (hok c rfl).1
      rcases hnext with hnil | h₄
      · rw [hnil]
        exact ⟨fun _ _ _ h => (List.cons_ne_nil _ _ (List.append_eq_nil.1 h.symm).2).elim,
          fun _ h => absurd h (List.not_mem_nil _)⟩
      · exact createContainer_affinity step repo config _ h₄ fun e he => ht e (by simp [he])
    rw [hc]
    refine ⟨fun pre a post hsplit w' hw' hpre => ?_, List.forall_mem_cons.2 ⟨hspec, hrest.2⟩⟩
    rcases pre with _ | ⟨b, pre⟩
    · obtain ⟨rfl, -⟩ := List.cons.inj hsplit
      exact hmax w' hw'
    · rw [List.cons_append, List.cons.injEq] at hsplit
      obtain ⟨rfl, hsplit⟩ := hsplit
      simp only [List.map_cons, List.mem_cons, not_or] at hpre
      exact hrest.1 pre a post hsplit w' (by simp [hw', hpre.1]) hpre.2
termination_by ws => ws.length
decreasing_by exact length_filter_ne_lt hw

open Prog in
/-- **Volume affinity of `createContainer`.** When the volume managers answer by a layout, each
worker asked for the container has the most volumes among the compatible workers not asked
before it: the first among all of them, and each later one no more than any before it. The
container spec it is asked with mounts exactly its own volumes, each at the destination of its
input. -/
theorem createContainer_prefers_most_volumes (step : TaskStep) (repo : SourceRepository)
    (config : TaskConfig) (layout : Layout) (ws : List Worker) :
    (∃ t r, Path (createContainer step repo config ws).run t r ∧
      ∀ e ∈ t, HonestLayout layout e) ∧
    ∀ t r, Path (createContainer step repo config ws).run t r → (∀ e ∈ t, HonestLayout layout e) →
      (∀ pre a post, createContainerCalls t = pre ++ a :: post →
        (∀ w' ∈ ws, w' ∉ pre.map (·.1) →
          volumeCount layout repo config.inputs w' ≤ volumeCount layout repo config.inputs a.1) ∧
        ∀ b ∈ post,
          volumeCount layout repo config.inputs b.1 ≤ volumeCount layout repo config.inputs a.1) ∧
      ∀ a ∈ createContainerCalls t, a.2.1.inputs = inputMountsOn layout step repo config.inputs a.1 := by
  refine ⟨exists_path (fun q x => HonestLayout layout ⟨q, x⟩) (honestLayout_total layout) _,
    fun t r h ht => ?_⟩
  have haff := createContainer_affinity step repo config ws h ht
  have hnd := (createContainer_attempts step repo config ws h).nodup
  refine ⟨fun pre a post hsplit => ⟨haff.1 pre a post hsplit, fun b hb => ?_⟩, haff.2⟩
  have hdisj := hnd.2
  rw [hsplit, List.map_append, List.nodup_append] at hdisj
  exact haff.1 pre a post hsplit b.1 (hnd.1 b (by simp [hsplit, hb]))
    fun hm => hdisj.2.2 hm (List.mem_map_of_mem _ (List.mem_cons_of_mem _ hb))

end Layout

end Atc.Exec
