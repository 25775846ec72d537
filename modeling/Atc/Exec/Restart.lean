import Atc.Exec.Outputs

/-!
# Restarts of `Run`

A step is restarted when the process that ran it stops: a new `TaskStep` with the same container
identifier runs `Run` again. The runs of one step share the pool and the containers, and `Run`
decides what to do from what they report: a container found for the identifier is recovered from
or re-attached to, and without one a new session creates a container and starts the process.
`Run` does not tell "there is none" from a failed call: a failed `FindContainerForIdentifier`
starts a new session, and a failed read of the exit-status property re-attaches to the process.

A history of restarts is a list of runs, each cut off after any of its calls or run to its end.
A `World` is what the pool and the containers hold for the identifier: the container reported
for it, and the properties set on every container. The calls that create a container or set a
property change it, and `World.Reports` says that the replies of a trace report it: the
identifier's lookup and the reads of properties do not fail.

## Main definitions

* `Atc.Exec.Restarts` — the runs of a restarted step.
* `Atc.Exec.World`, `Atc.Exec.World.Reports` — the world the runs share, and replies that
  report it.
* `Atc.Exec.createdContainers`, `Atc.Exec.processStarts` — the containers a trace created and
  the processes it asked to start.

## Main results

* `Atc.Exec.run_with_container`, `Atc.Exec.run_with_exit_status`,
  `Atc.Exec.run_without_container` — what a run does, from the world it finds.
* `Atc.Exec.restarts_create_once` — when the world is reported, the runs of a restarted step
  create at most one container and start at most one process, and once the container carries
  the exit status every later run only reads it.
* `Atc.Exec.run_wrote` — a successful write of the exit status is the last call of its run,
  right after `Wait`, and writes the decimal text of the status `Wait` reported.
* `Atc.Exec.restart_after_failed_lookup` — a failed `FindContainerForIdentifier` after the step
  finished creates a second container and starts the process again.
* `Atc.Exec.rerun_recovers_result` — when the world is reported, a later run that finds the
  container only reads its exit status, returns nil, and leaves the result, the release and the
  bindings the run that wrote it left.
* `Atc.Exec.rerun_attaches_after_failed_read` — a later run whose read of the exit status fails
  re-attaches to the process.

## Implementation notes

The world records only what `Run` reads back: the container the identifier reports and the
properties of containers; a container created is new and carries none. `World.Reports` is the
assumption the restart results need: `Run` takes a failed lookup for "no container" and a failed
read for "no exit status", and `restart_after_failed_lookup` and
`rerun_attaches_after_failed_read` show what each failure does.
-/

namespace Atc.Exec

open Prog Atc.Go

/-! ### Containers created and processes started -/

/-- The container a `CreateContainer` call created, if it created one. -/
def createdContainer : TaskEvent → Option Container
  | ⟨.createContainer _ _, .ok c⟩ => some c
  | _ => none

/-- The containers a trace created, in order. -/
def createdContainers (t : List TaskEvent) : List Container :=
  t.filterMap createdContainer

/-- The process a `container.Run` call asked for: the container and the spec. -/
def processStart : TaskEvent → Option (Container × ProcessSpec)
  | ⟨.run c spec, _⟩ => some (c, spec)
  | _ => none

/-- The processes a trace asked to start, in order. -/
def processStarts (t : List TaskEvent) : List (Container × ProcessSpec) :=
  t.filterMap processStart

@[simp] theorem createdContainers_nil : createdContainers [] = [] := rfl

@[simp] theorem processStarts_nil : processStarts [] = [] := rfl

@[simp] theorem createdContainers_append (t₁ t₂ : List TaskEvent) :
    createdContainers (t₁ ++ t₂) = createdContainers t₁ ++ createdContainers t₂ :=
  List.filterMap_append _ _ _

@[simp] theorem processStarts_append (t₁ t₂ : List TaskEvent) :
    processStarts (t₁ ++ t₂) = processStarts t₁ ++ processStarts t₂ :=
  List.filterMap_append _ _ _

theorem createdContainers_eq_filterMap (t : List TaskEvent) :
    createdContainers t = (createContainerCalls t).filterMap fun a => a.2.2.toOption := by
  rw [createdContainers, createContainerCalls, List.filterMap_filterMap]
  congr 1
  funext e
  rcases e with ⟨q, x⟩
  cases q <;> try rfl
  cases x <;> rfl

theorem createdContainers_eq_nil {t : List TaskEvent}
    (h : ∀ e ∈ t, e.1.isCreateContainer = false) : createdContainers t = [] :=
  List.filterMap_eq_nil_iff.2 fun e he => by
    rcases e with ⟨q, x⟩
    cases q <;> first | rfl | cases h _ he

theorem processStarts_eq_nil {t : List TaskEvent} (h : ∀ e ∈ t, e.1.isRun = false) :
    processStarts t = [] :=
  List.filterMap_eq_nil_iff.2 fun e he => by
    rcases e with ⟨q, x⟩
    cases q <;> first | rfl | cases h _ he

/-- A program that creates no container and starts no process. -/
abbrev Quiet {α : Type} (p : TaskProg α) : Prop :=
  Calls (fun q => q.isCreateContainer = false ∧ q.isRun = false) p

theorem Quiet.path {α : Type} {p : TaskProg α} (hp : Quiet p) {t : List TaskEvent} {a : α}
    (h : Path p t a) : createdContainers t = [] ∧ processStarts t = [] :=
  ⟨createdContainers_eq_nil fun e he => (Calls.path hp h e he).1,
    processStarts_eq_nil fun e he => (Calls.path hp h e he).2⟩

/-! ### The parts of `Run` -/

section Parts

variable {step : TaskStep} {config : TaskConfig} {c : Container} {st st' : StepState}
  {t : List TaskEvent}

theorem Attempts.created_le_one {ws : List Worker}
    {l : List (Worker × TaskContainerSpec × Except String Container)}
    {r : Except TaskError (Container × List InputPair)} (h : Attempts ws l r) :
    (l.filterMap fun a => a.2.2.toOption).length ≤ 1 ∧
      ∀ c its, r = .ok (c, its) → (l.filterMap fun a => a.2.2.toOption).length = 1 := by
  induction h with
  | stop => exact ⟨Nat.zero_le _, fun _ _ h => nomatch h⟩
  | created => exact ⟨le_rfl, fun _ _ _ => rfl⟩
  | exhausted => exact ⟨Nat.zero_le _, fun _ _ h => nomatch h⟩
  | retry _ _ _ ih => exact ih

/-- A run of `createContainer` creates at most one container, and one when it returns it. -/
theorem createContainer_created {repo : SourceRepository} {ws : List Worker}
    {r : Except TaskError (Container × List InputPair)}
    (h : Path (createContainer step repo config ws).run t r) :
    (createdContainers t).length ≤ 1 ∧
      ∀ c its, r = .ok (c, its) → (createdContainers t).length = 1 := by
  rw [createdContainers_eq_filterMap]
  exact (createContainer_attempts step repo config ws h).created_le_one

theorem processStarts_createContainer {repo : SourceRepository} {ws : List Worker}
    {r : Except TaskError (Container × List InputPair)}
    (h : Path (createContainer step repo config ws).run t r) : processStarts t = [] :=
  processStarts_eq_nil fun e he => by
    have hq := (placementOrCreate_createContainer step repo config ws).path h e he
    rcases e with ⟨q, x⟩
    cases q <;> first | rfl | (rcases hq with hq | hq <;> cases hq)

/-- The calls that stream into or out of a container: the whole setup of a container, before
its process. -/
def TaskReq.isStream : TaskReq → Bool
  | .streamIn .. | .streamOut .. => true
  | _ => false

/-- The calls that tell how the process ended: `Wait`, and the write of the exit status. -/
def TaskReq.isOutcome : TaskReq → Bool
  | .wait _ => true
  | .setProperty _ name _ => decide (name = taskExitStatusPropertyName)
  | _ => false

/-- A program that only streams. -/
abbrev Streams {α : Type} (p : TaskProg α) : Prop :=
  Calls (fun q => q.isStream = true) p

/-- A program that neither waits for the process nor writes its exit status. -/
abbrev NoOutcome {α : Type} (p : TaskProg α) : Prop :=
  Calls (fun q => q.isOutcome = false) p

theorem Streams.quiet {α : Type} {p : TaskProg α} (hp : Streams p) : Quiet p :=
  Calls.mono (fun q hq => by cases q <;> first | exact ⟨rfl, rfl⟩ | cases hq) hp

theorem Streams.noOutcome {α : Type} {p : TaskProg α} (hp : Streams p) : NoOutcome p :=
  Calls.mono (fun q hq => by cases q <;> first | rfl | cases hq) hp

theorem streams_streamTo (dest : ContainerDestination) (source : ArtifactSource) :
    Streams (source.streamTo dest).run := by
  cases source <;>
  exact Calls.exceptBind (Calls.bind ⟨rfl, fun _ => trivial⟩ fun _ => trivial)
    fun _ => Calls.bind ⟨rfl, fun _ => trivial⟩ fun _ => trivial

theorem streams_streamInputs (step : TaskStep) (c : Container) :
    ∀ inputPairs, Streams (streamInputs step c inputPairs).run
  | [] => trivial
  | _ :: rest => Calls.exceptBind (streams_streamTo _ _) fun _ => streams_streamInputs step c rest

theorem streams_createContainerDir (c : Container) (dir : String) :
    Streams (createContainerDir c dir).run :=
  Calls.bind ⟨rfl, fun _ => trivial⟩ fun _ => trivial

theorem streams_setupOutputs (step : TaskStep) (c : Container) :
    ∀ outputs, Streams (setupOutputs step c outputs).run
  | [] => trivial
  | _ :: rest =>
    Calls.exceptBind (streams_createContainerDir c _) fun _ => streams_setupOutputs step c rest

/-- Placement neither waits nor writes the exit status. -/
theorem noOutcome_createContainer (step : TaskStep) (repo : SourceRepository) (config : TaskConfig)
    (ws : List Worker) : NoOutcome (createContainer step repo config ws).run :=
  (placementOrCreate_createContainer step repo config ws).mono fun q hq => by
    cases q <;> first | rfl | (rcases hq with hq | hq <;> cases hq)

/-- The setup of a new session neither waits nor writes the exit status: the property it writes
is the process ID. -/
theorem noOutcome_runProcess (step : TaskStep) (config : TaskConfig) (c : Container)
    (its : List InputPair) : NoOutcome (runProcess step config c its).run :=
  Calls.exceptBind (streams_createContainerDir c _).noOutcome fun _ =>
    Calls.exceptBind (streams_streamInputs step c its).noOutcome fun _ =>
      Calls.exceptBind (streams_setupOutputs step c _).noOutcome fun _ =>
        Calls.exceptBind (Calls.bind ⟨rfl, fun _ => trivial⟩ fun _ => trivial) fun _ =>
          Calls.exceptBind (Calls.bind ⟨rfl, fun _ => trivial⟩ fun _ => trivial) fun _ => trivial

/-- A bind whose first part creates no container and starts no process. -/
theorem counts_quiet_bind {α β : Type} {x : ExceptT TaskError TaskProg α}
    {f : α → ExceptT TaskError TaskProg β} (hx : Quiet x.run) {n : Nat}
    (hf : ∀ a t r, Path (f a).run t r → createdContainers t = [] ∧ (processStarts t).length ≤ n)
    {r : Except TaskError β} (h : Path (x >>= f).run t r) :
    createdContainers t = [] ∧ (processStarts t).length ≤ n := by
  rcases path_exceptBind.1 h with ⟨e, he, -⟩ | ⟨t₁, t₂, a, rfl, h₁, h₂⟩
  · obtain ⟨h₁, h₂⟩ := hx.path he
    simp [h₁, h₂]
  · obtain ⟨h₁, h₁'⟩ := hx.path h₁
    obtain ⟨h₂, h₂'⟩ := hf a _ _ h₂
    simpa [h₁, h₁', h₂] using h₂'

/-- The setup of a new session starts the process once, and creates no container. -/
theorem runProcess_counts {its : List InputPair} {r : Except TaskError Process}
    (h : Path (runProcess step config c its).run t r) :
    createdContainers t = [] ∧ (processStarts t).length ≤ 1 := by
  refine counts_quiet_bind (streams_createContainerDir c _).quiet (fun _ _ _ h => ?_) h
  refine counts_quiet_bind (streams_streamInputs step c its).quiet (fun _ _ _ h => ?_) h
  refine counts_quiet_bind (streams_setupOutputs step c _).quiet (fun _ _ _ h => ?_) h
  rcases path_exceptBind.1 h with ⟨e, he, -⟩ | ⟨t₁, t₂, p, rfl, h₁, h₂⟩
  · obtain ⟨x, hx, -⟩ := path_remote.1 he
    obtain rfl := path_query.1 hx
    exact ⟨rfl, le_of_eq rfl⟩
  obtain ⟨x, hx, -⟩ := path_remote.1 h₁
  obtain rfl := path_query.1 hx
  rcases path_exceptBind.1 h₂ with ⟨e, he, -⟩ | ⟨t₃, t₄, _, rfl, h₃, h₄⟩
  · obtain ⟨y, hy, -⟩ := path_remote.1 he
    obtain rfl := path_query.1 hy
    exact ⟨rfl, le_of_eq rfl⟩
  · obtain ⟨y, hy, -⟩ := path_remote.1 h₃
    obtain rfl := path_query.1 hy
    obtain ⟨rfl, -⟩ := path_exceptPure.1 h₄
    exact ⟨rfl, le_of_eq rfl⟩

theorem waitForProcess_quiet {process : Process} {r : Except TaskError Unit}
    (h : Path (waitForProcess step config c process st) t (r, st')) :
    createdContainers t = [] ∧ processStarts t = [] := by
  rcases path_waitForProcess.1 h with ⟨rfl, -, -⟩ | ⟨_, _, rfl, -, -⟩ | ⟨_, rfl, -, -⟩ <;>
    exact ⟨rfl, rfl⟩

end Parts

/-! ### The world the runs share -/

/-- What the pool and the containers hold for the step's identifier: the container
`FindContainerForIdentifier` reports, and the properties set on every container. -/
structure World where
  container : Option Container
  props : Container → String → Option String

/-- The world after a call: a container created is the one the identifier reports, with no
properties yet, and a property set is stored. -/
def World.after (W : World) : TaskEvent → World
  | ⟨.createContainer _ _, .ok c⟩ =>
    ⟨some c, fun c' name => if c' = c then none else W.props c' name⟩
  | ⟨.setProperty c name v, .ok _⟩ =>
    ⟨W.container, fun c' name' => if c' = c ∧ name' = name then some v else W.props c' name'⟩
  | _ => W

/-- A fresh pool: no container for the identifier, and no properties. -/
def World.init : World :=
  ⟨none, fun _ _ => none⟩

/-- The world after a trace. -/
def World.afterTrace (W : World) (t : List TaskEvent) : World :=
  t.foldl World.after W

/-- Replies that report the world: `FindContainerForIdentifier` returns the world's container,
and `Property` the value set, failing exactly when none is set. -/
def World.answers (W : World) : TaskEvent → Prop
  | ⟨.findContainerForIdentifier, x⟩ => x = .ok W.container
  | ⟨.property c name, x⟩ => x.toOption = W.props c name
  | _ => True

/-- The replies of a trace report the world, from `W` on. -/
abbrev World.Reports (W : World) (t : List TaskEvent) : Prop :=
  Allowed World.answers World.after W t

namespace World

@[simp] theorem afterTrace_nil (W : World) : W.afterTrace [] = W := rfl

@[simp] theorem afterTrace_cons (W : World) (e : TaskEvent) (t : List TaskEvent) :
    W.afterTrace (e :: t) = (W.after e).afterTrace t := rfl

theorem afterTrace_append (W : World) (t₁ t₂ : List TaskEvent) :
    W.afterTrace (t₁ ++ t₂) = (W.afterTrace t₁).afterTrace t₂ :=
  List.foldl_append _ _ _ _

theorem reports_append {W : World} {t₁ t₂ : List TaskEvent} :
    W.Reports (t₁ ++ t₂) ↔ W.Reports t₁ ∧ (W.afterTrace t₁).Reports t₂ :=
  allowed_append

/-- Every call has a reply that reports the world. -/
theorem answers_total (W : World) (q : TaskReq) : ∃ x, W.answers ⟨q, x⟩ := by
  cases q with
  | findContainerForIdentifier => exact ⟨.ok W.container, rfl⟩
  | property c name =>
    cases h : W.props c name with
    | none => exact ⟨.error "", h.symm⟩
    | some v => exact ⟨.ok v, h.symm⟩
  | wait => exact ⟨.signalled, trivial⟩
  | _ => exact ⟨default, trivial⟩

theorem container_after (W : World) (e : TaskEvent) :
    (W.after e).container = (createdContainer e).or W.container := by
  rcases e with ⟨q, x⟩
  cases q <;> try rfl
  all_goals cases x <;> rfl

/-- A trace that creates no container leaves the identifier's container as it is. -/
theorem container_afterTrace_of_nil {W : World} :
    ∀ {t : List TaskEvent}, createdContainers t = [] → (W.afterTrace t).container = W.container
  | [], _ => rfl
  | e :: t, h => by
    have he : createdContainer e = none := by
      cases hc : createdContainer e
      · rfl
      · simp [createdContainers, List.filterMap_cons, hc] at h
    rw [afterTrace_cons, container_afterTrace_of_nil (List.filterMap_eq_nil_iff.2 fun e' he' =>
      List.filterMap_eq_nil_iff.1 h e' (List.mem_cons_of_mem _ he')), container_after, he]
    rfl

/-- Once the identifier reports a container, it reports one for good. -/
theorem isSome_container_afterTrace {W : World} (hW : W.container.isSome) :
    ∀ t : List TaskEvent, (W.afterTrace t).container.isSome
  | [] => hW
  | e :: t => by
    rw [afterTrace_cons]
    refine isSome_container_afterTrace ?_ t
    rw [container_after]
    cases createdContainer e <;> simp [hW]

/-- A trace that creates a container leaves the identifier reporting one. -/
theorem isSome_container_of_created {W : World} :
    ∀ {t : List TaskEvent}, createdContainers t ≠ [] → (W.afterTrace t).container.isSome
  | [], h => absurd rfl h
  | e :: t, h => by
    rw [afterTrace_cons]
    cases hc : createdContainer e with
    | none =>
      refine isSome_container_of_created fun h' => h ?_
      rw [createdContainers, List.filterMap_cons_none hc]
      exact h'
    | some c =>
      refine isSome_container_afterTrace ?_ t
      rw [container_after, hc]
      rfl

/-- A container carries the value last set on it. -/
theorem props_afterTrace_set (W : World) (u : List TaskEvent) (e : TaskEvent) {C : Container}
    {name v : String} {x : Unit} :
    (W.afterTrace (u ++ [e, ⟨.setProperty C name v, .ok x⟩])).props C name = some v := by
  rw [afterTrace_append]
  exact if_pos ⟨rfl, rfl⟩

/-- `Run` first fetches the config and looks the identifier up, which changes nothing. -/
theorem reports_find {W : World} {x : Except String TaskConfig}
    {y : Except String (Option Container)} {t : List TaskEvent}
    (h : W.Reports (⟨.fetchConfig, x⟩ :: ⟨.findContainerForIdentifier, y⟩ :: t)) :
    y = .ok W.container ∧ W.Reports t :=
  ⟨h.2.1, h.2.2⟩

end World

/-! ### A run, from the world it finds -/

/-- A call that creates no container, starts no process, and sets properties of `c` only. -/
def TaskReq.StaysOn (c : Container) (q : TaskReq) : Prop :=
  q.isCreateContainer = false ∧ q.isRun = false ∧ ∀ c' name v, q = .setProperty c' name v → c' = c

/-- The calls of a run that recovers the exit status of `c`: fetch the config, look the
identifier up, read the exit-status property of `c`. -/
def TaskReq.IsRecovery (c : Container) (q : TaskReq) : Prop :=
  q = .fetchConfig ∨ q = .findContainerForIdentifier ∨ q = .property c taskExitStatusPropertyName

section Run

variable {step : TaskStep} {config : TaskConfig} {c : Container} {st st' : StepState}
  {t : List TaskEvent} {r : Except TaskError Unit}

theorem staysOn_waitForProcess (step : TaskStep) (config : TaskConfig) (c : Container)
    (process : Process) (st : StepState) :
    Calls (TaskReq.StaysOn c) (waitForProcess step config c process st) :=
  Calls.bind ⟨⟨rfl, rfl, fun _ _ _ h => nomatch h⟩, fun _ => trivial⟩ fun
    | .signalled =>
      Calls.bind ⟨⟨rfl, rfl, fun _ _ _ h => nomatch h⟩, fun _ => trivial⟩ fun _ => trivial
    | .exited _ => Calls.bind ⟨⟨rfl, rfl, fun _ _ _ h => by cases h; rfl⟩, fun _ => trivial⟩ fun
      | .ok _ => trivial
      | .error _ => trivial
    | .failed _ => trivial

/-- Recovering or re-attaching creates no container, starts no process, and sets properties of
the container found only. -/
theorem staysOn_recoverOrAttach (step : TaskStep) (config : TaskConfig) (c : Container)
    (st : StepState) : Calls (TaskReq.StaysOn c) (recoverOrAttach step config c st) :=
  Calls.bind ⟨⟨rfl, rfl, fun _ _ _ h => nomatch h⟩, fun _ => trivial⟩ fun
    | .ok v => by dsimp only; cases sscanfD v <;> trivial
    | .error _ => Calls.bind ⟨⟨rfl, rfl, fun _ _ _ h => nomatch h⟩, fun _ => trivial⟩ fun
      | .error _ => trivial
      | .ok _ => Calls.bind ⟨⟨rfl, rfl, fun _ _ _ h => nomatch h⟩, fun _ => trivial⟩ fun
        | .error _ => trivial
        | .ok process => staysOn_waitForProcess step config c process st

/-- **A run in a world with a container** creates no container, starts no process, and sets
properties of that container only. -/
theorem run_with_container {W : World} {C : Container} (h : Path (run step st) t (r, st'))
    (hW : W.Reports t) (hC : W.container = some C) : ∀ e ∈ t, e.1.StaysOn C := by
  rcases path_run.1 h with ⟨_, rfl, -, -⟩ | ⟨config, c, t', rfl, h'⟩ | ⟨config, x, t', hx, rfl, -⟩
  · exact List.forall_mem_singleton.2 ⟨rfl, rfl, fun _ _ _ h => nomatch h⟩
  · obtain ⟨hc, -⟩ := World.reports_find hW
    rw [hC] at hc
    cases hc
    exact List.forall_mem_cons.2 ⟨⟨rfl, rfl, fun _ _ _ h => nomatch h⟩, List.forall_mem_cons.2
      ⟨⟨rfl, rfl, fun _ _ _ h => nomatch h⟩, (staysOn_recoverOrAttach _ _ _ _).path h'⟩⟩
  · exact absurd ((World.reports_find hW).1.trans (by rw [hC])) (hx C)

/-- **A run in a world whose container carries the exit status** only fetches the config, looks
the identifier up and reads the exit status. -/
theorem run_with_exit_status {W : World} {C : Container} {v : String}
    (h : Path (run step st) t (r, st')) (hW : W.Reports t) (hC : W.container = some C)
    (hv : W.props C taskExitStatusPropertyName = some v) : ∀ e ∈ t, e.1.IsRecovery C := by
  rcases path_run.1 h with ⟨_, rfl, -, -⟩ | ⟨config, c, t', rfl, h'⟩ | ⟨config, x, t', hx, rfl, -⟩
  · exact List.forall_mem_singleton.2 (.inl rfl)
  · obtain ⟨hc, hW'⟩ := World.reports_find hW
    rw [hC] at hc
    cases hc
    refine List.forall_mem_cons.2 ⟨.inl rfl, List.forall_mem_cons.2 ⟨.inr (.inl rfl), ?_⟩⟩
    rcases path_recoverOrAttach.1 h' with ⟨_, rfl, -⟩ | ⟨_, _, rfl, -, -⟩ | ⟨_, _, _, rfl, -, -⟩ |
      ⟨_, _, _, _, rfl, -⟩
    · exact List.forall_mem_singleton.2 (.inr (.inr rfl))
    all_goals exact absurd (hW'.1.trans hv) (by simp [Except.toOption])
  · exact absurd ((World.reports_find hW).1.trans (by rw [hC])) (hx C)

/-- A new session starts a process only after creating a container: it is a part that starts no
process and creates at most one container, followed by a part that creates none and starts no
more processes than the first part created containers. -/
theorem startProcess_counts (h : Path (startProcess step config st) t (r, st')) :
    ∃ a b, t = a ++ b ∧ processStarts a = [] ∧ createdContainers b = [] ∧
      (createdContainers a).length ≤ 1 ∧
      (processStarts b).length ≤ (createdContainers a).length := by
  rcases path_startProcess.1 h with ⟨_, rfl, -, -⟩ | ⟨ws, t₁, e, rfl, h₁, -, -⟩ |
    ⟨ws, t₁, c, its, t₂, e, rfl, h₁, h₂, -, -⟩ | ⟨ws, t₁, c, its, t₂, p, t₃, rfl, h₁, h₂, h₃⟩
  · exact ⟨_, [], (List.append_nil _).symm, rfl, rfl, Nat.zero_le 1, le_refl _⟩
  all_goals
    have hs : ∀ u, processStarts (⟨.allSatisfying (taskWorkerSpec step config), .ok ws⟩ :: u) =
      processStarts u := fun _ => rfl
    have hc : ∀ u, createdContainers (⟨.allSatisfying (taskWorkerSpec step config), .ok ws⟩ :: u) =
      createdContainers u := fun _ => rfl
  · exact ⟨_, [], (List.append_nil _).symm, (hs t₁).trans (processStarts_createContainer h₁), rfl,
      (hc t₁).symm ▸ (createContainer_created h₁).1, Nat.zero_le _⟩
  · have hcreated := (createContainer_created h₁).2 c its rfl
    exact ⟨_, t₂, rfl, (hs t₁).trans (processStarts_createContainer h₁), (runProcess_counts h₂).1,
      (hc t₁).symm ▸ hcreated.le, (hc t₁).symm ▸ hcreated ▸ (runProcess_counts h₂).2⟩
  · have hcreated := (createContainer_created h₁).2 c its rfl
    obtain ⟨hc₃, hs₃⟩ := waitForProcess_quiet h₃
    refine ⟨_, t₂ ++ t₃, by simp, (hs t₁).trans (processStarts_createContainer h₁), ?_,
      (hc t₁).symm ▸ hcreated.le, ?_⟩
    · simp [(runProcess_counts h₂).1, hc₃]
    · simpa [hs₃, hc, hcreated] using (runProcess_counts h₂).2

/-- **A run in a world without a container** starts a process only after creating one, as a new
session does (`startProcess_counts`). -/
theorem run_without_container {W : World} (h : Path (run step st) t (r, st')) (hW : W.Reports t)
    (hC : W.container = none) :
    ∃ a b, t = a ++ b ∧ processStarts a = [] ∧ createdContainers b = [] ∧
      (createdContainers a).length ≤ 1 ∧
      (processStarts b).length ≤ (createdContainers a).length := by
  rcases path_run.1 h with ⟨_, rfl, -, -⟩ | ⟨config, c, t', rfl, -⟩ | ⟨config, x, t', -, rfl, h'⟩
  · exact ⟨_, [], (List.append_nil _).symm, rfl, rfl, Nat.zero_le 1, le_refl _⟩
  · obtain ⟨hc, -⟩ := World.reports_find hW
    rw [hC] at hc
    cases hc
  · obtain ⟨a, b, rfl, hs, hc, hca, hsb⟩ := startProcess_counts h'
    exact ⟨_ :: _ :: a, b, rfl, hs, hc, hca, hsb⟩

end Run

namespace World

theorem after_of_recovery {C : Container} {e : TaskEvent} (h : e.1.IsRecovery C) (W : World) :
    W.after e = W := by
  rcases e with ⟨q, x⟩
  rcases h with rfl | rfl | rfl <;> rfl

/-- Fetching the config, looking the identifier up and reading properties change nothing. -/
theorem afterTrace_of_recovery {C : Container} (W : World) :
    ∀ {t : List TaskEvent}, (∀ e ∈ t, e.1.IsRecovery C) → W.afterTrace t = W
  | [], _ => rfl
  | e :: t, h => by
    rw [afterTrace_cons, after_of_recovery (h e (List.mem_cons_self _ _)),
      afterTrace_of_recovery W fun e he => h e (List.mem_cons_of_mem _ he)]

theorem props_after_of_staysOn {C c : Container} {e : TaskEvent} (h : e.1.StaysOn C) (hc : c ≠ C)
    (W : World) : (W.after e).props c = W.props c := by
  rcases e with ⟨q, x⟩
  cases q with
  | createContainer => cases h.1
  | setProperty c' name v =>
    obtain rfl := h.2.2 _ _ _ rfl
    cases x with
    | error => rfl
    | ok => exact funext fun _ => if_neg fun h' => hc h'.1
  | _ => rfl

/-- Calls that stay on `C` leave the properties of every other container as they are. -/
theorem props_afterTrace_of_staysOn {C c : Container} (hc : c ≠ C) :
    ∀ (W : World) {t : List TaskEvent}, (∀ e ∈ t, e.1.StaysOn C) →
      (W.afterTrace t).props c = W.props c
  | _, [], _ => rfl
  | W, e :: t, h => by
    rw [afterTrace_cons, props_afterTrace_of_staysOn hc _ fun e he => h e (List.mem_cons_of_mem _ he),
      props_after_of_staysOn (h e (List.mem_cons_self _ _)) hc]

end World

/-! ### Runs cut off -/

section Cut

variable {step : TaskStep} {st : StepState} {t : List TaskEvent} {W : World}

theorem cut_with_container {C : Container} (h : Cut (run step st) t) (hW : W.Reports t)
    (hC : W.container = some C) : ∀ e ∈ t, e.1.StaysOn C := by
  obtain ⟨t', ⟨r, st'⟩, hp, hW'⟩ := h.extend World.answers_total hW
  exact fun e he => run_with_container hp hW' hC e (List.mem_append_left _ he)

theorem cut_with_exit_status {C : Container} {v : String} (h : Cut (run step st) t)
    (hW : W.Reports t) (hC : W.container = some C)
    (hv : W.props C taskExitStatusPropertyName = some v) : ∀ e ∈ t, e.1.IsRecovery C := by
  obtain ⟨t', ⟨r, st'⟩, hp, hW'⟩ := h.extend World.answers_total hW
  exact fun e he => run_with_exit_status hp hW' hC hv e (List.mem_append_left _ he)

theorem cut_without_container (h : Cut (run step st) t) (hW : W.Reports t)
    (hC : W.container = none) :
    ∃ a b, t = a ++ b ∧ processStarts a = [] ∧ createdContainers b = [] ∧
      (createdContainers a).length ≤ 1 ∧
      (processStarts b).length ≤ (createdContainers a).length := by
  obtain ⟨t', ⟨r, st'⟩, hp, hW'⟩ := h.extend World.answers_total hW
  obtain ⟨a, b, hab, hs, hc, hca, hsb⟩ := run_without_container hp hW' hC
  rcases List.append_eq_append_iff.1 hab with ⟨a', rfl, rfl⟩ | ⟨c', rfl, rfl⟩
  · simp only [processStarts_append, List.append_eq_nil] at hs
    simp only [createdContainers_append, List.length_append] at hca
    exact ⟨t, [], (List.append_nil _).symm, hs.1, rfl, by omega, Nat.zero_le _⟩
  · simp only [createdContainers_append, List.append_eq_nil] at hc
    simp only [processStarts_append, List.length_append] at hsb
    exact ⟨a, c', rfl, hs, hc.1, hca, by omega⟩

end Cut

/-! ### Restarts -/

/-- The runs of a restarted step, in order: each a run of `Run` cut off after any of its calls,
or run to its end. -/
def Restarts (step : TaskStep) (ts : List (List TaskEvent)) : Prop :=
  ∀ t ∈ ts, ∃ st, Cut (run step st) t

theorem Restarts.tail {step : TaskStep} {t : List TaskEvent} {ts : List (List TaskEvent)}
    (h : Restarts step (t :: ts)) : Restarts step ts :=
  fun t' ht' => h t' (List.mem_cons_of_mem _ ht')

/-- From a world the runs report, they start no more processes than they create containers, and
create at most one container, and none when the identifier reports one already.

**Proof sketch.** Induction on the runs. A run that finds a container creates and starts nothing
(`cut_with_container`) and the container stays; a run that finds none starts a process only
after creating a container (`cut_without_container`), after which the identifier reports one. -/
theorem restarts_counts (step : TaskStep) :
    ∀ (ts : List (List TaskEvent)) (W : World), Restarts step ts → W.Reports ts.flatten →
      (processStarts ts.flatten).length ≤ (createdContainers ts.flatten).length ∧
      (createdContainers ts.flatten).length ≤ if W.container.isSome then 0 else 1
  | [], _, _, _ => by simp
  | t :: ts, W, hts, hW => by
    rw [List.flatten_cons, World.reports_append] at hW
    obtain ⟨st, ht⟩ := hts t (List.mem_cons_self _ _)
    have ih := restarts_counts step ts (W.afterTrace t) hts.tail hW.2
    simp only [List.flatten_cons, processStarts_append, createdContainers_append,
      List.length_append]
    cases hC : W.container with
    | some C =>
      have hstay := cut_with_container ht hW.1 hC
      have hc : createdContainers t = [] := createdContainers_eq_nil fun e he => (hstay e he).1
      have hs : processStarts t = [] := processStarts_eq_nil fun e he => (hstay e he).2.1
      rw [World.container_afterTrace_of_nil hc, hC] at ih
      simp only [Option.isSome_some, if_true] at ih ⊢
      simp only [hc, hs, List.length_nil]
      omega
    | none =>
      obtain ⟨a, b, rfl, hs, hc, hca, hsb⟩ := cut_without_container ht hW.1 hC
      simp only [processStarts_append, createdContainers_append, hs, hc, List.length_append,
        List.length_nil, List.append_nil, Option.isSome_none] at ih hsb ⊢
      by_cases hnil : createdContainers a = []
      · rw [World.container_afterTrace_of_nil (by simp [hnil, hc]), hC] at ih
        simp only [hnil, List.length_nil, Option.isSome_none] at ih hsb ⊢
        omega
      · have hsome := @World.isSome_container_of_created W (a ++ b) (by simpa [hc] using hnil)
        rw [if_pos hsome] at ih
        simp only [Bool.false_eq_true, if_false]
        omega

/-- Once the container carries the exit status, the runs only read it, and change nothing. -/
theorem restarts_recover (step : TaskStep) {C : Container} {v : String} :
    ∀ (ts : List (List TaskEvent)) (W : World), Restarts step ts → W.Reports ts.flatten →
      W.container = some C → W.props C taskExitStatusPropertyName = some v →
      ∀ t ∈ ts, ∀ e ∈ t, e.1.IsRecovery C
  | [], _, _, _, _, _ => nofun
  | t :: ts, W, hts, hW, hC, hv => by
    rw [List.flatten_cons, World.reports_append] at hW
    obtain ⟨st, ht⟩ := hts t (List.mem_cons_self _ _)
    have hrec := cut_with_exit_status ht hW.1 hC hv
    rw [World.afterTrace_of_recovery W hrec] at hW
    exact List.forall_mem_cons.2 ⟨hrec, restarts_recover step ts W hts.tail hW.2 hC hv⟩

/-- The calls of a run that finds `sessionContainer` and recovers `status` from it. -/
def recoveryTrace (status : GoInt) : List TaskEvent :=
  [⟨.fetchConfig, .ok sessionConfig⟩, ⟨.findContainerForIdentifier, .ok (some sessionContainer)⟩,
    ⟨.property sessionContainer taskExitStatusPropertyName, .ok (sprintfD status.val)⟩]

theorem recovery_path (st : StepState) (status : GoInt) :
    Path (run sessionStep st) (recoveryTrace status)
      (.ok (), ⟨registerSource sessionStep sessionConfig sessionContainer st.repo,
        some sessionContainer, status⟩) :=
  path_run.2 (.inr (.inl ⟨sessionConfig, sessionContainer, _, rfl,
    path_recoverOrAttach.2 (.inl ⟨_, rfl, .inr ⟨status, sscanfD_sprintfD status, rfl, rfl⟩⟩)⟩))

/-- A new session whose process exits with 0, then a restart that recovers the status. -/
theorem session_then_recovery_restarts :
    Restarts sessionStep [sessionTrace (.ok none) 0, recoveryTrace 0] := by
  intro t ht
  simp only [List.mem_cons, List.mem_singleton, List.not_mem_nil, or_false] at ht
  rcases ht with rfl | rfl
  · exact ⟨_, (session_path ⟨[]⟩ (show ∀ c, (.ok none : Except String (Option Container)) ≠
      .ok (some c) from nofun) 0).cut⟩
  · exact ⟨_, (recovery_path (StepState.init ⟨[]⟩) 0).cut⟩

/-- A fresh pool reports the replies of the session and of the restart. -/
theorem session_then_recovery_reported :
    World.init.Reports (sessionTrace (.ok none) 0 ++ recoveryTrace 0) :=
  ⟨trivial, rfl, trivial, trivial, trivial, trivial, trivial, trivial, trivial, trivial, rfl, rfl,
    trivial⟩

/-- **Restarts create one container and start one process.** When the identifier's lookup and
the reads of properties report the world, the runs of a restarted step, each cut off anywhere,
create at most one container and ask at most once to start the process; and once the
container carries the exit status, every later run only fetches the config, looks the
identifier up and reads the exit status: it creates no container, starts or re-attaches to no
process, and writes no property. -/
theorem restarts_create_once (step : TaskStep) (W : World) (ts : List (List TaskEvent))
    (hts : Restarts step ts) (hW : W.Reports ts.flatten) :
    (createdContainers ts.flatten).length ≤ 1 ∧ (processStarts ts.flatten).length ≤ 1 ∧
    ∀ pre t post, ts = pre ++ t :: post → ∀ C v,
      (W.afterTrace pre.flatten).container = some C →
      (W.afterTrace pre.flatten).props C taskExitStatusPropertyName = some v →
      ∀ t' ∈ t :: post, ∀ e ∈ t', e.1.IsRecovery C := by
  obtain ⟨hs, hc⟩ := restarts_counts step ts W hts hW
  have hc₁ : (createdContainers ts.flatten).length ≤ 1 := hc.trans (by split_ifs <;> omega)
  refine ⟨hc₁, hs.trans hc₁, fun pre t post hsplit C v hC hv => ?_⟩
  subst hsplit
  rw [List.flatten_append, World.reports_append] at hW
  exact restarts_recover step (t :: post) _ (fun t' h => hts t' (List.mem_append_right _ h)) hW.2
    hC hv

theorem session_restarts_create_once :
    Restarts sessionStep [sessionTrace (.ok none) 0, recoveryTrace 0] ∧
      World.init.Reports [sessionTrace (.ok none) 0, recoveryTrace 0].flatten ∧
      (createdContainers [sessionTrace (.ok none) 0, recoveryTrace 0].flatten).length ≤ 1 ∧
      (processStarts [sessionTrace (.ok none) 0, recoveryTrace 0].flatten).length ≤ 1 :=
  have h := restarts_create_once sessionStep World.init _ session_then_recovery_restarts
    session_then_recovery_reported
  ⟨session_then_recovery_restarts, session_then_recovery_reported, h.1, h.2.1⟩

/-- **A failed lookup after the step finished starts it again.** A new session runs to its end
and writes the exit status 0 to its container; the step is restarted and its
`FindContainerForIdentifier` fails. The restarted run takes the failure for "no container": it
creates a second container, starts the process a second time, and writes the exit status
again. -/
theorem restart_after_failed_lookup :
    Restarts sessionStep [sessionTrace (.ok none) 0, sessionTrace (.error "lookup failed") 0] ∧
      createdContainers [sessionTrace (.ok none) 0, sessionTrace (.error "lookup failed") 0].flatten =
        [sessionContainer, sessionContainer] ∧
      processStarts [sessionTrace (.ok none) 0, sessionTrace (.error "lookup failed") 0].flatten =
        [(sessionContainer, sessionProcessSpec), (sessionContainer, sessionProcessSpec)] ∧
      ⟨.setProperty sessionContainer taskExitStatusPropertyName (sprintfD 0), .ok ()⟩ ∈
        sessionTrace (.ok none) 0 ∧
      ⟨.setProperty sessionContainer taskExitStatusPropertyName (sprintfD 0), .ok ()⟩ ∈
        sessionTrace (.error "lookup failed") 0 := by
  refine ⟨fun t ht => ?_, rfl, rfl, by simp [sessionTrace], by simp [sessionTrace]⟩
  simp only [List.mem_cons, List.mem_singleton, List.not_mem_nil, or_false] at ht
  rcases ht with rfl | rfl
  · exact ⟨_, (session_path ⟨[]⟩ (show ∀ c, (.ok none : Except String (Option Container)) ≠
      .ok (some c) from nofun) 0).cut⟩
  · exact ⟨_, (session_path ⟨[]⟩ (show ∀ c, (.error "lookup failed" :
      Except String (Option Container)) ≠ .ok (some c) from nofun) 0).cut⟩

/-! ### The exit status written, and read back -/

section Recover

variable {step : TaskStep} {config : TaskConfig} {c : Container} {st st' : StepState}
  {t : List TaskEvent} {r : Except TaskError Unit}

theorem waitForProcess_wrote {process : Process} {C : Container} {v : String}
    (h : Path (waitForProcess step config c process st) t (r, st'))
    (hw : ⟨.setProperty C taskExitStatusPropertyName v, .ok ()⟩ ∈ t) :
    ∃ s, t = [⟨.wait process, .exited s⟩, ⟨.setProperty C taskExitStatusPropertyName v, .ok ()⟩] ∧
      C = c ∧ v = sprintfD s.val ∧ r = .ok () ∧ st'.container = st.container ∧
      st'.exitStatus = s := by
  rcases path_waitForProcess.1 h with ⟨rfl, -, -⟩ | ⟨s, x, rfl, rfl, rfl⟩ | ⟨_, rfl, -, -⟩
  · simp only [List.mem_cons, List.mem_singleton, List.not_mem_nil, or_false] at hw
    rcases hw with hw | hw <;> cases hw
  · simp only [List.mem_cons, List.mem_singleton, List.not_mem_nil, or_false] at hw
    rcases hw with hw | hw <;> cases hw
    exact ⟨_, rfl, rfl, rfl, rfl, rfl, rfl⟩
  · simp only [List.mem_singleton] at hw
    cases hw

/-- Calls that neither wait nor write the exit status, checked one by one. -/
theorem noOutcome_of_all {u : List TaskEvent} (h : (u.all fun e => !e.1.isOutcome) = true) :
    ∀ e ∈ u, e.1.isOutcome = false :=
  fun e he => by simpa using List.all_eq_true.1 h e he

/-- A write of the exit status is none of the calls that neither wait nor write it. -/
theorem exitWrite_not_mem {C : Container} {v : String} {u : List TaskEvent}
    (hu : ∀ e ∈ u, e.1.isOutcome = false) :
    (⟨.setProperty C taskExitStatusPropertyName v, .ok ()⟩ : TaskEvent) ∉ u :=
  fun h => absurd (hu _ h) (by simp [TaskReq.isOutcome])

/-- The calls before `waitForProcess` neither wait nor write the exit status, so a write of the
exit status in a run is the one `waitForProcess` makes, right after `Wait`. -/
theorem wrote_of_waitForProcess (u : List TaskEvent) {process : Process} {C : Container}
    {v : String} (hu : ∀ e ∈ u, e.1.isOutcome = false) (hc : st.container = some c)
    (h : Path (waitForProcess step config c process st) t (r, st'))
    (hw : ⟨.setProperty C taskExitStatusPropertyName v, .ok ()⟩ ∈ u ++ t) :
    ∃ s, t = [⟨.wait process, .exited s⟩, ⟨.setProperty C taskExitStatusPropertyName v, .ok ()⟩] ∧
      v = sprintfD s.val ∧ r = .ok () ∧ st'.container = some C ∧ st'.exitStatus = s := by
  rcases List.mem_append.1 hw with hw | hw
  · exact absurd hw (exitWrite_not_mem hu)
  obtain ⟨s, rfl, rfl, rfl, rfl, hst, hs⟩ := waitForProcess_wrote h hw
  exact ⟨s, rfl, rfl, rfl, hst.trans hc, hs⟩

/-- **The write of the exit status ends a run.** A run whose write of the exit status of `C`
succeeded wrote it right after `Wait` reported a status, as its last call, and nothing before
these two calls waits or writes the exit status; the run returns nil, with `C` and that
status, whose decimal text it wrote. -/
theorem run_wrote {C : Container} {v : String} (h : Path (run step st) t (r, st'))
    (hw : ⟨.setProperty C taskExitStatusPropertyName v, .ok ()⟩ ∈ t) :
    ∃ u p s, t = u ++ [⟨.wait p, .exited s⟩, ⟨.setProperty C taskExitStatusPropertyName v, .ok ()⟩] ∧
      (∀ e ∈ u, e.1.isOutcome = false) ∧ v = sprintfD s.val ∧ r = .ok () ∧
      st'.container = some C ∧ st'.exitStatus = s := by
  rcases path_run.1 h with ⟨_, rfl, -, -⟩ | ⟨config, c, t', rfl, h'⟩ | ⟨config, x, t', -, rfl, h'⟩
  · exact absurd hw (exitWrite_not_mem (noOutcome_of_all rfl))
  · rcases path_recoverOrAttach.1 h' with ⟨_, rfl, -⟩ | ⟨_, _, rfl, -, -⟩ | ⟨_, _, _, rfl, -, -⟩ |
      ⟨_, _, _, t_w, rfl, hwait⟩
    iterate 3 exact absurd hw (exitWrite_not_mem (noOutcome_of_all rfl))
    obtain ⟨s, rfl, hv, hr, hC, hs⟩ :=
      wrote_of_waitForProcess [_, _, _, _, _] (by exact noOutcome_of_all rfl) rfl hwait hw
    exact ⟨[_, _, _, _, _], _, s, rfl, noOutcome_of_all rfl, hv, hr, hC, hs⟩
  · -- a new session: fetch, lookup and `AllSatisfying`, then placement and setup
    have hhead : ∀ ws u, (∀ e ∈ u, e.1.isOutcome = false) →
        ∀ e ∈ (⟨.fetchConfig, .ok config⟩ : TaskEvent) :: ⟨.findContainerForIdentifier, x⟩ ::
          ⟨.allSatisfying (taskWorkerSpec step config), ws⟩ :: u, e.1.isOutcome = false :=
      fun _ _ hu => List.forall_mem_cons.2 ⟨rfl, List.forall_mem_cons.2 ⟨rfl,
        List.forall_mem_cons.2 ⟨rfl, hu⟩⟩⟩
    rcases path_startProcess.1 h' with ⟨_, rfl, -, -⟩ | ⟨ws, t₁, _, rfl, h₁, -, -⟩ |
      ⟨ws, t₁, c, its, t₂, _, rfl, h₁, h₂, -, -⟩ | ⟨ws, t₁, c, its, t₂, p, t₃, rfl, h₁, h₂, h₃⟩
    · exact absurd hw (exitWrite_not_mem (noOutcome_of_all rfl))
    · exact absurd hw (exitWrite_not_mem (hhead _ _ ((noOutcome_createContainer _ _ _ _).path h₁)))
    all_goals
      have hu := hhead (.ok ws) _ (List.forall_mem_append.2 ⟨(noOutcome_createContainer _ _ _ _).path h₁,
        (noOutcome_runProcess _ _ _ _).path h₂⟩)
    · exact absurd hw (exitWrite_not_mem hu)
    · obtain ⟨s, rfl, hv, hr, hC, hs⟩ := wrote_of_waitForProcess _ hu rfl h₃ hw
      exact ⟨_, p, s, rfl, hu, hv, hr, hC, hs⟩

/-- A run that returns nil leaves the identifier reporting a container: the one it found, or
the one it created. -/
theorem run_ok_isSome {W : World} (h : Path (run step st) t (.ok (), st')) (hW : W.Reports t) :
    (W.afterTrace t).container.isSome := by
  rcases path_run.1 h with ⟨_, -, ⟨⟩, -⟩ | ⟨config, c, t', rfl, -⟩ | ⟨config, x, t', -, rfl, h'⟩
  · refine World.isSome_container_afterTrace ?_ _
    rw [← Except.ok.inj (World.reports_find hW).1]
    rfl
  · rcases path_startProcess.1 h' with ⟨_, -, ⟨⟩, -⟩ | ⟨_, _, _, -, -, ⟨⟩, -⟩ |
      ⟨_, _, _, _, _, _, -, -, -, ⟨⟩, -⟩ | ⟨ws, t₁, c, its, t₂, p, t₃, rfl, h₁, -, -⟩
    refine World.isSome_container_of_created fun hnil => ?_
    have hlen := (createContainer_created h₁).2 c its rfl
    have hnil' : createdContainers (t₁ ++ t₂ ++ t₃) = [] := hnil
    simp only [createdContainers_append, List.append_eq_nil] at hnil'
    rw [hnil'.1.1] at hlen
    cases hlen

/-- Once the identifier reports a container and a container carries the exit status, a run cut
off anywhere keeps both. -/
theorem cut_keeps_exit_status {W : World} {C : Container} {v : String}
    (h : Cut (run step st) t) (hW : W.Reports t) (hsome : W.container.isSome)
    (hv : W.props C taskExitStatusPropertyName = some v) :
    (W.afterTrace t).container.isSome ∧
      (W.afterTrace t).props C taskExitStatusPropertyName = some v := by
  obtain ⟨C', hC'⟩ := Option.isSome_iff_exists.1 hsome
  refine ⟨World.isSome_container_afterTrace hsome t, ?_⟩
  by_cases hCC : C = C'
  · subst hCC
    rwa [World.afterTrace_of_recovery W (cut_with_exit_status h hW hC' hv)]
  · rwa [World.props_afterTrace_of_staysOn hCC W (cut_with_container h hW hC')]

/-- A run that finds `C` in a world where `C` carries the exit status `v` reads it, and then
returns nil with the status `v` scans to. -/
theorem run_recovers {W : World} {C : Container} {v : String} {rest : List TaskEvent}
    (h : Path (run step st) (⟨.fetchConfig, .ok config⟩ ::
      ⟨.findContainerForIdentifier, .ok (some C)⟩ :: rest) (r, st'))
    (hW : W.Reports (⟨.fetchConfig, .ok config⟩ :: ⟨.findContainerForIdentifier, .ok (some C)⟩ ::
      rest)) (hv : W.props C taskExitStatusPropertyName = some v) :
    rest = [⟨.property C taskExitStatusPropertyName, .ok v⟩] ∧ ∀ s, sscanfD v = .ok s →
      r = .ok () ∧ st'.container = some C ∧ st'.exitStatus = s ∧
        st'.repo = registerSource step config C st.repo := by
  rcases path_run.1 h with ⟨_, ⟨⟩, -, -⟩ | ⟨_, _, _, heq, h'⟩ | ⟨_, _, _, hx, heq, -⟩
  · cases heq
    have hW' := (World.reports_find hW).2
    rcases path_recoverOrAttach.1 h' with ⟨v', rfl, hcase⟩ | ⟨_, _, rfl, -, -⟩ |
      ⟨_, _, _, rfl, -, -⟩ | ⟨_, _, _, _, rfl, -⟩
    · obtain rfl : v' = v := Option.some.inj (hW'.1.trans hv)
      refine ⟨rfl, fun s hs => ?_⟩
      rcases hcase with ⟨_, he, -⟩ | ⟨s', hs', rfl, rfl⟩
      · rw [hs] at he
        cases he
      · rw [hs] at hs'
        cases hs'
        exact ⟨rfl, rfl, rfl, rfl⟩
    all_goals exact absurd (hW'.1.trans hv) (by simp [Except.toOption])
  · cases heq
    exact absurd rfl (hx C)

end Recover

theorem restarts_keep_exit_status (step : TaskStep) {C : Container} {v : String} :
    ∀ (ts : List (List TaskEvent)) (W : World), Restarts step ts → W.Reports ts.flatten →
      W.container.isSome → W.props C taskExitStatusPropertyName = some v →
      (W.afterTrace ts.flatten).container.isSome ∧
        (W.afterTrace ts.flatten).props C taskExitStatusPropertyName = some v
  | [], _, _, _, hs, hv => ⟨hs, hv⟩
  | t :: ts, W, hts, hW, hs, hv => by
    rw [List.flatten_cons, World.reports_append] at hW
    rw [List.flatten_cons, World.afterTrace_append]
    obtain ⟨st, ht⟩ := hts t (List.mem_cons_self _ _)
    obtain ⟨hs', hv'⟩ := cut_keeps_exit_status ht hW.1 hs hv
    exact restarts_keep_exit_status step ts _ hts.tail hW.2 hs' hv'

/-- **A later run recovers the result.** Take a run that fetched `config` and whose `Wait`
reported `E` and whose write of the exit status `v` of `C` succeeded, then any restarts, then a
run that fetches `config` and finds `C`, in a world the lookups and the reads of properties
report. The later run reads the exit status once and returns nil: it creates no container and
starts or attaches to no process. The status written is the decimal text of `E`, and after the
later run `Result` reports `E` and success exactly when `E` is 0, `Release` keeps the container
as the first run did, and both runs registered the sources of `C` for `config`, so each name the
first run bound is bound to the same source after both.

**Proof sketch.** The write ends the first run (`run_wrote`), so after it the identifier reports
a container and `C` carries `v`; restarts keep both (`restarts_keep_exit_status`); the later run
then reads `v` (`run_recovers`), which scans back to `E` (`sscanfD_sprintfD`). -/
theorem rerun_recovers_result (step : TaskStep) (config : TaskConfig) (C : Container) (W : World)
    (mid : List (List TaskEvent)) (hmid : Restarts step mid) {rest₁ rest₂ : List TaskEvent}
    {st₁ st₁' st₂ st₂' : StepState} {r₁ r₂ : Except TaskError Unit}
    (h₁ : Path (run step st₁) (⟨.fetchConfig, .ok config⟩ :: rest₁) (r₁, st₁'))
    (h₂ : Path (run step st₂) (⟨.fetchConfig, .ok config⟩ ::
      ⟨.findContainerForIdentifier, .ok (some C)⟩ :: rest₂) (r₂, st₂'))
    (hW : W.Reports ((⟨.fetchConfig, .ok config⟩ :: rest₁) ++ mid.flatten ++
      (⟨.fetchConfig, .ok config⟩ :: ⟨.findContainerForIdentifier, .ok (some C)⟩ :: rest₂)))
    {p : Process} {E : GoInt} {v : String} (hwait : ⟨.wait p, .exited E⟩ ∈ rest₁)
    (hwrite : ⟨.setProperty C taskExitStatusPropertyName v, .ok ()⟩ ∈ rest₁) :
    v = sprintfD E.val ∧ r₂ = .ok () ∧
      rest₂ = [⟨.property C taskExitStatusPropertyName, .ok v⟩] ∧
      st₂'.resultExitStatus = E ∧ st₂'.resultSuccess = (E.val == 0) ∧
      st₂'.release = st₁'.release ∧
      st₁'.repo = registerSource step config C st₁.repo ∧
      st₂'.repo = registerSource step config C st₂.repo ∧
      ∀ name source, (registerSource step config C ⟨[]⟩).sourceFor name = some source →
        st₁'.repo.sourceFor name = some source ∧ st₂'.repo.sourceFor name = some source := by
  obtain ⟨u, p', s, ht₁, hu, rfl, rfl, hC₁, hs₁⟩ := run_wrote h₁ (List.mem_cons_of_mem _ hwrite)
  -- the status `Wait` reported is the one written
  have hE : E = s := by
    rcases List.mem_append.1 (ht₁ ▸ List.mem_cons_of_mem _ hwait) with hw | hw
    · cases hu _ hw
    · simp only [List.mem_cons, List.mem_singleton, List.not_mem_nil, or_false] at hw
      rcases hw with hw | hw <;> cases hw
      rfl
  subst hE
  obtain ⟨config', c', hhead, hc', hrepo₁⟩ := run_ok_registers h₁
  obtain ⟨⟩ := hhead
  obtain rfl : C = c' := Option.some.inj (hC₁.symm.trans hc')
  -- the world after the first run, after the restarts, and the later run
  rw [World.reports_append, World.reports_append] at hW
  obtain ⟨⟨hW₁, hWmid⟩, hW₂⟩ := hW
  have hv₁ : (W.afterTrace (⟨.fetchConfig, .ok config⟩ :: rest₁)).props C
      taskExitStatusPropertyName = some (sprintfD E.val) := by
    rw [ht₁]
    exact World.props_afterTrace_set W u _
  obtain ⟨-, hv₂⟩ := restarts_keep_exit_status step mid _ hmid hWmid (run_ok_isSome h₁ hW₁) hv₁
  rw [← World.afterTrace_append] at hv₂
  obtain ⟨hrest, hrun⟩ := run_recovers h₂ hW₂ hv₂
  obtain ⟨rfl, hC₂, hs₂, hrepo₂⟩ := hrun E (sscanfD_sprintfD E)
  refine ⟨rfl, rfl, hrest, hs₂, by simp [StepState.resultSuccess, hs₂], ?_, hrepo₁, hrepo₂,
    fun name source hs => ?_⟩
  · simp [StepState.release, hC₁, hs₁, hC₂, hs₂]
  · rw [hrepo₁, hrepo₂, sourceFor_registerSource _ _ _ st₁.repo,
      sourceFor_registerSource _ _ _ st₂.repo, hs]
    exact ⟨rfl, rfl⟩

theorem session_rerun_recovers : ∃ st₁ st₂ : StepState,
    Path (run sessionStep (StepState.init ⟨[]⟩)) (sessionTrace (.ok none) 0) (.ok (), st₁) ∧
      Path (run sessionStep (StepState.init ⟨[]⟩)) (recoveryTrace 0) (.ok (), st₂) ∧
      st₂.resultSuccess = true ∧ st₂.release = st₁.release := by
  have h₁ := session_path ⟨[]⟩
    (show ∀ c, (.ok none : Except String (Option Container)) ≠ .ok (some c) from nofun) 0
  have h₂ := recovery_path (StepState.init ⟨[]⟩) 0
  have h := rerun_recovers_result sessionStep sessionConfig sessionContainer World.init []
    (fun _ h => nomatch h) h₁ h₂ session_then_recovery_reported
    (show (⟨.wait ⟨"process"⟩, .exited 0⟩ : TaskEvent) ∈ (sessionTrace (.ok none) 0).tail by
      simp [sessionTrace])
    (show (⟨.setProperty sessionContainer taskExitStatusPropertyName (sprintfD 0), .ok ()⟩ :
      TaskEvent) ∈ (sessionTrace (.ok none) 0).tail by simp [sessionTrace])
  exact ⟨_, _, h₁, h₂, h.2.2.2.2.1, h.2.2.2.2.2.1⟩

/-- The calls of a run that finds `sessionContainer`, fails to read its exit status, and
re-attaches to its process, which exits with `status`. -/
def reattachTrace (status : GoInt) : List TaskEvent :=
  [⟨.fetchConfig, .ok sessionConfig⟩, ⟨.findContainerForIdentifier, .ok (some sessionContainer)⟩,
    ⟨.property sessionContainer taskExitStatusPropertyName, .error "read failed"⟩,
    ⟨.property sessionContainer taskProcessPropertyName, .ok "process"⟩,
    ⟨.attach sessionContainer "process", .ok ⟨"process"⟩⟩,
    ⟨.wait ⟨"process"⟩, .exited status⟩,
    ⟨.setProperty sessionContainer taskExitStatusPropertyName (sprintfD status.val), .ok ()⟩]

/-- **A failed read of the exit status re-attaches.** After a new session whose process exited
with 0 wrote the exit status, a restart that finds the container but fails to read the property
re-attaches to the process, waits for it again, and writes the exit status again. -/
theorem rerun_attaches_after_failed_read : ∃ st₁ st₂ : StepState,
    Path (run sessionStep (StepState.init ⟨[]⟩)) (sessionTrace (.ok none) 0) (.ok (), st₁) ∧
      Path (run sessionStep (StepState.init ⟨[]⟩)) (reattachTrace 0) (.ok (), st₂) ∧
      ⟨.attach sessionContainer "process", .ok ⟨"process"⟩⟩ ∈ reattachTrace 0 ∧
      ⟨.setProperty sessionContainer taskExitStatusPropertyName (sprintfD 0), .ok ()⟩ ∈
        reattachTrace 0 :=
  ⟨_, _, session_path ⟨[]⟩
      (show ∀ c, (.ok none : Except String (Option Container)) ≠ .ok (some c) from nofun) 0,
    path_run.2 (.inr (.inl ⟨sessionConfig, sessionContainer, _, rfl,
      path_recoverOrAttach.2 (.inr (.inr (.inr ⟨"read failed", "process", ⟨"process"⟩, _, rfl,
        path_waitForProcess.2 (.inr (.inl ⟨0, .ok (), rfl, rfl, rfl⟩))⟩)))⟩)),
    by simp [reattachTrace], by simp [reattachTrace]⟩

end Atc.Exec
