import Atc.Remote.Prog
import Atc.Go.Stdlib

/-!
# The worker pool

`worker/pool.go`. The pool answers two questions for a step: which of the running workers may
host its container (`pool.AllSatisfying`, and `pool.Satisfying`, which picks one of them at
random), and, for a build container, on which worker to find or create it
(`pool.FindOrCreateBuildContainer`). Placement prefers the workers that already hold the most
of the step's inputs as volumes, and falls back from one such worker to the next while they
report that they are full.

The pool's own data (workers, containers, volumes and specs) are the types of the Go package
`worker`, and are shared with the task step. The pool's other operations, and the texts of its
errors, are in `Atc.Worker.Client`.

## Main definitions

* `Atc.Pool.allSatisfying` — `pool.AllSatisfying` once the provider has listed the workers.
* `Atc.Pool.satisfying` — `pool.Satisfying`.
* `Atc.Pool.findOrCreateBuildContainer` — `pool.FindOrCreateBuildContainer`, with its
  counting loop `countLoop` and its fallback loop `findWorkerNotRunningVTXTask`.

## Main results

* `Atc.Pool.allSatisfying_eq` — the closed form of the team-before-general preference.
* `Atc.Pool.countLoop_path` — the counting loop computes, under an honest volume layout, the
  workers grouped by their count of local inputs and the highest count.
* `Atc.Pool.findWorkerNotRunningVTXTask_path` — the fallback loop tries the workers in order
  and stops at the first reply that is not "full".
* `Atc.Pool.findOrCreateBuildContainer_prefers_most_volumes` — only workers with the most
  volumes are asked for a build container, in order, until one is not full.

## Implementation notes

`Worker.Satisfying` is not under `src/`. It is taken as a parameter `satisfies : Worker → Bool`
(its verdict for the spec and resource types at hand); when it succeeds it returns the worker
itself, as the specification of the worker model says.
-/

namespace Atc

open Atc.Go

/-! ### The package's data -/

/-- A volume of a worker's volume manager (`baggageclaim.Volume`), by its handle. -/
structure Volume where
  handle : String
  deriving DecidableEq, Repr, Inhabited

/-- `worker.VolumeMount`: a volume and where it is mounted in a container. -/
structure VolumeMount where
  volume : Volume
  mountPath : String
  deriving DecidableEq, Repr

/-- A container on a worker (`worker.Container`): its handle, and the volume mounts it reports
through `VolumeMounts()`. -/
structure Container where
  handle : String
  volumeMounts : List VolumeMount
  deriving DecidableEq, Repr, Inhabited

/-- A running worker, with what the pool and the task step read of it: whether it is owned by
a team (`IsOwnedByTeam`), and whether it has a volume manager (`VolumeManager`). -/
structure Worker where
  name : String
  ownedByTeam : Bool
  volumeManager : Bool
  deriving DecidableEq, Repr

/-- `worker.WorkerSpec`: what a step asks of the worker that will host it. -/
structure WorkerSpec where
  platform : String
  tags : List String
  resourceType : String
  teamID : Nat
  deriving DecidableEq, Repr

/-- `worker.ContainerSpec`, as far as the pool reads it: the owning team, the worker spec, and
the sources of the step's inputs (each named by the source it streams from). -/
structure ContainerSpec where
  teamID : Nat
  workerSpec : WorkerSpec
  inputs : List String
  deriving DecidableEq, Repr

/-- The errors the pool returns. Errors of the provider and of the workers are passed through
unchanged, as `remote` with their text. -/
inductive PoolError where
  /-- `ErrNoWorkers`. -/
  | noWorkers
  /-- `NoCompatibleWorkersError{Spec, Workers}`. -/
  | noCompatibleWorkers (spec : WorkerSpec) (workers : List Worker)
  /-- `errors.New("failed to create container on all compatible workers")`. -/
  | allWorkersFailed
  /-- An error of a remote call, returned as it came. -/
  | remote (msg : String)
  /-- A Go runtime panic: `rand.Intn` of a non-positive bound. -/
  | panic
  deriving DecidableEq, Repr

/-- The text a worker's error carries when the worker is full. -/
def maxContainersMessage : String :=
  "worker already has the maximum number of active containers"

namespace Pool

open Prog (Event Path)

/-! ### `AllSatisfying` and `Satisfying` -/

section Satisfying

variable (satisfies : Worker → Bool)

/-- The loop of `pool.AllSatisfying`: the satisfying team-owned and general workers, each in
list order. -/
def partitionWorkers (workers : List Worker) : List Worker × List Worker :=
  workers.foldl (fun (acc : List Worker × List Worker) w =>
    if satisfies w then
      if w.ownedByTeam then (acc.1 ++ [w], acc.2) else (acc.1, acc.2 ++ [w])
    else acc) ([], [])

/-- `pool.AllSatisfying` once `provider.RunningWorkers` has answered `running`. -/
def allSatisfying (spec : WorkerSpec) (running : Except String (List Worker)) :
    Except PoolError (List Worker) :=
  match running with
  | .error e => .error (.remote e)
  | .ok workers =>
    if workers.length = 0 then .error .noWorkers
    else
      let (team, general) := partitionWorkers satisfies workers
      if team.length ≠ 0 then .ok team
      else if general.length ≠ 0 then .ok general
      else .error (.noCompatibleWorkers spec workers)

/-- The contract of `rand.Rand.Intn` that `pool.Satisfying` relies on: `Intn(n)` lies in
`[0, n)` for every positive `n` (and panics otherwise). -/
structure Rand where
  intn : Nat → Nat
  intn_lt : ∀ n, 0 < n → intn n < n

/-- `pool.Satisfying`: a random one of the compatible workers. -/
def satisfying (rand : Rand) (spec : WorkerSpec) (running : Except String (List Worker)) :
    Except PoolError Worker :=
  match allSatisfying satisfies spec running with
  | .error e => .error e
  | .ok compatible =>
    if compatible.length ≤ 0 then .error .panic
    else match compatible[rand.intn compatible.length]? with
      | some w => .ok w
      | none => .error .panic

theorem foldl_partition (workers : List Worker) (team general : List Worker) :
    workers.foldl (fun (acc : List Worker × List Worker) w =>
      if satisfies w then
        if w.ownedByTeam then (acc.1 ++ [w], acc.2) else (acc.1, acc.2 ++ [w])
      else acc) (team, general) =
    (team ++ workers.filter (fun w => satisfies w && w.ownedByTeam),
      general ++ workers.filter (fun w => satisfies w && !w.ownedByTeam)) := by
  induction workers generalizing team general with
  | nil => simp
  | cons w ws ih =>
    simp only [List.foldl_cons, List.filter_cons]
    by_cases hs : satisfies w <;> by_cases ht : w.ownedByTeam <;> simp [hs, ht, ih]

theorem partitionWorkers_eq (workers : List Worker) :
    partitionWorkers satisfies workers =
      (workers.filter (fun w => satisfies w && w.ownedByTeam),
        workers.filter (fun w => satisfies w && !w.ownedByTeam)) := by
  simpa using foldl_partition satisfies workers [] []

/-- **Team workers first.** The closed form of `pool.AllSatisfying` on a list of running
workers: no workers is its own error; otherwise the satisfying team-owned workers if there are
any, else the satisfying general workers if there are any, each in list order, else the
no-compatible-workers error with the spec and the full list. -/
theorem allSatisfying_eq (spec : WorkerSpec) (workers : List Worker) :
    allSatisfying satisfies spec (.ok workers) =
      if workers = [] then .error .noWorkers
      else if workers.filter (fun w => satisfies w && w.ownedByTeam) ≠ [] then
        .ok (workers.filter (fun w => satisfies w && w.ownedByTeam))
      else if workers.filter (fun w => satisfies w && !w.ownedByTeam) ≠ [] then
        .ok (workers.filter (fun w => satisfies w && !w.ownedByTeam))
      else .error (.noCompatibleWorkers spec workers) := by
  simp only [allSatisfying, partitionWorkers_eq, ne_eq, List.length_eq_zero]

/-- Every list `pool.AllSatisfying` returns is non-empty. -/
theorem allSatisfying_ne_nil {spec : WorkerSpec} {running : Except String (List Worker)}
    {compatible : List Worker} (h : allSatisfying satisfies spec running = .ok compatible) :
    compatible ≠ [] := by
  cases running with
  | error e => simp [allSatisfying] at h
  | ok workers =>
    rw [allSatisfying_eq] at h
    split_ifs at h <;> cases h <;> assumption

/-- `pool.Satisfying` never panics: its random index is in range, and it returns a member of
what `pool.AllSatisfying` returned. -/
theorem satisfying_mem (rand : Rand) {spec : WorkerSpec} {running : Except String (List Worker)}
    {compatible : List Worker} (h : allSatisfying satisfies spec running = .ok compatible) :
    ∃ w ∈ compatible, satisfying satisfies rand spec running = .ok w := by
  have hpos : 0 < compatible.length := List.length_pos.2 (allSatisfying_ne_nil satisfies h)
  have hlt := rand.intn_lt _ hpos
  refine ⟨compatible[rand.intn compatible.length], List.getElem_mem hlt, ?_⟩
  simp [satisfying, h, Nat.pos_iff_ne_zero.1 hpos, List.getElem?_eq_getElem hlt]

/-- **`pool.AllSatisfying` and `pool.Satisfying`.** On every list of running workers,
`AllSatisfying` reports `ErrNoWorkers` exactly for the empty list; otherwise it returns the
satisfying team-owned workers in list order if there are any, else the satisfying general
workers in list order if there are any, else `NoCompatibleWorkersError` with the spec and the
full list. Every list it returns is non-empty, and `Satisfying` then picks a member of it. -/
theorem allSatisfying_prefers_team_workers (rand : Rand) (spec : WorkerSpec)
    (workers : List Worker) :
    (allSatisfying satisfies spec (.ok workers) = .error .noWorkers ↔ workers = []) ∧
    allSatisfying satisfies spec (.ok workers) =
      (if workers = [] then .error .noWorkers
      else if workers.filter (fun w => satisfies w && w.ownedByTeam) ≠ [] then
        .ok (workers.filter (fun w => satisfies w && w.ownedByTeam))
      else if workers.filter (fun w => satisfies w && !w.ownedByTeam) ≠ [] then
        .ok (workers.filter (fun w => satisfies w && !w.ownedByTeam))
      else .error (.noCompatibleWorkers spec workers)) ∧
    ∀ compatible, allSatisfying satisfies spec (.ok workers) = .ok compatible →
      compatible ≠ [] ∧ ∃ w ∈ compatible, satisfying satisfies rand spec (.ok workers) = .ok w := by
  refine ⟨?_, allSatisfying_eq satisfies spec workers, fun compatible h =>
    ⟨allSatisfying_ne_nil satisfies h, satisfying_mem satisfies rand h⟩⟩
  rw [allSatisfying_eq]
  split_ifs with h0
  · exact iff_of_true rfl h0
  all_goals exact iff_of_false nofun h0

end Satisfying

/-! ### `FindOrCreateBuildContainer` -/

/-- The remote calls the pool makes. -/
inductive PoolReq where
  /-- `provider.RunningWorkers`. -/
  | runningWorkers
  /-- `provider.FindWorkerForBuildContainer(teamID, buildID, planID)`. -/
  | findWorkerForBuildContainer (teamID buildID : Nat) (planID : String)
  /-- `inputSource.Source().VolumeOn(w)`, of which the pool reads `found`. -/
  | volumeOn (input : String) (w : Worker)
  /-- `w.FindOrCreateBuildContainer(...)`. -/
  | findOrCreateBuildContainer (w : Worker)
  /-- `provider.FindWorkerForContainer(teamID, handle)`. -/
  | findWorkerForContainer (teamID : Nat) (handle : String)
  /-- `provider.FindWorkerForResourceCheckContainer(teamID, resourceUser, resourceType, ...)`. -/
  | findWorkerForResourceCheckContainer (teamID : Nat) (resourceUser resourceType : String)
  /-- `w.CreateResourceGetContainer(...)`. -/
  | createResourceGetContainer (w : Worker)
  /-- `w.FindOrCreateResourceCheckContainer(...)`. -/
  | findOrCreateResourceCheckContainer (w : Worker)
  /-- `w.FindContainerByHandle(teamID, handle)`. -/
  | findContainerByHandle (w : Worker) (teamID : Nat) (handle : String)
  deriving DecidableEq, Repr

/-- The replies to the pool's calls; a Go error is the text it carries. -/
abbrev PoolResp : PoolReq → Type
  | .runningWorkers => Except String (List Worker)
  | .findWorkerForBuildContainer .. => Except String (Option Worker)
  | .volumeOn .. => Except String Bool
  | .findOrCreateBuildContainer _ => Except String Container
  | .findWorkerForContainer .. => Except String (Option Worker)
  | .findWorkerForResourceCheckContainer .. => Except String (Option Worker)
  | .createResourceGetContainer _ => Except String Container
  | .findOrCreateResourceCheckContainer _ => Except String Container
  | .findContainerByHandle .. => Except String (Option Container)

/-- Programs of the pool. -/
abbrev PoolProg := Prog PoolReq PoolResp

/-- A call whose Go error is returned as it came. -/
def remote {α : Type} (p : PoolProg (Except String α)) : ExceptT PoolError PoolProg α :=
  ExceptT.mk (p.bind fun r => .ret (r.mapError .remote))

/-- The inner loop of the count: how many of `inputs` report a volume on `w`. -/
def candidateInputCount (w : Worker) : List String → ExceptT PoolError PoolProg Nat
  | [] => pure 0
  | i :: is => do
    let found ← remote (Prog.query (.volumeOn i w))
    let n ← candidateInputCount w is
    pure (if found then n + 1 else n)

/-- The outer loop of the count: `workersByCount` (a Go map, `[]` where unset) and
`highestCount`, updated worker by worker. -/
def countLoop (inputs : List String) :
    List Worker → (Nat → List Worker) → Nat → ExceptT PoolError PoolProg ((Nat → List Worker) × Nat)
  | [], workersByCount, highestCount => pure (workersByCount, highestCount)
  | w :: ws, workersByCount, highestCount => do
    let n ← candidateInputCount w inputs
    countLoop inputs ws (Function.update workersByCount n (workersByCount n ++ [w]))
      (if n ≥ highestCount then n else highestCount)

/-- `pool.findWorkerNotRunningVTXTask`: try the workers in order, skipping those that are full;
any other error ends the search. -/
def findWorkerNotRunningVTXTask : List Worker → PoolProg (Except PoolError Container)
  | [] => pure (.error .allWorkersFailed)
  | w :: ws => do
    match ← (Prog.query (.findOrCreateBuildContainer w) : PoolProg (Except String Container)) with
    | .error msg =>
      if contains msg maxContainersMessage then findWorkerNotRunningVTXTask ws
      else pure (.error (.remote msg))
    | .ok c => pure (.ok c)

/-- `pool.FindOrCreateBuildContainer`: the worker that already hosts the build container, if the
provider knows one; otherwise the compatible workers holding the most inputs, tried in turn. -/
def findOrCreateBuildContainer (satisfies : Worker → Bool) (spec : ContainerSpec)
    (buildID : Nat) (planID : String) : PoolProg (Except PoolError Container) := do
  match ← (Prog.query (.findWorkerForBuildContainer spec.teamID buildID planID) :
      PoolProg (Except String (Option Worker))) with
  | .error e => pure (.error (.remote e))
  | .ok (some w) => (remote (Prog.query (.findOrCreateBuildContainer w))).run
  | .ok none =>
    let running ← Prog.query .runningWorkers
    match allSatisfying satisfies spec.workerSpec running with
    | .error e => pure (.error e)
    | .ok compatibleWorkers =>
      match ← (countLoop spec.inputs compatibleWorkers (fun _ => []) 0).run with
      | .error e => pure (.error e)
      | .ok (workersByCount, highestCount) =>
        findWorkerNotRunningVTXTask (workersByCount highestCount)

/-! ### Placement by volume count -/

/-- An honest volume layout: input `i` reports a volume on worker `w` exactly when `layout i w`,
and its `VolumeOn` does not fail. Other calls may answer anything. -/
def HonestVolumes (layout : String → Worker → Bool) : Event PoolReq PoolResp → Prop
  | ⟨.volumeOn i w, x⟩ => x = .ok (layout i w)
  | _ => True

/-- The number of `inputs` with a volume on `w`. -/
def inputCount (layout : String → Worker → Bool) (inputs : List String) (w : Worker) : Nat :=
  (inputs.filter (layout · w)).length

/-- The workers' `FindOrCreateBuildContainer` calls of a trace, with their replies, in order. -/
def workerCalls : List (Event PoolReq PoolResp) → List (Worker × Except String Container)
  | [] => []
  | ⟨.findOrCreateBuildContainer w, x⟩ :: t => (w, x) :: workerCalls t
  | _ :: t => workerCalls t

@[simp] theorem workerCalls_append (t₁ t₂ : List (Event PoolReq PoolResp)) :
    workerCalls (t₁ ++ t₂) = workerCalls t₁ ++ workerCalls t₂ := by
  induction t₁ with
  | nil => rfl
  | cons e t ih => rcases e with ⟨_ | _ | _ | _ | _ | _ | _ | _ | _, x⟩ <;> simp [workerCalls, ih]

/-- A worker's reply saying that it is full. -/
def isFull : Except String Container → Bool
  | .error msg => contains msg maxContainersMessage
  | .ok _ => false

theorem path_remote {α : Type} {p : PoolProg (Except String α)} {t : List (Event PoolReq PoolResp)}
    {r : Except PoolError α} : Path (remote p).run t r ↔ ∃ x, Path p t x ∧ r = x.mapError .remote := by
  simp only [remote, ExceptT.run, ExceptT.mk, Prog.path_bind, Prog.path_ret]
  constructor
  · rintro ⟨t₁, t₂, x, rfl, h, rfl, rfl⟩; exact ⟨x, by simpa using h, rfl⟩
  · rintro ⟨x, h, rfl⟩; exact ⟨t, [], x, by simp, h, rfl, rfl⟩

theorem candidateInputCount_path (layout : String → Worker → Bool) (w : Worker) :
    ∀ (inputs : List String) {t r}, Path (candidateInputCount w inputs).run t r →
      (∀ e ∈ t, HonestVolumes layout e) →
      r = .ok (inputCount layout inputs w) ∧ workerCalls t = []
  | [], t, r, h, _ => by
    obtain ⟨rfl, rfl⟩ := Prog.path_exceptPure.1 h
    exact ⟨rfl, rfl⟩
  | i :: is, t, r, h, ht => by
    have hvol : ∀ t r, Path (remote (Prog.query (.volumeOn i w))).run t r →
        (∀ e ∈ t, HonestVolumes layout e) → r = .ok (layout i w) := by
      intro t r h ht
      obtain ⟨x, hx, rfl⟩ := path_remote.1 h
      rw [Prog.path_query] at hx; subst hx
      simp only [List.mem_singleton, forall_eq, HonestVolumes] at ht
      rw [ht]; rfl
    obtain ⟨t₁, t₂, rfl, h₁, h₂⟩ := Prog.path_exceptBind_ok hvol h ht
    have ht₂ : ∀ e ∈ t₂, HonestVolumes layout e := fun e he => ht e (List.mem_append_right _ he)
    obtain ⟨t₃, t₄, rfl, h₃, h₄⟩ := Prog.path_exceptBind_ok
      (fun t r h ht => (candidateInputCount_path layout w is h ht).1) h₂ ht₂
    obtain ⟨rfl, rfl⟩ := Prog.path_exceptPure.1 h₄
    obtain ⟨x, hx, -⟩ := path_remote.1 h₁
    rw [Prog.path_query] at hx; subst hx
    refine ⟨?_, ?_⟩
    · by_cases hl : layout i w <;> simp [inputCount, List.filter_cons, hl]
    · simp [workerCalls, (candidateInputCount_path layout w is h₃
        fun e he => ht₂ e (List.mem_append_left _ he)).2]

/-- **The counting loop.** Under an honest volume layout, the loop groups the workers by their
count of local inputs, in list order within each group, and keeps the highest count; it asks
no worker for a container. -/
theorem countLoop_path (layout : String → Worker → Bool) (inputs : List String) :
    ∀ (ws : List Worker) (byCount : Nat → List Worker) (highest : Nat) {t r},
      Path (countLoop inputs ws byCount highest).run t r → (∀ e ∈ t, HonestVolumes layout e) →
      r = .ok (fun n => byCount n ++ ws.filter (fun w => inputCount layout inputs w = n),
        (ws.map (inputCount layout inputs)).foldl max highest) ∧ workerCalls t = []
  | [], byCount, highest, t, r, h, _ => by
    obtain ⟨rfl, rfl⟩ := Prog.path_exceptPure.1 h
    exact ⟨by simp, rfl⟩
  | w :: ws, byCount, highest, t, r, h, ht => by
    obtain ⟨t₁, t₂, rfl, h₁, h₂⟩ := Prog.path_exceptBind_ok
      (fun t r h ht => (candidateInputCount_path layout w inputs h ht).1) h ht
    obtain ⟨hr, hcalls⟩ := countLoop_path layout inputs ws _ _ h₂
      fun e he => ht e (List.mem_append_right _ he)
    refine ⟨?_, ?_⟩
    · rw [hr]
      refine congrArg Except.ok (Prod.ext ?_ ?_)
      · funext n
        by_cases hn : inputCount layout inputs w = n
        · subst hn; simp [List.filter_cons]
        · simp [List.filter_cons, hn, Function.update_noteq (Ne.symm hn)]
      · simp only [List.map_cons, List.foldl_cons, ge_iff_le, max_def]
    · rw [workerCalls_append, hcalls, (candidateInputCount_path layout w inputs h₁
        fun e he => ht e (List.mem_append_left _ he)).2]
      rfl

theorem le_foldl_max (l : List Nat) (a : Nat) : a ≤ l.foldl max a ∧ ∀ x ∈ l, x ≤ l.foldl max a := by
  induction l generalizing a with
  | nil => simp
  | cons y l ih =>
    obtain ⟨h₁, h₂⟩ := ih (max a y)
    simp only [List.foldl_cons, List.mem_cons, forall_eq_or_imp]
    exact ⟨le_trans (le_max_left _ _) h₁, le_trans (le_max_right _ _) h₁, h₂⟩

theorem foldl_max_mem (l : List Nat) (a : Nat) : l.foldl max a = a ∨ l.foldl max a ∈ l := by
  induction l generalizing a with
  | nil => simp
  | cons y l ih =>
    simp only [List.foldl_cons, List.mem_cons]
    rcases ih (max a y) with h | h
    · rw [h]; rcases max_choice a y with h' | h' <;> simp [h']
    · exact .inr (.inr h)

/-- A member of a list has the list's highest count exactly when no member has more. -/
theorem eq_foldl_max_iff {α : Type} (f : α → Nat) {l : List α} {x : α} (hx : x ∈ l) :
    f x = (l.map f).foldl max 0 ↔ ∀ y ∈ l, f y ≤ f x := by
  obtain ⟨-, hle⟩ := le_foldl_max (l.map f) 0
  constructor
  · intro h y hy; rw [h]; exact hle _ (List.mem_map_of_mem f hy)
  · intro h
    refine le_antisymm (hle _ (List.mem_map_of_mem f hx)) ?_
    rcases foldl_max_mem (l.map f) 0 with h0 | hm
    · rw [h0]; exact Nat.zero_le _
    · obtain ⟨y, hy, hfy⟩ := List.mem_map.1 hm
      rw [← hfy]; exact h y hy

/-- **The fallback loop.** `findWorkerNotRunningVTXTask` asks the workers of `ws` in list order,
goes on only past workers that replied that they are full, returns the reply of the first one
that did not, and reports that all failed exactly when every worker of `ws` was full. -/
theorem findWorkerNotRunningVTXTask_path :
    ∀ (ws : List Worker) {t r}, Path (findWorkerNotRunningVTXTask ws) t r →
      (workerCalls t).map Prod.fst <+: ws ∧ (∀ p ∈ (workerCalls t).dropLast, isFull p.2) ∧
      (r = .error .allWorkersFailed ↔
        (workerCalls t).map Prod.fst = ws ∧ ∀ p ∈ workerCalls t, isFull p.2) ∧
      (∀ p ∈ (workerCalls t).getLast?, isFull p.2 = false → r = p.2.mapError .remote) ∧
      ((∀ p ∈ (workerCalls t).getLast?, isFull p.2) → (workerCalls t).map Prod.fst = ws)
  | [], t, r, h => by
    obtain ⟨rfl, rfl⟩ := Prog.path_ret.1 h
    simp [workerCalls]
  | w :: ws, t, r, h => by
    simp only [findWorkerNotRunningVTXTask, Prog.bind_eq, Prog.query_bind, Prog.path_call] at h
    obtain ⟨x, t', rfl, h⟩ := h
    have hcons : workerCalls (⟨.findOrCreateBuildContainer w, x⟩ :: t') =
        (w, x) :: workerCalls t' := rfl
    rw [hcons]
    rcases x with msg | c
    · by_cases hfull : contains msg maxContainersMessage
      · -- a full worker: the search goes on with the others
        simp only [hfull, if_true] at h
        have hf : isFull (.error msg) = true := hfull
        obtain ⟨hpre, hdrop, hiff, hlast, hall⟩ := findWorkerNotRunningVTXTask_path ws h
        have hiff' : r = .error .allWorkersFailed ↔ ((w, Except.error msg) :: workerCalls t').map
            Prod.fst = w :: ws ∧ ∀ p ∈ (w, Except.error msg) :: workerCalls t', isFull p.2 := by
          simp only [List.map_cons, List.cons.injEq, List.forall_mem_cons, hf, hiff, true_and]
        cases hw : workerCalls t' with
        | nil =>
          -- the last worker was full: none is left
          obtain rfl : [] = ws := by simpa [hw] using hall (by simp [hw])
          exact ⟨List.prefix_rfl, by simp, hw ▸ hiff', by simp [hf], fun _ => rfl⟩
        | cons q l =>
          rw [hw] at hpre hdrop hlast hall hiff'
          exact ⟨by simpa using hpre, List.forall_mem_cons.2 ⟨hf, hdrop⟩, hiff',
            fun p hp => hlast p (by simpa using hp),
            fun hl => by rw [List.map_cons, hall (by simpa using hl)]⟩
      · -- any other reply ends the search
        simp only [hfull, if_false, Bool.false_eq_true] at h
        obtain ⟨rfl, rfl⟩ := Prog.path_ret.1 h
        have hf : isFull (.error msg) = false := by simpa [isFull] using hfull
        simp [workerCalls, hf, Except.mapError]
    · obtain ⟨rfl, rfl⟩ := Prog.path_ret.1 h
      simp [workerCalls, isFull, Except.mapError]

/-- Volume-affinity placement (`pool.FindOrCreateBuildContainer`) on one run, in which the
provider knows no worker hosting the build container, lists `workers` as running, and the
inputs' volumes are laid out by `layout`.

**Proof sketch.** The provider's and the listing's replies fix the branch; the counting loop
(`countLoop_path`) leaves the workers whose count is the highest one, which are those of
`best` (`eq_foldl_max_iff`); the fallback loop does the rest
(`findWorkerNotRunningVTXTask_path`). -/
theorem findOrCreateBuildContainer_path (satisfies : Worker → Bool)
    (layout : String → Worker → Bool) (spec : ContainerSpec) (buildID : Nat) (planID : String)
    (workers : List Worker) {t : List (Event PoolReq PoolResp)} {r : Except PoolError Container}
    (hrun : Path (findOrCreateBuildContainer satisfies spec buildID planID) t r)
    (hfind : ∀ x, (⟨.findWorkerForBuildContainer spec.teamID buildID planID, x⟩ :
      Event PoolReq PoolResp) ∈ t → x = .ok none)
    (hrunning : ∀ x, (⟨.runningWorkers, x⟩ : Event PoolReq PoolResp) ∈ t → x = .ok workers)
    (hvol : ∀ e ∈ t, HonestVolumes layout e) :
    (∀ e, allSatisfying satisfies spec.workerSpec (.ok workers) = .error e →
      r = .error e ∧ workerCalls t = []) ∧
    ∀ compatible, allSatisfying satisfies spec.workerSpec (.ok workers) = .ok compatible →
      let best := compatible.filter fun w => compatible.all fun w' =>
        inputCount layout spec.inputs w' ≤ inputCount layout spec.inputs w
      (workerCalls t).map Prod.fst <+: best ∧ (∀ p ∈ (workerCalls t).dropLast, isFull p.2) ∧
      (r = .error .allWorkersFailed ↔
        (workerCalls t).map Prod.fst = best ∧ ∀ p ∈ workerCalls t, isFull p.2) ∧
      (∀ p ∈ (workerCalls t).getLast?, isFull p.2 = false → r = p.2.mapError .remote) ∧
      ((∀ p ∈ (workerCalls t).getLast?, isFull p.2) → (workerCalls t).map Prod.fst = best) := by
  simp only [findOrCreateBuildContainer, Prog.bind_eq, Prog.query_bind, Prog.path_call] at hrun
  obtain ⟨x, t', rfl, hrun'⟩ := hrun
  obtain rfl := hfind x (List.mem_cons_self _ _)
  obtain ⟨y, t'', rfl, hrun⟩ := Prog.path_call.1 hrun'
  obtain rfl := hrunning y (by simp)
  have hcalls : workerCalls (⟨.findWorkerForBuildContainer spec.teamID buildID planID, .ok none⟩ ::
      ⟨.runningWorkers, .ok workers⟩ :: t'') = workerCalls t'' := rfl
  rw [hcalls]
  refine ⟨fun e he => ?_, fun compatible hc => ?_⟩
  · simp only [he] at hrun
    obtain ⟨rfl, rfl⟩ := Prog.path_ret.1 hrun
    exact ⟨rfl, rfl⟩
  · simp only [hc, Prog.path_bind] at hrun
    obtain ⟨t₁, t₂, z, rfl, h₁, h₂⟩ := hrun
    obtain ⟨rfl, hcount⟩ := countLoop_path layout spec.inputs compatible _ 0 h₁
      fun e he => hvol e (by simp [he])
    have hbest : ([] : List Worker) ++ compatible.filter (fun w => inputCount layout spec.inputs w =
        (compatible.map (inputCount layout spec.inputs)).foldl max 0) =
        compatible.filter fun w => compatible.all fun w' =>
          inputCount layout spec.inputs w' ≤ inputCount layout spec.inputs w := by
      rw [List.nil_append]
      refine List.filter_congr fun w hw => ?_
      rw [Bool.eq_iff_iff, decide_eq_true_iff, List.all_eq_true]
      simpa using eq_foldl_max_iff (inputCount layout spec.inputs) hw
    rw [workerCalls_append, hcount, List.nil_append]
    rw [← hbest]
    exact findWorkerNotRunningVTXTask_path _ h₂

/-- The replies of the environment of `findOrCreateBuildContainer_prefers_most_volumes`: the
provider knows no worker for the build container and lists `workers`, and the inputs' volumes
are laid out by `layout`. -/
def ProviderAnswers (workers : List Worker) (layout : String → Worker → Bool) :
    Event PoolReq PoolResp → Prop
  | ⟨.findWorkerForBuildContainer .., x⟩ => x = .ok none
  | ⟨.runningWorkers, x⟩ => x = .ok workers
  | ⟨.volumeOn i w, x⟩ => x = .ok (layout i w)
  | _ => True

theorem providerAnswers_total (workers : List Worker) (layout : String → Worker → Bool)
    (q : PoolReq) : ∃ x, ProviderAnswers workers layout ⟨q, x⟩ := by
  cases q with
  | findWorkerForBuildContainer => exact ⟨.ok none, rfl⟩
  | runningWorkers => exact ⟨.ok workers, rfl⟩
  | volumeOn i w => exact ⟨.ok (layout i w), rfl⟩
  | findOrCreateBuildContainer | findWorkerForContainer | findWorkerForResourceCheckContainer
    | createResourceGetContainer | findOrCreateResourceCheckContainer | findContainerByHandle =>
    exact ⟨.error "", trivial⟩

/-- **Volume affinity of build containers.** When the provider knows no worker for the build
container and lists `workers`, and the inputs' volumes are laid out by `layout`, a run of
`FindOrCreateBuildContainer` exists. In every such run, if `AllSatisfying` fails, its error is
returned and no worker is asked. Otherwise let `best` be the compatible workers holding at least
as many inputs as every compatible worker: the workers asked for the container are a prefix of
`best`, in its order; all but the last of them replied that they were full; the reply of the
last one is returned when it is not "full"; when the last one was full, or none was asked, every
worker of `best` was asked; and "failed to create container on all compatible workers" is
returned exactly when every worker of `best` was asked and was full. -/
theorem findOrCreateBuildContainer_prefers_most_volumes (satisfies : Worker → Bool)
    (layout : String → Worker → Bool) (spec : ContainerSpec) (buildID : Nat) (planID : String)
    (workers : List Worker) :
    (∃ t r, Path (findOrCreateBuildContainer satisfies spec buildID planID) t r ∧
      ∀ e ∈ t, ProviderAnswers workers layout e) ∧
    ∀ t r, Path (findOrCreateBuildContainer satisfies spec buildID planID) t r →
      (∀ e ∈ t, ProviderAnswers workers layout e) →
      (∀ e, allSatisfying satisfies spec.workerSpec (.ok workers) = .error e →
        r = .error e ∧ workerCalls t = []) ∧
      ∀ compatible, allSatisfying satisfies spec.workerSpec (.ok workers) = .ok compatible →
        let best := compatible.filter fun w => compatible.all fun w' =>
          inputCount layout spec.inputs w' ≤ inputCount layout spec.inputs w
        (workerCalls t).map Prod.fst <+: best ∧ (∀ p ∈ (workerCalls t).dropLast, isFull p.2) ∧
        (r = .error .allWorkersFailed ↔
          (workerCalls t).map Prod.fst = best ∧ ∀ p ∈ workerCalls t, isFull p.2) ∧
        (∀ p ∈ (workerCalls t).getLast?, isFull p.2 = false → r = p.2.mapError .remote) ∧
        ((∀ p ∈ (workerCalls t).getLast?, isFull p.2) → (workerCalls t).map Prod.fst = best) := by
  refine ⟨Prog.exists_path (fun q x => ProviderAnswers workers layout ⟨q, x⟩)
    (providerAnswers_total workers layout) _, fun t r h ht => ?_⟩
  refine findOrCreateBuildContainer_path satisfies layout spec buildID planID workers h
    (fun x hx => ht _ hx) (fun x hx => ht _ hx) fun e he => ?_
  rcases e with ⟨q, x⟩
  have := ht _ he
  cases q <;> trivial

end Pool

end Atc
