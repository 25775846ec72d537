import Atc.Worker.Pool

/-!
# The pool's other operations

The rest of `worker/pool.go`. The pool is itself a `worker.Client`: besides placing build
containers (`Atc.Pool.findOrCreateBuildContainer`), it lists the running workers, places the
containers of resource gets and checks, and finds containers by handle. Each of these asks one
worker: the one the provider already knows for the container, when it is asked and knows one,
else one that `pool.Satisfying` picks among the compatible workers. Resource containers get
neither volume affinity nor a fallback: the picked worker's reply, "full" included, is the
result.

## Main definitions

* `Atc.Pool.createResourceGetContainer`, `Atc.Pool.findOrCreateResourceCheckContainer`,
  `Atc.Pool.findContainerByHandle`, `Atc.Pool.runningWorkers` — the operations.
* `Atc.Pool.PoolOp` — the operations of the pool that call the provider or a worker, with
  `PoolOp.run`.
* `Atc.Pool.Vouches`, `Atc.Pool.AsksVouched` — a worker is asked only after the provider named
  it as the container's worker, or listed it as running where it satisfies the spec.
* `Atc.Pool.PoolError.error` — the text of each error of the pool.

## Main results

* `Atc.Pool.poolOp_asks_vouched_workers` — in every run of every operation of the pool, each
  worker is asked only after the provider vouched for it.
* `Atc.Pool.noCompatibleWorkersMessage_lists` — the no-compatible-workers text lists every
  worker.

## Implementation notes

`dbng.ResourceUser` is not under `src/`; the pool only passes it on, and the model names it by
a string. The resource source and types passed on with it are left out, as are the volume
operations of the pool, which fail with a constant error, and `FindResourceTypeByPath`.
-/

namespace Atc

namespace Pool

open Prog (Event Path)

/-! ### The operations -/

section Operations

variable (satisfies : Worker → Bool)

/-- `pool.RunningWorkers`: the provider's listing, passed on. -/
def runningWorkers : ExceptT PoolError PoolProg (List Worker) :=
  remote (Prog.query .runningWorkers)

/-- `pool.Satisfying` as the operations call it, with the `provider.RunningWorkers` call its
`AllSatisfying` starts from. -/
def satisfyingWorker (rand : Rand) (spec : WorkerSpec) : ExceptT PoolError PoolProg Worker :=
  ExceptT.mk do
    let running ← Prog.query .runningWorkers
    pure (satisfying satisfies rand spec running)

/-- `pool.CreateResourceGetContainer`: the container is created on the worker that
`pool.Satisfying` picks. -/
def createResourceGetContainer (rand : Rand) (spec : ContainerSpec) :
    ExceptT PoolError PoolProg Container := do
  let worker ← satisfyingWorker satisfies rand spec.workerSpec
  remote (Prog.query (.createResourceGetContainer worker))

/-- `pool.FindOrCreateResourceCheckContainer`: on the worker the provider finds for the
resource user's check container, else on the one `pool.Satisfying` picks. -/
def findOrCreateResourceCheckContainer (rand : Rand) (spec : ContainerSpec)
    (resourceUser resourceType : String) : ExceptT PoolError PoolProg Container := do
  let found ← remote (Prog.query
    (.findWorkerForResourceCheckContainer spec.teamID resourceUser resourceType))
  let worker ← match found with
    | some worker => pure worker
    | none => satisfyingWorker satisfies rand spec.workerSpec
  remote (Prog.query (.findOrCreateResourceCheckContainer worker))

/-- `pool.FindContainerByHandle`: not found when the provider knows no worker for the handle,
else what that worker answers. -/
def findContainerByHandle (teamID : Nat) (handle : String) :
    ExceptT PoolError PoolProg (Option Container) := do
  match ← remote (Prog.query (.findWorkerForContainer teamID handle)) with
  | none => pure none
  | some worker => remote (Prog.query (.findContainerByHandle worker teamID handle))

/-- The operations of `worker.Client` that the pool carries out by asking the provider and the
workers. -/
inductive PoolOp where
  | runningWorkers
  | createResourceGetContainer (spec : ContainerSpec)
  | findOrCreateResourceCheckContainer (spec : ContainerSpec) (resourceUser resourceType : String)
  | findOrCreateBuildContainer (spec : ContainerSpec) (buildID : Nat) (planID : String)
  | findContainerByHandle (teamID : Nat) (handle : String)
  deriving DecidableEq, Repr

/-- What each operation returns when it succeeds. -/
def PoolOp.Result : PoolOp → Type
  | .runningWorkers => List Worker
  | .findContainerByHandle .. => Option Container
  | _ => Container

/-- An operation of the pool, as a program. -/
def PoolOp.run (rand : Rand) : (op : PoolOp) → PoolProg (Except PoolError op.Result)
  | .runningWorkers => Pool.runningWorkers.run
  | .createResourceGetContainer spec => (Pool.createResourceGetContainer satisfies rand spec).run
  | .findOrCreateResourceCheckContainer spec resourceUser resourceType =>
    (Pool.findOrCreateResourceCheckContainer satisfies rand spec resourceUser resourceType).run
  | .findOrCreateBuildContainer spec buildID planID =>
    Pool.findOrCreateBuildContainer satisfies spec buildID planID
  | .findContainerByHandle teamID handle => (Pool.findContainerByHandle teamID handle).run

end Operations

/-! ### Who is asked -/

/-- The worker a call asks, for the calls made to a worker. -/
def PoolReq.worker? : PoolReq → Option Worker
  | .findOrCreateBuildContainer w => some w
  | .createResourceGetContainer w => some w
  | .findOrCreateResourceCheckContainer w => some w
  | .findContainerByHandle w .. => some w
  | _ => none

/-- The workers a trace asks, in order. -/
def askedWorkers (t : List (Event PoolReq PoolResp)) : List Worker :=
  t.filterMap (·.1.worker?)

section Vouching

variable (satisfies : Worker → Bool)

/-- An event by which the provider vouches for `w`: it names `w` as the worker of the container
it was asked about, or lists `w` among the running workers, where `w` satisfies the spec. -/
def Vouches (w : Worker) : Event PoolReq PoolResp → Prop
  | ⟨.findWorkerForBuildContainer .., x⟩ => x = .ok (some w)
  | ⟨.findWorkerForResourceCheckContainer .., x⟩ => x = .ok (some w)
  | ⟨.findWorkerForContainer .., x⟩ => x = .ok (some w)
  | ⟨.runningWorkers, x⟩ => ∃ ws, x = .ok ws ∧ w ∈ ws ∧ satisfies w = true
  | _ => False

/-- Every worker the trace asks was vouched for by an earlier event of the trace. -/
def AsksVouched (t : List (Event PoolReq PoolResp)) : Prop :=
  ∀ pre e post w, t = pre ++ e :: post → e.1.worker? = some w → ∃ e' ∈ pre, Vouches satisfies w e'

theorem asksVouched_of_none {t : List (Event PoolReq PoolResp)}
    (h : ∀ e ∈ t, e.1.worker? = none) : AsksVouched satisfies t := by
  rintro pre e post w rfl hw
  cases (h e (List.mem_append_right _ (List.mem_cons_self _ _))).symm.trans hw

/-- A trace that asks no worker, followed by one that asks only workers the first vouched
for. -/
theorem asksVouched_append {t₀ t₁ : List (Event PoolReq PoolResp)}
    (h₀ : ∀ e ∈ t₀, e.1.worker? = none)
    (h₁ : ∀ e ∈ t₁, ∀ w, e.1.worker? = some w → ∃ e' ∈ t₀, Vouches satisfies w e') :
    AsksVouched satisfies (t₀ ++ t₁) := by
  intro pre e post w ht hw
  rcases List.append_eq_append_iff.1 ht with ⟨m, rfl, rfl⟩ | ⟨c, rfl, hc⟩
  · obtain ⟨e', he', hv⟩ := h₁ e (List.mem_append_right _ (List.mem_cons_self _ _)) w hw
    exact ⟨e', List.mem_append_left _ he', hv⟩
  · rcases c with _ | ⟨e₀, c⟩
    · obtain rfl : t₁ = e :: post := hc.symm
      obtain ⟨e', he', hv⟩ := h₁ e (List.mem_cons_self _ _) w hw
      exact ⟨e', by simpa using he', hv⟩
    · obtain ⟨rfl, -⟩ := List.cons.inj hc
      cases (h₀ e (List.mem_append_right _ (List.mem_cons_self _ _))).symm.trans hw

/-- The workers `pool.AllSatisfying` returns are running and satisfy the spec. -/
theorem mem_of_allSatisfying {spec : WorkerSpec} {running : Except String (List Worker)}
    {compatible : List Worker} (h : allSatisfying satisfies spec running = .ok compatible) :
    ∃ ws, running = .ok ws ∧ ∀ w ∈ compatible, w ∈ ws ∧ satisfies w = true := by
  cases running with
  | error e => cases h
  | ok ws =>
    refine ⟨ws, rfl, fun w hw => ?_⟩
    rw [allSatisfying_eq] at h
    split_ifs at h <;> cases h <;>
      exact ⟨(List.mem_filter.1 hw).1, Bool.and_elim_left (List.mem_filter.1 hw).2⟩

/-- The worker `pool.Satisfying` picks is vouched for by the listing it starts from. -/
theorem satisfying_vouches {rand : Rand} {spec : WorkerSpec}
    {running : Except String (List Worker)} {w : Worker}
    (h : satisfying satisfies rand spec running = .ok w) :
    Vouches satisfies w ⟨.runningWorkers, running⟩ := by
  unfold satisfying at h
  split at h
  · cases h
  · rename_i compatible hc
    split_ifs at h
    split at h
    · cases h
      obtain ⟨ws, rfl, hws⟩ := mem_of_allSatisfying satisfies hc
      exact ⟨ws, rfl, hws _ (List.getElem?_mem ‹_›)⟩
    · cases h

/-! ### The runs of each operation -/

theorem calls_runningWorkers :
    Prog.Calls (fun q : PoolReq => q.worker? = none) runningWorkers.run :=
  Prog.Calls.bind ⟨rfl, fun _ => trivial⟩ fun _ => trivial

theorem path_satisfyingWorker {rand : Rand} {spec : WorkerSpec} {t : List (Event PoolReq PoolResp)}
    {r : Except PoolError Worker} :
    Path (satisfyingWorker satisfies rand spec).run t r ↔
      ∃ running, t = [⟨.runningWorkers, running⟩] ∧ r = satisfying satisfies rand spec running := by
  simp only [satisfyingWorker, ExceptT.run, ExceptT.mk, Prog.bind_eq, Prog.query_bind,
    Prog.path_call, Prog.pure_eq, Prog.path_ret]
  constructor
  · rintro ⟨x, _, rfl, rfl, rfl⟩; exact ⟨x, rfl, rfl⟩
  · rintro ⟨x, rfl, rfl⟩; exact ⟨x, [], rfl, rfl, rfl⟩

/-- A run of `pool.CreateResourceGetContainer`: the listing, then, if `pool.Satisfying` picks a
worker, that worker's call, whose reply is returned as it came. -/
theorem createResourceGetContainer_path {rand : Rand} {spec : ContainerSpec}
    {t : List (Event PoolReq PoolResp)} {r : Except PoolError Container}
    (h : Path (createResourceGetContainer satisfies rand spec).run t r) :
    ∃ running, (∃ e, satisfying satisfies rand spec.workerSpec running = .error e ∧
        t = [⟨.runningWorkers, running⟩] ∧ r = .error e) ∨
      ∃ w x, satisfying satisfies rand spec.workerSpec running = .ok w ∧
        t = [⟨.runningWorkers, running⟩, ⟨.createResourceGetContainer w, x⟩] ∧
        r = x.mapError .remote := by
  rcases Prog.path_exceptBind.1 h with ⟨e, he, rfl⟩ | ⟨t₁, t₂, w, rfl, h₁, h₂⟩
  · obtain ⟨running, rfl, hr⟩ := (path_satisfyingWorker satisfies).1 he
    exact ⟨running, .inl ⟨e, hr.symm, rfl, rfl⟩⟩
  · obtain ⟨running, rfl, hr⟩ := (path_satisfyingWorker satisfies).1 h₁
    obtain ⟨x, hx, rfl⟩ := path_remote.1 h₂
    rw [Prog.path_query] at hx; subst hx
    exact ⟨running, .inr ⟨w, x, hr.symm, rfl, rfl⟩⟩

/-- A run of `pool.FindOrCreateResourceCheckContainer`: the provider's lookup; then the worker
it names, or, when it names none, the listing and the worker `pool.Satisfying` picks, if any.
The worker's reply is returned as it came. -/
theorem findOrCreateResourceCheckContainer_path {rand : Rand} {spec : ContainerSpec}
    {resourceUser resourceType : String} {t : List (Event PoolReq PoolResp)}
    {r : Except PoolError Container}
    (h : Path (findOrCreateResourceCheckContainer satisfies rand spec resourceUser
      resourceType).run t r) :
    (∃ e, t = [⟨.findWorkerForResourceCheckContainer spec.teamID resourceUser resourceType,
        .error e⟩] ∧ r = .error (.remote e)) ∨
    (∃ w x, t = [⟨.findWorkerForResourceCheckContainer spec.teamID resourceUser resourceType,
        .ok (some w)⟩, ⟨.findOrCreateResourceCheckContainer w, x⟩] ∧ r = x.mapError .remote) ∨
    ∃ running, (∃ e, satisfying satisfies rand spec.workerSpec running = .error e ∧
        t = [⟨.findWorkerForResourceCheckContainer spec.teamID resourceUser resourceType,
          .ok none⟩, ⟨.runningWorkers, running⟩] ∧ r = .error e) ∨
      ∃ w x, satisfying satisfies rand spec.workerSpec running = .ok w ∧
        t = [⟨.findWorkerForResourceCheckContainer spec.teamID resourceUser resourceType,
          .ok none⟩, ⟨.runningWorkers, running⟩, ⟨.findOrCreateResourceCheckContainer w, x⟩] ∧
        r = x.mapError .remote := by
  rcases Prog.path_exceptBind.1 h with ⟨e, he, rfl⟩ | ⟨t₁, t₂, found, rfl, h₁, h₂⟩
  · obtain ⟨x, hx, hr⟩ := path_remote.1 he
    rw [Prog.path_query] at hx; subst hx
    rcases x with msg | _
    · exact .inl ⟨msg, rfl, by cases hr; rfl⟩
    · cases hr
  obtain ⟨x, hx, hr⟩ := path_remote.1 h₁
  rw [Prog.path_query] at hx; subst hx
  rcases x with msg | _
  · cases hr
  cases hr
  cases found with
  | some w =>
    dsimp only at h₂
    rcases Prog.path_exceptBind.1 h₂ with ⟨e, he, -⟩ | ⟨t₃, t₄, w', rfl, h₃, h₄⟩
    · cases (Prog.path_exceptPure.1 he).2
    obtain ⟨rfl, ⟨⟩⟩ := Prog.path_exceptPure.1 h₃
    obtain ⟨x, hx, rfl⟩ := path_remote.1 h₄
    rw [Prog.path_query] at hx; subst hx
    exact .inr (.inl ⟨w, x, rfl, rfl⟩)
  | none =>
    dsimp only at h₂
    rcases Prog.path_exceptBind.1 h₂ with ⟨e, he, rfl⟩ | ⟨t₃, t₄, w, rfl, h₃, h₄⟩
    · obtain ⟨running, rfl, hr⟩ := (path_satisfyingWorker satisfies).1 he
      exact .inr (.inr ⟨running, .inl ⟨e, hr.symm, rfl, rfl⟩⟩)
    obtain ⟨running, rfl, hr⟩ := (path_satisfyingWorker satisfies).1 h₃
    obtain ⟨x, hx, rfl⟩ := path_remote.1 h₄
    rw [Prog.path_query] at hx; subst hx
    exact .inr (.inr ⟨running, .inr ⟨w, x, hr.symm, rfl, rfl⟩⟩)

/-- A run of `pool.FindContainerByHandle`: the provider's lookup, then the worker it names, if
any, whose reply is returned as it came. -/
theorem findContainerByHandle_path {teamID : Nat} {handle : String}
    {t : List (Event PoolReq PoolResp)} {r : Except PoolError (Option Container)}
    (h : Path (findContainerByHandle teamID handle).run t r) :
    (∃ e, t = [⟨.findWorkerForContainer teamID handle, .error e⟩] ∧ r = .error (.remote e)) ∨
    (t = [⟨.findWorkerForContainer teamID handle, .ok none⟩] ∧ r = .ok none) ∨
    ∃ w x, t = [⟨.findWorkerForContainer teamID handle, .ok (some w)⟩,
      ⟨.findContainerByHandle w teamID handle, x⟩] ∧ r = x.mapError .remote := by
  rcases Prog.path_exceptBind.1 h with ⟨e, he, rfl⟩ | ⟨t₁, t₂, found, rfl, h₁, h₂⟩
  · obtain ⟨x, hx, hr⟩ := path_remote.1 he
    rw [Prog.path_query] at hx; subst hx
    rcases x with msg | _
    · exact .inl ⟨msg, rfl, by cases hr; rfl⟩
    · cases hr
  obtain ⟨x, hx, hr⟩ := path_remote.1 h₁
  rw [Prog.path_query] at hx; subst hx
  rcases x with msg | _
  · cases hr
  cases hr
  cases found with
  | none =>
    obtain ⟨rfl, rfl⟩ := Prog.path_exceptPure.1 h₂
    exact .inr (.inl ⟨rfl, rfl⟩)
  | some w =>
    obtain ⟨x, hx, rfl⟩ := path_remote.1 h₂
    rw [Prog.path_query] at hx; subst hx
    exact .inr (.inr ⟨w, x, rfl, rfl⟩)

/-! ### Build containers -/

theorem calls_candidateInputCount (w : Worker) :
    ∀ inputs, Prog.Calls (fun q : PoolReq => q.worker? = none) (candidateInputCount w inputs).run
  | [] => trivial
  | _ :: is => Prog.Calls.exceptBind (Prog.Calls.bind ⟨rfl, fun _ => trivial⟩ fun _ => trivial)
      fun _ => Prog.Calls.exceptBind (calls_candidateInputCount w is) fun _ => trivial

theorem calls_countLoop (inputs : List String) :
    ∀ ws byCount highest,
      Prog.Calls (fun q : PoolReq => q.worker? = none) (countLoop inputs ws byCount highest).run
  | [], _, _ => trivial
  | w :: ws, _, _ => Prog.Calls.exceptBind (calls_candidateInputCount w inputs) fun _ =>
      calls_countLoop inputs ws _ _

/-- Whatever the volume managers reply, the counting loop files only workers of its list. -/
theorem countLoop_mem (inputs : List String) :
    ∀ (ws : List Worker) byCount highest {t : List (Event PoolReq PoolResp)} {res},
      Path (countLoop inputs ws byCount highest).run t (.ok res) →
      ∀ n w, w ∈ res.1 n → w ∈ byCount n ∨ w ∈ ws
  | [], byCount, highest, t, res, h => by
    obtain ⟨-, ⟨⟩⟩ := Prog.path_exceptPure.1 h
    exact fun _ _ => .inl
  | w :: ws, byCount, highest, t, res, h => by
    rcases Prog.path_exceptBind.1 h with ⟨e, -, ⟨⟩⟩ | ⟨t₁, t₂, n, rfl, -, h₂⟩
    intro m v hv
    rcases countLoop_mem inputs ws _ _ h₂ m v hv with hv | hv
    · by_cases hm : m = n
      · subst hm
        rw [Function.update_same, List.mem_append, List.mem_singleton] at hv
        rcases hv with hv | rfl
        exacts [.inl hv, .inr (List.mem_cons_self _ _)]
      · exact .inl (by rwa [Function.update_noteq hm] at hv)
    · exact .inr (List.mem_cons_of_mem _ hv)

/-- The fallback loop asks only workers of its list. -/
theorem calls_findWorkerNotRunningVTXTask : ∀ ws : List Worker,
    Prog.Calls (fun q : PoolReq => ∀ w, q.worker? = some w → w ∈ ws)
      (findWorkerNotRunningVTXTask ws)
  | [] => trivial
  | w :: ws => by
    refine Prog.Calls.bind ⟨fun v hv => ?_, fun _ => trivial⟩ fun x => ?_
    · cases hv; exact List.mem_cons_self _ _
    · rcases x with msg | c
      · dsimp only
        split
        · exact (calls_findWorkerNotRunningVTXTask ws).mono fun q hq v hv =>
            List.mem_cons_of_mem _ (hq v hv)
        · trivial
      · trivial

/-! ### Every operation asks only vouched-for workers -/

theorem createResourceGetContainer_vouched {rand : Rand} {spec : ContainerSpec}
    {t : List (Event PoolReq PoolResp)} {r : Except PoolError Container}
    (h : Path (createResourceGetContainer satisfies rand spec).run t r) :
    AsksVouched satisfies t := by
  obtain ⟨running, ⟨e, -, rfl, -⟩ | ⟨w, x, hw, rfl, -⟩⟩ := createResourceGetContainer_path satisfies h
  · exact asksVouched_of_none satisfies (List.forall_mem_singleton.2 rfl)
  · exact @asksVouched_append satisfies [_] [_] (List.forall_mem_singleton.2 rfl)
      (List.forall_mem_singleton.2 fun w' hw' =>
        ⟨_, List.mem_singleton_self _, by cases hw'; exact satisfying_vouches satisfies hw⟩)

theorem findOrCreateResourceCheckContainer_vouched {rand : Rand} {spec : ContainerSpec}
    {resourceUser resourceType : String} {t : List (Event PoolReq PoolResp)}
    {r : Except PoolError Container}
    (h : Path (findOrCreateResourceCheckContainer satisfies rand spec resourceUser
      resourceType).run t r) :
    AsksVouched satisfies t := by
  rcases findOrCreateResourceCheckContainer_path satisfies h with ⟨e, rfl, -⟩ |
    ⟨w, x, rfl, -⟩ | ⟨running, ⟨e, -, rfl, -⟩ | ⟨w, x, hw, rfl, -⟩⟩
  · exact asksVouched_of_none satisfies (List.forall_mem_singleton.2 rfl)
  · exact @asksVouched_append satisfies [_] [_] (List.forall_mem_singleton.2 rfl)
      (List.forall_mem_singleton.2 fun w' hw' =>
        ⟨_, List.mem_singleton_self _, by cases hw'; rfl⟩)
  · exact asksVouched_of_none satisfies (List.forall_mem_cons.2 ⟨rfl,
      List.forall_mem_singleton.2 rfl⟩)
  · exact @asksVouched_append satisfies [_, _] [_]
      (List.forall_mem_cons.2 ⟨rfl, List.forall_mem_singleton.2 rfl⟩)
      (List.forall_mem_singleton.2 fun w' hw' => ⟨_, List.mem_cons_of_mem _
        (List.mem_singleton_self _), by cases hw'; exact satisfying_vouches satisfies hw⟩)

theorem findContainerByHandle_vouched {teamID : Nat} {handle : String}
    {t : List (Event PoolReq PoolResp)} {r : Except PoolError (Option Container)}
    (h : Path (findContainerByHandle teamID handle).run t r) : AsksVouched satisfies t := by
  rcases findContainerByHandle_path h with ⟨e, rfl, -⟩ | ⟨rfl, -⟩ | ⟨w, x, rfl, -⟩
  · exact asksVouched_of_none satisfies (List.forall_mem_singleton.2 rfl)
  · exact asksVouched_of_none satisfies (List.forall_mem_singleton.2 rfl)
  · exact @asksVouched_append satisfies [_] [_] (List.forall_mem_singleton.2 rfl)
      (List.forall_mem_singleton.2 fun w' hw' =>
        ⟨_, List.mem_singleton_self _, by cases hw'; rfl⟩)

/-- A build container is asked of the worker the provider names for it, or of compatible
workers: the counting loop and the fallback loop only pass on workers of the compatible list.
-/
theorem findOrCreateBuildContainer_vouched {spec : ContainerSpec} {buildID : Nat}
    {planID : String} {t : List (Event PoolReq PoolResp)} {r : Except PoolError Container}
    (h : Path (findOrCreateBuildContainer satisfies spec buildID planID) t r) :
    AsksVouched satisfies t := by
  simp only [findOrCreateBuildContainer, Prog.bind_eq, Prog.query_bind, Prog.path_call] at h
  obtain ⟨x, t', rfl, h⟩ := h
  rcases x with e | _ | w
  · obtain ⟨rfl, -⟩ := Prog.path_ret.1 h
    exact asksVouched_of_none satisfies (List.forall_mem_singleton.2 rfl)
  · simp only [Prog.bind_eq, Prog.query_bind, Prog.path_call] at h
    obtain ⟨running, t'', rfl, h⟩ := h
    split at h
    · obtain ⟨rfl, -⟩ := Prog.path_ret.1 h
      exact asksVouched_of_none satisfies
        (List.forall_mem_cons.2 ⟨rfl, List.forall_mem_singleton.2 rfl⟩)
    rename_i compatible hc
    obtain ⟨t₁, t₂, res, rfl, h₁, h₂⟩ := Prog.path_bind.1 h
    have h₀ : ∀ e ∈ t₁, e.1.worker? = none := (calls_countLoop _ _ _ _).path h₁
    rcases res with e | ⟨byCount, highest⟩
    · obtain ⟨rfl, -⟩ := Prog.path_ret.1 h₂
      exact asksVouched_of_none satisfies
        (List.forall_mem_cons.2 ⟨rfl, List.forall_mem_cons.2 ⟨rfl, by rwa [List.append_nil]⟩⟩)
    obtain ⟨ws, rfl, hws⟩ := mem_of_allSatisfying satisfies hc
    refine @asksVouched_append satisfies (_ :: _ :: t₁) t₂
      (List.forall_mem_cons.2 ⟨rfl, List.forall_mem_cons.2 ⟨rfl, h₀⟩⟩) fun e he w hw => ?_
    have hbest := (calls_findWorkerNotRunningVTXTask _).path h₂ e he w hw
    rcases countLoop_mem _ _ _ _ h₁ _ _ hbest with hnil | hc
    · cases hnil
    · exact ⟨_, List.mem_cons_of_mem _ (List.mem_cons_self _ _), ws, rfl, hws w hc⟩
  · obtain ⟨x, hx, -⟩ := path_remote.1 h
    rw [Prog.path_query] at hx; subst hx
    exact @asksVouched_append satisfies [_] [_] (List.forall_mem_singleton.2 rfl)
      (List.forall_mem_singleton.2 fun w' hw' =>
        ⟨_, List.mem_singleton_self _, by cases hw'; rfl⟩)

/-- **The pool asks only workers the provider vouched for.** In every run of every operation
of the pool, whatever the provider and the workers reply, each worker the pool asks (to create,
find or look up a container) was named before, in the same run, by the provider: as the worker
that already hosts the container, or among the running workers, where it satisfies the spec.

**Proof sketch.** One lemma per operation, from the shape of its runs; for build containers,
the counting and fallback loops only pass on workers of the compatible list
(`countLoop_mem`, `calls_findWorkerNotRunningVTXTask`). -/
theorem poolOp_asks_vouched_workers (rand : Rand) (op : PoolOp)
    {t : List (Event PoolReq PoolResp)} {r : Except PoolError op.Result}
    (h : Path (op.run satisfies rand) t r) : AsksVouched satisfies t := by
  cases op with
  | runningWorkers => exact asksVouched_of_none satisfies (calls_runningWorkers.path h)
  | createResourceGetContainer => exact createResourceGetContainer_vouched satisfies h
  | findOrCreateResourceCheckContainer =>
    exact findOrCreateResourceCheckContainer_vouched satisfies h
  | findOrCreateBuildContainer => exact findOrCreateBuildContainer_vouched satisfies h
  | findContainerByHandle => exact findContainerByHandle_vouched satisfies h

end Vouching

/-! ### Error texts -/

section Texts

variable (describeSpec : WorkerSpec → String) (describe : Worker → String)

/-- `NoCompatibleWorkersError.Error()`: the spec's description, then one line per available
worker. `WorkerSpec.Description` and `Worker.Description` are not under `src/`; they are
parameters. -/
def noCompatibleWorkersMessage (spec : WorkerSpec) (workers : List Worker) : String :=
  let availableWorkers := workers.foldl (fun acc worker => acc ++ "\n  - " ++ describe worker) ""
  "no workers satisfying: " ++ describeSpec spec ++ "\n\navailable workers: " ++ availableWorkers

/-- The text of each error of the pool (`Error()`). A panic of `rand.Intn` carries the text Go
gives it. -/
def PoolError.error : PoolError → String
  | .noWorkers => "no workers"
  | .noCompatibleWorkers spec workers => noCompatibleWorkersMessage describeSpec describe spec workers
  | .allWorkersFailed => "failed to create container on all compatible workers"
  | .remote msg => msg
  | .panic => "invalid argument to Intn"

theorem foldl_workerLines (ws : List Worker) (s : String) :
    ws.foldl (fun acc worker => acc ++ "\n  - " ++ describe worker) s =
      s ++ ws.foldl (fun acc worker => acc ++ "\n  - " ++ describe worker) "" := by
  induction ws generalizing s with
  | nil => exact (String.append_empty s).symm
  | cons w ws ih =>
    simp only [List.foldl_cons]
    rw [ih, ih ("" ++ "\n  - " ++ describe w), String.empty_append]
    simp only [String.append_assoc]

/-- **The no-compatible-workers text lists every worker.** For each worker of the list, its
line `"  - " ++ description` stands in the text, after the spec's description. -/
theorem noCompatibleWorkersMessage_lists (spec : WorkerSpec) (workers : List Worker) :
    ∀ w ∈ workers, ∃ pre post, noCompatibleWorkersMessage describeSpec describe spec workers =
      "no workers satisfying: " ++ describeSpec spec ++ pre ++ ("\n  - " ++ describe w) ++ post := by
  intro w hw
  obtain ⟨l₁, l₂, rfl⟩ := List.append_of_mem hw
  refine ⟨"\n\navailable workers: " ++ l₁.foldl (fun acc worker => acc ++ "\n  - " ++
    describe worker) "", l₂.foldl (fun acc worker => acc ++ "\n  - " ++ describe worker) "", ?_⟩
  simp only [noCompatibleWorkersMessage, List.foldl_append, List.foldl_cons]
  rw [foldl_workerLines describe l₂]
  simp only [String.append_assoc]

end Texts

/-! ### A worker that is full -/

/-- A running worker that is not owned by a team. -/
def workerA : Worker := ⟨"a", false, true⟩

/-- Another one. -/
def workerB : Worker := ⟨"b", false, true⟩

/-- A spec of a container that has no inputs. -/
def placementSpec : ContainerSpec := ⟨0, ⟨"linux", [], "", 0⟩, []⟩

/-- The generator that always draws the first index. -/
def firstRand : Rand := ⟨fun _ => 0, fun _ h => h⟩

/-- Replies in which `workerA` and `workerB` run, the provider knows no container, and every
worker is full. -/
def fullReply : (q : PoolReq) → PoolResp q
  | .runningWorkers => .ok [workerA, workerB]
  | .findWorkerForBuildContainer .. | .findWorkerForContainer ..
  | .findWorkerForResourceCheckContainer .. => .ok none
  | .volumeOn .. => .ok false
  | .findContainerByHandle .. => .ok none
  | .findOrCreateBuildContainer _ | .createResourceGetContainer _
  | .findOrCreateResourceCheckContainer _ => .error maxContainersMessage

/-- The run of `CreateResourceGetContainer` in which both workers are compatible and the
picked one, `workerA`, is full: the pool returns its error, and `workerB` is never asked, while
it asked `workerA` only after the provider listed it. -/
theorem resource_get_returns_full_worker_error :
    Path ((PoolOp.createResourceGetContainer placementSpec).run (fun _ => true) firstRand)
      [⟨.runningWorkers, .ok [workerA, workerB]⟩,
        ⟨.createResourceGetContainer workerA, .error maxContainersMessage⟩]
      (.error (.remote maxContainersMessage)) ∧
    AsksVouched (fun _ => true) [⟨.runningWorkers, .ok [workerA, workerB]⟩,
      ⟨.createResourceGetContainer workerA, .error maxContainersMessage⟩] :=
  have h := Prog.path_run fullReply
    ((PoolOp.createResourceGetContainer placementSpec).run (fun _ => true) firstRand)
  ⟨h, poolOp_asks_vouched_workers (fun _ => true) firstRand _ h⟩

end Pool

end Atc
