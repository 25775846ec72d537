import Mathlib.Data.List.Basic

/-!
# Programs that call remote services

Every component of the build executor is a client: the task step talks to the worker pool, to
the workers' container runtimes and to their volume managers, and the pool talks to the worker
provider and to the workers. A Go function of these components is modelled as a finite tree of
remote calls: `Prog.call r k` issues request `r` and continues with `k` applied to the reply,
whose type `Resp r` depends on the request.

Nothing is assumed about the replies. A run of a program is a `Prog.Path`: the list of events
(request and reply) it produced and the value it returned; a run cut off after any remote call
(a crash, or a restart of the process) is a `Prog.Cut`. Properties that hold "for every outcome
of every remote call" are statements about every path; an environment that answers only in some
ways is a predicate on the events of a path.

## Main definitions

* `Atc.Prog` — the call trees, with `bind` and a `Monad` instance.
* `Atc.Prog.Path`, `Atc.Prog.Cut` — complete runs and runs cut off after any call.
* `Atc.Prog.Calls` — every request a program may issue satisfies a predicate.
* `Atc.Prog.Allowed` — the replies of a trace are allowed by an environment with a state.
* `Atc.Prog.run` — the run against a handler that answers each request, for evaluation.
* `Atc.Prog.LoopPath`, `Atc.Prog.LoopCut` — the runs of a Go `for { ... }` loop, complete and
  cut off.

## Main results

* `Atc.Prog.path_bind`, `Atc.Prog.cut_bind` — runs of a sequential composition split in two.
* `Atc.Prog.path_exceptBind` — the same for Go's early `return err`, modelled by `ExceptT`.
* `Atc.Prog.exists_path`, `Atc.Prog.exists_path_allowed` — a program never gets stuck: when
  every request has a reply allowed by the environment, some complete run uses only allowed
  replies; `Atc.Prog.Cut.extend` completes a run cut off.
-/

namespace Atc

/-- A program that issues remote requests of type `Req`; request `r` is answered by a value of
type `Resp r`. -/
inductive Prog (Req : Type) (Resp : Req → Type) (α : Type) : Type where
  /-- Return a value. -/
  | ret (a : α)
  /-- Issue a request and continue with its reply. -/
  | call (r : Req) (k : Resp r → Prog Req Resp α)

namespace Prog

variable {Req : Type} {Resp : Req → Type} {α β γ : Type}

/-- Sequential composition. -/
def bind : Prog Req Resp α → (α → Prog Req Resp β) → Prog Req Resp β
  | .ret a, f => f a
  | .call r k, f => .call r fun x => (k x).bind f

instance : Monad (Prog Req Resp) where
  pure := .ret
  bind := bind

@[simp] theorem pure_eq (a : α) : (pure a : Prog Req Resp α) = .ret a := rfl

@[simp] theorem bind_eq (p : Prog Req Resp α) (f : α → Prog Req Resp β) : p >>= f = p.bind f :=
  rfl

@[simp] theorem ret_bind (a : α) (f : α → Prog Req Resp β) : (ret a).bind f = f a := rfl

@[simp] theorem call_bind (r : Req) (k : Resp r → Prog Req Resp α) (f : α → Prog Req Resp β) :
    (call r k).bind f = .call r fun x => (k x).bind f := rfl

theorem bind_assoc (p : Prog Req Resp α) (f : α → Prog Req Resp β) (g : β → Prog Req Resp γ) :
    (p.bind f).bind g = p.bind fun a => (f a).bind g := by
  induction p with
  | ret a => rfl
  | call r k ih => simp only [call_bind, ih]

/-- Issue one request and return its reply. -/
def query (r : Req) : Prog Req Resp (Resp r) := .call r .ret

@[simp] theorem query_bind (r : Req) (f : Resp r → Prog Req Resp β) :
    (query r).bind f = .call r f := rfl

/-- A remote call together with the reply it got. -/
abbrev Event (Req : Type) (Resp : Req → Type) := Σ r : Req, Resp r

/-! ### Runs -/

/-- `Path p t a`: run to completion, `p` issues the requests of `t`, gets the replies of `t`,
and returns `a`. -/
inductive Path : Prog Req Resp α → List (Event Req Resp) → α → Prop
  | ret (a : α) : Path (.ret a) [] a
  | call {r : Req} {k : Resp r → Prog Req Resp α} (x : Resp r) {t : List (Event Req Resp)}
      {a : α} : Path (k x) t a → Path (.call r k) (⟨r, x⟩ :: t) a

/-- `Cut p t`: `p` issues the requests of `t`, gets the replies of `t`, and is stopped there,
before its next request or its return. -/
inductive Cut : Prog Req Resp α → List (Event Req Resp) → Prop
  | stop (p : Prog Req Resp α) : Cut p []
  | call {r : Req} {k : Resp r → Prog Req Resp α} (x : Resp r) {t : List (Event Req Resp)} :
      Cut (k x) t → Cut (.call r k) (⟨r, x⟩ :: t)

@[simp] theorem path_ret {a b : α} {t : List (Event Req Resp)} :
    Path (.ret a) t b ↔ t = [] ∧ b = a := by
  constructor
  · rintro ⟨⟩; exact ⟨rfl, rfl⟩
  · rintro ⟨rfl, rfl⟩; exact .ret _

theorem path_call {r : Req} {k : Resp r → Prog Req Resp α} {t : List (Event Req Resp)} {a : α} :
    Path (.call r k) t a ↔ ∃ x t', t = ⟨r, x⟩ :: t' ∧ Path (k x) t' a := by
  constructor
  · rintro ⟨⟩; exact ⟨_, _, rfl, by assumption⟩
  · rintro ⟨x, t', rfl, h⟩; exact .call x h

@[simp] theorem path_query {r : Req} {t : List (Event Req Resp)} {x : Resp r} :
    Path (query r) t x ↔ t = [⟨r, x⟩] := by
  simp only [query, path_call, path_ret]
  constructor
  · rintro ⟨y, t', rfl, rfl, rfl⟩; rfl
  · rintro rfl; exact ⟨x, [], rfl, rfl, rfl⟩

theorem path_bind {p : Prog Req Resp α} {f : α → Prog Req Resp β} {t : List (Event Req Resp)}
    {b : β} : Path (p.bind f) t b ↔ ∃ t₁ t₂ a, t = t₁ ++ t₂ ∧ Path p t₁ a ∧ Path (f a) t₂ b := by
  induction p generalizing t with
  | ret a =>
    constructor
    · intro h; exact ⟨[], t, a, rfl, .ret a, h⟩
    · rintro ⟨t₁, t₂, a', rfl, h₁, h₂⟩
      cases h₁; exact h₂
  | call r k ih =>
    constructor
    · intro h
      cases h with
      | call x h =>
        obtain ⟨t₁, t₂, a, rfl, h₁, h₂⟩ := (ih x).1 h
        exact ⟨_, t₂, a, rfl, .call x h₁, h₂⟩
    · rintro ⟨t₁, t₂, a, rfl, h₁, h₂⟩
      cases h₁ with
      | call x h₁ => exact .call x ((ih x).2 ⟨_, _, _, rfl, h₁, h₂⟩)

/-- A complete run is also a run cut off after its last call. -/
theorem Path.cut {p : Prog Req Resp α} {t : List (Event Req Resp)} {a : α} (h : Path p t a) :
    Cut p t := by
  induction h with
  | ret a => exact .stop _
  | call x _ ih => exact .call x ih

theorem cut_bind {p : Prog Req Resp α} {f : α → Prog Req Resp β} {t : List (Event Req Resp)} :
    Cut (p.bind f) t ↔ Cut p t ∨ ∃ t₁ t₂ a, t = t₁ ++ t₂ ∧ Path p t₁ a ∧ Cut (f a) t₂ := by
  induction p generalizing t with
  | ret a =>
    constructor
    · intro h; exact .inr ⟨[], t, a, rfl, .ret a, h⟩
    · rintro (h | ⟨t₁, t₂, a', rfl, h₁, h₂⟩)
      · cases h; exact .stop _
      · cases h₁; exact h₂
  | call r k ih =>
    constructor
    · intro h
      cases h with
      | stop => exact .inl (.stop _)
      | call x h =>
        rcases (ih x).1 h with h | ⟨t₁, t₂, a, rfl, h₁, h₂⟩
        · exact .inl (.call x h)
        · exact .inr ⟨_, t₂, a, rfl, .call x h₁, h₂⟩
    · rintro (h | ⟨t₁, t₂, a, rfl, h₁, h₂⟩)
      · cases h with
        | stop => exact .stop _
        | call x h => exact .call x ((ih x).2 (.inl h))
      · cases h₁ with
        | call x h₁ => exact .call x ((ih x).2 (.inr ⟨_, _, _, rfl, h₁, h₂⟩))

/-! ### Requests a program may issue -/

/-- Every request that `p` may issue, whatever the replies, satisfies `P`. -/
def Calls (P : Req → Prop) : Prog Req Resp α → Prop
  | .ret _ => True
  | .call r k => P r ∧ ∀ x, Calls P (k x)

theorem Calls.bind {P : Req → Prop} {p : Prog Req Resp α} {f : α → Prog Req Resp β}
    (hp : Calls P p) (hf : ∀ a, Calls P (f a)) : Calls P (p.bind f) := by
  induction p with
  | ret a => exact hf a
  | call r k ih => exact ⟨hp.1, fun x => ih x (hp.2 x)⟩

theorem Calls.mono {P Q : Req → Prop} (hPQ : ∀ r, P r → Q r) {p : Prog Req Resp α}
    (hp : Calls P p) : Calls Q p := by
  induction p with
  | ret a => trivial
  | call r k ih => exact ⟨hPQ r hp.1, fun x => ih x (hp.2 x)⟩

theorem Calls.cut {P : Req → Prop} {p : Prog Req Resp α} {t : List (Event Req Resp)}
    (hp : Calls P p) (h : Cut p t) : ∀ e ∈ t, P e.1 := by
  induction h with
  | stop => simp
  | call x _ ih =>
    simp only [List.mem_cons, forall_eq_or_imp]
    exact ⟨hp.1, ih (hp.2 x)⟩

theorem Calls.path {P : Req → Prop} {p : Prog Req Resp α} {t : List (Event Req Resp)} {a : α}
    (hp : Calls P p) (h : Path p t a) : ∀ e ∈ t, P e.1 :=
  hp.cut h.cut

@[simp] theorem calls_ret {P : Req → Prop} {a : α} : Calls P (.ret a : Prog Req Resp α) ↔ True :=
  Iff.rfl

@[simp] theorem calls_call {P : Req → Prop} {r : Req} {k : Resp r → Prog Req Resp α} :
    Calls P (.call r k) ↔ P r ∧ ∀ x, Calls P (k x) := Iff.rfl

theorem Calls.exceptBind {ε : Type} {P : Req → Prop} {x : ExceptT ε (Prog Req Resp) α}
    {f : α → ExceptT ε (Prog Req Resp) β} (hx : Calls P x.run) (hf : ∀ a, Calls P (f a).run) :
    Calls P (x >>= f).run :=
  show Calls P (x.run.bind (ExceptT.bindCont f)) from Calls.bind hx fun
    | .ok a => hf a
    | .error _ => trivial

/-! ### Progress and evaluation -/

/-- **No program gets stuck.** If the environment allows some reply to every request, some
complete run of `p` gets only allowed replies. -/
theorem exists_path (A : (r : Req) → Resp r → Prop) (hA : ∀ r, ∃ x, A r x)
    (p : Prog Req Resp α) : ∃ t a, Path p t a ∧ ∀ e ∈ t, A e.1 e.2 := by
  induction p with
  | ret a => exact ⟨[], a, .ret a, by simp⟩
  | call r k ih =>
    obtain ⟨x, hx⟩ := hA r
    obtain ⟨t, a, h, ht⟩ := ih x
    refine ⟨⟨r, x⟩ :: t, a, .call x h, ?_⟩
    simp only [List.mem_cons, forall_eq_or_imp]
    exact ⟨hx, ht⟩

/-! ### Environments with a state -/

section Allowed

variable {σ : Type} (A : σ → Event Req Resp → Prop) (upd : σ → Event Req Resp → σ)

/-- The replies of a trace are allowed by an environment whose state, from `s` on, every call
advances by `upd`: a world that the calls change and the replies report. -/
def Allowed : σ → List (Event Req Resp) → Prop
  | _, [] => True
  | s, e :: t => A s e ∧ Allowed (upd s e) t

variable {A upd}

theorem allowed_append {s : σ} {t₁ t₂ : List (Event Req Resp)} :
    Allowed A upd s (t₁ ++ t₂) ↔ Allowed A upd s t₁ ∧ Allowed A upd (t₁.foldl upd s) t₂ := by
  induction t₁ generalizing s with
  | nil => simp [Allowed]
  | cons e t ih => simp [Allowed, ih, and_assoc]

/-- **No program gets stuck, against an environment with a state.** If every state allows some
reply to every request, some complete run gets only allowed replies. -/
theorem exists_path_allowed (hA : ∀ s r, ∃ x, A s ⟨r, x⟩) (p : Prog Req Resp α) :
    ∀ s, ∃ t a, Path p t a ∧ Allowed A upd s t := by
  induction p with
  | ret a => exact fun _ => ⟨[], a, .ret a, trivial⟩
  | call r k ih =>
    intro s
    obtain ⟨x, hx⟩ := hA s r
    obtain ⟨t, a, h, ht⟩ := ih x (upd s ⟨r, x⟩)
    exact ⟨⟨r, x⟩ :: t, a, .call x h, hx, ht⟩

/-- A run cut off after allowed replies can be completed with allowed replies. -/
theorem Cut.extend (hA : ∀ s r, ∃ x, A s ⟨r, x⟩) {p : Prog Req Resp α}
    {t : List (Event Req Resp)} (h : Cut p t) :
    ∀ {s}, Allowed A upd s t → ∃ t' a, Path p (t ++ t') a ∧ Allowed A upd s (t ++ t') := by
  induction h with
  | stop p => exact fun _ => exists_path_allowed hA p _
  | call x _ ih =>
    rintro s ⟨hx, ht⟩
    obtain ⟨t', a, h', ht'⟩ := ih ht
    exact ⟨t', a, .call x h', hx, ht'⟩

end Allowed

/-- The run of `p` against a handler that answers every request. -/
def run (h : (r : Req) → Resp r) : Prog Req Resp α → List (Event Req Resp) × α
  | .ret a => ([], a)
  | .call r k => ((⟨r, h r⟩ : Event Req Resp) :: ((k (h r)).run h).1, ((k (h r)).run h).2)

theorem path_run (h : (r : Req) → Resp r) (p : Prog Req Resp α) :
    Path p (p.run h).1 (p.run h).2 := by
  induction p with
  | ret a => exact .ret a
  | call r k ih => exact .call (h r) (ih (h r))

/-! ### Go functions that return an error -/

/-- A Go function returning `(value, error)` is a program returning `Except ε α`; its early
`return nil, err` is `throw err`. -/
theorem path_exceptBind {ε : Type} {x : ExceptT ε (Prog Req Resp) α}
    {f : α → ExceptT ε (Prog Req Resp) β} {t : List (Event Req Resp)} {b : Except ε β} :
    Path (x >>= f).run t b ↔
      (∃ e, Path x.run t (.error e) ∧ b = .error e) ∨
        ∃ t₁ t₂ a, t = t₁ ++ t₂ ∧ Path x.run t₁ (.ok a) ∧ Path (f a).run t₂ b := by
  change Path (x.run.bind (ExceptT.bindCont f)) t b ↔ _
  rw [path_bind]
  constructor
  · rintro ⟨t₁, t₂, (e | a), rfl, h₁, h₂⟩
    · obtain ⟨rfl, rfl⟩ := path_ret.1 h₂
      exact .inl ⟨e, by simpa using h₁, rfl⟩
    · exact .inr ⟨t₁, t₂, a, rfl, h₁, h₂⟩
  · rintro (⟨e, h, rfl⟩ | ⟨t₁, t₂, a, rfl, h₁, h₂⟩)
    · exact ⟨t, [], .error e, by simp, h, .ret _⟩
    · exact ⟨t₁, t₂, .ok a, rfl, h₁, h₂⟩

/-- A bind whose first part can only succeed, with a known value, in the environment `P`. -/
theorem path_exceptBind_ok {ε : Type} {x : ExceptT ε (Prog Req Resp) α}
    {f : α → ExceptT ε (Prog Req Resp) β} {t : List (Event Req Resp)} {b : Except ε β}
    {P : Event Req Resp → Prop} {a : α}
    (hx : ∀ t r, Path x.run t r → (∀ e ∈ t, P e) → r = .ok a)
    (h : Path (x >>= f).run t b) (ht : ∀ e ∈ t, P e) :
    ∃ t₁ t₂, t = t₁ ++ t₂ ∧ Path x.run t₁ (.ok a) ∧ Path (f a).run t₂ b := by
  rcases path_exceptBind.1 h with ⟨e, he, rfl⟩ | ⟨t₁, t₂, a', rfl, h₁, h₂⟩
  · cases hx _ _ he ht
  · obtain ⟨⟩ := hx _ _ h₁ fun e he => ht e (List.mem_append_left _ he)
    exact ⟨t₁, t₂, rfl, h₁, h₂⟩

@[simp] theorem path_exceptPure {ε : Type} {a : α} {t : List (Event Req Resp)} {b : Except ε α} :
    Path (pure a : ExceptT ε (Prog Req Resp) α).run t b ↔ t = [] ∧ b = .ok a :=
  path_ret

@[simp] theorem path_throw {ε : Type} {e : ε} {t : List (Event Req Resp)} {b : Except ε α} :
    Path (throw e : ExceptT ε (Prog Req Resp) α).run t b ↔ t = [] ∧ b = .error e :=
  path_ret

/-! ### Loops -/

/-- The complete runs of a Go `for { ... }` loop whose body either returns a value (`some a`)
or goes round again (`none`): a pass that returns, or a pass that goes round followed by a run
of the loop. -/
inductive LoopPath (body : Prog Req Resp (Option α)) : List (Event Req Resp) → α → Prop
  | done {t : List (Event Req Resp)} {a : α} : Path body t (some a) → LoopPath body t a
  | again {t₁ t₂ : List (Event Req Resp)} {a : α} :
      Path body t₁ none → LoopPath body t₂ a → LoopPath body (t₁ ++ t₂) a

/-- The runs of such a loop cut off after any call, returned or not: passes that went round,
then a pass cut off. A loop that never returns has all its runs of this kind. -/
inductive LoopCut (body : Prog Req Resp (Option α)) : List (Event Req Resp) → Prop
  | cut {t : List (Event Req Resp)} : Cut body t → LoopCut body t
  | again {t₁ t₂ : List (Event Req Resp)} :
      Path body t₁ none → LoopCut body t₂ → LoopCut body (t₁ ++ t₂)

end Prog

end Atc
