import Atc.Exec.Inputs

/-!
# The resources of a task's image

When a task's config names an image resource, each round of `createContainer` fetches it on the
chosen worker with two resource containers: a check resource (`tracker.Init`), released by a
`defer` as `getContainerImage` returns, and a get resource (`tracker.InitWithCache`), which
becomes the image of the container. The get resource is released only after a worker created
the container. A round whose worker refuses the container, or whose image has no volume, keeps
its get resource.

## Main definitions

* `Atc.Exec.checkResources`, `Atc.Exec.getResources`, `Atc.Exec.releasedResources` — the
  resources a trace initialises for a check and for a get, and those it releases.
* `Atc.Exec.BalancedBeforeCreate` — a program that, until it asks a worker for a container,
  releases exactly the check resources it initialised.

## Main results

* `Atc.Exec.resources_getContainerImage` — fetching the image releases its check resource on
  every return, and a fetch that succeeds initialised one get resource, the one it returns.
* `Atc.Exec.createContainer_releases_image_resources` — over every run of `createContainer`, the
  resources released are the check resources, in order, followed by the get resource of the
  round that created the container, when there is one: every other get resource is kept.

## Implementation notes

The rounds are those of `createContainer_round`; what a round does before its `CreateContainer`
call is handled once, by `BalancedBeforeCreate`, which composes over binds.
-/

namespace Atc.Exec

open Prog

/-! ### The resources of a trace -/

/-- The check resource an event initialises. -/
def checkResource : TaskEvent → Option Resource
  | ⟨.initCheck .., .ok r⟩ => some r
  | _ => none

/-- The get resource an event initialises. -/
def getResource : TaskEvent → Option Resource
  | ⟨.initWithCache .., .ok (r, _)⟩ => some r
  | _ => none

/-- The resource an event releases. -/
def releasedResource : TaskEvent → Option Resource
  | ⟨.releaseResource r, _⟩ => some r
  | _ => none

/-- The check resources a trace initialises, in order. -/
def checkResources (t : List TaskEvent) : List Resource := t.filterMap checkResource

/-- The get resources a trace initialises, in order. -/
def getResources (t : List TaskEvent) : List Resource := t.filterMap getResource

/-- The resources a trace releases, in order. -/
def releasedResources (t : List TaskEvent) : List Resource := t.filterMap releasedResource

@[simp] theorem checkResources_append (t₁ t₂ : List TaskEvent) :
    checkResources (t₁ ++ t₂) = checkResources t₁ ++ checkResources t₂ :=
  List.filterMap_append _ _ _

@[simp] theorem getResources_append (t₁ t₂ : List TaskEvent) :
    getResources (t₁ ++ t₂) = getResources t₁ ++ getResources t₂ :=
  List.filterMap_append _ _ _

@[simp] theorem releasedResources_append (t₁ t₂ : List TaskEvent) :
    releasedResources (t₁ ++ t₂) = releasedResources t₁ ++ releasedResources t₂ :=
  List.filterMap_append _ _ _

/-- The calls that initialise or release a resource. -/
def TaskReq.isResource : TaskReq → Bool
  | .initCheck .. | .initWithCache .. | .releaseResource _ => true
  | _ => false

/-- A program that initialises and releases no resource. -/
abbrev NoResource {α : Type} (p : TaskProg α) : Prop :=
  Calls (fun q => q.isResource = false) p

theorem resources_eq_nil {t : List TaskEvent} (h : ∀ e ∈ t, e.1.isResource = false) :
    checkResources t = [] ∧ getResources t = [] ∧ releasedResources t = [] := by
  have hnone : ∀ e ∈ t, checkResource e = none ∧ getResource e = none ∧
      releasedResource e = none := by
    rintro ⟨q, x⟩ he
    cases q <;> first | exact ⟨rfl, rfl, rfl⟩ | cases h _ he
  exact ⟨List.filterMap_eq_nil_iff.2 fun e he => (hnone e he).1,
    List.filterMap_eq_nil_iff.2 fun e he => (hnone e he).2.1,
    List.filterMap_eq_nil_iff.2 fun e he => (hnone e he).2.2⟩

/-! ### The parts of a round -/

section Parts

variable {step : TaskStep} {repo : SourceRepository} {w : Worker} {t : List TaskEvent}

theorem noResource_releaseMounts : ∀ mounts : List VolumeMount, NoResource (releaseMounts mounts)
  | [] => trivial
  | _ :: rest => ⟨rfl, fun _ => noResource_releaseMounts rest⟩

theorem noResource_chooseLoop (step : TaskStep) (repo : SourceRepository)
    (inputs : List TaskInputConfig) {ws : List Worker} :
    ∀ (l : List {w // w ∈ ws}) chosen inputMounts inputsToStream,
      NoResource (chooseLoop step repo inputs l chosen inputMounts inputsToStream).run
  | [], _, _, _ => trivial
  | w :: rest, chosen, inputMounts, inputsToStream => by
    refine Calls.exceptBind ((looksUpOnly_inputsOn step repo inputs w.1).mono
      fun _ ⟨_, _, hq⟩ => hq ▸ rfl) fun r => ?_
    obtain ⟨mounts, toStream⟩ := r
    dsimp only
    split_ifs <;>
      exact Calls.exceptBind (Calls.bind (noResource_releaseMounts _) fun _ => trivial) fun _ =>
        noResource_chooseLoop step repo inputs rest _ _ _

theorem noResource_createOutputMounts (step : TaskStep) (w : Worker) :
    ∀ outputs, NoResource (createOutputMounts step w outputs).run
  | [] => trivial
  | output :: rest => by
    by_cases hvm : w.volumeManager
    · rw [createOutputMounts, if_neg (by simp [hvm])]
      exact Calls.exceptBind (Calls.bind ⟨rfl, fun _ => trivial⟩ fun _ => trivial) fun _ =>
        Calls.exceptBind (noResource_createOutputMounts step w rest) fun _ => trivial
    · rw [createOutputMounts, if_pos (by simp [hvm])]
      trivial

/-- A call that initialises and releases no resource leaves all three lists empty. -/
theorem resources_remote {α : Type} {p : TaskProg (Except String α)} {x : Except TaskError α}
    (h : Path (remote p).run t x) (hp : NoResource p) :
    checkResources t = [] ∧ getResources t = [] ∧ releasedResources t = [] :=
  resources_eq_nil ((Calls.bind hp fun _ => trivial : NoResource (remote p).run).path h)

/-- `InitWithCache` initialises the get resource it answers with, and nothing else. -/
theorem resources_initWithCache (w : Worker) (image : ImageResource) (version : String)
    (y : Except String (Resource × Cache)) :
    checkResources [⟨.initWithCache w image version, y⟩] = [] ∧
      releasedResources [⟨.initWithCache w image version, y⟩] = [] ∧
      getResources [⟨.initWithCache w image version, y⟩] = (y.toOption.map Prod.fst).toList := by
  rcases y with _ | ⟨g, cache⟩ <;> exact ⟨rfl, rfl, rfl⟩

/-- **Fetching the image.** Every return of `getContainerImage` after `tracker.Init` releases
the check resource, and nothing else; a fetch that returns a resource initialised exactly that
get resource.

**Proof sketch.** The check resource is initialised first and released by the `defer` last;
between them, the body makes one `InitWithCache` call at most, and returns its resource when it
succeeds. -/
theorem resources_getContainerImage {image : ImageResource} {x : Except TaskError Resource}
    (h : Path (getContainerImage w image).run t x) :
    releasedResources t = checkResources t ∧ ∀ r, x = .ok r → getResources t = [r] := by
  rcases path_exceptBind.1 h with ⟨e, he, rfl⟩ | ⟨t₁, t₂, checking, rfl, h₁, h₂⟩
  · obtain ⟨y, hy, hye⟩ := path_remote.1 he
    obtain rfl := path_query.1 hy
    rcases y with _ | _
    · exact ⟨rfl, nofun⟩
    · cases hye
  obtain ⟨y, hy, hye⟩ := path_remote.1 h₁
  obtain rfl := path_query.1 hy
  rcases y with _ | _ <;> cases hye
  obtain ⟨tb, tr, a, rfl, hb, hr⟩ := path_bind.1 h₂
  obtain ⟨tr', tr'', u, rfl, hq, hu⟩ := path_bind.1 hr
  obtain ⟨rfl, rfl⟩ := path_ret.1 hu
  obtain rfl := path_query.1 hq
  -- the body: the check, then at most one `InitWithCache`
  have hbody : checkResources tb = [] ∧ releasedResources tb = [] ∧
      ∀ r, x = .ok r → getResources tb = [r] := by
    rcases path_exceptBind.1 hb with ⟨e, he, rfl⟩ | ⟨t₃, t₄, versions, rfl, h₃, h₄⟩
    · obtain ⟨hc, -, hr⟩ := resources_remote he ⟨rfl, fun _ => trivial⟩
      exact ⟨hc, hr, nofun⟩
    obtain ⟨hc₃, hg₃, hr₃⟩ := resources_remote h₃ ⟨rfl, fun _ => trivial⟩
    cases versions with
    | nil =>
      obtain ⟨rfl, rfl⟩ := path_throw.1 h₄
      exact ⟨by rw [List.append_nil, hc₃], by rw [List.append_nil, hr₃], nofun⟩
    | cons version _ =>
      rcases path_exceptBind.1 h₄ with ⟨e, he, rfl⟩ | ⟨t₅, t₆, ⟨g, cache⟩, rfl, h₅, h₆⟩
      · obtain ⟨y, hy, -⟩ := path_remote.1 he
        obtain rfl := path_query.1 hy
        obtain ⟨hc, hr, -⟩ := resources_initWithCache w image version y
        exact ⟨by rw [checkResources_append, hc₃, hc]; rfl,
          by rw [releasedResources_append, hr₃, hr]; rfl, nofun⟩
      obtain ⟨y, hy, hye⟩ := path_remote.1 h₅
      obtain rfl := path_query.1 hy
      rcases y with _ | _ <;> cases hye
      obtain ⟨hc₅, hr₅, hg₅⟩ := resources_initWithCache w image version (.ok (g, cache))
      -- after `InitWithCache`: no resource call, and the get resource is returned
      have hrest : checkResources t₆ = [] ∧ getResources t₆ = [] ∧ releasedResources t₆ = [] ∧
          ∀ r, x = .ok r → r = g := by
        rcases path_exceptBind.1 h₆ with ⟨e, he, rfl⟩ | ⟨t₇, t₈, isInit, rfl, h₇, h₈⟩
        · obtain ⟨hc, hg, hr⟩ := resources_remote he ⟨rfl, fun _ => trivial⟩
          exact ⟨hc, hg, hr, nofun⟩
        obtain ⟨hc₇, hg₇, hr₇⟩ := resources_remote h₇ ⟨rfl, fun _ => trivial⟩
        cases isInit
        · rcases path_exceptBind.1 h₈ with ⟨e, he, rfl⟩ | ⟨t₉, t₁₀, _, rfl, h₉, h₁₀⟩
          · obtain ⟨hc₉, hg₉, hr₉⟩ := resources_remote he ⟨rfl, fun _ => trivial⟩
            exact ⟨by rw [checkResources_append, hc₇, hc₉]; rfl,
              by rw [getResources_append, hg₇, hg₉]; rfl,
              by rw [releasedResources_append, hr₇, hr₉]; rfl, nofun⟩
          obtain ⟨hc₉, hg₉, hr₉⟩ := resources_remote h₉ ⟨rfl, fun _ => trivial⟩
          obtain ⟨t₁₁, t₁₂, _, rfl, h₁₁, h₁₂⟩ := path_effect_bind.1 h₁₀
          obtain rfl := path_query.1 h₁₁
          obtain ⟨rfl, rfl⟩ := path_exceptPure.1 h₁₂
          exact ⟨by rw [checkResources_append, checkResources_append, hc₇, hc₉]; rfl,
            by rw [getResources_append, getResources_append, hg₇, hg₉]; rfl,
            by rw [releasedResources_append, releasedResources_append, hr₇, hr₉]; rfl,
            fun _ h => (Except.ok.inj h).symm⟩
        · obtain ⟨rfl, rfl⟩ := path_exceptPure.1 h₈
          exact ⟨by rw [List.append_nil, hc₇], by rw [List.append_nil, hg₇],
            by rw [List.append_nil, hr₇], fun _ h => (Except.ok.inj h).symm⟩
      obtain ⟨hc₆, hg₆, hr₆, hret⟩ := hrest
      exact ⟨by rw [checkResources_append, checkResources_append, hc₃, hc₅, hc₆]; rfl,
        by rw [releasedResources_append, releasedResources_append, hr₃, hr₅, hr₆]; rfl,
        fun r hr => by rw [getResources_append, getResources_append, hg₃, hg₅, hg₆, hret r hr]; rfl⟩
  obtain ⟨hcb, hrb, hgb⟩ := hbody
  refine ⟨?_, fun r hr => ?_⟩
  · simp only [checkResources_append, releasedResources_append, hcb, hrb]
    rfl
  · simp only [getResources_append, hgb r hr]
    rfl

/-- The image part of a round: it releases its check resource, if it took one; when it sets the
image, it initialised exactly the get resource it returns, which it has just when the config
names an image resource. -/
theorem resources_containerImage {config : TaskConfig} {spec : TaskContainerSpec}
    {x : Except TaskError (Option Resource × TaskContainerSpec)}
    (h : Path (containerImage step w config spec).run t x) :
    releasedResources t = checkResources t ∧ ∀ res spec', x = .ok (res, spec') →
      getResources t = res.toList ∧ res.isSome = config.imageResource.isSome := by
  unfold containerImage at h
  split at h
  · rcases path_exceptBind.1 h with ⟨e, he, rfl⟩ | ⟨t₁, t₂, r, rfl, h₁, h₂⟩
    · exact ⟨(resources_getContainerImage he).1, nofun⟩
    obtain ⟨hbal, hget⟩ := resources_getContainerImage h₁
    rcases path_exceptBind.1 h₂ with ⟨e, he, rfl⟩ | ⟨t₃, t₄, v, rfl, h₃, h₄⟩
    · obtain ⟨hc, -, hr⟩ := resources_remote he ⟨rfl, fun _ => trivial⟩
      exact ⟨by simp [hbal, hc, hr], nofun⟩
    obtain ⟨hc, hg, hr⟩ := resources_remote h₃ ⟨rfl, fun _ => trivial⟩
    cases v with
    | none =>
      obtain ⟨rfl, rfl⟩ := path_throw.1 h₄
      exact ⟨by simp [hbal, hc, hr], nofun⟩
    | some v =>
      obtain ⟨rfl, rfl⟩ := path_exceptPure.1 h₄
      refine ⟨by simp [hbal, hc, hr], ?_⟩
      rintro _ _ ⟨⟩
      simp_all
  · obtain ⟨rfl, rfl⟩ := path_exceptPure.1 h
    refine ⟨rfl, ?_⟩
    rintro _ _ ⟨⟩
    simp_all [getResources]

end Parts

/-! ### Up to the first `CreateContainer` -/

/-- Until it asks a worker for a container, a program releases exactly the check resources it
initialised, in order. -/
def BalancedBeforeCreate {α : Type} (p : ExceptT TaskError TaskProg α) : Prop :=
  ∀ t x, Path p.run t x → createContainerCalls t = [] → releasedResources t = checkResources t

theorem BalancedBeforeCreate.bind {α β : Type} {p : ExceptT TaskError TaskProg α}
    {f : α → ExceptT TaskError TaskProg β} (hp : BalancedBeforeCreate p)
    (hf : ∀ a, BalancedBeforeCreate (f a)) : BalancedBeforeCreate (p >>= f) := by
  intro t x h hc
  rcases path_exceptBind.1 h with ⟨e, he, rfl⟩ | ⟨t₁, t₂, a, rfl, h₁, h₂⟩
  · exact hp _ _ he hc
  · rw [createContainerCalls_append, List.append_eq_nil] at hc
    simp only [releasedResources_append, checkResources_append, hp _ _ h₁ hc.1, hf a _ _ h₂ hc.2]

theorem balancedBeforeCreate_of_noResource {α : Type} {p : ExceptT TaskError TaskProg α}
    (hp : NoResource p.run) : BalancedBeforeCreate p := fun _ _ h _ => by
  obtain ⟨hc, -, hr⟩ := resources_eq_nil (hp.path h)
  rw [hc, hr]

/-- **What a round does before `CreateContainer`.** Every run of `createContainer` that asks no
worker for a container releases exactly the check resources it initialised. -/
theorem balancedBeforeCreate_createContainer (step : TaskStep) (repo : SourceRepository)
    (config : TaskConfig) (ws : List Worker) :
    BalancedBeforeCreate (createContainer step repo config ws) := by
  rw [createContainer]
  refine (balancedBeforeCreate_of_noResource (noResource_chooseLoop _ _ _ _ _ _ _)).bind
    fun ⟨chosen, im, its⟩ => ?_
  rcases chosen with _ | ⟨w, hw⟩
  · exact balancedBeforeCreate_of_noResource trivial
  refine (balancedBeforeCreate_of_noResource (noResource_createOutputMounts _ _ _)).bind
    fun om => ?_
  refine BalancedBeforeCreate.bind (fun t x h _ => (resources_containerImage h).1)
    fun ⟨res, spec⟩ => ?_
  intro t x h hc
  obtain ⟨t₁, t₂, y, rfl, h₁, -⟩ := path_effect_bind.1 h
  obtain rfl := path_query.1 h₁
  simp at hc

/-! ### The rounds as a whole -/

/-- A `CreateContainer` call initialises and releases no resource. -/
theorem resources_cons_createContainer (w : Worker) (spec : TaskContainerSpec)
    (x : Except String Container) (t : List TaskEvent) :
    checkResources (⟨.createContainer w spec, x⟩ :: t) = checkResources t ∧
      getResources (⟨.createContainer w spec, x⟩ :: t) = getResources t ∧
      releasedResources (⟨.createContainer w spec, x⟩ :: t) = releasedResources t :=
  ⟨rfl, rfl, rfl⟩

/-- What a round does after its container is created: it releases the image resource, if it
has one, and then only volumes. -/
theorem resources_afterCreate (res : Option Resource) (mounts : List VolumeMount) :
    let t : List TaskEvent := res.toList.map (fun r => ⟨.releaseResource r, ()⟩) ++
      mounts.map fun m => ⟨.releaseVolume m.volume, ()⟩
    checkResources t = [] ∧ getResources t = [] ∧ releasedResources t = res.toList := by
  obtain ⟨hc, hg, hr⟩ := resources_eq_nil (t := mounts.map fun m => ⟨.releaseVolume m.volume, ()⟩)
    fun e he => by obtain ⟨m, -, rfl⟩ := List.mem_map.1 he; rfl
  simp only [checkResources_append, getResources_append, releasedResources_append, hc, hg, hr,
    List.append_nil]
  cases res <;> exact ⟨rfl, rfl, rfl⟩

/-- A run of `createContainer` that returns a container, when the config names an image
resource, initialised a get resource. -/
theorem getResources_ne_nil_of_ok (step : TaskStep) (repo : SourceRepository)
    (config : TaskConfig) (himage : config.imageResource.isSome) :
    ∀ (ws : List Worker) {t : List TaskEvent} {c : Container × List InputPair},
      Path (createContainer step repo config ws).run t (.ok c) → getResources t ≠ [] := by
  intro ws t c h
  obtain ⟨n, hn⟩ : ∃ n, ws.length = n := ⟨_, rfl⟩
  induction n using Nat.strong_induction_on generalizing ws t c with
  | _ n ih =>
    rcases createContainer_round h with ⟨-, e, ⟨⟩, -⟩ |
      ⟨w, hw, im, its', om, res, spec, x, t₁, t₂, t₃, t₄, rfl, -, -, -, h₃, -, herr, -⟩
    obtain ⟨hg₃, hsome⟩ := (resources_containerImage h₃).2 res spec rfl
    rw [getResources_append, (resources_cons_createContainer w spec x t₄).2.1]
    rcases x with msg | c'
    · rcases herr msg rfl with ⟨-, -, ⟨⟩⟩ | ⟨-, h₄⟩
      exact List.append_ne_nil_of_right_ne_nil _ (ih _ (hn ▸ length_filter_ne_lt hw) _ h₄ rfl)
    · obtain ⟨g, rfl⟩ := Option.isSome_iff_exists.1 (hsome.trans himage)
      simp [hg₃]

/-- **Image resources over a placement.** In every run of `createContainer`, the resources
released are the check resources initialised, in the order of the rounds, followed, when the run
returns a container, by the last get resource initialised: the one of the round whose worker
created the container. Every other get resource is never released.

**Proof sketch.** By the rounds of `createContainer_round`. A run that asks no worker for a
container is balanced (`balancedBeforeCreate_createContainer`). Otherwise the round before its
`CreateContainer` call releases its check resource (`resources_containerImage`); a refused round
then either fails or goes on with the other workers, keeping its get resource, while the round
that creates the container releases its own get resource, and then only volumes. -/
theorem createContainer_releases_image_resources (step : TaskStep) (repo : SourceRepository)
    (config : TaskConfig) :
    ∀ (ws : List Worker) {t : List TaskEvent} {r : Except TaskError (Container × List InputPair)},
      Path (createContainer step repo config ws).run t r →
      releasedResources t = checkResources t ++ match r with
        | .ok _ => (getResources t).getLast?.toList
        | .error _ => [] := by
  intro ws t r h
  obtain ⟨n, hn⟩ : ∃ n, ws.length = n := ⟨_, rfl⟩
  induction n using Nat.strong_induction_on generalizing ws t r with
  | _ n ih =>
    rcases createContainer_round h with ⟨hc, e, rfl, -⟩ |
      ⟨w, hw, im, its', om, res, spec, x, t₁, t₂, t₃, t₄, rfl, -, h₁, h₂, h₃, hok, herr, htail⟩
    · rw [balancedBeforeCreate_createContainer step repo config ws t _ h hc, List.append_nil]
    obtain ⟨hc₁, hg₁, hr₁⟩ := resources_eq_nil ((noResource_chooseLoop _ _ _ _ _ _ _).path h₁)
    obtain ⟨hc₂, hg₂, hr₂⟩ := resources_eq_nil ((noResource_createOutputMounts _ _ _).path h₂)
    obtain ⟨hbal₃, hres₃⟩ := resources_containerImage h₃
    obtain ⟨hg₃, hsome⟩ := hres₃ res spec rfl
    obtain ⟨hc₄, hg₄, hr₄⟩ := resources_cons_createContainer w spec x t₄
    simp only [checkResources_append, getResources_append, releasedResources_append, hc₁, hg₁,
      hr₁, hc₂, hg₂, hr₂, hbal₃, hg₃, hc₄, hg₄, hr₄, List.nil_append, List.append_assoc]
    rcases x with msg | c
    · rcases herr msg rfl with ⟨-, rfl, rfl⟩ | ⟨-, h₄⟩
      · rfl
      rw [ih _ (hn ▸ length_filter_ne_lt hw) _ h₄ rfl]
      rcases r with e | c
      · rfl
      · cases res with
        | none => rfl
        | some g =>
          have hne := getResources_ne_nil_of_ok step repo config (hsome.symm.trans rfl) _ h₄
          rw [List.getLast?_append_of_ne_nil _ hne]
    · obtain ⟨-, rfl⟩ := hok c rfl
      obtain ⟨hc₅, hg₅, hr₅⟩ := resources_afterCreate res (im ++ om)
      rw [htail c rfl, hc₅, hg₅, hr₅]
      cases res <;> rfl

/-! ### A refused round -/

/-- A task whose image is the resource `docker-image` with source `busybox`, with no inputs and
no outputs. -/
def imageConfig : TaskConfig :=
  { platform := "linux", image := "", imageResource := some ⟨"docker-image", "busybox"⟩,
    inputs := [], outputs := [], runPath := "true", runArgs := [] }

/-- A worker with a volume manager. -/
def imageWorker : Worker := ⟨"worker", false, true⟩

/-- The step of the task. -/
def imageStep : TaskStep := ⟨"task", [], false, "/tmp/build/task"⟩

/-- The image's check resource is `1` and its get resource `2`, already in the cache, with a
volume; the worker refuses the container. -/
def imageReply : (q : TaskReq) → TaskResp q
  | .initCheck .. => .ok ⟨1⟩
  | .check .. => .ok ["1.0"]
  | .initWithCache .. => .ok (⟨2⟩, ⟨0⟩)
  | .isInitialized _ => .ok true
  | .cacheVolume _ => .ok (some ⟨"image"⟩)
  | .createContainer .. => .error "insufficient resources"
  | .wait _ => .signalled
  | .releaseResource _ | .initializeCache _ | .releaseVolume _ | .stop .. => ()
  | .fetchConfig | .findContainerForIdentifier | .property .. | .attach .. | .allSatisfying _
  | .lookupVolume .. | .createVolume .. | .getRun .. | .streamIn .. | .streamOut .. | .run ..
  | .setProperty .. => .error "unexpected"

/-- **A refused round keeps its get resource.** On one worker that refuses the container, the
placement fails with "all workers failed": it released the check resource `1`, and never the get
resource `2` that it initialised for the image. -/
theorem refused_round_keeps_get_resource : ∃ t,
    Path (createContainer imageStep ⟨[]⟩ imageConfig [imageWorker]).run t
        (.error .allWorkersFailed) ∧
      checkResources t = [⟨1⟩] ∧ getResources t = [⟨2⟩] ∧
      releasedResources t = checkResources t ++ [] := by
  have h := Prog.path_run imageReply (createContainer imageStep ⟨[]⟩ imageConfig [imageWorker]).run
  have hr : (Prog.run imageReply
      (createContainer imageStep ⟨[]⟩ imageConfig [imageWorker]).run).2 =
      .error .allWorkersFailed := by
    rw [createContainer]
    rfl
  rw [hr] at h
  exact ⟨_, h, by rw [createContainer]; rfl, by rw [createContainer]; rfl,
    createContainer_releases_image_resources _ _ _ _ h⟩

end Atc.Exec
