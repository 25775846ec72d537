import Atc.Remote.Prog

/-!
# Triggering a job by hand

`jobserver.Server.CreateJobBuild`: the HTTP handler behind a manual trigger. It looks the job
up in the pipeline's config; an unknown job is `404 Not Found`, and a job that disables manual
triggering is `409 Conflict`. Otherwise it loads the pipeline's resource types and asks the
build scheduler to trigger the job at once; it answers `500` when either fails, and the new
build, as JSON, when the trigger succeeds. The job's `serial` flag plays no part in the
handler: it reaches the scheduler with the job.

## Main definitions

* `Atc.Api.createJobBuild` — the handler, as a program over the pipeline's database, the
  scheduler and the response writer.

## Main results

* `Atc.Api.createJobBuild_path` — the five runs of the handler.

## Implementation notes

`JobConfigs.Lookup` is not under `src/`; the model takes the first job of the name. The logger
is left out, and so are the scheduler factory (the trigger is one call) and `present.Build`:
the body of a success is the build the scheduler returned, encoded.
-/

namespace Atc

namespace Api

open Prog (Event Path)

/-- `atc.JobConfig`: the fields the handler reads, and `serial`, which the scheduler reads. -/
structure JobConfig where
  name : String
  disableManualTrigger : Bool
  serial : Bool
  deriving DecidableEq, Repr

/-- `atc.Config` of a pipeline: its jobs, and its resources, by name. -/
structure PipelineConfig where
  jobs : List JobConfig
  resources : List String
  deriving DecidableEq, Repr

/-- A build the scheduler created (`db.Build`), by its ID. -/
structure Build where
  id : Nat
  deriving DecidableEq, Repr

/-- The calls of the handler. -/
inductive ApiReq where
  /-- `pipelineDB.Config()`. -/
  | config
  /-- `dbPipeline.ResourceTypes()`, deserialized. -/
  | resourceTypes
  /-- `scheduler.TriggerImmediately(logger, job, resources, resourceTypes)`. -/
  | triggerImmediately (job : JobConfig) (resources resourceTypes : List String)
  /-- `w.WriteHeader(code)`. -/
  | writeHeader (code : Nat)
  /-- `fmt.Fprintf(w, ...)` of a text. -/
  | fprintf (text : String)
  /-- `json.NewEncoder(w).Encode(present.Build(build))`. -/
  | encode (build : Build)
  deriving DecidableEq, Repr

/-- The replies; a Go error is the text it carries. -/
abbrev ApiResp : ApiReq → Type
  | .config => PipelineConfig
  | .resourceTypes => Except String (List String)
  | .triggerImmediately .. => Except String Build
  | .writeHeader _ | .fprintf _ | .encode _ => Unit

/-- Programs of the API. -/
abbrev ApiProg := Prog ApiReq ApiResp

/-- `config.Jobs.Lookup(name)`. -/
def lookupJob (config : PipelineConfig) (name : String) : Option JobConfig :=
  config.jobs.find? (·.name == name)

/-- `Server.CreateJobBuild`, for the job name the request carries (`:job_name`). -/
def createJobBuild (jobName : String) : ApiProg Unit := do
  let config ← (Prog.query .config : ApiProg PipelineConfig)
  match lookupJob config jobName with
  | none => Prog.query (.writeHeader 404)
  | some job =>
    if job.disableManualTrigger then Prog.query (.writeHeader 409)
    else
      match ← (Prog.query .resourceTypes : ApiProg (Except String (List String))) with
      | .error _ => Prog.query (.writeHeader 500)
      | .ok resourceTypes =>
        match ← (Prog.query (.triggerImmediately job config.resources resourceTypes) :
            ApiProg (Except String Build)) with
        | .error err => do
          Prog.query (.writeHeader 500)
          Prog.query (.fprintf ("failed to trigger: " ++ err))
        | .ok build => Prog.query (.encode build)

/-- **The runs of `CreateJobBuild`.** After reading the config: `404` for an unknown job; `409`
for a job that disables manual triggering; `500` when the resource types do not load; and
otherwise one trigger, answered by `500` and `failed to trigger: <error>`, or by the new build. -/
theorem createJobBuild_path {jobName : String} {t : List (Event ApiReq ApiResp)}
    (h : Path (createJobBuild jobName) t ()) :
    ∃ config, (lookupJob config jobName = none ∧
        t = [⟨.config, config⟩, ⟨.writeHeader 404, ()⟩]) ∨
      ∃ job, lookupJob config jobName = some job ∧
        ((job.disableManualTrigger = true ∧ t = [⟨.config, config⟩, ⟨.writeHeader 409, ()⟩]) ∨
        (job.disableManualTrigger = false ∧
          ((∃ e, t = [⟨.config, config⟩, ⟨.resourceTypes, .error e⟩, ⟨.writeHeader 500, ()⟩]) ∨
          ∃ rts, ((∃ e, t = [⟨.config, config⟩, ⟨.resourceTypes, .ok rts⟩,
              ⟨.triggerImmediately job config.resources rts, .error e⟩,
              ⟨.writeHeader 500, ()⟩, ⟨.fprintf ("failed to trigger: " ++ e), ()⟩]) ∨
            ∃ build, t = [⟨.config, config⟩, ⟨.resourceTypes, .ok rts⟩,
              ⟨.triggerImmediately job config.resources rts, .ok build⟩,
              ⟨.encode build, ()⟩])))) := by
  simp only [createJobBuild, Prog.bind_eq, Prog.query_bind, Prog.path_call] at h
  obtain ⟨config, t, rfl, h⟩ := h
  refine ⟨config, ?_⟩
  cases hj : lookupJob config jobName with
  | none =>
    rw [hj] at h
    obtain ⟨rfl, -⟩ := Prog.path_query.1 h
    exact .inl ⟨rfl, rfl⟩
  | some job =>
    rw [hj] at h
    refine .inr ⟨job, rfl, ?_⟩
    cases hd : job.disableManualTrigger
    · simp only [hd, Bool.false_eq_true, if_false, Prog.bind_eq, Prog.query_bind,
        Prog.path_call] at h
      obtain ⟨x, t, rfl, h⟩ := h
      refine .inr ⟨rfl, ?_⟩
      rcases x with e | rts
      · obtain ⟨rfl, -⟩ := Prog.path_query.1 h
        exact .inl ⟨e, rfl⟩
      simp only [Prog.bind_eq, Prog.query_bind, Prog.path_call] at h
      obtain ⟨y, t, rfl, h⟩ := h
      refine .inr ⟨rts, ?_⟩
      rcases y with e | build
      · simp only [Prog.bind_eq, Prog.query_bind, Prog.path_call] at h
        obtain ⟨u, t, rfl, h⟩ := h
        obtain ⟨rfl, -⟩ := Prog.path_query.1 h
        exact .inl ⟨e, rfl⟩
      · obtain ⟨rfl, -⟩ := Prog.path_query.1 h
        exact .inr ⟨build, rfl⟩
    · simp only [hd, if_true] at h
      obtain ⟨rfl, -⟩ := Prog.path_query.1 h
      exact .inl ⟨rfl, rfl⟩

end Api

end Atc
