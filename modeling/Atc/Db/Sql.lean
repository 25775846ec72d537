import Atc.Remote.Prog
import Atc.Go.Stdlib

/-!
# The database connection

`dbng.Open` and the `db` it returns (package `dbng`), and two migrations of `db/migrations`.
`Open` runs the migrations through `migration.Open`; while that fails with an error that
mentions ` dial `, it sleeps five seconds and tries again, for as long as it takes. Any other
error is returned as it came, and a handle that opened is returned with a notifications bus
that listens on the same data source. `Close` closes the handle and then the bus, whatever the
first close did, and gathers their errors.

## Main definitions

* `Atc.Db.openPass` — one pass of the loop of `dbng.Open`; `Atc.Db.dbngOpen` is the loop.
* `Atc.Db.close` — `db.Close`, with `multierror.Append`.
* `Atc.Db.execStatements` — a migration's statements run until one fails;
  `Atc.Db.addTeamIDToBuilds` and `Atc.Db.addAttemptsToContainers` are two migrations.

## Main results

* `Atc.Db.dbngOpen_retries_while_dial_fails` — the runs of `Open` that return are the attempts
  that failed with a dial error, each followed by a pause, then one attempt whose outcome is
  returned; while every attempt fails with a dial error, `Open` is still running after any
  number of them.
* `Atc.Db.close_path` — `Close` always closes both, and fails exactly when one of them did.
* `Atc.Db.execStatements_path` — a migration runs a prefix of its statements, all but the last
  of which succeeded, and returns the error of the last.

## Implementation notes

`migration.Open` runs the migrations on the data source; it is one call here, whose reply is
the handle or the error text. The logger and the listener's reconnection timings are left out.
`Open`'s `for {}` has no Go value that ends, so it is not a `Prog`: it is its body, and its runs
are those of `Prog.LoopPath` (returned) and `Prog.LoopCut` (cut off, possibly never returning).
-/

namespace Atc

namespace Db

open Prog (Event Path Cut LoopPath LoopCut)
open Atc.Go

/-- A handle `*sql.DB` that `migration.Open` returned, by an identity. -/
structure SqlDB where
  id : Nat
  deriving DecidableEq, Repr

/-- `dbng.db`: the handle, and its notifications bus with the data source its listener
(`pq.NewListener`) connects to. -/
structure Conn where
  sqlDb : SqlDB
  listenerDataSource : String
  deriving DecidableEq, Repr

/-- The calls of the database layer. -/
inductive DbReq where
  /-- `migration.Open(sqlDriver, sqlDataSource, migrations.Migrations)`. -/
  | migrationOpen (sqlDriver sqlDataSource : String)
  /-- `time.Sleep(seconds * time.Second)`. -/
  | sleep (seconds : Nat)
  /-- `db.DB.Close()`. -/
  | dbClose
  /-- `db.bus.Close()`. -/
  | busClose
  /-- `tx.Exec(query)`. -/
  | exec (query : String)
  deriving DecidableEq, Repr

/-- The replies; a Go error is the text it carries, and `none` is a `nil` error. -/
abbrev DbResp : DbReq → Type
  | .migrationOpen .. => Except String SqlDB
  | .sleep _ => Unit
  | .dbClose => Option String
  | .busClose => Option String
  | .exec _ => Option String

/-- Programs of the database layer. -/
abbrev DbProg := Prog DbReq DbResp

/-! ### `Open` -/

section Open

variable (sqlDriver sqlDataSource : String)

/-- One pass of the loop of `dbng.Open`: `none` when it goes round again, after a dial error
and a pause of five seconds. -/
def openPass : DbProg (Option (Except String Conn)) := do
  match ← (Prog.query (.migrationOpen sqlDriver sqlDataSource) :
      DbProg (Except String SqlDB)) with
  | .error err =>
    if contains err " dial " then do
      Prog.query (.sleep 5)
      pure none
    else pure (some (.error err))
  | .ok sqlDb => pure (some (.ok ⟨sqlDb, sqlDataSource⟩))

/-- `dbng.Open`: the loop `for { openPass }`. -/
def dbngOpen : DbProg (Option (Except String Conn)) :=
  openPass sqlDriver sqlDataSource

/-- The events of an attempt that failed with `err`, a dial error: the call and the pause. -/
def dialFailure (err : String) : List (Event DbReq DbResp) :=
  [⟨.migrationOpen sqlDriver sqlDataSource, .error err⟩, ⟨.sleep 5, ()⟩]

variable {sqlDriver sqlDataSource}

/-- A pass goes round exactly after a dial error and a pause; otherwise it returns the reply of
`migration.Open`, with the connection built on it. -/
theorem path_openPass {t : List (Event DbReq DbResp)} {r : Option (Except String Conn)} :
    Path (openPass sqlDriver sqlDataSource) t r ↔
      (∃ err, contains err " dial " = true ∧ t = dialFailure sqlDriver sqlDataSource err ∧
        r = none) ∨
      ∃ x : Except String SqlDB, (∀ err, x = .error err → contains err " dial " = false) ∧
        t = [⟨.migrationOpen sqlDriver sqlDataSource, x⟩] ∧
        r = some (x.map (⟨·, sqlDataSource⟩)) := by
  simp only [openPass, Prog.bind_eq, Prog.query_bind, Prog.path_call]
  constructor
  · rintro ⟨x, t', rfl, h⟩
    rcases x with err | sqlDb
    · by_cases hd : contains err " dial " = true
      · simp only [hd, if_true, Prog.bind_eq, Prog.query_bind, Prog.path_call, Prog.pure_eq,
          Prog.ret_bind, Prog.path_ret] at h
        obtain ⟨u, t'', rfl, rfl, rfl⟩ := h
        exact .inl ⟨err, hd, rfl, rfl⟩
      · simp only [hd, Bool.false_eq_true, if_false, Prog.pure_eq] at h
        obtain ⟨rfl, rfl⟩ := Prog.path_ret.1 h
        exact .inr ⟨.error err, fun e he => by cases he; simpa using hd, rfl, rfl⟩
    · obtain ⟨rfl, rfl⟩ := Prog.path_ret.1 h
      exact .inr ⟨.ok sqlDb, nofun, rfl, rfl⟩
  · rintro (⟨err, hd, rfl, rfl⟩ | ⟨x, hx, rfl, rfl⟩)
    · refine ⟨.error err, _, rfl, ?_⟩
      simp only [hd, if_true, Prog.bind_eq, Prog.query_bind, Prog.path_call, Prog.pure_eq,
        Prog.ret_bind, Prog.path_ret]
      exact ⟨(), [], rfl, rfl, trivial⟩
    · refine ⟨x, [], rfl, ?_⟩
      rcases x with err | sqlDb
      · simp only [hx err rfl, Bool.false_eq_true, if_false, Prog.pure_eq]
        exact .ret _
      · exact .ret _

/-- **`dbng.Open` retries while the database cannot be dialled.** A run of `Open` that returns
is a number of attempts that failed with an error mentioning ` dial `, each followed by a pause
of five seconds, then one attempt whose outcome it returns: the error of `migration.Open` as it
came, which never mentions ` dial `, or the connection, whose bus listens on the data source it
opened. Every such sequence of replies is a run. And while every attempt fails with a dial
error, `Open` has not returned after any number of attempts: it is still running, and it goes
on.

**Proof sketch.** Induction on the runs of the loop, with `path_openPass` for each pass; the
runs cut off are built attempt by attempt. -/
theorem dbngOpen_retries_while_dial_fails :
    (∀ t r, LoopPath (dbngOpen sqlDriver sqlDataSource) t r ↔
      ∃ (errs : List String) (x : Except String SqlDB), (∀ err ∈ errs, contains err " dial " = true) ∧
        (∀ err, x = .error err → contains err " dial " = false) ∧
        t = errs.flatMap (dialFailure sqlDriver sqlDataSource) ++
          [⟨.migrationOpen sqlDriver sqlDataSource, x⟩] ∧
        r = x.map (⟨·, sqlDataSource⟩)) ∧
    ∀ errs : List String, (∀ err ∈ errs, contains err " dial " = true) →
      LoopCut (dbngOpen sqlDriver sqlDataSource)
        (errs.flatMap (dialFailure sqlDriver sqlDataSource)) := by
  refine ⟨fun t r => ⟨fun h => ?_, ?_⟩, fun errs herrs => ?_⟩
  · induction h with
    | done h =>
      obtain ⟨err, -, -, ⟨⟩⟩ | ⟨x, hx, rfl, hr⟩ := path_openPass.1 h
      exact ⟨[], x, nofun, hx, rfl, Option.some.inj hr⟩
    | again h _ ih =>
      obtain ⟨err, hd, rfl, -⟩ | ⟨x, -, -, ⟨⟩⟩ := path_openPass.1 h
      obtain ⟨errs, x, herrs, hx, rfl, rfl⟩ := ih
      exact ⟨err :: errs, x, List.forall_mem_cons.2 ⟨hd, herrs⟩, hx, by simp, rfl⟩
  · rintro ⟨errs, x, herrs, hx, rfl, rfl⟩
    induction errs with
    | nil => exact .done (path_openPass.2 (.inr ⟨x, hx, rfl, rfl⟩))
    | cons err errs ih =>
      rw [List.forall_mem_cons] at herrs
      rw [List.flatMap_cons, List.append_assoc]
      exact .again (path_openPass.2 (.inl ⟨err, herrs.1, rfl, rfl⟩)) (ih herrs.2)
  · induction errs with
    | nil => exact .cut (.stop _)
    | cons err errs ih =>
      rw [List.forall_mem_cons] at herrs
      rw [List.flatMap_cons]
      exact .again (path_openPass.2 (.inl ⟨err, herrs.1, rfl, rfl⟩)) (ih herrs.2)

end Open

/-! ### `Close` -/

/-- `multierror.Append(errs, err)`: a `nil` error becomes the list of one error. -/
def multierrorAppend (errs : Option (List String)) (err : String) : Option (List String) :=
  some (errs.getD [] ++ [err])

/-- `db.Close`: close the handle, then the bus, and gather the errors of both. -/
def close : DbProg (Option (List String)) := do
  let dbErr ← (Prog.query .dbClose : DbProg (Option String))
  let errs := match dbErr with
    | some err => multierrorAppend none err
    | none => none
  let busErr ← (Prog.query .busClose : DbProg (Option String))
  pure (match busErr with
    | some err => multierrorAppend errs err
    | none => errs)

/-- `Close` closes the handle and then the bus, whatever the first close replied, and returns
`nil` exactly when both closed; otherwise the errors, in order. -/
theorem close_path {t : List (Event DbReq DbResp)} {r : Option (List String)}
    (h : Path close t r) :
    ∃ dbErr busErr, t = [⟨.dbClose, dbErr⟩, ⟨.busClose, busErr⟩] ∧
      r = (if dbErr = none ∧ busErr = none then none
        else some (dbErr.toList ++ busErr.toList)) := by
  simp only [close, Prog.bind_eq, Prog.query_bind, Prog.path_call, Prog.pure_eq,
    Prog.path_ret] at h
  obtain ⟨dbErr, _, rfl, busErr, _, rfl, rfl, rfl⟩ := h
  refine ⟨dbErr, busErr, rfl, ?_⟩
  rcases dbErr with _ | e <;> rcases busErr with _ | e' <;> rfl

/-! ### Migrations -/

/-- The statements of a migration, run in order through `tx.Exec` until one fails, whose error
is returned. -/
def execStatements : List String → DbProg (Option String)
  | [] => pure none
  | query :: rest => do
    match ← (Prog.query (.exec query) : DbProg (Option String)) with
    | some err => pure (some err)
    | none => execStatements rest

/-- `migrations.AddTeamIDToBuilds`: add the column `team_id` to the builds, then set it to the
team `main` for every build. -/
def addTeamIDToBuilds : DbProg (Option String) :=
  execStatements [
    "\n\t\tALTER TABLE builds ADD COLUMN team_id integer REFERENCES teams (id);\n\t",
    "\n\t\tUPDATE builds\n\t\tSET team_id = (\n\t\t\tSELECT id\n\t\t\tFROM teams\n\t\t\tWHERE name = 'main'\n\t\t)\n\t"]

/-- `migrations.AddAttemptsToContainers`: add the column `attempts` to the containers. -/
def addAttemptsToContainers : DbProg (Option String) :=
  execStatements ["\n\t\tALTER TABLE containers ADD COLUMN attempts text NULL;\n\t"]

/-- A migration stops at the first statement that fails: either every statement ran and
succeeded, and it returns `nil`; or the statements before one succeeded, that one failed, its
error is returned, and none after it ran. -/
theorem execStatements_path :
    ∀ (queries : List String) {t : List (Event DbReq DbResp)} {r : Option String},
      Path (execStatements queries) t r →
      (r = none ∧ t = queries.map fun q => ⟨.exec q, none⟩) ∨
      ∃ pre q post err, queries = pre ++ q :: post ∧ r = some err ∧
        t = (pre.map fun q => ⟨.exec q, none⟩) ++ [⟨.exec q, some err⟩]
  | [], t, r, h => by
    obtain ⟨rfl, rfl⟩ := Prog.path_ret.1 h
    exact .inl ⟨rfl, rfl⟩
  | q :: rest, t, r, h => by
    simp only [execStatements, Prog.bind_eq, Prog.query_bind, Prog.path_call] at h
    obtain ⟨x, t', rfl, h⟩ := h
    rcases x with _ | err
    · rcases execStatements_path rest h with ⟨rfl, rfl⟩ | ⟨pre, q', post, err, rfl, rfl, rfl⟩
      · exact .inl ⟨rfl, rfl⟩
      · exact .inr ⟨q :: pre, q', post, err, rfl, rfl, rfl⟩
    · obtain ⟨rfl, rfl⟩ := Prog.path_ret.1 h
      exact .inr ⟨[], q, rest, err, rfl, rfl, rfl⟩

end Db

end Atc
