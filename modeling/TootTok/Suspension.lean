import TootTok.AuditTrail
import TootTok.Relational.Pinned

/-!
# Suspension

A suspended account stays suspended. Its requests that begin after the suspension are refused
by the extractor, whatever session they come with, and its logins by the handler, whatever
else the server does at the same time.
-/

namespace TootTok

open Effects
open Relational (Table SerialTable)

variable {Url : Type}

/-! ## The mark -/

namespace Actors

/-- The actor has been suspended. -/
def Suspended (id : Nat) (table : ActorTable) : Prop :=
  table.Pinned id fun row => row.suspendedAt ≠ none

variable {id : Nat} {table : ActorTable}

theorem Suspended.create (suspended : Suspended id table) (new : NewActor) :
    Suspended id (create new table).2 :=
  suspended.insert new.row fun _ => rfl

theorem Suspended.upsertRemote (suspended : Suspended id table) (parts : RemoteActorParts) :
    Suspended id (upsertRemote parts table).2 := by
  unfold Actors.upsertRemote
  split
  · exact (suspended.update _ (ActorRow.refresh parts) (fun _ => rfl)
      (ActorRow.keepsKeys_refresh parts) fun _ mark => mark).spend
  · exact suspended.insert parts.row fun _ => rfl

theorem Suspended.delete (suspended : Suspended id table) (condition : ActorRow → Bool)
    (now : DateTime) : Suspended id (delete condition now table).2 :=
  suspended.update condition (ActorRow.delete now) (fun _ => rfl)
    (ActorRow.keepsKeys_delete now) fun _ mark => mark

theorem Suspended.suspend (suspended : Suspended id table) (other : Nat) (now : DateTime) :
    Suspended id (suspend other now table).2 :=
  suspended.update _ (ActorRow.suspend now) (fun _ => rfl) (ActorRow.keepsKeys_suspend now)
    fun _ _ => Option.some_ne_none now

/-- The statement suspends the actor that it returns. -/
theorem suspended_of_suspend {actorId : Nat} {now : DateTime} {row : ActorRow}
    (returned : (suspend actorId now table).1 = some row) :
    Suspended actorId (suspend actorId now table).2 := by
  have stored : row ∈ (suspend actorId now table).2 := Table.mem_of_find?_eq_some returned
  have named : row.id = actorId := by simpa using Table.holds_of_find?_eq_some returned
  refine ⟨?_, fun other isOther isId => ?_⟩
  · exact named ▸ (suspend actorId now table).2.bounded row stored
  obtain ⟨old, -, rfl⟩ := List.mem_map.mp isOther
  unfold Table.changeWhere at isId ⊢
  split at isId
  next hit =>
    rw [if_pos hit]
    exact Option.some_ne_none now
  next missed => exact absurd (decide_eq_true isId) missed

end Actors

/-- No operation of a handler or a worker takes the mark away. -/
theorem Operation.suspended_exec {id : Nat} (env : Env Url) (op : Operation Url) {db : Db}
    (suspended : Actors.Suspended id db.actors) :
    Actors.Suspended id (Operation.exec env op db).2.actors := by
  rcases Operation.exec_cases env op db with ⟨error, failed⟩ | performed
  · rw [failed]
    exact suspended
  rw [performed]
  cases op with
  | createActor new => exact suspended.create new
  | insertInstanceActor new =>
      show Actors.Suspended id (Actors.insertInstanceActor new db.actors).2
      unfold Actors.insertInstanceActor
      split
      · exact suspended.spend
      · exact suspended.create new
  | upsertRemote parts => exact suspended.upsertRemote parts
  | markActorDeleted _ => exact suspended.delete _ _
  | markRemoteDeletedByApId _ => exact suspended.delete _ _
  | _ => exact suspended

theorem WorkerOp.suspended_exec {id : Nat} (env : WorkerEnv Url) (op : WorkerOp Url)
    {server : Server} (suspended : Actors.Suspended id server.actors) :
    Actors.Suspended id (WorkerOp.exec env op server).2.actors := by
  have framed (frame : ¬op.Writes .actors) :
      Actors.Suspended id (WorkerOp.exec env op server).2.actors := by
    have same : (WorkerOp.exec env op server).2.actors = server.actors :=
      WorkerOp.exec_frame .actors frame env server
    rw [same]
    exact suspended
  cases op with
  | base op => exact op.suspended_exec env.toEnv suspended
  | _ => exact framed fun writes => writes

theorem AccountOp.suspended_exec {id : Nat} (env : AccountEnv Url) (op : AccountOp Url)
    {accounts : Accounts} (suspended : Actors.Suspended id accounts.actors) :
    Actors.Suspended id (AccountOp.exec env op accounts).2.actors := by
  rcases AccountOp.exec_cases env op accounts with ⟨error, failed⟩ | performed
  · rw [failed]
    exact suspended
  rw [performed]
  cases op with
  | base op => exact op.suspended_exec env.toWorkerEnv suspended
  | createSession row =>
      show Actors.Suspended id (AccountOp.perform env (.createSession row) accounts).2.actors
      unfold AccountOp.perform
      dsimp only
      split <;> exact suspended
  | _ => exact suspended

theorem RegisterOp.suspended_exec {id : Nat} (env : RegisterEnv Url) (op : RegisterOp Url)
    {accounts : Accounts} (suspended : Actors.Suspended id accounts.actors) :
    Actors.Suspended id (RegisterOp.exec env op accounts).2.actors := by
  rcases RegisterOp.exec_cases env op accounts with ⟨error, failed⟩ | performed
  · rw [failed]
    exact suspended
  rw [performed]
  cases op with
  | base op => exact op.suspended_exec env.toAccountEnv suspended
  | createUser actorId email passwordHash status =>
      show Actors.Suspended id (accounts.createUser actorId email passwordHash status).2.actors
      unfold Accounts.createUser
      dsimp only
      split <;> exact suspended
  | createEmailToken userId kind tokenHash expiresAt =>
      show Actors.Suspended id (accounts.createEmailToken userId kind tokenHash expiresAt).2.actors
      unfold Accounts.createEmailToken
      dsimp only
      split <;> exact suspended
  | deleteActor other =>
      show Actors.Suspended id (accounts.deleteActor other).2.actors
      unfold Accounts.deleteActor
      split
      · exact suspended
      · exact suspended.erase _
  | _ => exact suspended

/-- No operation of the server takes the mark away. -/
theorem AdminOp.suspended_exec {id : Nat} (env : RegisterEnv Url) (op : AdminOp Url)
    (admin : Administration) (suspended : Actors.Suspended id admin.actors) :
    Actors.Suspended id (AdminOp.exec env op admin).2.actors := by
  rcases AdminOp.exec_cases env op admin with ⟨error, failed⟩ | performed
  · rw [failed]
    exact suspended
  rw [performed]
  cases op with
  | base op =>
      have kept := op.suspended_exec (stored env admin) suspended
      show Actors.Suspended id (cascade op _ _).actors
      unfold cascade
      split
      · split <;> exact kept
      · exact kept
  | suspend actorId => exact suspended.suspend actorId env.now
  | createReport new =>
      show Actors.Suspended id (admin.createReport new).2.actors
      unfold Administration.createReport
      dsimp only
      split <;> exact suspended
  | logAudit adminActorId entry =>
      show Actors.Suspended id (admin.logAudit adminActorId entry).2.actors
      unfold Administration.logAudit
      split <;> exact suspended
  | _ => exact suspended

/-- The call suspends the actor that it returns. -/
theorem AdminOp.suspended_of_suspend {env : RegisterEnv Url} {admin : Administration}
    {actorId : Nat} {actor : ActorRow}
    (returned : (AdminOp.exec env (.suspend actorId) admin).1 = .ok (some actor)) :
    Actors.Suspended actorId (AdminOp.exec env (.suspend actorId) admin).2.actors := by
  rcases AdminOp.exec_cases env (.suspend actorId) admin with ⟨error, failed⟩ | performed
  · rw [failed] at returned
    cases returned
  · rw [performed] at returned ⊢
    exact Actors.suspended_of_suspend (Except.ok.inj returned)

/-! ## Who gets in -/

theorem AdminOp.user_of_fetchedByActorId {env : RegisterEnv Url} {admin : Administration}
    {actorId : Nat} {user : UserRow}
    (found : (exec env (.base (.base (.fetchUserByActorId actorId))) admin).1 = .ok (some user)) :
    user ∈ admin.users := by
  have isFound : admin.userByActorId actorId = some user := Except.ok.inj (performed_of_ok found)
  exact Table.mem_of_find?_eq_some isFound

theorem AdminOp.user_of_fetchedByEmail {env : RegisterEnv Url} {admin : Administration}
    {email : String} {user : UserRow}
    (found : (exec env (.base (.base (.fetchUserByEmail email))) admin).1 = .ok (some user)) :
    user ∈ admin.users := by
  have isFound : admin.userByEmail email = some user := Except.ok.inj (performed_of_ok found)
  exact Table.mem_of_find?_eq_some isFound

/-- A login has found the user. -/
def AdminRecord.Found (calls : AdminRecord Url) (user : UserRow) : Prop :=
  (∃ actorId, ⟨.base (.base (.fetchUserByActorId actorId)), .ok (some user)⟩ ∈ calls) ∨
    ∃ email, ⟨.base (.base (.fetchUserByEmail email)), .ok (some user)⟩ ∈ calls

/-- Who is let in has an actor that was not suspended when it was read. -/
def AdminRecord.Admits (calls : AdminRecord Url) (user : UserRow) : Prop :=
  ∃ actor : ActorRow, actor.suspendedAt = none ∧
    ⟨.base (.base (.base (.base (.fetchActorById user.actorId)))), .ok (some actor)⟩ ∈ calls

/-- A session with this token has been opened for the user. -/
def AdminRecord.Opened [HashCrate] (calls : AdminRecord Url) (token : String) (user : UserRow) :
    Prop :=
  ∃ session : SessionRow, session.id = HashCrate.hashToken token ∧ session.userId = user.id ∧
    ⟨.base (.base (.createSession session)), .ok ()⟩ ∈ calls

theorem AdminRecord.Found.mono {calls more : AdminRecord Url} {user : UserRow}
    (found : calls.Found user) (grown : calls ⊆ more) : more.Found user := by
  rcases found with ⟨actorId, member⟩ | ⟨email, member⟩
  · exact .inl ⟨actorId, grown member⟩
  · exact .inr ⟨email, grown member⟩

theorem AdminRecord.Admits.mono {calls more : AdminRecord Url} {user : UserRow}
    (admits : calls.Admits user) (grown : calls ⊆ more) : more.Admits user := by
  obtain ⟨actor, live, member⟩ := admits
  exact ⟨actor, live, grown member⟩

section Follows

variable [HashCrate] {task : ServerTask Url} {calls : AdminRecord Url}

/-- What a login leaves. -/
def LetsIn (outcome : Except Error Answer) (final : AdminRecord Url) : Prop :=
  ∀ answer, outcome = .ok (.ok answer) → ∃ token user, answer = some token ∧
    final.Found user ∧ final.Admits user ∧ final.Opened token user

/-- The session of a user who may be let in. -/
theorem follows_openSession (isBase : task.MayCall = fun _ op => ∃ base, op = .base base)
    {user : UserRow} (found : calls.Found user) (admits : calls.Admits user) :
    (AdminRequest.ofRequest (openSession user)).Follows task.protocol LetsIn calls := by
  have allowed (calls : AdminRecord Url) (op : RegisterOp Url) : task.MayCall calls (.base op) := by
    rw [isBase]
    exact ⟨op, rfl⟩
  refine ⟨allowed _ _, ?_⟩
  rintro (error | token)
  · rintro _ ⟨⟩
  refine ⟨allowed _ _, ?_⟩
  rintro (error | csrfToken)
  · rintro _ ⟨⟩
  refine ⟨allowed _ _, ?_⟩
  rintro (error | now)
  · rintro _ ⟨⟩
  refine ⟨allowed _ _, ?_⟩
  rintro (error | created)
  · rintro _ ⟨⟩
  show LetsIn _ (calls ++ [⟨.base (.base .clock), .ok now⟩] ++
    [⟨.base (.base (.createSession _)), .ok created⟩])
  have grown : calls ⊆ calls ++ [⟨.base (.base .clock), .ok now⟩] ++
      [⟨.base (.base (.createSession _)), .ok created⟩] := by
    rw [List.append_assoc]
    exact List.subset_append_left _ _
  rintro _ ⟨⟩
  exact ⟨token, user, rfl, found.mono grown, admits.mono grown, _, rfl, rfl,
    List.mem_append_right _ List.mem_cons_self⟩

/-- The login of a user whose password is right. -/
theorem follows_loginVerified (isBase : task.MayCall = fun _ op => ∃ base, op = .base base)
    {user : UserRow} (found : calls.Found user) :
    (AdminRequest.ofRequest (loginVerified user)).Follows task.protocol LetsIn calls := by
  refine ⟨?_, ?_⟩
  · show task.MayCall calls _
    rw [isBase]
    exact ⟨_, rfl⟩
  rintro (error | _ | actor)
  · rintro _ ⟨⟩
  · rintro _ ⟨⟩
  show (AdminRequest.ofRequest (if _ then _ else if _ then _ else openSession user)).Follows
    task.protocol LetsIn (calls ++ [⟨.base (.base (.base (.base (.fetchActorById user.actorId)))),
      .ok (some actor)⟩])
  split
  · rintro _ ⟨⟩
  split
  · rintro _ ⟨⟩
  next unsuspended =>
  refine follows_openSession isBase (found.mono (List.subset_append_left _ _)) ?_
  exact ⟨actor, not_not.mp unsuspended, List.mem_append_right _ List.mem_cons_self⟩

theorem follows_loginUser (isBase : task.MayCall = fun _ op => ∃ base, op = .base base)
    (password : String) {user : UserRow} (found : calls.Found user) :
    (AdminRequest.ofRequest (loginUser password user)).Follows task.protocol LetsIn calls := by
  unfold loginUser
  split
  · rintro _ ⟨⟩
  split
  · rintro _ ⟨⟩
  split
  · rintro _ ⟨⟩
  split
  · exact follows_loginVerified isBase found
  · rintro _ ⟨⟩

theorem follows_login (isBase : task.MayCall = fun _ op => ∃ base, op = .base base)
    (request : LoginRequest) :
    (AdminRequest.ofRequest (login request)).Follows task.protocol LetsIn [] := by
  have allowed (calls : AdminRecord Url) (op : RegisterOp Url) : task.MayCall calls (.base op) := by
    rw [isBase]
    exact ⟨op, rfl⟩
  refine ⟨allowed _ _, ?_⟩
  rintro (error | _ | actor)
  · rintro _ ⟨⟩
  · refine ⟨allowed _ _, ?_⟩
    rintro (error | _ | user)
    · rintro _ ⟨⟩
    · rintro _ ⟨⟩
    · exact follows_loginUser isBase request.password (.inr ⟨_, List.mem_singleton_self _⟩)
  · refine ⟨allowed _ _, ?_⟩
    rintro (error | _ | user)
    · rintro _ ⟨⟩
    · rintro _ ⟨⟩
    · exact follows_loginUser isBase request.password (.inl ⟨_, List.mem_singleton_self _⟩)

variable [TextStd]

/-- Whom a task has let in. -/
def ServerTask.LetsIn (outcome : Except Error ServerAnswer) (final : AdminRecord Url) :
    ServerTask Url → Prop
  | .authenticate head =>
      ∀ auth, outcome = .ok (.authenticated (.ok auth)) → final.Authenticated head auth
  | .login _ =>
      ∀ answer, outcome = .ok (.login (.ok answer)) → ∃ token user, answer = some token ∧
        final.Found user ∧ final.Admits user ∧ final.Opened token user
  | _ => True

theorem ServerTask.follows_letsIn (task : ServerTask Url) :
    task.program.Follows task.protocol (fun outcome final => task.LetsIn outcome final) [] := by
  cases task with
  | authenticate head =>
      change (AdminRequest.ofRequest (guardedAuthUser head) >>= fun answer =>
        (.done (.authenticated answer) : AdminRequest Url ServerAnswer)).Follows _ _ _
      rw [Program.follows_bind]
      refine (AdminRequest.follows_guardedAuthUser fun _ op => ⟨op, rfl⟩).mono ?_
      rintro (error | answer) final ⟨-, authenticated⟩
      · rintro _ ⟨⟩
      · intro auth same
        injection same with same
        injection same with same
        exact authenticated auth (congrArg Except.ok same)
  | login request =>
      change (AdminRequest.ofRequest (TootTok.login request) >>= fun answer =>
        (.done (.login answer) : AdminRequest Url ServerAnswer)).Follows _ _ _
      rw [Program.follows_bind]
      refine (follows_login rfl request).mono ?_
      rintro (error | answer) final letsIn
      · rintro _ ⟨⟩
      · intro token same
        injection same with same
        injection same with same
        exact letsIn token (congrArg Except.ok same)
  | admin _ _ | register _ _ | other _ => exact (follows_program _).mono fun _ _ _ => trivial

end Follows

/-! ## Runs -/

section Runs

variable [HashCrate] [TextStd] {ι : Type} [DecidableEq ι]

/-- Suspension is final. In every run of the server, from a moment on at which an administrator
has suspended an actor: the actor stays suspended; no request that begins later is authenticated
as this actor; and a login that begins later succeeds only for a user of another one. -/
theorem suspension_is_final (tasks : ι → ServerTask Url) (start : Administration)
    {before after : List (ServerEvent ι Url)} {suspender : ι} {actorId : Nat}
    {env : RegisterEnv Url} {actor : ActorRow}
    {config : Effects.Config ι (@AdminOp.Result Url) Error ServerAnswer Administration}
    (run : ServerRun tasks start (before ++ after) config)
    (suspends : .called ⟨suspender, .suspend actorId, env, .ok (some actor)⟩ ∈ before) :
    Actors.Suspended actorId config.state.actors ∧
      ∀ thread, recordOf before thread = [] →
        (∀ head auth, tasks thread = .authenticate head →
          config.threads thread = .done (.authenticated (.ok auth)) → auth.actor.id ≠ actorId) ∧
        ∀ request answer, tasks thread = .login request →
          config.threads thread = .done (.login (.ok answer)) →
            ∃ token user session, answer = some token ∧ session.id = HashCrate.hashToken token ∧
              session.userId = user.id ∧ user.actorId ≠ actorId ∧
              (Once start (before ++ after) fun admin => user ∈ admin.users) ∧
              ∃ env, .called ⟨thread, .base (.base (.createSession session)), env, .ok ()⟩ ∈ after := by
  have suspended : Actors.Suspended actorId (replay AdminOp.exec start before).actors := by
    obtain ⟨first, rest, rfl⟩ := List.append_of_mem suspends
    rw [List.append_assoc, List.cons_append] at run
    obtain ⟨-, -, -, -, returned⟩ := run.called_at
    rw [← List.singleton_append, replay_append, replay_append]
    refine replay_keeps (fun admin : Administration => Actors.Suspended actorId admin.actors)
      AdminOp.suspended_exec rest ?_
    exact AdminOp.suspended_of_suspend returned.symm
  have lasts (later : List (ServerEvent ι Url)) :
      Actors.Suspended actorId (replay AdminOp.exec start (before ++ later)).actors := by
    rw [replay_append]
    exact replay_keeps (fun admin : Administration => Actors.Suspended actorId admin.actors)
      AdminOp.suspended_exec later suspended
  -- Whoever reads the actor later finds it suspended.
  have another {thread : ι} (unbegun : recordOf before thread = []) {id : Nat} {row : ActorRow}
      (live : row.suspendedAt = none)
      (member : ⟨.base (.base (.base (.base (.fetchActorById id)))), .ok (some row)⟩ ∈
        recordOf (before ++ after) thread) : row.id = id ∧ id ≠ actorId := by
    obtain ⟨middle, rest, env, rfl, executed⟩ := run.executed_since unbegun member
    obtain ⟨stored, named⟩ := AdminOp.actor_of_fetched executed
    refine ⟨named, ?_⟩
    rintro rfl
    exact (lasts middle).row row stored named live
  refine ⟨run.state_eq ▸ lasts after, fun thread unbegun => ?_⟩
  have follows := run.follows (fun thread => (tasks thread).follows_letsIn)
    (fun _ _ => False.elim) thread
  constructor
  · intro head auth isTask answered
    rw [answered, isTask] at follows
    have authenticated := follows auth rfl
    obtain ⟨named, other⟩ := another unbegun authenticated.unsuspended.2 authenticated.actor
    exact fun same => other (named.symm.trans same)
  · intro request answer isTask answered
    rw [answered, isTask] at follows
    obtain ⟨token, user, isToken, found, ⟨actor, live, read⟩, session, isSession, ofUser, opened⟩ :=
      follows answer rfl
    obtain ⟨-, other⟩ := another unbegun live read
    obtain ⟨middle, rest, env, isAfter, -⟩ := run.executed_since unbegun opened
    refine ⟨token, user, session, isToken, isSession, ofUser, other, ?_, env, ?_⟩
    · rcases found with ⟨id, member⟩ | ⟨email, member⟩
      · obtain ⟨earlier, later, env, same, executed⟩ := run.executed member
        exact ⟨earlier, _, same, AdminOp.user_of_fetchedByActorId executed⟩
      · obtain ⟨earlier, later, env, same, executed⟩ := run.executed member
        exact ⟨earlier, _, same, AdminOp.user_of_fetchedByEmail executed⟩
    · rw [isAfter]
      exact List.mem_append_right _ List.mem_cons_self

end Runs

namespace Sample

/-- The administrator suspends himself while he makes another request. -/
def suspensionTasks : Bool → ServerTask NormalUrl
  | false => .admin (.suspend 1) signed
  | true => .authenticate signed

/-- The other request begins after the suspension, before the sessions are revoked. -/
def suspension := takeOn suspensionTasks administration
  (List.replicate 7 false ++ List.replicate 5 true)

/-- The session is still there, and does not let anybody in. -/
theorem suspended_at_once :
    suspension.2.state.sessions.rows = [openSession] ∧
      Actors.Suspended 1 suspension.2.state.actors ∧
      ∀ auth, suspension.2.threads true = .done (.authenticated (.ok auth)) →
        auth.actor.id ≠ 1 := by
  have split : suspension.1 = suspension.1.take 7 ++ suspension.1.drop 7 := rfl
  have run : ServerRun suspensionTasks administration suspension.1 suspension.2 :=
    takeOn_run _ _ _
  rw [split] at run
  have suspends : .called ⟨false, .suspend 1, newcomerEnv,
      .ok (some (uploader.suspend ⟨0⟩))⟩ ∈ suspension.1.take 7 :=
    List.mem_of_getElem? (show (suspension.1.take 7)[6]? = _ from rfl)
  obtain ⟨lasts, refused⟩ := suspension_is_final suspensionTasks administration run suspends
  exact ⟨rfl, lasts, fun auth => (refused true rfl).1 signed auth rfl⟩

end Sample

end TootTok
