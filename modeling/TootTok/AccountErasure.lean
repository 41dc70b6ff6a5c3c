import TootTok.Logins

/-!
# The erasure of an account

A user who deletes the account loses the clips, the personal columns, the actor, the
sessions and the mailed tokens, statement by statement. A failure before the personal
columns are erased can be made good by another request. After that, nobody can
authenticate as the user any more, and what is left of the deletion is never done.
-/

namespace TootTok

open Effects
open Relational (Table SerialTable)

variable {Url : Type}

/-! ## The request -/

/-- The last part of the deletion: the user, the actor, the sessions and the tokens. -/
def eraseAccount (auth : AuthUser) : Request Url Answer :=
  stepOrProblem (.markDeletedAndErase auth.user.id) <|
    stepOrProblem (.base (.base (.markActorDeleted auth.actor.id))) <|
      stepOrProblem (.deleteSessionsOfUser auth.user.id) <|
        stepOrProblem (.deleteTokensOfUser auth.user.id) (.done (.ok none))

/-- A part of a request that the workers have too. -/
def Request.ofRoutine {α : Type} (routine : Routine Url α) : Request Url α :=
  routine.embed .base fun _ outcome => outcome

/-- Delete the files, then leave a tombstone and erase the account. -/
def deleteFiles (mediaDir : String) (auth : AuthUser) (keys : List String) :
    Request Url Answer := do
  Request.ofRoutine (deleteKeys mediaDir keys)
  stepOrProblem (.base (.base (.insertTombstone auth.actor.apId .person))) (eraseAccount auth)

/-- The deletion after the password is confirmed. -/
def deleteContent (mediaDir : String) (auth : AuthUser) : Request Url Answer :=
  stepOrProblem (.base (.base (.markClipsOfActorDeleted auth.actor.id))) <|
    stepThen (.base (.assetPathsOfActor auth.actor.id)) (deleteFiles mediaDir auth)

def invalidPassword : Response := .problem 401 "invalid password"

/-- The password that is presented is the one on record. -/
def AuthUser.Confirms [HashCrate] (auth : AuthUser) (password : String) : Prop :=
  ∃ storedHash, auth.user.passwordHash = some storedHash ∧
    HashCrate.verifyPassword password storedHash = true

/-- `DELETE /api/v1/accounts/me`. -/
def Request.deleteMe [HashCrate] (mediaDir : String) (auth : AuthUser) (password : String) :
    Request Url Answer :=
  match auth.user.passwordHash with
  | none => .done (.error invalidPassword)
  | some storedHash =>
      if HashCrate.verifyPassword password storedHash then deleteContent mediaDir auth
      else .done (.error invalidPassword)

/-! ## Steps that fail -/

/-- The steps of the deletion that the database can fail. -/
inductive DeletionStep
  | clips
  | assetPaths
  | tombstone
  | user
  | actor
  | sessions
  | tokens
deriving DecidableEq

namespace DeletionStep

/-- The step that an operation is. -/
def ofOp : AccountOp Url → Option DeletionStep
  | .base (.base (.markClipsOfActorDeleted _)) => some .clips
  | .base (.assetPathsOfActor _) => some .assetPaths
  | .base (.base (.insertTombstone _ _)) => some .tombstone
  | .markDeletedAndErase _ => some .user
  | .base (.base (.markActorDeleted _)) => some .actor
  | .deleteSessionsOfUser _ => some .sessions
  | .deleteTokensOfUser _ => some .tokens
  | _ => none

/-- The step comes after the user row is erased. -/
def AfterErasure : DeletionStep → Prop
  | .actor | .sessions | .tokens => True
  | _ => False

instance : DecidablePred AfterErasure := fun step => by
  cases step <;> unfold AfterErasure <;> infer_instance

end DeletionStep

namespace AccountOp

/-- One step fails with an error of the database. -/
def execFailing (failing : Option DeletionStep) :
    Program.Executor (@Result Url) Error Accounts (AccountEnv Url) :=
  fun env op accounts =>
    if failing.isSome ∧ DeletionStep.ofOp op = failing then (.error (.db .failed), accounts)
    else exec env op accounts

end AccountOp

/-- The rows that authentication reads are the same. -/
structure SameAccounts (before after : Accounts) : Prop where
  users : after.users = before.users
  sessions : after.sessions = before.sessions
  actors : after.actors = before.actors

namespace SameAccounts

theorem refl (accounts : Accounts) : SameAccounts accounts accounts := ⟨rfl, rfl, rfl⟩

theorem trans {first second third : Accounts}
    (earlier : SameAccounts first second) (later : SameAccounts second third) :
    SameAccounts first third :=
  ⟨later.users.trans earlier.users, later.sessions.trans earlier.sessions,
    later.actors.trans earlier.actors⟩

end SameAccounts

section Steps

variable {failing : Option DeletionStep} {env : AccountEnv Url} {accounts : Accounts}
  {op : AccountOp Url} {rest : Request Url Answer}

/-- Run a request in an unchanging world in which one step fails. -/
abbrev runFailing {α : Type} (failing : Option DeletionStep) (env : AccountEnv Url)
    (request : Request Url α) (accounts : Accounts) : Except Error α × Accounts :=
  request.run (AccountOp.execFailing failing) (fun _ => env) accounts

/-- The step that an operation is, is the one that fails. -/
def Fails (failing : Option DeletionStep) (op : AccountOp Url) : Prop :=
  failing.isSome ∧ DeletionStep.ofOp op = failing

/-- A step fails and the request ends, or the request goes on. -/
theorem run_stepThen_cases {rest : op.Result → Request Url Answer} {value : op.Result}
    {after : Accounts} (executed : AccountOp.exec env op accounts = (.ok value, after)) :
    Fails failing op ∧
        runFailing failing env (stepThen op rest) accounts =
          (.ok (.error databaseError), accounts) ∨
      ¬Fails failing op ∧
        runFailing failing env (stepThen op rest) accounts =
          runFailing failing env (rest value) after := by
  change _ ∧ Program.run (AccountOp.execFailing failing) (.call op _) _ accounts = _ ∨
    _ ∧ Program.run (AccountOp.execFailing failing) (.call op _) _ accounts = _
  by_cases fails : Fails failing op
  · have refused : AccountOp.execFailing failing env op accounts =
        (.error (.db .failed), accounts) := if_pos fails
    refine .inl ⟨fails, ?_⟩
    rw [Program.run, refused]
    rfl
  · have succeeded : AccountOp.execFailing failing env op accounts = (.ok value, after) :=
      (if_neg fails).trans executed
    refine .inr ⟨fails, ?_⟩
    rw [Program.run, succeeded]
    rfl

theorem run_stepOrProblem_cases {value : op.Result} {after : Accounts}
    (executed : AccountOp.exec env op accounts = (.ok value, after)) :
    Fails failing op ∧
        runFailing failing env (stepOrProblem op rest) accounts =
          (.ok (.error databaseError), accounts) ∨
      ¬Fails failing op ∧
        runFailing failing env (stepOrProblem op rest) accounts =
          runFailing failing env rest after :=
  run_stepThen_cases executed

/-- A part that succeeds, and then the rest. -/
theorem runFailing_bind {α β : Type} {part : Request Url α} {rest : α → Request Url β}
    {value : α} {after : Accounts}
    (ran : runFailing failing env part accounts = (.ok value, after)) :
    runFailing failing env (part >>= rest) accounts =
      runFailing failing env (rest value) after := by
  induction part generalizing accounts with
  | done result =>
      cases ran
      rfl
  | fail error => cases ran
  | call op next inductionHypothesis => exact inductionHypothesis _ ran

/-! ### What each step does -/

variable (faultless : env.fault = none)
include faultless

/-- A statement on the tables of the instance, in a world without faults. -/
theorem exec_statement {op : Operation Url} (storable : op.storable = true) :
    AccountOp.exec env (.base (.base op)) accounts =
      ((Operation.perform env.toEnv op accounts.toDb).1,
        { accounts with
          toDb := (Operation.perform env.toEnv op accounts.toDb).2 }) := by
  have free : Operation.failure env.toEnv op = none := by
    unfold Operation.failure
    rw [faultless, storable]
    split <;> rfl
  change ((Operation.exec env.toEnv op accounts.toDb).1,
    { accounts with toDb := (Operation.exec env.toEnv op accounts.toDb).2 }) = _
  rw [Operation.exec_of_success free]

/-- A statement on the tables of the accounts. -/
theorem exec_own (fails : AccountOp.failure env op = env.fault) :
    AccountOp.exec env op accounts = AccountOp.perform env op accounts := by
  unfold AccountOp.exec
  rw [fails, faultless]

/-- The deletion of files cannot fail for the request, and touches files only. -/
theorem run_deleteKeys (mediaDir : String) (keys : List String) (accounts : Accounts) :
    ∃ after, runFailing failing env (Request.ofRoutine (deleteKeys mediaDir keys)) accounts =
      (.ok (), after) ∧ SameAccounts accounts after := by
  induction keys generalizing accounts with
  | nil => exact ⟨accounts, rfl, .refl accounts⟩
  | cons key keys inductionHypothesis =>
      unfold Request.ofRoutine at inductionHypothesis ⊢
      rw [deleteKeys]
      unfold Routine.discarded Routine.caught deleteKey onKey
      cases Store.abs mediaDir key with
      | none => exact inductionHypothesis accounts
      | some path =>
          have removed : AccountOp.execFailing failing env (.base (.removeFile path)) accounts =
              (.ok (), { accounts with toServer := accounts.toServer.setFile path false }) := by
            have spared : ¬(failing.isSome ∧
                DeletionStep.ofOp (.base (.removeFile path) : AccountOp Url) = failing) := by
              rintro ⟨isSome, same⟩
              rw [← same] at isSome
              cases isSome
            refine (if_neg spared).trans ?_
            change ((WorkerOp.exec env.toWorkerEnv (.removeFile path) accounts.toServer).1,
              { accounts with
                toServer :=
                  (WorkerOp.exec env.toWorkerEnv (.removeFile path) accounts.toServer).2 }) = _
            rw [show WorkerOp.exec env.toWorkerEnv (.removeFile path) accounts.toServer =
                (.ok (), accounts.toServer.setFile path false) by
              unfold WorkerOp.exec WorkerOp.failure
              rw [faultless]
              rfl]
          obtain ⟨after, ran, same⟩ := inductionHypothesis
            { accounts with toServer := accounts.toServer.setFile path false }
          refine ⟨after, ?_, same.users, same.sessions, same.actors⟩
          change Program.run (AccountOp.execFailing failing) (.call (.base (.removeFile path)) _)
            _ accounts = _
          rw [Program.run, removed]
          exact ran

/-! ### The erasure -/

/-- The user row carries a time of deletion. -/
def Erased (userId : Nat) (accounts : Accounts) : Prop :=
  ∀ row ∈ accounts.users, row.id = userId → row.deletedAt ≠ none

omit faultless in
theorem erased_markDeletedAndErase (userId : Nat) (now : DateTime) (accounts : Accounts) :
    Erased userId
      { accounts with users := Users.markDeletedAndErase userId now accounts.users } := by
  intro row stored isUser
  obtain ⟨old, -, rfl⟩ := Users.mem_markDeletedAndErase.mp stored
  unfold Table.changeWhere at isUser ⊢
  by_cases hit : Users.byId userId old = true
  · rw [if_pos hit]
    rintro ⟨⟩
  · rw [if_neg hit] at isUser
    exact absurd (decide_eq_true isUser) hit

omit faultless in
theorem Fails.eq_some {step : DeletionStep} (fails : Fails failing op)
    (isStep : DeletionStep.ofOp op = some step) : failing = some step :=
  fails.2.symm.trans isStep

/-- The erasure ends before it has changed anything, or with an erased user and an
error, or well. -/
theorem eraseAccount_cases (auth : AuthUser) (accounts : Accounts) :
    (failing = some .user ∧
      runFailing failing env (eraseAccount auth) accounts =
        (.ok (.error databaseError), accounts)) ∨
    (∃ step, failing = some step ∧ step.AfterErasure ∧
      ∃ after, runFailing failing env (eraseAccount auth) accounts =
        (.ok (.error databaseError), after) ∧ Erased auth.user.id after) ∨
    (∃ after, runFailing failing env (eraseAccount auth) accounts = (.ok (.ok none), after)) ∧
      ∀ step, failing = some step → ¬step.AfterErasure := by
  have user : AccountOp.exec env (.markDeletedAndErase auth.user.id) accounts =
      (.ok (), { accounts with
        users := Users.markDeletedAndErase auth.user.id env.now accounts.users }) :=
    exec_own faultless rfl
  have actor (accounts : Accounts) : ∃ value after,
      AccountOp.exec env (.base (.base (.markActorDeleted auth.actor.id))) accounts =
        (.ok value, after) ∧ after.users = accounts.users :=
    ⟨_, _, exec_statement faultless rfl, rfl⟩
  have sessions (accounts : Accounts) : ∃ after,
      AccountOp.exec env (.deleteSessionsOfUser auth.user.id) accounts = (.ok (), after) ∧
        after.users = accounts.users :=
    ⟨_, exec_own faultless rfl, rfl⟩
  have tokens (accounts : Accounts) : ∃ after,
      AccountOp.exec env (.deleteTokensOfUser auth.user.id) accounts = (.ok (), after) ∧
        after.users = accounts.users :=
    ⟨_, exec_own faultless rfl, rfl⟩
  have erased := erased_markDeletedAndErase auth.user.id env.now accounts
  unfold eraseAccount
  rcases run_stepOrProblem_cases user with ⟨fails, ran⟩ | ⟨-, ran⟩
  · exact .inl ⟨fails.eq_some rfl, ran⟩
  rw [ran]
  refine .inr ?_
  obtain ⟨_, second, executed, users⟩ := actor { accounts with
    users := Users.markDeletedAndErase auth.user.id env.now accounts.users }
  rcases run_stepOrProblem_cases executed with ⟨fails, ran⟩ | ⟨noActor, ran⟩
  · exact .inl ⟨.actor, fails.eq_some rfl, trivial, _, ran, erased⟩
  rw [ran]
  replace erased : Erased auth.user.id second := by
    unfold Erased
    rw [users]
    exact erased
  obtain ⟨third, executed, users⟩ := sessions second
  rcases run_stepOrProblem_cases executed with ⟨fails, ran⟩ | ⟨noSessions, ran⟩
  · exact .inl ⟨.sessions, fails.eq_some rfl, trivial, _, ran, erased⟩
  rw [ran]
  replace erased : Erased auth.user.id third := by
    unfold Erased
    rw [users]
    exact erased
  obtain ⟨fourth, executed, -⟩ := tokens third
  rcases run_stepOrProblem_cases executed with ⟨fails, ran⟩ | ⟨noTokens, ran⟩
  · exact .inl ⟨.tokens, fails.eq_some rfl, trivial, _, ran, erased⟩
  rw [ran]
  refine .inr ⟨⟨_, rfl⟩, ?_⟩
  rintro step rfl late
  cases step with
  | actor => exact noActor ⟨rfl, rfl⟩
  | sessions => exact noSessions ⟨rfl, rfl⟩
  | tokens => exact noTokens ⟨rfl, rfl⟩
  | _ => exact late

/-- The deletion ends before the erasure with an error, or goes on with it; what
authentication reads is the same up to there. -/
theorem deleteContent_cases (mediaDir : String) (auth : AuthUser) (accounts : Accounts)
    (storable : Json.textStorable auth.actor.apId = true) :
    ∃ after, SameAccounts accounts after ∧
      ((∃ step, failing = some step ∧ ¬step.AfterErasure ∧
        runFailing failing env (deleteContent mediaDir auth) accounts =
          (.ok (.error databaseError), after)) ∨
      runFailing failing env (deleteContent mediaDir auth) accounts =
        runFailing failing env (eraseAccount auth) after) := by
  have storableTombstone :
      (Operation.insertTombstone auth.actor.apId .person : Operation Url).storable = true := by
    unfold Operation.storable Operation.texts
    rw [List.all_cons, storable]
    rfl
  have clips : ∃ after,
      AccountOp.exec env (.base (.base (.markClipsOfActorDeleted auth.actor.id))) accounts =
        (.ok (), after) ∧ SameAccounts accounts after :=
    ⟨_, exec_statement faultless rfl, rfl, rfl, rfl⟩
  have assets (accounts : Accounts) : ∃ keys,
      AccountOp.exec env (.base (.assetPathsOfActor auth.actor.id)) accounts =
        (.ok keys, accounts) := by
    refine ⟨Server.assetPathsOfActor auth.actor.id accounts.toDb, ?_⟩
    change ((WorkerOp.exec env.toWorkerEnv _ accounts.toServer).1, { accounts with
      toServer := (WorkerOp.exec env.toWorkerEnv _ accounts.toServer).2 }) = _
    unfold WorkerOp.exec WorkerOp.failure
    rw [faultless]
    rfl
  have tombstone (accounts : Accounts) : ∃ after,
      AccountOp.exec env (.base (.base (.insertTombstone auth.actor.apId .person))) accounts =
        (.ok (), after) ∧ SameAccounts accounts after :=
    ⟨_, exec_statement faultless storableTombstone, rfl, rfl, rfl⟩
  unfold deleteContent
  obtain ⟨first, executed, same⟩ := clips
  rcases run_stepOrProblem_cases executed with ⟨fails, ran⟩ | ⟨-, ran⟩
  · exact ⟨accounts, .refl accounts, .inl ⟨.clips, fails.eq_some rfl, id, ran⟩⟩
  rw [ran]
  obtain ⟨keys, executed⟩ := assets first
  rcases run_stepThen_cases executed with ⟨fails, ran⟩ | ⟨-, ran⟩
  · exact ⟨first, same, .inl ⟨.assetPaths, fails.eq_some rfl, id, ran⟩⟩
  rw [ran]
  obtain ⟨second, deleted, sameFiles⟩ := run_deleteKeys faultless mediaDir keys first
  unfold deleteFiles
  rw [runFailing_bind deleted]
  obtain ⟨third, executed, sameTombstone⟩ := tombstone second
  rcases run_stepOrProblem_cases executed with ⟨fails, ran⟩ | ⟨-, ran⟩
  · exact ⟨second, same.trans sameFiles, .inl ⟨.tombstone, fails.eq_some rfl, id, ran⟩⟩
  · exact ⟨third, (same.trans sameFiles).trans sameTombstone, .inr ran⟩

end Steps

/-! ## Authentication before and after -/

/-- Two states from which every call of a program has the same outcome. -/
theorem run_fst_congr {α : Type} {allowed : AccountOp Url → Prop}
    (related : Accounts → Accounts → Prop)
    (kept : ∀ env op left right, allowed op → related left right →
      (AccountOp.exec env op left).1 = (AccountOp.exec env op right).1 ∧
        related (AccountOp.exec env op left).2 (AccountOp.exec env op right).2)
    {request : Request Url α} (calls : request.Calls allowed) (envs : Nat → AccountEnv Url)
    {left right : Accounts} (start : related left right) :
    (request.run AccountOp.exec envs left).1 = (request.run AccountOp.exec envs right).1 := by
  induction request generalizing envs left right with
  | done _ => rfl
  | fail _ => rfl
  | call op next inductionHypothesis =>
      obtain ⟨outcome, later⟩ := kept (envs 0) op left right calls.1 start
      unfold Program.run
      rw [outcome]
      exact inductionHypothesis _ (calls.2 _) _ later

/-- What the extractor calls. -/
def AuthCalls : AccountOp Url → Prop
  | .fetchSession _ | .clock | .deleteSession _ | .fetchUserById _
  | .base (.base (.fetchActorById _)) => True
  | _ => False

theorem authOfSession_calls (session : SessionRow) :
    (authOfSession session : Request Url (Except Response AuthUser)).Calls AuthCalls := by
  refine ⟨trivial, ?_⟩
  rintro (error | now)
  · trivial
  dsimp only [Program.bind, bind]
  split
  · exact ⟨trivial, fun _ => trivial⟩
  · refine ⟨trivial, ?_⟩
    rintro (error | _ | user)
    · trivial
    · trivial
    · dsimp only [Program.bind, required]
      split
      · trivial
      · refine ⟨trivial, ?_⟩
        rintro (error | _ | actor)
        · trivial
        · trivial
        · dsimp only [Program.bind, required]
          split <;> trivial

theorem authUser_calls [HashCrate] (head : RequestHead) :
    (authUser head : Request Url (Except Response AuthUser)).Calls AuthCalls := by
  unfold authUser
  cases sessionTokenFromHeaders head with
  | none => trivial
  | some token =>
      refine ⟨trivial, ?_⟩
      rintro (error | _ | session)
      · trivial
      · trivial
      · exact authOfSession_calls session

/-- Authentication reads users, sessions and actors only. -/
theorem SameAccounts.exec {left right : Accounts} {op : AccountOp Url} (env : AccountEnv Url)
    (same : SameAccounts left right) (reads : AuthCalls op) :
    (AccountOp.exec env op left).1 = (AccountOp.exec env op right).1 ∧
      SameAccounts (AccountOp.exec env op left).2 (AccountOp.exec env op right).2 := by
  obtain ⟨users, sessions, actors⟩ := same
  cases op with
  | clock => exact ⟨rfl, users, sessions, actors⟩
  | fetchSession id =>
      unfold AccountOp.exec
      cases AccountOp.failure env (.fetchSession id) with
      | some error => exact ⟨rfl, users, sessions, actors⟩
      | none =>
          dsimp only [AccountOp.perform, Accounts.sessionById]
          rw [sessions]
          exact ⟨rfl, users, sessions, actors⟩
  | deleteSession id =>
      unfold AccountOp.exec
      cases AccountOp.failure env (.deleteSession id) with
      | some error => exact ⟨rfl, users, sessions, actors⟩
      | none =>
          refine ⟨rfl, users, ?_, actors⟩
          dsimp only [AccountOp.perform]
          rw [sessions]
  | fetchUserById id =>
      unfold AccountOp.exec
      cases AccountOp.failure env (.fetchUserById id) with
      | some error => exact ⟨rfl, users, sessions, actors⟩
      | none =>
          dsimp only [AccountOp.perform, Accounts.userById]
          rw [users]
          exact ⟨rfl, users, sessions, actors⟩
  | base op =>
      cases op with
      | base op =>
          cases op with
          | fetchActorById id =>
              change (Operation.exec env.toEnv (.fetchActorById id) left.toDb).1 =
                  (Operation.exec env.toEnv (.fetchActorById id) right.toDb).1 ∧
                SameAccounts
                  { left with
                    toDb := (Operation.exec env.toEnv (.fetchActorById id) left.toDb).2 }
                  { right with
                    toDb := (Operation.exec env.toEnv (.fetchActorById id) right.toDb).2 }
              cases failed : Operation.failure env.toEnv (.fetchActorById id) with
              | some error =>
                  rw [Operation.exec_of_failure failed, Operation.exec_of_failure failed]
                  exact ⟨rfl, users, sessions, actors⟩
              | none =>
                  rw [Operation.exec_of_success failed, Operation.exec_of_success failed]
                  dsimp only [Operation.perform, Db.actorById]
                  rw [actors]
                  exact ⟨rfl, users, sessions, actors⟩
          | _ => exact reads.elim
      | _ => exact reads.elim
  | _ => exact reads.elim

/-- The same user authenticates with the same session. -/
theorem SameAccounts.authUser [HashCrate] {before after : Accounts} {head : RequestHead}
    {envs : Nat → AccountEnv Url} {auth : AuthUser}
    (same : SameAccounts before after)
    (authenticated : ((authUser head).run AccountOp.exec envs before).1 = .ok (.ok auth)) :
    ((TootTok.authUser head).run AccountOp.exec envs after).1 = .ok (.ok auth) :=
  (run_fst_congr SameAccounts (fun env _ _ _ reads same => same.exec env reads)
    (authUser_calls head) envs same).symm.trans authenticated

/-- An authenticated user is stored, is the one of the session, and is not deleted. -/
structure AuthUser.Live (auth : AuthUser) (accounts : Accounts) : Prop where
  stored : auth.user ∈ accounts.users
  ofSession : auth.user.id = auth.session.userId
  kept : auth.user.deletedAt = none

theorem live_of_authOfSession {session : SessionRow} {envs : Nat → AccountEnv Url}
    {accounts : Accounts} {auth : AuthUser}
    (ran : ((authOfSession session : Request Url (Except Response AuthUser)).run
      AccountOp.exec envs accounts).1 = .ok (.ok auth)) :
    auth.Live accounts := by
  have traced : (authOfSession session : Request Url (Except Response AuthUser)).Ensures
      AccountOp.exec (fun _ => True)
      (fun outcome _ => ∀ auth : AuthUser, outcome = .ok (.ok auth) → auth.Live accounts)
      accounts := by
    intro env _
    dsimp only [Program.bind, bind]
    change Program.Ensures _ _ _ (ite (session.expiresAt.micros ≤ env.now.micros) _ _) accounts
    split
    · intro _ _
      rintro _ ⟨⟩
    · intro env _
      rcases AccountOp.exec_cases env (.fetchUserById session.userId) accounts with
        ⟨error, failed⟩ | performed
      · rw [failed]
        rintro _ ⟨⟩
      · rw [performed]
        dsimp only [AccountOp.perform]
        cases found : accounts.userById session.userId with
        | none => rintro _ ⟨⟩
        | some user =>
            dsimp only [Program.bind, required]
            split
            · rintro _ ⟨⟩
            next eligible =>
              intro env _
              dsimp only [Program.bind]
              rcases (AccountOp.exec env _ _).1 with error | _ | actor
              · rintro _ ⟨⟩
              · rintro _ ⟨⟩
              · dsimp only [required]
                split
                · rintro _ ⟨⟩
                · rintro _ ⟨⟩
                  refine ⟨Table.mem_of_find?_eq_some found, ?_, ?_⟩
                  · have isUser : Users.byId session.userId user = true :=
                      Table.holds_of_find?_eq_some found
                    exact of_decide_eq_true isUser
                  · exact not_not.mp (not_or.mp eligible).1
  exact traced.run envs (fun _ => trivial) auth ran

theorem live_of_authUser [HashCrate] {head : RequestHead} {envs : Nat → AccountEnv Url}
    {accounts : Accounts} {auth : AuthUser}
    (ran : ((authUser head).run AccountOp.exec envs accounts).1 = .ok (.ok auth)) :
    auth.Live accounts := by
  unfold authUser at ran
  cases present : sessionTokenFromHeaders head with
  | none =>
      rw [present] at ran
      cases ran
  | some token =>
      rw [present] at ran
      rcases AccountOp.exec_cases (envs 0) (.fetchSession (HashCrate.hashToken token)) accounts
        with ⟨error, failed⟩ | performed
      · change ((required (AccountOp.exec (envs 0)
          (.fetchSession (HashCrate.hashToken token)) accounts).1 authOfSession).run _ _ _).1 =
          _ at ran
        rw [failed] at ran
        cases ran
      · change ((required (AccountOp.exec (envs 0)
          (.fetchSession (HashCrate.hashToken token)) accounts).1 authOfSession).run _ _
          (AccountOp.exec (envs 0)
            (.fetchSession (HashCrate.hashToken token)) accounts).2).1 = _ at ran
        rw [performed] at ran
        dsimp only [AccountOp.perform] at ran
        cases found : accounts.sessionById (HashCrate.hashToken token) with
        | none =>
            rw [found] at ran
            cases ran
        | some session =>
            rw [found] at ran
            exact live_of_authOfSession ran

/-! ## When a deletion can be retried -/

section Retry

variable [HashCrate]

/-- The same user authenticates with the same session and password, and deletes the
account. -/
def Retryable (mediaDir : String) (head : RequestHead) (password : String)
    (session : SessionRow) (env : AccountEnv Url) (after : Accounts) : Prop :=
  ∃ auth, ((authUser head).run AccountOp.exec (fun _ => env) after).1 = .ok (.ok auth) ∧
    auth.session = session ∧
    ((Request.deleteMe mediaDir auth password).run AccountOp.exec (fun _ => env) after).1 =
      .ok (.ok none)

omit [HashCrate] in
theorem execFailing_none : @AccountOp.execFailing Url none = AccountOp.exec := by
  funext env op accounts
  exact if_neg (by rintro ⟨⟨⟩, -⟩)

section Deletion

variable {mediaDir : String} {head : RequestHead} {password : String} {env : AccountEnv Url}
  {accounts : Accounts} {auth : AuthUser} {failing : Option DeletionStep}

theorem deleteMe_of_confirms (confirms : auth.Confirms password) :
    (Request.deleteMe mediaDir auth password : Request Url Answer) =
      deleteContent mediaDir auth := by
  obtain ⟨storedHash, stored, verified⟩ := confirms
  unfold Request.deleteMe
  rw [stored]
  exact if_pos verified

/-- A deletion that is not confirmed changes nothing. -/
theorem run_deleteMe_of_not_confirms (unconfirmed : ¬auth.Confirms password) :
    runFailing failing env (Request.deleteMe mediaDir auth password) accounts =
      (.ok (.error invalidPassword), accounts) := by
  unfold Request.deleteMe
  cases stored : auth.user.passwordHash with
  | none => rfl
  | some storedHash =>
      dsimp only
      rw [if_neg fun verified => unconfirmed ⟨storedHash, stored, verified⟩]
      rfl

variable (faultless : env.fault = none) (storable : Json.textStorable auth.actor.apId = true)
include faultless storable

/-- Without a failure, a confirmed deletion completes. -/
theorem deleteMe_completes (confirms : auth.Confirms password) (accounts : Accounts) :
    ((Request.deleteMe mediaDir auth password).run AccountOp.exec (fun _ => env) accounts).1 =
      .ok (.ok none) := by
  rw [deleteMe_of_confirms confirms, ← execFailing_none]
  obtain ⟨middle, -, ⟨_, ⟨⟩, -⟩ | ran⟩ :=
    @deleteContent_cases Url none env faultless mediaDir auth accounts storable
  change (runFailing none env _ accounts).1 = _
  rw [ran]
  rcases @eraseAccount_cases Url none env faultless auth middle with
    ⟨⟨⟩, -⟩ | ⟨_, ⟨⟩, -⟩ | ⟨⟨after, erased⟩, -⟩
  rw [erased]

theorem retryable_of_same {after : Accounts} (confirms : auth.Confirms password)
    (authenticated :
      ((authUser head).run AccountOp.exec (fun _ => env) accounts).1 = .ok (.ok auth))
    (same : SameAccounts accounts after) :
    Retryable mediaDir head password auth.session env after :=
  ⟨auth, same.authUser authenticated, rfl,
    deleteMe_completes faultless storable confirms after⟩

end Deletion

/-- A step of a deletion fails. Whenever the answer is then an error, either nothing has
changed or the deletion can be retried: this holds exactly if the failing step does not
come after the erasure of the user row, or the password is wrong. -/
theorem delete_me_retryable (mediaDir : String) (head : RequestHead) (password : String)
    (env : AccountEnv Url) (accounts : Accounts) (auth : AuthUser) (failing : DeletionStep)
    (faultless : env.fault = none) (storable : Json.textStorable auth.actor.apId = true)
    (authenticated :
      ((authUser head).run AccountOp.exec (fun _ => env) accounts).1 = .ok (.ok auth)) :
    (∀ response after,
      runFailing (some failing) env (Request.deleteMe mediaDir auth password) accounts =
        (.ok (.error response), after) →
      after = accounts ∨ Retryable mediaDir head password auth.session env after) ↔
    (auth.Confirms password → ¬failing.AfterErasure) := by
  have live := live_of_authUser authenticated
  obtain ⟨middle, same, content⟩ :=
    @deleteContent_cases Url (some failing) env faultless mediaDir auth accounts storable
  have erasure := @eraseAccount_cases Url (some failing) env faultless auth middle
  constructor
  · intro retried confirms late
    rw [deleteMe_of_confirms confirms] at retried
    rcases content with ⟨step, ⟨⟩, early, -⟩ | ran
    · exact early late
    rw [ran] at retried
    rcases erasure with ⟨⟨⟩, -⟩ | ⟨step, -, -, after, failed, erased⟩ | ⟨-, noneLate⟩
    · exact late
    · -- The user row is erased, so nobody is authenticated as this user again.
      rcases retried databaseError after failed with rfl | ⟨again, accepted, sameSession, -⟩
      · exact erased auth.user live.stored rfl live.kept
      · have liveAgain := live_of_authUser accepted
        have sameUser : again.user.id = auth.user.id := by
          rw [liveAgain.ofSession, sameSession, live.ofSession]
        exact erased again.user liveAgain.stored sameUser liveAgain.kept
    · exact noneLate failing rfl late
  · intro early response after ran
    by_cases confirms : auth.Confirms password
    · refine .inr ?_
      rw [deleteMe_of_confirms confirms] at ran
      have retryable : Retryable mediaDir head password auth.session env middle :=
        retryable_of_same faultless storable confirms authenticated same
      rcases content with ⟨step, -, -, failed⟩ | continued
      · cases failed.symm.trans ran
        exact retryable
      rw [continued] at ran
      rcases erasure with ⟨-, failed⟩ | ⟨step, ⟨⟩, late, -⟩ | ⟨⟨final, completed⟩, -⟩
      · cases failed.symm.trans ran
        exact retryable
      · exact absurd late (early confirms)
      · cases completed.symm.trans ran
    · cases (run_deleteMe_of_not_confirms confirms).symm.trans ran
      exact .inl rfl

end Retry

namespace Sample

/-- The user is logged in, and has a password. -/
def loggedIn : Accounts :=
  { withToken with sessions := withSession.sessions }

def loggedInUser : AuthUser := ⟨passwordUser, uploader, openSession⟩

theorem loggedIn_authenticated :
    ((authUser posted).run AccountOp.exec (fun _ => accountEnv) loggedIn).1 =
      .ok (.ok loggedInUser) := rfl

/-- After a failure of the tombstone, the deletion can be retried. -/
theorem deletion_retried_after_tombstone :
    (runFailing (some .tombstone) accountEnv
        (Request.deleteMe "m" loggedInUser "old") loggedIn).1 = .ok (.error databaseError) ∧
      ∀ response after,
        runFailing (some .tombstone) accountEnv
            (Request.deleteMe "m" loggedInUser "old") loggedIn = (.ok (.error response), after) →
        after = loggedIn ∨
          Retryable "m" posted "old" loggedInUser.session accountEnv after :=
  ⟨rfl, (delete_me_retryable "m" posted "old" accountEnv loggedIn loggedInUser .tombstone rfl
    (by decide) loggedIn_authenticated).mpr fun _ late => late⟩

/-- The actor cannot be marked: the user is erased and the actor is not, and the deletion
cannot be retried. -/
theorem deletion_stuck_at_actor :
    ∃ response after,
      runFailing (some .actor) accountEnv
          (Request.deleteMe "m" loggedInUser "old") loggedIn = (.ok (.error response), after) ∧
        after.actors.rows.map ActorRow.deletedAt = [none] ∧
        after ≠ loggedIn ∧
        ¬Retryable "m" posted "old" loggedInUser.session accountEnv after := by
  refine ⟨databaseError, _, rfl, ?_, ?_, ?_⟩
  · decide
  · intro same
    have deletions := congrArg (fun accounts => accounts.users.rows.map UserRow.deletedAt) same
    revert deletions
    decide
  · rintro ⟨auth, accepted, -⟩
    have refused : ((authUser posted).run AccountOp.exec (fun _ => accountEnv)
        (runFailing (some .actor) accountEnv
          (Request.deleteMe "m" loggedInUser "old") loggedIn).2).1 =
        .ok (.error unauthorized) := rfl
    cases refused.symm.trans accepted

end Sample
end TootTok
