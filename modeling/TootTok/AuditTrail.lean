import TootTok.AdminProtocol

/-!
# The audit log

Any number of administrators act at the same time, amid everything else that the server does,
and any request may stop for good between two calls. The log tells nothing that was not done;
and what was done is told, unless the entry could not be written or its request was cut off.
-/

namespace TootTok

open Effects
open Json (Value)
open Relational (Table)

variable {Url : Type}

/-! ## What the log tells -/

namespace AdminOp

/-- The deed that a call has written down. -/
def tells : (op : AdminOp Url) → Except Error op.Result → Option Deed
  | .logAudit _ entry, .ok _ => entry.deed
  | _, _ => none

/-- The deed that a call has failed to write down. -/
def loses : (op : AdminOp Url) → Except Error op.Result → Option Deed
  | .logAudit _ entry, .error _ => entry.deed
  | _, _ => none

theorem recalled_of_deed (op : AdminOp Url) (outcome : Except Error op.Result) (deed : Deed)
    (isDeed : op.deed outcome = some deed) : op.recalled = true := by
  cases op with
  | base op => cases isDeed
  | _ => rfl

theorem recalled_of_attests (op : AdminOp Url) (outcome : Except Error op.Result) (deed : Deed)
    (attests : op.attests outcome = some deed) : op.recalled = true := by
  cases op with
  | base op => cases attests
  | _ => rfl

end AdminOp

/-- The deeds that the log tells. -/
def Administration.toldDeeds (admin : Administration) : List Deed :=
  admin.auditLog.filterMap fun row => row.deed

section Events

variable {ι : Type}

/-- What has been done, in its order. -/
def deedsOf (events : List (ServerEvent ι Url)) : List Deed :=
  (trail AdminOp.deed events).map Prod.snd

/-- What could not be written down. -/
def lostDeeds (events : List (ServerEvent ι Url)) : List Deed :=
  (trail AdminOp.loses events).map Prod.snd

end Events

/-! ## The log itself -/

namespace Administration

theorem deed_forget (actorId : Nat) (row : AuditRow) : (row.forget actorId).deed = row.deed := by
  unfold AuditRow.forget
  split <;> rfl

/-- The log outlives the actors. -/
theorem toldDeeds_forgetActor (admin : Administration) (id : Nat) :
    (admin.forgetActor id).toldDeeds = admin.toldDeeds := by
  unfold toldDeeds forgetActor
  rw [List.filterMap_map]
  exact congrArg₂ _ (funext fun row => deed_forget id row) rfl

end Administration

/-- What a call does to the deeds that the log tells. -/
theorem AdminOp.toldDeeds_exec (env : RegisterEnv Url) (op : AdminOp Url)
    (admin : Administration) :
    (exec env op admin).2.toldDeeds =
      admin.toldDeeds ++ (op.tells (exec env op admin).1).toList := by
  rcases exec_cases env op admin with ⟨error, failed⟩ | performed
  · rw [failed]
    cases op <;> exact (List.append_nil _).symm
  rw [performed]
  cases op with
  | base op =>
      show Administration.toldDeeds (cascade op _ _) = _
      rw [show (AdminOp.base op).tells _ = none from rfl, Option.toList_none, List.append_nil]
      unfold cascade
      split
      · split
        · exact Administration.toldDeeds_forgetActor _ _
        · rfl
      · rfl
  | createReport new =>
      show Administration.toldDeeds (admin.createReport new).2 = admin.toldDeeds ++ []
      unfold Administration.createReport
      dsimp only
      split <;> exact (List.append_nil _).symm
  | logAudit adminActorId entry =>
      show Administration.toldDeeds (admin.logAudit adminActorId entry).2 =
        admin.toldDeeds ++ ((AdminOp.logAudit adminActorId entry : AdminOp Url).tells
          ((admin.logAudit adminActorId entry).1.mapError .db)).toList
      unfold Administration.logAudit
      split
      · exact (List.append_nil _).symm
      · unfold Administration.toldDeeds
        rw [List.filterMap_append]
        cases told : entry.deed <;> simp [told, tells, Except.mapError]
  | _ => exact (List.append_nil _).symm

/-! ## Runs -/

section Runs

variable [HashCrate] [TextStd] {ι : Type} [DecidableEq ι] {tasks : ι → ServerTask Url}
  {start : Administration} {events : List (ServerEvent ι Url)}
  {config : Effects.Config ι (@AdminOp.Result Url) Error ServerAnswer Administration}

/-- The log grows by what is told. -/
theorem ServerRun.toldDeeds (run : ServerRun tasks start events config) :
    config.state.toldDeeds =
      start.toldDeeds ++ (trail AdminOp.tells events).map Prod.snd := by
  refine run.invariant (fun events admin => admin.toldDeeds =
    start.toldDeeds ++ (trail AdminOp.tells events).map Prod.snd) (List.append_nil _).symm ?_ ?_
  · intro events admin thread told
    rw [told, trail_append]
    simp [trail, Event.entry]
  · intro events admin thread op env told _
    rw [AdminOp.toldDeeds_exec, told, trail_append, List.map_append, List.append_assoc]
    cases isTold : op.tells (AdminOp.exec env op admin).1 <;>
      simp [trail, Event.entry, isTold]

omit [HashCrate] [TextStd] [DecidableEq ι] in
/-- What a request tries to write down is told or lost. -/
theorem perm_trail_attests (events : List (ServerEvent ι Url)) :
    (trail AdminOp.tells events ++ trail AdminOp.loses events).Perm
      (trail AdminOp.attests events) := by
  induction events with
  | nil => exact .nil
  | cons event events inductionHypothesis =>
      have split (shows : (op : AdminOp Url) → Except Error op.Result → Option Deed) :
          trail shows (event :: events) = (event.entry shows).toList ++ trail shows events := by
        rw [← List.singleton_append, trail_append]
        cases shown : event.entry shows <;> simp [trail, shown]
      rw [split, split, split]
      obtain thread | ⟨thread, op, env, outcome⟩ := event
      · exact inductionHypothesis
      cases op with
      | logAudit adminActorId entry =>
          cases outcome with
          | ok written =>
              rw [List.append_assoc]
              exact inductionHypothesis.append_left _
          | error error =>
              refine (List.perm_append_comm_assoc _ _ _).trans ?_
              exact inductionHypothesis.append_left _
      | _ => exact inductionHypothesis

/-- No request writes anything down before it is done. -/
theorem ServerRun.attested_prefix (run : ServerRun tasks start events config) (thread : ι) :
    (recordOf events thread).attested <+: (recordOf events thread).done := by
  refine run.invariant (fun events _ => ∀ thread,
    (recordOf events thread).attested <+: (recordOf events thread).done)
    (fun _ => List.prefix_refl _) ?_ ?_ thread
  · intro events _ caller holds thread
    rcases callsOfTask_began_cases AdminOp.recalled events caller thread with empty | same
    · rw [recordOf, empty]
      exact List.prefix_refl _
    · rw [recordOf, same]
      exact holds thread
  intro events admin caller op env holds mayCall thread
  generalize (AdminOp.exec env op admin).1 = outcome
  rcases callsOfTask_called_cases AdminOp.recalled events caller thread op env outcome with
    ⟨same, -⟩ | ⟨rfl, extended⟩
  · rw [recordOf, same]
    exact holds thread
  rw [recordOf, extended]
  -- Only an entry of the log writes down, and it writes down what is owed.
  have silent (isSilent : op.attests outcome = none) :
      AdminRecord.attested (recordOf events thread ++ [⟨op, outcome⟩]) <+:
        AdminRecord.done (recordOf events thread ++ [⟨op, outcome⟩]) := by
    unfold AdminRecord.attested AdminRecord.done
    rw [shown_append, shown_append, shown_singleton, isSilent, Option.toList_none,
      List.append_nil]
    exact (holds thread).trans (List.prefix_append _ _)
  cases op with
  | logAudit adminActorId entry =>
      cases isTask : tasks thread with
      | admin action head =>
          rw [isTask] at mayCall
          have settled := AdminRecord.Owes.settled mayCall.2 adminActorId outcome
          exact settled ▸ List.prefix_refl _
      | register _ _ | login _ | authenticate _ | other _ =>
          rw [isTask] at mayCall
          obtain ⟨base, ⟨⟩⟩ := mayCall
  | _ => exact silent rfl

/-- Accounting for the deeds of administrators. However their requests interleave with one
another and with everything else, and wherever they stop: the deeds that the log has come to
tell, with those whose entries could not be written, are among the deeds done, each as often
as it was done at most; and they are all of them once every request has ended. -/
theorem log_accounts_for_deeds (tasks : ι → ServerTask Url) (start : Administration)
    {events : List (ServerEvent ι Url)}
    {config : Effects.Config ι (@AdminOp.Result Url) Error ServerAnswer Administration}
    (run : ServerRun tasks start events config) :
    ∃ told, config.state.toldDeeds = start.toldDeeds ++ told ∧
      (told ++ lostDeeds events).Subperm (deedsOf events) ∧
      ((∀ thread, (config.threads thread).Finished) →
        (told ++ lostDeeds events).Perm (deedsOf events)) := by
  refine ⟨_, run.toldDeeds, ?_⟩
  unfold lostDeeds deedsOf
  rw [← List.map_append]
  have tried := perm_trail_attests events
  have attested (thread : ι) :
      ofThread thread (trail AdminOp.attests events) = (recordOf events thread).attested :=
    run.ofThread_trail AdminOp.recalled_of_attests thread
  have done (thread : ι) :
      ofThread thread (trail AdminOp.deed events) = (recordOf events thread).done :=
    run.ofThread_trail AdminOp.recalled_of_deed thread
  constructor
  · have part : (trail AdminOp.attests events).Subperm (trail AdminOp.deed events) := by
      refine subperm_of_ofThread fun thread => ?_
      rw [attested, done]
      exact (run.attested_prefix thread).sublist
    obtain ⟨same, isSame, isPart⟩ := tried.subperm.trans part
    exact ⟨same.map Prod.snd, isSame.map _, isPart.map _⟩
  · intro finished
    refine (tried.trans (perm_of_ofThread fun thread => ?_)).map _
    rw [attested, done]
    exact (run.balanced_of_finished (finished thread)).symm

end Runs

/-! ## Who may administer -/

/-- The operations that are for administrators. -/
def AdminOp.privileged : AdminOp Url → Bool
  | .base _ | .createReport _ => false
  | _ => true

namespace AdminOp

variable {env : RegisterEnv Url} {admin : Administration}

/-- An account operation that succeeds has been performed. -/
theorem performed_of_ok {op : AccountOp Url} {result : op.Result}
    (succeeded : (exec env (.base (.base op)) admin).1 = .ok result) :
    (AccountOp.perform (stored env admin).toAccountEnv op admin.toAccounts).1 = .ok result := by
  have executed : (AccountOp.exec (stored env admin).toAccountEnv op admin.toAccounts).1 =
      .ok result := succeeded
  rcases AccountOp.exec_cases (stored env admin).toAccountEnv op admin.toAccounts with
    ⟨error, failed⟩ | performed
  · rw [failed] at executed
    cases executed
  · rwa [performed] at executed

theorem session_of_fetched {id : String} {session : SessionRow}
    (found : (exec env (.base (.base (.fetchSession id))) admin).1 = .ok (some session)) :
    session ∈ admin.sessions ∧ session.id = id := by
  have isFound : admin.sessionById id = some session := Except.ok.inj (performed_of_ok found)
  exact ⟨Table.mem_of_find?_eq_some isFound, by simpa using Table.holds_of_find?_eq_some isFound⟩

theorem user_of_fetched {id : Nat} {user : UserRow}
    (found : (exec env (.base (.base (.fetchUserById id))) admin).1 = .ok (some user)) :
    user ∈ admin.users ∧ user.id = id := by
  have isFound : admin.userById id = some user := Except.ok.inj (performed_of_ok found)
  exact ⟨Table.mem_of_find?_eq_some isFound,
    by simpa [Users.byId] using Table.holds_of_find?_eq_some isFound⟩

theorem actor_of_fetched {id : Nat} {actor : ActorRow}
    (found : (exec env (.base (.base (.base (.base (.fetchActorById id))))) admin).1 =
      .ok (some actor)) :
    actor ∈ admin.actors ∧ actor.id = id := by
  have executed : (Operation.exec (stored env admin).toEnv (.fetchActorById id) admin.toDb).1 =
      .ok (some actor) := performed_of_ok found
  rcases Operation.exec_cases (stored env admin).toEnv (.fetchActorById id) admin.toDb with
    ⟨error, failed⟩ | performed
  · rw [failed] at executed
    cases executed
  · rw [performed] at executed
    exact Db.actorById_eq_some.mp (Except.ok.inj executed)

end AdminOp

/-- At some moment of a run the database was like this. -/
def Once {ι : Type} (start : Administration) (events : List (ServerEvent ι Url))
    (holds : Administration → Prop) : Prop :=
  ∃ before after, events = before ++ after ∧ holds (replay AdminOp.exec start before)

section Authority

variable [HashCrate]

/-- Up to now, the database has had the session of the cookie, an active administrator whose
session it is, and the actor of the administrator, which was not suspended. -/
structure HasBeenAdmin {ι : Type} (start : Administration) (events : List (ServerEvent ι Url))
    (head : RequestHead) (auth : AuthUser) : Prop where
  session : ∃ token, sessionTokenFromHeaders head = some token ∧
    Once start events fun admin =>
      auth.session ∈ admin.sessions ∧ auth.session.id = HashCrate.hashToken token
  user : Once start events fun admin =>
    auth.user ∈ admin.users ∧ auth.user.id = auth.session.userId ∧ auth.user.isAdmin = true ∧
      auth.user.deletedAt = none ∧ auth.user.status = "active"
  actor : Once start events fun admin =>
    auth.actor ∈ admin.actors ∧ auth.actor.id = auth.user.actorId ∧
      auth.actor.deletedAt = none ∧ auth.actor.suspendedAt = none

variable [TextStd] {ι : Type} [DecidableEq ι]

/-- What only administrators may do. In every run of the server, a privileged operation is one
of a request for administrators whose cookie was that of a session, whose user was an active
administrator, whose actor was not suspended, each at a moment before the operation; and an
entry of the log names this administrator. -/
theorem privileged_needs_admin (tasks : ι → ServerTask Url) (start : Administration)
    {before after : List (ServerEvent ι Url)}
    {call : Call ι (@AdminOp.Result Url) Error (RegisterEnv Url)}
    {config : Effects.Config ι (@AdminOp.Result Url) Error ServerAnswer Administration}
    (run : ServerRun tasks start (before ++ .called call :: after) config)
    (privileged : call.op.privileged = true) :
    ∃ action head auth, tasks call.thread = .admin action head ∧
      HasBeenAdmin start before head auth ∧
      ∀ adminActorId entry, call.op = .logAudit adminActorId entry →
        adminActorId = auth.actor.id := by
  have mayCall : (tasks call.thread).MayCall (recordOf before call.thread) call.op :=
    run.allowed_of_called (serverAtWork_follow tasks start) (fun _ _ => False.elim)
  obtain ⟨reached, ran⟩ := run.moment
  -- What the request remembers was read from the database.
  have once {op : AdminOp Url} {outcome : Except Error op.Result} {holds : Administration → Prop}
      (member : ⟨op, outcome⟩ ∈ recordOf before call.thread)
      (shows : ∀ env admin, (AdminOp.exec env op admin).1 = outcome → holds admin) :
      Once start before holds := by
    obtain ⟨earlier, later, env, same, executed⟩ := ran.executed member
    exact ⟨earlier, _, same, shows env _ executed⟩
  have known {head : RequestHead} {auth : AuthUser}
      (authorized : (recordOf before call.thread).Authorized head auth) :
      HasBeenAdmin start before head auth := by
    obtain ⟨authenticated, isAdmin⟩ := authorized
    obtain ⟨token, isToken, found⟩ := authenticated.session
    constructor
    case session => exact ⟨token, isToken, once found fun _ _ => AdminOp.session_of_fetched⟩
    case user =>
      refine once authenticated.user fun _ _ read => ?_
      obtain ⟨stored, numbered⟩ := AdminOp.user_of_fetched read
      exact ⟨stored, numbered, isAdmin, authenticated.active⟩
    case actor =>
      refine once authenticated.actor fun _ _ read => ?_
      obtain ⟨stored, numbered⟩ := AdminOp.actor_of_fetched read
      exact ⟨stored, numbered, authenticated.unsuspended⟩
  obtain ⟨thread, op, env, outcome⟩ := call
  cases isTask : tasks thread with
  | admin action head =>
      rw [isTask] at mayCall
      cases op with
      | base op => cases privileged
      | createReport new => cases privileged
      | logAudit adminActorId entry =>
          obtain ⟨⟨auth, authorized, named⟩, -⟩ := mayCall
          refine ⟨action, head, auth, rfl, known authorized, ?_⟩
          rintro _ _ ⟨⟩
          exact named
      | _ =>
          obtain ⟨⟨auth, authorized⟩, -⟩ := mayCall
          exact ⟨action, head, auth, rfl, known authorized, by rintro _ _ ⟨⟩⟩
  | register _ _ | login _ | authenticate _ | other _ =>
      rw [isTask] at mayCall
      obtain ⟨base, rfl⟩ := mayCall
      cases privileged

end Authority

namespace Sample

instance textStd : TextStd where
  toLowercase text := String.ofList (text.toList.map Char.toLower)

/-- An active administrator. -/
def administrator : UserRow :=
  { activeUser 1 with isAdmin := true }

theorem administrator_numbered : ∀ row ∈ [administrator], UserRow.id row < 2 := by
  intro row member
  rw [List.mem_singleton.mp member]
  exact Nat.lt_succ_self 1

def openReport : ReportRow where
  id := 1
  reporterActorId := none
  targetType := .clip
  targetId := 1
  category := none
  body := ""
  state := .opened
  resolvedAt := none

theorem openReport_numbered : ∀ row ∈ [openReport], ReportRow.id row < 2 := by
  intro row member
  rw [List.mem_singleton.mp member]
  exact Nat.lt_succ_self 1

/-- A server with an administrator and a report. -/
def administration : Administration where
  toServer := serverWith .ready .probe []
  users := ⟨⟨[administrator], List.pairwise_singleton _ _⟩, 2, administrator_numbered⟩
  sessions := withSession.sessions
  emailTokens := .empty
  settings := .empty
  domainBlocks := .empty
  reports := ⟨⟨[openReport], List.pairwise_singleton _ _⟩, 2, openReport_numbered⟩
  auditLog := []

def newcomerEnv : RegisterEnv NormalUrl :=
  { accountEnv with keypair := .ok ("p", "s") }

/-- A request of the administrator, with the token of the session. -/
def signed : RequestHead := { posted with csrf := some "k" }

/-- Two resolutions of the report, and the suspension of the administrator. -/
def adminTasks : Fin 3 → ServerTask NormalUrl
  | 0 => .admin (.resolveReport 1 none) signed
  | 1 => .admin (.resolveReport 1 (some "spam")) signed
  | 2 => .admin (.suspend 1) signed

/-- Carry out tasks: the next call is that of the next of the threads. -/
def takeOn {ι : Type} [DecidableEq ι] (tasks : ι → ServerTask NormalUrl) (start : Administration)
    (schedule : List ι) :
    List (ServerEvent ι NormalUrl) ×
      Effects.Config ι (@AdminOp.Result NormalUrl) Error ServerAnswer Administration :=
  Config.serve AdminOp.exec (fun _ _ _ _ _ => true) [] (serverAtWork tasks start)
    (schedule.map fun thread => .call thread newcomerEnv)

theorem takeOn_run {ι : Type} [DecidableEq ι] (tasks : ι → ServerTask NormalUrl)
    (start : Administration) (schedule : List ι) :
    ServerRun tasks start (takeOn tasks start schedule).1 (takeOn tasks start schedule).2 := by
  refine Config.serve_serves (fun _ _ _ _ _ _ => trivial) _ ?_ .start
  intro thread task member
  obtain ⟨_, -, ⟨⟩⟩ := List.mem_map.mp member

/-- The three requests in turn. -/
def threeAtOnce := takeOn adminTasks administration
  ((List.replicate 7 [0, 1, 2]).flatten ++ [2, 2])

theorem threeAtOnce_finished (thread : Fin 3) :
    (threeAtOnce.2.threads thread).Finished := by
  obtain ⟨_ | _ | _ | index, bound⟩ := thread
  · trivial
  · trivial
  · trivial
  · omega

/-- The report is resolved once, the administrator is suspended, and the log tells both. -/
theorem three_accounted :
    (deedsOf threeAtOnce.1).length = 2 ∧
      ∃ told, threeAtOnce.2.state.toldDeeds = administration.toldDeeds ++ told ∧
        (told ++ lostDeeds threeAtOnce.1).Perm (deedsOf threeAtOnce.1) := by
  obtain ⟨told, grows, -, whole⟩ :=
    log_accounts_for_deeds adminTasks administration (takeOn_run adminTasks administration _)
  exact ⟨rfl, told, grows, whole threeAtOnce_finished⟩

/-- The first resolution comes after an administrator was read. -/
theorem resolution_authorized :
    ∃ action head auth, adminTasks 0 = .admin action head ∧
      HasBeenAdmin administration (threeAtOnce.1.take 15) head auth ∧
      ∀ adminActorId entry, (.resolveReport 1 "" : AdminOp NormalUrl) =
        .logAudit adminActorId entry → adminActorId = auth.actor.id := by
  have split : threeAtOnce.1 = threeAtOnce.1.take 15 ++
      .called ⟨0, .resolveReport 1 "", newcomerEnv, .ok (some ⟨0⟩)⟩ :: threeAtOnce.1.drop 16 := rfl
  have run : ServerRun adminTasks administration threeAtOnce.1 threeAtOnce.2 := takeOn_run _ _ _
  rw [split] at run
  exact privileged_needs_admin adminTasks administration run rfl

end Sample

end TootTok
