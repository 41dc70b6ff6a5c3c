import TootTok.Admin
import TootTok.Logins
import TootTok.Effects.Recording
import TootTok.Effects.Trails

/-!
# The protocol of administration

What a request may call after the calls that it has made. Only a request that has read an
administrator from the database changes anything that is his to change, and no request
changes a second thing before it has written the first one down.
-/

namespace TootTok

open Effects
open Json (Value)

variable {Url : Type}

/-! ## Deeds -/

/-- What an administrator changes. -/
inductive Deed
  | approved (userId : Int)
  | suspended (actorId : UInt64)
  | blocked (domain : String)
  | unblocked (domain : String)
  | set (key : String) (value : Value)
  | resolved (reportId : Int)

/-- What an entry of the log says was done. -/
def AuditEntry.deed (entry : AuditEntry) : Option Deed :=
  match entry.action with
  | "user.approve" => entry.targetId.map .approved
  | "user.suspend" =>
      match entry.payload.get "actor_id" with
      | some (.number (.posInt actorId)) => some (.suspended actorId)
      | _ => none
  | "domain_block.create" => (entry.payload.getStr "domain").map .blocked
  | "domain_block.delete" => (entry.payload.getStr "domain").map .unblocked
  | "settings.update" =>
      (entry.payload.getStr "key").bind fun key => (entry.payload.get "value").map (.set key)
  | "reports.resolve" => entry.targetId.map .resolved
  | _ => none

namespace AdminOp

/-- What a call has changed. -/
def deed : (op : AdminOp Url) → Except Error op.Result → Option Deed
  | .setStatus userId _, .ok (some _) => some (.approved userId)
  | .suspend actorId, .ok (some _) => some (.suspended (.ofNat actorId))
  | .upsertDomainBlock domain _, .ok _ => some (.blocked domain)
  | .deleteDomainBlock domain, .ok _ => some (.unblocked domain)
  | .setSetting key value, .ok _ => some (.set key value)
  | .resolveReport reportId _, .ok (some _) => some (.resolved reportId)
  | _, _ => none

/-- The deed that a call tries to write down. -/
def attests : (op : AdminOp Url) → Except Error op.Result → Option Deed
  | .logAudit _ entry, _ => entry.deed
  | _, _ => none

/-- The calls that a request goes by later. -/
def recalled : AdminOp Url → Bool
  | .base (.base (.fetchSession _)) | .base (.base .clock)
  | .base (.base (.fetchUserById _)) | .base (.base (.fetchUserByActorId _))
  | .base (.base (.fetchUserByEmail _)) | .base (.base (.createSession _))
  | .base (.base (.base (.base (.fetchActorById _))))
  | .base (.base (.base (.fetchSetting _))) => true
  | .base _ => false
  | _ => true

end AdminOp

/-! ## What a request goes by -/

/-- Calls that a request remembers, with their outcomes. -/
abbrev AdminRecord (Url : Type) : Type := Program.Record (@AdminOp.Result Url) Error

namespace AdminRecord

/-- The deeds of a request. -/
def done (calls : AdminRecord Url) : List Deed := shown AdminOp.deed calls

/-- The deeds that a request has tried to write down. -/
def attested (calls : AdminRecord Url) : List Deed := shown AdminOp.attests calls

/-- All deeds have been written down, or at least tried to. -/
def Balanced (calls : AdminRecord Url) : Prop := calls.done = calls.attested

/-- All deeds but perhaps a last one. -/
def Owes (calls : AdminRecord Url) (deed : Option Deed) : Prop :=
  calls.done = calls.attested ++ deed.toList

/-- A request has authenticated a user by its cookie. -/
structure Authenticated [HashCrate] (head : RequestHead) (calls : AdminRecord Url)
    (auth : AuthUser) : Prop where
  session : ∃ token, sessionTokenFromHeaders head = some token ∧
    ⟨.base (.base (.fetchSession (HashCrate.hashToken token))), .ok (some auth.session)⟩ ∈ calls
  unexpired : ∃ now : DateTime, now.micros < auth.session.expiresAt.micros ∧
    ⟨.base (.base .clock), .ok now⟩ ∈ calls
  user : ⟨.base (.base (.fetchUserById auth.session.userId)), .ok (some auth.user)⟩ ∈ calls
  active : auth.user.deletedAt = none ∧ auth.user.status = "active"
  actor : ⟨.base (.base (.base (.base (.fetchActorById auth.user.actorId)))),
    .ok (some auth.actor)⟩ ∈ calls
  unsuspended : auth.actor.deletedAt = none ∧ auth.actor.suspendedAt = none

/-- A request has authenticated an administrator. -/
def Authorized [HashCrate] (head : RequestHead) (calls : AdminRecord Url) (auth : AuthUser) :
    Prop :=
  calls.Authenticated head auth ∧ auth.user.isAdmin = true

variable [HashCrate] {head : RequestHead} {calls more : AdminRecord Url} {auth : AuthUser}

theorem Authenticated.mono (authenticated : calls.Authenticated head auth)
    (grown : calls ⊆ more) : more.Authenticated head auth where
  session := by
    obtain ⟨token, isToken, found⟩ := authenticated.session
    exact ⟨token, isToken, grown found⟩
  unexpired := by
    obtain ⟨now, early, read⟩ := authenticated.unexpired
    exact ⟨now, early, grown read⟩
  user := grown authenticated.user
  active := authenticated.active
  actor := grown authenticated.actor
  unsuspended := authenticated.unsuspended

omit [HashCrate] in
/-- A call that writes nothing down owes what it has done. -/
theorem Balanced.owes (balanced : calls.Balanced) {op : AdminOp Url}
    {outcome : Except Error op.Result} (silent : op.attests outcome = none) :
    AdminRecord.Owes (calls ++ [⟨op, outcome⟩]) (op.deed outcome) := by
  unfold Balanced Owes done attested at *
  rw [shown_append, shown_append, shown_singleton, shown_singleton, silent, balanced,
    Option.toList_none, List.append_nil]

omit [HashCrate] in
theorem owes_none : calls.Owes none ↔ calls.Balanced := by
  unfold Balanced Owes
  rw [Option.toList_none, List.append_nil]

omit [HashCrate] in
/-- A call that is no deed and writes none down. -/
theorem Balanced.append (balanced : calls.Balanced) (op : AdminOp Url)
    (outcome : Except Error op.Result) (isNone : op.deed outcome = none)
    (silent : op.attests outcome = none) : AdminRecord.Balanced (calls ++ [⟨op, outcome⟩]) :=
  owes_none.mp (isNone ▸ balanced.owes silent)

omit [HashCrate] in
/-- An entry settles what it tells. -/
theorem Owes.settled {entry : AuditEntry} (owes : calls.Owes entry.deed) (adminActorId : Nat)
    (outcome : Except Error Unit) :
    AdminRecord.Balanced (calls ++ [⟨.logAudit adminActorId entry, outcome⟩]) := by
  unfold Balanced Owes done attested at *
  rw [shown_append, shown_append, shown_singleton, shown_singleton, owes]
  exact List.append_nil _

end AdminRecord

namespace AdminOp

/-- The calls that a request may make after those that it remembers. -/
def MayCall [HashCrate] (head : RequestHead) (calls : AdminRecord Url) : AdminOp Url → Prop
  | .base _ => True
  | .createReport new =>
      ∃ auth, calls.Authenticated head auth ∧ new.reporterActorId = auth.actor.id
  | .logAudit adminActorId entry =>
      (∃ auth, calls.Authorized head auth ∧ adminActorId = auth.actor.id) ∧
        calls.Owes entry.deed
  | .setSetting key value =>
      (∃ auth, calls.Authorized head auth) ∧ calls.Balanced ∧
        AdminRequest.validateSetting key value = .ok ()
  | _ => (∃ auth, calls.Authorized head auth) ∧ calls.Balanced

/-- The protocol of a request. -/
def protocol [HashCrate] (head : RequestHead) :
    Protocol (@AdminOp.Result Url) Error (AdminRecord Url) :=
  .recording recalled (MayCall head)

theorem after_recording (mayCall : AdminRecord Url → AdminOp Url → Prop)
    (calls : AdminRecord Url) (op : AdminOp Url) (outcome : Except Error op.Result) :
    (Protocol.recording recalled mayCall).after calls op outcome =
      if op.recalled then calls ++ [⟨op, outcome⟩] else calls := rfl

end AdminOp

/-! ### Requests keep to it -/

namespace AdminRequest

variable [HashCrate] {head : RequestHead} {calls : AdminRecord Url}
  {auth : AuthUser}

/-- What the extractor leaves: whom it returns is authenticated. -/
def Extracted (head : RequestHead) (outcome : Except Error (Except Response AuthUser))
    (final : AdminRecord Url) : Prop :=
  final.Balanced ∧ ∀ auth, outcome = .ok (.ok auth) → final.Authenticated head auth

theorem extracted_problem {final : AdminRecord Url} (balanced : final.Balanced)
    (problem : Response) : Extracted head (.ok (.error problem)) final :=
  ⟨balanced, by rintro _ ⟨⟩⟩

section Extractor

variable {mayCall : AdminRecord Url → AdminOp Url → Prop}
  (allowed : ∀ calls op, mayCall calls (.base op))
include allowed

/-- The extractor authenticates whom it returns. -/
theorem follows_authUser (balanced : calls.Balanced) :
    (ofRequest (authUser head) : AdminRequest Url _).Follows (.recording AdminOp.recalled mayCall)
      (Extracted head) calls := by
  unfold authUser
  split
  · exact extracted_problem balanced _
  next token isToken =>
  refine ⟨allowed _ _, fun found => ?_⟩
  replace balanced := balanced.append _ found rfl rfl
  obtain error | _ | session := found
  · exact extracted_problem balanced _
  · exact extracted_problem balanced _
  refine ⟨allowed _ _, fun clock => ?_⟩
  replace balanced := balanced.append _ clock rfl rfl
  obtain error | now := clock
  · exact ⟨balanced, by rintro _ ⟨⟩⟩
  show (ofRequest (if _ then _ else _) : AdminRequest Url _).Follows
    (.recording AdminOp.recalled mayCall) _ _
  split
  · exact ⟨allowed _ _, fun outcome => extracted_problem balanced _⟩
  next unexpired =>
  refine ⟨allowed _ _, fun found => ?_⟩
  replace balanced := balanced.append _ found rfl rfl
  obtain error | _ | user := found
  · exact extracted_problem balanced _
  · exact extracted_problem balanced _
  show (ofRequest (if _ then _ else _) : AdminRequest Url _).Follows
    (.recording AdminOp.recalled mayCall) _ _
  split
  · exact extracted_problem balanced _
  next active =>
  refine ⟨allowed _ _, fun found => ?_⟩
  replace balanced := balanced.append _ found rfl rfl
  obtain error | _ | actor := found
  · exact extracted_problem balanced _
  · exact extracted_problem balanced _
  show (ofRequest (if _ then _ else _) : AdminRequest Url _).Follows
    (.recording AdminOp.recalled mayCall) _ _
  split
  · exact extracted_problem balanced _
  next unsuspended =>
  refine ⟨balanced, ?_⟩
  rintro _ ⟨⟩
  rw [not_or, not_ne_iff, not_ne_iff] at active unsuspended
  constructor
  case session => exact ⟨token, isToken, by simp [AdminOp.after_recording, AdminOp.recalled]⟩
  case unexpired =>
    exact ⟨now, Int.not_le.mp unexpired, by simp [AdminOp.after_recording, AdminOp.recalled]⟩
  case user => simp [AdminOp.after_recording, AdminOp.recalled]
  case active => exact active
  case actor => simp [AdminOp.after_recording, AdminOp.recalled]
  case unsuspended => exact unsuspended

/-- Behind the middleware, too. -/
theorem follows_guardedAuthUser :
    (ofRequest (guardedAuthUser head) : AdminRequest Url _).Follows
      (.recording AdminOp.recalled mayCall) (Extracted head) [] := by
  unfold guardedAuthUser csrfMiddleware
  split
  · exact follows_authUser allowed rfl
  split
  · exact follows_authUser allowed rfl
  split
  · exact follows_authUser allowed rfl
  refine ⟨allowed _ _, fun found => ?_⟩
  have balanced := (show AdminRecord.Balanced [] from rfl).append _ found rfl rfl
  obtain error | _ | session := found
  · exact follows_authUser allowed balanced
  · exact follows_authUser allowed balanced
  show (ofRequest (if _ then _ else _) : AdminRequest Url _).Follows
    (.recording AdminOp.recalled mayCall) _ _
  split
  · exact follows_authUser allowed balanced
  · exact extracted_problem balanced _

end Extractor

/-! ### Handlers -/

/-- The end of a request: its deeds are written down, or at least tried to. -/
def Settled {α : Type} (_ : Except Error α) (final : AdminRecord Url) : Prop := final.Balanced

/-- An entry that settles what has been done. -/
theorem follows_log {α : Type} {entry : AuditEntry} {answer : α}
    (authorized : calls.Authorized head auth) (owes : calls.Owes entry.deed) :
    (.call (.logAudit auth.actor.id entry) fun _ => .done answer : AdminRequest Url α).Follows
      (AdminOp.protocol head) Settled calls :=
  ⟨⟨⟨auth, authorized, rfl⟩, owes⟩, owes.settled auth.actor.id⟩

/-- An action that was tried in vain. -/
theorem follows_attempted {α : Type} {action targetType : String} {targetId : Option Int}
    {payload : Value} {problem : Response} (authorized : calls.Authorized head auth)
    (balanced : calls.Balanced)
    (noDeed : AuditEntry.deed ⟨action ++ ".attempted", targetType, targetId, payload⟩ = none) :
    (attempted auth action targetType targetId payload problem :
      AdminRequest Url (Except Response α)).Follows (AdminOp.protocol head) Settled calls :=
  follows_log authorized (noDeed ▸ AdminRecord.owes_none.mpr balanced)

/-- An action that has changed something. -/
theorem follows_succeeded {α : Type} {action targetType : String} {targetId : Option Int}
    {payload : Value} {answer : α} {op : AdminOp Url} {outcome : Except Error op.Result}
    (authorized : AdminRecord.Authorized head (calls ++ [⟨op, outcome⟩]) auth)
    (balanced : calls.Balanced) (silent : op.attests outcome = none)
    (tells : op.deed outcome = AuditEntry.deed ⟨action, targetType, targetId, payload⟩) :
    (succeeded auth action targetType targetId payload answer :
      AdminRequest Url (Except Response α)).Follows (AdminOp.protocol head) Settled
        (calls ++ [⟨op, outcome⟩]) :=
  follows_log authorized (tells ▸ balanced.owes silent)

/-- What a request knows after one more call. -/
theorem authorized_append (authorized : calls.Authorized head auth)
    (call : Σ op : AdminOp Url, Except Error op.Result) :
    AdminRecord.Authorized head (calls ++ [call]) auth :=
  ⟨authorized.1.mono (List.subset_append_left _ _), authorized.2⟩

section Handlers

variable (authorized : calls.Authorized head auth) (balanced : calls.Balanced)
include authorized balanced

theorem follows_listUsers (state : Option String) :
    (listUsers state auth : AdminRequest Url _).Follows (AdminOp.protocol head) Settled calls := by
  refine ⟨⟨⟨auth, authorized⟩, balanced⟩, ?_⟩
  have authorized := authorized_append authorized
  rintro (error | rows)
  · exact follows_attempted (authorized _) (balanced.append _ _ rfl rfl) rfl
  · exact follows_succeeded (authorized _) balanced rfl rfl

theorem follows_approveUser (id : Int) :
    (approveUser id auth : AdminRequest Url _).Follows (AdminOp.protocol head) Settled calls := by
  refine ⟨⟨⟨auth, authorized⟩, balanced⟩, ?_⟩
  have authorized := authorized_append authorized
  rintro (error | _ | user)
  · exact follows_attempted (authorized _) (balanced.append _ _ rfl rfl) rfl
  · exact follows_attempted (authorized _) (balanced.append _ _ rfl rfl) rfl
  · exact follows_succeeded (authorized _) balanced rfl rfl

omit balanced in
/-- A suspension is written down whether or not the sessions are revoked. -/
theorem follows_revokeSessions (id : Int) (user : UserRow)
    (owes : calls.Owes (some (.suspended (.ofNat user.actorId)))) :
    (revokeSessions id user auth : AdminRequest Url _).Follows (AdminOp.protocol head) Settled
      calls := by
  refine ⟨trivial, ?_⟩
  rintro (error | revoked)
  · exact follows_log authorized owes
  · exact follows_log authorized owes

theorem follows_suspendUser (id : Int) :
    (suspendUser id auth : AdminRequest Url _).Follows (AdminOp.protocol head) Settled calls := by
  refine ⟨⟨⟨auth, authorized⟩, balanced⟩, fun found => ?_⟩
  replace authorized := authorized_append authorized ⟨.fetchUser id, found⟩
  replace balanced := balanced.append _ found rfl rfl
  obtain error | _ | user := found
  · exact follows_attempted authorized balanced rfl
  · exact follows_attempted authorized balanced rfl
  refine ⟨⟨⟨auth, authorized⟩, balanced⟩, fun suspended => ?_⟩
  have authorized := authorized_append authorized ⟨.suspend user.actorId, suspended⟩
  obtain error | _ | actor := suspended
  · exact follows_attempted authorized (balanced.append _ _ rfl rfl) rfl
  · exact follows_attempted authorized (balanced.append _ _ rfl rfl) rfl
  exact follows_revokeSessions authorized id user (balanced.owes rfl)

theorem follows_createDomainBlock [TextStd] (text : String) (publicNote : Option String) :
    (createDomainBlock text publicNote auth : AdminRequest Url _).Follows
      (AdminOp.protocol head) Settled calls := by
  unfold createDomainBlock
  dsimp only
  split
  · exact balanced
  refine ⟨⟨⟨auth, authorized⟩, balanced⟩, ?_⟩
  have authorized := authorized_append authorized
  rintro (error | stored)
  · exact follows_attempted (authorized _) (balanced.append _ _ rfl rfl) rfl
  · exact follows_succeeded (authorized _) balanced rfl rfl

theorem follows_deleteDomainBlock (domain : String) :
    (deleteDomainBlock domain auth : AdminRequest Url _).Follows
      (AdminOp.protocol head) Settled calls := by
  refine ⟨⟨⟨auth, authorized⟩, balanced⟩, ?_⟩
  have authorized := authorized_append authorized
  rintro (error | deleted)
  · exact follows_attempted (authorized _) (balanced.append _ _ rfl rfl) rfl
  · exact follows_succeeded (authorized _) balanced rfl rfl

/-- Reading the settings, by induction along the keys. -/
theorem follows_readSettings (keys : List String) (read : List (String × Value)) :
    (readSettings auth read keys : AdminRequest Url _).Follows
      (AdminOp.protocol head) Settled calls := by
  induction keys generalizing calls read with
  | nil => exact follows_log authorized (AdminRecord.owes_none.mpr balanced)
  | cons key keys inductionHypothesis =>
      refine ⟨⟨⟨auth, authorized⟩, balanced⟩, fun found => ?_⟩
      have authorized := authorized_append authorized ⟨.fetchSetting key, found⟩
      have balanced := balanced.append _ found rfl rfl
      obtain error | _ | row := found
      · exact follows_attempted authorized balanced rfl
      · exact inductionHypothesis authorized balanced _
      · exact inductionHypothesis authorized balanced _

/-- Writing valid settings, by induction along them. -/
theorem follows_writeSettings {settings : List (String × Value)}
    (valid : ∀ setting ∈ settings, validateSetting setting.1 setting.2 = .ok ()) :
    (writeSettings auth settings : AdminRequest Url _).Follows
      (AdminOp.protocol head) Settled calls := by
  induction settings generalizing calls with
  | nil =>
      show (requireAdmin auth getSettings : AdminRequest Url _).Follows _ _ _
      unfold requireAdmin
      rw [if_pos authorized.2]
      exact follows_readSettings authorized balanced _ _
  | cons setting settings inductionHypothesis =>
      obtain ⟨key, value⟩ := setting
      obtain ⟨isValid, valid⟩ := List.forall_mem_cons.mp valid
      refine ⟨⟨⟨auth, authorized⟩, balanced, isValid⟩, fun stored => ?_⟩
      have authorized := authorized_append authorized ⟨.setSetting key value, stored⟩
      obtain error | _ := stored
      · exact follows_attempted authorized (balanced.append _ _ rfl rfl) rfl
      have owes := balanced.owes (show (AdminOp.setSetting key value).attests (.ok ()) = none
        from rfl)
      refine ⟨⟨⟨auth, authorized, rfl⟩, owes⟩, fun logged => ?_⟩
      exact inductionHypothesis (authorized_append authorized _) (owes.settled _ logged) valid

theorem follows_resolveReport (id : Int) (actionNote : Option String) :
    (resolveReport id actionNote auth : AdminRequest Url _).Follows
      (AdminOp.protocol head) Settled calls := by
  refine ⟨⟨⟨auth, authorized⟩, balanced⟩, ?_⟩
  have authorized := authorized_append authorized
  rintro (error | _ | resolvedAt)
  · exact balanced.append _ _ rfl rfl
  · exact balanced.append _ _ rfl rfl
  · exact follows_succeeded (authorized _) balanced rfl rfl

/-- Nothing is written unless everything is valid. -/
theorem follows_putSettings (settings : List (String × Value)) :
    (putSettings settings auth : AdminRequest Url _).Follows
      (AdminOp.protocol head) Settled calls := by
  unfold putSettings
  split
  · exact balanced
  next passed =>
  refine follows_writeSettings authorized balanced fun setting member => ?_
  have isValid := List.findSome?_eq_none_iff.mp passed setting member
  cases checked : validateSetting setting.1 setting.2 with
  | error problem =>
      rw [checked] at isValid
      cases isValid
  | ok _ => rfl

end Handlers

/-- Every account may file a report, in its own name. -/
theorem follows_createReport (authenticated : calls.Authenticated head auth)
    (balanced : calls.Balanced) (payload : CreateReportBody) :
    (createReport payload auth : AdminRequest Url _).Follows
      (AdminOp.protocol head) Settled calls := by
  unfold createReport
  split
  · exact balanced
  split
  · exact balanced
  refine ⟨⟨auth, authenticated, rfl⟩, ?_⟩
  rintro (error | row)
  · exact balanced.append _ _ rfl rfl
  · exact balanced.append _ _ rfl rfl

end AdminRequest

variable [HashCrate] [TextStd]

/-- What an action does for an account that has been authenticated. -/
theorem AdminAction.follows_authorized {head : RequestHead} {calls : AdminRecord Url}
    {auth : AuthUser} (authenticated : calls.Authenticated head auth)
    (balanced : calls.Balanced) (action : AdminAction) :
    (action.authorized auth : AdminRequest Url _).Follows (AdminOp.protocol head)
      AdminRequest.Settled calls := by
  have guarded {request : AuthUser → AdminRequest Url (Except Response AdminAnswer)}
      (follows : calls.Authorized head auth → (request auth).Follows (AdminOp.protocol head)
        AdminRequest.Settled calls) :
      (AdminRequest.requireAdmin auth request).Follows (AdminOp.protocol head)
        AdminRequest.Settled calls := by
    unfold AdminRequest.requireAdmin
    split
    next isAdmin => exact follows ⟨authenticated, isAdmin⟩
    next => exact balanced
  cases action with
  | listUsers state =>
      exact guarded fun authorized => AdminRequest.follows_listUsers authorized balanced state
  | approve userId =>
      exact guarded fun authorized => AdminRequest.follows_approveUser authorized balanced userId
  | suspend userId =>
      exact guarded fun authorized => AdminRequest.follows_suspendUser authorized balanced userId
  | createDomainBlock domain publicNote =>
      exact guarded fun authorized =>
        AdminRequest.follows_createDomainBlock authorized balanced domain publicNote
  | deleteDomainBlock domain =>
      exact guarded fun authorized =>
        AdminRequest.follows_deleteDomainBlock authorized balanced domain
  | getSettings =>
      exact guarded fun authorized => AdminRequest.follows_readSettings authorized balanced _ _
  | putSettings settings =>
      exact guarded fun authorized =>
        AdminRequest.follows_putSettings authorized balanced settings
  | resolveReport id actionNote =>
      exact guarded fun authorized =>
        AdminRequest.follows_resolveReport authorized balanced id actionNote
  | createReport payload => exact AdminRequest.follows_createReport authenticated balanced payload

/-- A request keeps to the protocol, from the middleware to its answer. -/
theorem AdminAction.follows_request (action : AdminAction) (head : RequestHead) :
    (action.request head : AdminRequest Url _).Follows (AdminOp.protocol head)
      AdminRequest.Settled [] := by
  unfold AdminAction.request
  rw [Program.follows_bind]
  refine (AdminRequest.follows_guardedAuthUser fun _ _ => trivial).mono ?_
  rintro (error | problem | auth) final ⟨balanced, authenticated⟩
  · exact balanced
  · exact balanced
  · exact action.follows_authorized (authenticated auth rfl) balanced

/-! ## Runs -/

/-- What a server may be doing. -/
inductive ServerTask (Url : Type)
  | admin (action : AdminAction) (head : RequestHead)
  | register (config : Config) (request : RegisterRequest)
  | login (request : LoginRequest)
  /-- What every request of an account begins with. -/
  | authenticate (head : RequestHead)
  /-- Any other handler or worker. -/
  | other (task : Registration Url Unit)

inductive ServerAnswer
  | admin (answer : Except Response AdminAnswer)
  | registered (answer : RegisterAnswer)
  | login (answer : Answer)
  | authenticated (answer : Except Response AuthUser)
  | other

namespace ServerTask

def program : ServerTask Url → AdminRequest Url ServerAnswer
  | .admin action head => ServerAnswer.admin <$> action.request head
  | .register config request =>
      ServerAnswer.registered <$> AdminRequest.ofRegistration (Registration.register config request)
  | .login request => ServerAnswer.login <$> AdminRequest.ofRequest (TootTok.login request)
  | .authenticate head =>
      ServerAnswer.authenticated <$> AdminRequest.ofRequest (guardedAuthUser head)
  | .other task => (fun _ => ServerAnswer.other) <$> AdminRequest.ofRegistration task

/-- The calls that a task may make after those that it remembers. -/
def MayCall : ServerTask Url → AdminRecord Url → AdminOp Url → Prop
  | .admin _ head => AdminOp.MayCall head
  | _ => fun _ op => ∃ base, op = .base base

/-- The protocol of a task. -/
def protocol (task : ServerTask Url) :
    Protocol (@AdminOp.Result Url) Error (AdminRecord Url) :=
  .recording AdminOp.recalled task.MayCall

omit [TextStd] in
/-- A task that is none of an administrator has nothing to write down. -/
theorem follows_base {α : Type} {task : ServerTask Url} {program : AdminRequest Url α}
    (mayCall : task.MayCall = fun _ op => ∃ base, op = .base base)
    (calls : program.Calls fun op => ∃ base, op = .base base) :
    program.Follows task.protocol (fun _ final => final.Balanced) [] := by
  refine calls.follows AdminRecord.Balanced ?_ ?_ rfl
  · rintro ghost op - isBase
    show task.MayCall ghost op
    rw [mayCall]
    exact isBase
  · rintro ghost _ outcome balanced ⟨base, rfl⟩
    show AdminRecord.Balanced (if (AdminOp.base base).recalled then _ else _)
    split
    · exact balanced.append _ outcome rfl rfl
    · exact balanced

/-- Every task keeps to its protocol. -/
theorem follows_program (task : ServerTask Url) :
    task.program.Follows task.protocol (fun _ final => final.Balanced) [] := by
  have mapped {α : Type} {program : AdminRequest Url α} {answer : α → ServerAnswer}
      (follows : program.Follows task.protocol (fun _ final => final.Balanced) []) :
      (answer <$> program).Follows task.protocol (fun _ final => final.Balanced) [] := by
    show (program >>= fun value => .done (answer value)).Follows _ _ _
    rw [Program.follows_bind]
    refine follows.mono ?_
    rintro (error | value) final balanced
    · exact balanced
    · exact balanced
  have registration {α : Type} (request : Registration Url α) :
      (AdminRequest.ofRegistration request).Calls fun op => ∃ base, op = .base base :=
    Program.calls_embed (.of_forall request fun op => ⟨op, rfl⟩)
  have account {α : Type} (request : Request Url α) :
      (AdminRequest.ofRequest request).Calls fun op => ∃ base, op = .base base :=
    Program.calls_embed (.of_forall request fun op => ⟨.base op, rfl⟩)
  cases task with
  | admin action head => exact mapped (action.follows_request head)
  | register config request => exact mapped (follows_base rfl (registration _))
  | login request => exact mapped (follows_base rfl (account _))
  | authenticate head => exact mapped (follows_base rfl (account _))
  | other task => exact mapped (follows_base rfl (registration _))

end ServerTask

section Runs

variable {ι : Type} [DecidableEq ι]

/-- What happens while a server is at work. -/
abbrev ServerEvent (ι Url : Type) : Type :=
  Effects.Event ι (@AdminOp.Result Url) Error (RegisterEnv Url)

/-- What a task remembers after some events. -/
abbrev recordOf (events : List (ServerEvent ι Url)) (thread : ι) : AdminRecord Url :=
  callsOfTask AdminOp.recalled events thread

/-- A server that has received all its tasks. -/
def serverAtWork (tasks : ι → ServerTask Url) (start : Administration) :
    Effects.Config ι (@AdminOp.Result Url) Error ServerAnswer Administration :=
  ⟨start, fun thread => (tasks thread).program⟩

/-- The runs of a server, each task of which may stop for good after any call. -/
abbrev ServerRun (tasks : ι → ServerTask Url) (start : Administration) :
    List (ServerEvent ι Url) →
      Effects.Config ι (@AdminOp.Result Url) Error ServerAnswer Administration → Prop :=
  Serves AdminOp.exec (fun _ _ => False) (fun _ _ _ _ _ => True) (serverAtWork tasks start)

variable {tasks : ι → ServerTask Url} {start : Administration} {events : List (ServerEvent ι Url)}
  {config : Effects.Config ι (@AdminOp.Result Url) Error ServerAnswer Administration}

omit [DecidableEq ι] in
theorem serverAtWork_follow (tasks : ι → ServerTask Url) (start : Administration) (thread : ι) :
    ((serverAtWork tasks start).threads thread).Follows
      ((fun thread => (tasks thread).protocol) thread)
      ((fun _ _ final => AdminRecord.Balanced final) thread)
      ((fun thread => (tasks thread).protocol) thread).initial :=
  (tasks thread).follows_program

/-- The invariant rule of a server. -/
theorem ServerRun.invariant (run : ServerRun tasks start events config)
    (holds : List (ServerEvent ι Url) → Administration → Prop) (initially : holds [] start)
    (begins : ∀ events admin thread, holds events admin → holds (events ++ [.began thread]) admin)
    (calls : ∀ events admin thread op env, holds events admin →
      (tasks thread).MayCall (recordOf events thread) op →
      holds (events ++ [.called ⟨thread, op, env, (AdminOp.exec env op admin).1⟩])
        (AdminOp.exec env op admin).2) :
    holds events config.state :=
  Serves.invariant run (serverAtWork_follow tasks start) (fun _ _ => False.elim) holds initially
    begins fun events admin thread op env held allowed _ =>
      calls events admin thread op env held allowed

/-- A task that has ended has settled its deeds. -/
theorem ServerRun.balanced_of_finished (run : ServerRun tasks start events config) {thread : ι}
    (finished : (config.threads thread).Finished) : (recordOf events thread).Balanced := by
  have follows := run.follows (serverAtWork_follow tasks start) (fun _ _ => False.elim) thread
  cases ended : config.threads thread with
  | done answer =>
      rw [ended] at follows
      exact follows
  | fail error =>
      rw [ended] at follows
      exact follows
  | call op next =>
      rw [ended] at finished
      exact finished.elim

end Runs

end TootTok
