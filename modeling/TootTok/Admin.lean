import TootTok.Sessions
import TootTok.Registration

/-!
# Administration

The requests of administrators: they look at accounts, approve and suspend them, block
domains, change settings and resolve reports. Each is written down in the audit log, and
no failure of that log fails a request.
-/

namespace TootTok

open Effects
open Json (Value textStorable)
open Relational (Table SerialTable join orderBy)
open Relational.Table (KeepsKeys)
open Sanitize (trim)

/-! ## Rows -/

/-- A row of `settings`. -/
structure SettingRow where
  key : String
  value : Value

/-- A row of `domain_blocks`. -/
structure DomainBlockRow where
  domain : String
  publicNote : Option String
deriving DecidableEq

/-- What is written down of an action. -/
structure AuditEntry where
  action : String
  targetType : String
  targetId : Option Int
  payload : Value

/-- A row of `audit_log`. It outlives the actor. -/
structure AuditRow extends AuditEntry where
  adminActorId : Option Nat

inductive ReportState
  | opened
  | resolved
  | rejected
deriving DecidableEq

inductive ReportTarget
  | clip
  | comment
  | actor
deriving DecidableEq

/-- A row of `reports`. It outlives its reporter. -/
structure ReportRow where
  id : Nat
  reporterActorId : Option Nat
  targetType : ReportTarget
  targetId : Int
  category : Option String
  body : String
  state : ReportState
  resolvedAt : Option DateTime
deriving DecidableEq

namespace SettingRow

def Clash (left right : SettingRow) : Prop := left.key = right.key

instance : DecidableRel Clash := fun left right => by
  unfold Clash
  infer_instance

def setValue (value : Value) (row : SettingRow) : SettingRow :=
  { row with value := value }

theorem keepsKeys_setValue (value : Value) : KeepsKeys Clash (setValue value) :=
  fun _ _ => ⟨fun clash => clash, fun clash => clash⟩

end SettingRow

namespace DomainBlockRow

def Clash (left right : DomainBlockRow) : Prop := left.domain = right.domain

instance : DecidableRel Clash := fun left right => by
  unfold Clash
  infer_instance

def annotate (publicNote : Option String) (row : DomainBlockRow) : DomainBlockRow :=
  { row with publicNote := publicNote }

theorem keepsKeys_annotate (publicNote : Option String) :
    KeepsKeys Clash (annotate publicNote) :=
  fun _ _ => ⟨fun clash => clash, fun clash => clash⟩

end DomainBlockRow

namespace ReportRow

/-- Reports have nothing but their number. -/
def Clash (_ _ : ReportRow) : Prop := False

instance : DecidableRel Clash := fun _ _ => .isFalse False.elim

/-- `CASE WHEN $2 = '' THEN body WHEN body = '' THEN $2 ELSE body || E'\n' || $2 END`. -/
def appendNote (note body : String) : String :=
  if note = "" then body else if body = "" then note else body ++ "\n" ++ note

def isOpen (id : Int) (row : ReportRow) : Bool :=
  (row.id : Int) = id ∧ row.state = .opened

def resolve (note : String) (now : DateTime) (row : ReportRow) : ReportRow :=
  { row with
    state := .resolved
    resolvedAt := some now
    body := appendNote note row.body }

theorem keepsKeys_resolve (note : String) (now : DateTime) : KeepsKeys Clash (resolve note now) :=
  fun _ _ => ⟨fun clash => clash, fun clash => clash⟩

/-- `ON DELETE SET NULL`. -/
def forget (row : ReportRow) : ReportRow :=
  { row with reporterActorId := none }

theorem keepsKeys_forget : KeepsKeys Clash forget :=
  fun _ _ => ⟨fun clash => clash, fun clash => clash⟩

end ReportRow

namespace AuditRow

/-- `ON DELETE SET NULL`. -/
def forget (actorId : Nat) (row : AuditRow) : AuditRow :=
  if row.adminActorId = some actorId then { row with adminActorId := none } else row

end AuditRow

namespace UserRow

def setStatus (status : String) (row : UserRow) : UserRow :=
  { row with status := status }

theorem keepsKeys_setStatus (status : String) : KeepsKeys Clash (setStatus status) :=
  fun _ _ => ⟨fun clash => clash, fun clash => clash⟩

end UserRow

def ActorRow.suspend (now : DateTime) (row : ActorRow) : ActorRow :=
  { row with suspendedAt := some now }

theorem ActorRow.keepsKeys_suspend (now : DateTime) : KeepsKeys Clash (ActorRow.suspend now) :=
  fun _ _ => ⟨fun clash => clash, fun clash => clash⟩

/-! ## Tables -/

abbrev SettingTable : Type := Table SettingRow.Clash
abbrev DomainBlockTable : Type := Table DomainBlockRow.Clash
abbrev ReportTable : Type := SerialTable ReportRow.id ReportRow.Clash

/-- The database with the tables of the administration. -/
structure Administration extends Accounts where
  settings : SettingTable
  domainBlocks : DomainBlockTable
  reports : ReportTable
  auditLog : List AuditRow

/-- `Setting::set`. -/
def Settings.set (key : String) (value : Value) (table : SettingTable) : SettingTable :=
  match table.insert? ⟨key, value⟩ with
  | some table => table
  | none => table.update (fun row => row.key = key) (SettingRow.setValue value)
      (SettingRow.keepsKeys_setValue value)

/-- The insert of a domain block, which updates the note of one that is there. -/
def DomainBlocks.upsert (domain : String) (publicNote : Option String)
    (table : DomainBlockTable) : DomainBlockTable :=
  match table.insert? ⟨domain, publicNote⟩ with
  | some table => table
  | none => table.update (fun row => row.domain = domain) (DomainBlockRow.annotate publicNote)
      (DomainBlockRow.keepsKeys_annotate publicNote)

/-- `User::set_status`. -/
def Users.setStatus (id : Int) (status : String) (table : UserTable) :
    Option UserRow × UserTable :=
  let table := table.update (fun row => (row.id : Int) = id) (UserRow.setStatus status)
    (fun _ => rfl) (UserRow.keepsKeys_setStatus status)
  (table.find? fun row => (row.id : Int) = id, table)

/-- `Actor::suspend`. -/
def Actors.suspend (id : Nat) (now : DateTime) (table : ActorTable) :
    Option ActorRow × ActorTable :=
  let table := table.update (fun row => row.id = id) (ActorRow.suspend now) (fun _ => rfl)
    (ActorRow.keepsKeys_suspend now)
  (table.find? fun row => row.id = id, table)

/-- `UPDATE reports SET state = 'resolved', … WHERE id = $1 AND state = 'open'`. -/
def Reports.resolve (id : Int) (note : String) (now : DateTime) (table : ReportTable) :
    Option DateTime × ReportTable :=
  ((table.find? (ReportRow.isOpen id)).map fun _ => now,
    table.update (ReportRow.isOpen id) (ReportRow.resolve note now) (fun _ => rfl)
      (ReportRow.keepsKeys_resolve note now))

/-- The reports of a deleted actor. -/
def Reports.forget (actorId : Nat) (table : ReportTable) : ReportTable :=
  table.update (fun row => row.reporterActorId = some actorId) ReportRow.forget (fun _ => rfl)
    ReportRow.keepsKeys_forget

structure NewReport where
  reporterActorId : Nat
  targetType : ReportTarget
  targetId : Int
  category : Option String
  body : String

def NewReport.row (new : NewReport) (id : Nat) : ReportRow where
  id := id
  reporterActorId := some new.reporterActorId
  targetType := new.targetType
  targetId := new.targetId
  category := new.category
  body := new.body
  state := .opened
  resolvedAt := none

/-- A row of the list of accounts. -/
structure AdminUserRow where
  userId : Nat
  actorId : Nat
  username : String
  email : Option String
  status : String
  isAdmin : Bool
  suspendedAt : Option DateTime

namespace Administration

variable (admin : Administration)

def settingByKey (key : String) : Option SettingRow :=
  admin.settings.find? fun row => row.key = key

/-- What the handlers read from the settings. -/
def settingOf (key : String) : Option Value :=
  (admin.settingByKey key).map SettingRow.value

def userByPathId (id : Int) : Option UserRow :=
  admin.users.find? fun row => (row.id : Int) = id

/-- A report refers to the actor of its reporter. -/
def createReport (new : NewReport) : Except DbError ReportRow × Administration :=
  let outcome := admin.reports.insert new.row fun _ => rfl
  if (inserted outcome.1).isOk ∧ admin.actorById new.reporterActorId = none then
    (.error .failed, { admin with reports := admin.reports.spend })
  else (inserted outcome.1, { admin with reports := outcome.2 })

/-- `audit::log`. An entry refers to the actor of the administrator. -/
def logAudit (adminActorId : Nat) (entry : AuditEntry) : Except DbError Unit × Administration :=
  if admin.actorById adminActorId = none then (.error .failed, admin)
  else (.ok (), { admin with auditLog := admin.auditLog ++ [⟨entry, some adminActorId⟩] })

/-- What refers to an actor that is deleted. -/
def forgetActor (id : Nat) : Administration :=
  { admin with
    reports := Reports.forget id admin.reports
    auditLog := admin.auditLog.map (AuditRow.forget id) }

/-- The accounts that are not deleted, by number. -/
def listUsers (pending : Bool) : List AdminUserRow :=
  ((orderBy (fun row : UserRow × ActorRow => row.1.id)
      (join admin.users.rows admin.actors.rows fun user actor => actor.id = user.actorId)).filter
    fun row => decide (row.1.deletedAt = none ∧ (pending = true → row.1.status = "pending"))).map
    fun row => {
      userId := row.1.id
      actorId := row.1.actorId
      username := row.2.username
      email := row.1.email
      status := row.1.status
      isAdmin := row.1.isAdmin
      suspendedAt := row.2.suspendedAt }

end Administration

/-! ## Operations -/

inductive AdminOp (Url : Type)
  | base (op : RegisterOp Url)
  -- users and actors
  | listUsers (pending : Bool)
  | fetchUser (id : Int)
  | setStatus (id : Int) (status : String)
  | suspend (actorId : Nat)
  -- domain blocks and settings
  | upsertDomainBlock (domain : String) (publicNote : Option String)
  | deleteDomainBlock (domain : String)
  | fetchSetting (key : String)
  | setSetting (key : String) (value : Value)
  -- reports
  | createReport (new : NewReport)
  | resolveReport (id : Int) (note : String)
  -- the log
  | logAudit (adminActorId : Nat) (entry : AuditEntry)

namespace AdminOp

variable {Url : Type}

/-- What an operation returns when it succeeds. -/
@[reducible] def Result : AdminOp Url → Type
  | .base op => op.Result
  | .listUsers _ => List AdminUserRow
  | .fetchUser _ | .setStatus _ _ => Option UserRow
  | .suspend _ => Option ActorRow
  | .upsertDomainBlock _ _ | .deleteDomainBlock _ => Unit
  | .fetchSetting _ => Option SettingRow
  | .setSetting _ _ => Unit
  | .createReport _ => ReportRow
  | .resolveReport _ _ => Option DateTime
  | .logAudit _ _ => Unit

/-- The other requests read the settings that are stored. -/
def stored (env : RegisterEnv Url) (admin : Administration) : RegisterEnv Url :=
  { env with setting := admin.settingOf }

/-- What an operation on the accounts does to the tables that refer to them. -/
def cascade (op : RegisterOp Url) (outcome : Except Error op.Result) (admin : Administration) :
    Administration :=
  match op with
  | .deleteActor id => if outcome.isOk then admin.forgetActor id else admin
  | _ => admin

/-- The effect of an operation that does not fail for an outside reason. -/
def perform (env : RegisterEnv Url) :
    (op : AdminOp Url) → Administration → Except Error op.Result × Administration
  | .base op, admin =>
      let outcome := RegisterOp.exec (stored env admin) op admin.toAccounts
      (outcome.1, cascade op outcome.1 { admin with toAccounts := outcome.2 })
  | .listUsers pending, admin => (.ok (admin.listUsers pending), admin)
  | .fetchUser id, admin => (.ok (admin.userByPathId id), admin)
  | .setStatus id status, admin =>
      (.ok (Users.setStatus id status admin.users).1,
        { admin with users := (Users.setStatus id status admin.users).2 })
  | .suspend actorId, admin =>
      (.ok (Actors.suspend actorId env.now admin.actors).1,
        { admin with actors := (Actors.suspend actorId env.now admin.actors).2 })
  | .upsertDomainBlock domain publicNote, admin =>
      (.ok (),
        { admin with domainBlocks := DomainBlocks.upsert domain publicNote admin.domainBlocks })
  | .deleteDomainBlock domain, admin =>
      (.ok (),
        { admin with domainBlocks := admin.domainBlocks.erase fun row => row.domain = domain })
  | .fetchSetting key, admin => (.ok (admin.settingByKey key), admin)
  | .setSetting key value, admin =>
      (.ok (), { admin with settings := Settings.set key value admin.settings })
  | .createReport new, admin =>
      ((admin.createReport new).1.mapError .db, (admin.createReport new).2)
  | .resolveReport id note, admin =>
      (.ok (Reports.resolve id note env.now admin.reports).1,
        { admin with reports := (Reports.resolve id note env.now admin.reports).2 })
  | .logAudit adminActorId entry, admin =>
      ((admin.logAudit adminActorId entry).1.mapError .db, (admin.logAudit adminActorId entry).2)

/-- The texts that an operation sends to the database. -/
def texts : AdminOp Url → List String
  | .setStatus _ status => [status]
  | .upsertDomainBlock domain publicNote => domain :: publicNote.toList
  | .deleteDomainBlock domain => [domain]
  | .fetchSetting key | .setSetting key _ => [key]
  | .createReport new => new.category.toList ++ [new.body]
  | .resolveReport _ note => [note]
  | .logAudit _ entry => [entry.action, entry.targetType]
  | _ => []

/-- The documents that an operation sends to the database. -/
def documents : AdminOp Url → List Value
  | .setSetting _ value => [value]
  | .logAudit _ entry => [entry.payload]
  | _ => []

/-- The error with which an operation fails for an outside reason, or because the database
refuses a parameter. -/
def failure (env : RegisterEnv Url) (op : AdminOp Url) : Option Error :=
  match op with
  | .base _ => none
  | _ => env.fault.or
      (if op.texts.all textStorable && op.documents.all Value.storable then none
        else some (.db .unstorable))

/-- A failed operation has no effect. -/
def exec : Program.Executor (@Result Url) Error Administration (RegisterEnv Url) :=
  fun env op admin =>
    match failure env op with
    | some error => (.error error, admin)
    | none => perform env op admin

theorem exec_cases (env : RegisterEnv Url) (op : AdminOp Url) (admin : Administration) :
    (∃ error, exec env op admin = (.error error, admin)) ∨
      exec env op admin = perform env op admin := by
  unfold exec
  cases failure env op with
  | some error => exact .inl ⟨error, rfl⟩
  | none => exact .inr rfl

end AdminOp

/-! ## Requests -/

/-- A request that may be one of an administrator. -/
abbrev AdminRequest (Url α : Type) : Type :=
  Program (@AdminOp.Result Url) Error α

/-- The texts of the standard library that Lean's has no counterpart of. -/
class TextStd where
  /-- `str::to_lowercase`. -/
  toLowercase : String → String

/-- What a request is answered with when it succeeds. -/
inductive AdminAnswer
  | users (rows : List AdminUserRow)
  | approved (userId : Int)
  | suspended (userId : Int)
  | blocked (domain : String)
  | unblocked
  | settings (values : List (String × Value))
  | resolved (reportId : Int)
  | reported (reportId : Nat)

namespace AdminRequest

variable {Url α : Type}

/-- Call an operation and go on with its outcome, whatever it is. -/
def tried (op : AdminOp Url) : AdminRequest Url (Except Error op.Result) :=
  .call op .done

@[simp] theorem tried_bind (op : AdminOp Url)
    (rest : Except Error op.Result → AdminRequest Url α) :
    tried op >>= rest = .call op rest := rfl

/-- A request that is none of an administrator. -/
def ofRegistration (request : Registration Url α) : AdminRequest Url α :=
  request.embed AdminOp.base fun _ outcome => outcome

def ofRequest (request : Request Url α) : AdminRequest Url α :=
  request.embed (fun op => AdminOp.base (.base op)) fun _ outcome => outcome

/-! ### The log -/

/-- Write an audit entry without ever failing the request. -/
def auditLogged (auth : AuthUser) (action targetType : String) (targetId : Option Int)
    (payload : Value) : AdminRequest Url Unit := do
  let _ ← tried (.logAudit auth.actor.id ⟨action, targetType, targetId, payload⟩)
  return ()

/-- Record an action that was attempted and has failed. -/
def auditAttempted (auth : AuthUser) (action targetType : String) (targetId : Option Int)
    (payload : Value) : AdminRequest Url Unit :=
  auditLogged auth (action ++ ".attempted") targetType targetId payload

/-- A failed action: record it, and answer with the problem. -/
def attempted (auth : AuthUser) (action targetType : String) (targetId : Option Int)
    (payload : Value) (problem : Response) : AdminRequest Url (Except Response α) := do
  auditAttempted auth action targetType targetId payload
  return .error problem

/-- An action that has succeeded: record it, and answer. -/
def succeeded (auth : AuthUser) (action targetType : String) (targetId : Option Int)
    (payload : Value) (answer : α) : AdminRequest Url (Except Response α) := do
  auditLogged auth action targetType targetId payload
  return .ok answer

/-! ### Users -/

def userPayload (id : Int) : Value := .object [("user_id", .number (.ofInt id))]

def listUsers (state : Option String) (auth : AuthUser) :
    AdminRequest Url (Except Response AdminAnswer) := do
  let payload : Value := .object [("state", .string (state.getD "all"))]
  match ← tried (.listUsers (state = some "pending")) with
  | .error _ => attempted auth "user.list" "user" none payload databaseError
  | .ok rows => succeeded auth "user.list" "user" none payload (.users rows)

def approveUser (id : Int) (auth : AuthUser) :
    AdminRequest Url (Except Response AdminAnswer) := do
  match ← tried (.setStatus id "active") with
  | .ok (some _) =>
      succeeded auth "user.approve" "user" (some id) (userPayload id) (.approved id)
  | .ok none =>
      attempted auth "user.approve" "user" (some id) (userPayload id)
        (.problem 404 "user not found")
  | .error _ =>
      attempted auth "user.approve" "user" (some id) (userPayload id) databaseError

def suspendPayload (id : Int) (user : UserRow) (note : List (String × Value)) : Value :=
  .object ([("user_id", .number (.ofInt id)), ("actor_id", .number (.ofInt user.actorId))] ++ note)

/-- A suspended account loses its sessions. -/
def revokeSessions (id : Int) (user : UserRow) (auth : AuthUser) :
    AdminRequest Url (Except Response AdminAnswer) := do
  match ← tried (.base (.base (.deleteSessionsOfUser user.id))) with
  | .error _ => do
      auditLogged auth "user.suspend" "user" (some id)
        (suspendPayload id user [("note", .string "session revocation failed")])
      return .error databaseError
  | .ok _ =>
      succeeded auth "user.suspend" "user" (some id) (suspendPayload id user []) (.suspended id)

def suspendUser (id : Int) (auth : AuthUser) :
    AdminRequest Url (Except Response AdminAnswer) := do
  match ← tried (.fetchUser id) with
  | .ok none =>
      attempted auth "user.suspend" "user" (some id) (userPayload id)
        (.problem 404 "user not found")
  | .error _ =>
      attempted auth "user.suspend" "user" (some id) (userPayload id) databaseError
  | .ok (some user) =>
      match ← tried (.suspend (UserRow.actorId user)) with
      | .ok (some _) => revokeSessions id user auth
      | .ok none =>
          attempted auth "user.suspend" "user" (some id) (suspendPayload id user [])
            (.problem 404 "actor not found")
      | .error _ =>
          attempted auth "user.suspend" "user" (some id) (suspendPayload id user [])
            databaseError

/-! ### Domain blocks -/

def domainPayload (domain : String) : Value := .object [("domain", .string domain)]

def createDomainBlock [TextStd] (text : String) (publicNote : Option String) (auth : AuthUser) :
    AdminRequest Url (Except Response AdminAnswer) :=
  let domain := TextStd.toLowercase (String.ofList (trim text.toList))
  if domain = "" ∨ '/' ∈ domain.toList then .done (.error (.problem 400 "invalid domain"))
  else do
    match ← tried (.upsertDomainBlock domain publicNote) with
    | .error _ =>
        attempted auth "domain_block.create" "domain_block" none (domainPayload domain)
          databaseError
    | .ok _ =>
        succeeded auth "domain_block.create" "domain_block" none (domainPayload domain)
          (.blocked domain)

/-- The domain is taken as it stands in the path. -/
def deleteDomainBlock (domain : String) (auth : AuthUser) :
    AdminRequest Url (Except Response AdminAnswer) := do
  match ← tried (.deleteDomainBlock domain) with
  | .error _ =>
      attempted auth "domain_block.delete" "domain_block" none (domainPayload domain)
        databaseError
  | .ok _ =>
      succeeded auth "domain_block.delete" "domain_block" none (domainPayload domain) .unblocked

/-! ### Settings -/

/-- The keys that an administrator may read and write. -/
def settingsWhitelist : List String :=
  ["registration_mode", "federation_mode", "upload_size_cap_mb", "clip_max_seconds",
    "per_user_storage_quota_mb", "ffmpeg_threads", "jobs_job_timeout_secs"]

def defaultSettingValue : String → Value
  | "registration_mode" | "federation_mode" => .string "open"
  | "upload_size_cap_mb" => .number (.ofInt 500)
  | "clip_max_seconds" => .number (.ofInt 180)
  | "per_user_storage_quota_mb" => .number (.ofInt 0)
  | "ffmpeg_threads" => .number (.ofInt 2)
  | "jobs_job_timeout_secs" => .number (.ofInt 900)
  | _ => .null

def isNumber : Value → Bool
  | .number _ => true
  | _ => false

/-- The value is one of the modes. -/
def isMode (modes : List String) (value : Value) : Bool :=
  value.asStr.any modes.contains

def validateSetting (key : String) (value : Value) : Except Response Unit :=
  if key ∉ settingsWhitelist then .error (.problem 400 "unknown setting")
  else if key = "registration_mode" then
    if isMode ["open", "approval", "invite"] value then .ok ()
    else .error (.problem 400 "invalid value")
  else if key = "federation_mode" then
    if isMode ["open", "allowlist"] value then .ok () else .error (.problem 400 "invalid value")
  else if isNumber value then .ok () else .error (.problem 400 "invalid value")

def whitelistPayload : Value :=
  .object [("keys", .array (settingsWhitelist.map .string))]

/-- Read the keys one after the other, up to the first failure. -/
def readSettings (auth : AuthUser) (read : List (String × Value)) :
    List String → AdminRequest Url (Except Response AdminAnswer)
  | [] => succeeded auth "settings.read" "setting" none whitelistPayload (.settings read)
  | key :: keys => do
      match ← tried (.fetchSetting key) with
      | .ok (some row) => readSettings auth (read ++ [(key, SettingRow.value row)]) keys
      | .ok none => readSettings auth (read ++ [(key, defaultSettingValue key)]) keys
      | .error _ =>
          attempted auth "settings.read" "setting" none whitelistPayload databaseError

/-- The right to administer. -/
def requireAdmin (auth : AuthUser)
    (request : AuthUser → AdminRequest Url (Except Response AdminAnswer)) :
    AdminRequest Url (Except Response AdminAnswer) :=
  if auth.user.isAdmin then request auth else .done (.error (.problem 403 "forbidden"))

def getSettings (auth : AuthUser) : AdminRequest Url (Except Response AdminAnswer) :=
  readSettings auth [] settingsWhitelist

def settingPayload (key : String) (value : Value) : Value :=
  .object [("key", .string key), ("value", value)]

/-- Write the settings one after the other, up to the first failure, and read them all. -/
def writeSettings (auth : AuthUser) :
    List (String × Value) → AdminRequest Url (Except Response AdminAnswer)
  | [] => requireAdmin auth getSettings
  | (key, value) :: settings => do
      match ← tried (.setSetting key value) with
      | .error _ =>
          attempted auth "settings.update" "setting" none (settingPayload key value)
            databaseError
      | .ok _ => do
          auditLogged auth "settings.update" "setting" none (settingPayload key value)
          writeSettings auth settings

/-- The settings come in the order of a hash map, which is the same in both loops. -/
def putSettings (settings : List (String × Value)) (auth : AuthUser) :
    AdminRequest Url (Except Response AdminAnswer) :=
  match settings.findSome? fun setting =>
      match validateSetting setting.1 setting.2 with
      | .error problem => some problem
      | .ok _ => none with
  | some problem => .done (.error problem)
  | none => writeSettings auth settings

/-! ### Reports -/

structure CreateReportBody where
  targetType : String
  targetId : Int
  category : Option String
  body : Option String

def reportTarget : String → Option ReportTarget
  | "clip" => some .clip
  | "comment" => some .comment
  | "actor" => some .actor
  | _ => none

def reportBodyMaxChars : Nat := 2000

/-- A category of white space counts as none. -/
def reportCategory (category : Option String) : Option String :=
  (category.map fun text => String.ofList (trim text.toList)).filter (· ≠ "")

/-- Every account may file a report. -/
def createReport (payload : CreateReportBody) (auth : AuthUser) :
    AdminRequest Url (Except Response AdminAnswer) :=
  match reportTarget payload.targetType with
  | none => .done (.error (.problem 400 "invalid target_type"))
  | some targetType =>
      if reportBodyMaxChars < (payload.body.getD "").length then
        .done (.error (.problem 400 "report too long"))
      else do
        match ← tried (.createReport ⟨auth.actor.id, targetType, payload.targetId,
            reportCategory payload.category, payload.body.getD ""⟩) with
        | .error _ => return .error databaseError
        | .ok row => return .ok (.reported (ReportRow.id row))

/-- This handler logs no attempt that has failed. -/
def resolveReport (id : Int) (actionNote : Option String) (auth : AuthUser) :
    AdminRequest Url (Except Response AdminAnswer) := do
  let note := String.ofList (trim (actionNote.getD "").toList)
  match ← tried (.resolveReport id note) with
  | .error _ => return .error databaseError
  | .ok none => return .error (.problem 404 "report not found")
  | .ok (some _) =>
      succeeded auth "reports.resolve" "report" (some id)
        (.object [("action_note", .string note)]) (.resolved id)

end AdminRequest

/-! ### Routes -/

/-- What an account may ask for that concerns the administration. -/
inductive AdminAction
  | listUsers (state : Option String)
  | approve (userId : Int)
  | suspend (userId : Int)
  | createDomainBlock (domain : String) (publicNote : Option String)
  | deleteDomainBlock (domain : String)
  | getSettings
  | putSettings (settings : List (String × Value))
  | resolveReport (id : Int) (actionNote : Option String)
  | createReport (payload : AdminRequest.CreateReportBody)

namespace AdminAction

variable {Url : Type} [TextStd]

/-- Only a report is not for administrators. -/
def forAdmins : AdminAction → Bool
  | .createReport _ => false
  | _ => true

def handler : AdminAction → AuthUser → AdminRequest Url (Except Response AdminAnswer)
  | .listUsers state => AdminRequest.listUsers state
  | .approve userId => AdminRequest.approveUser userId
  | .suspend userId => AdminRequest.suspendUser userId
  | .createDomainBlock domain publicNote => AdminRequest.createDomainBlock domain publicNote
  | .deleteDomainBlock domain => AdminRequest.deleteDomainBlock domain
  | .getSettings => AdminRequest.getSettings
  | .putSettings settings => AdminRequest.putSettings settings
  | .resolveReport id actionNote => AdminRequest.resolveReport id actionNote
  | .createReport payload => AdminRequest.createReport payload

/-- What an action does for an account. -/
def authorized (action : AdminAction) (auth : AuthUser) :
    AdminRequest Url (Except Response AdminAnswer) :=
  if action.forAdmins then AdminRequest.requireAdmin auth action.handler
  else action.handler auth

/-- A request: behind the middleware, for the user that it authenticates. -/
def request [HashCrate] (action : AdminAction) (head : RequestHead) :
    AdminRequest Url (Except Response AdminAnswer) := do
  match ← AdminRequest.ofRequest (guardedAuthUser head) with
  | .error problem => return .error problem
  | .ok auth => action.authorized auth

end AdminAction

end TootTok
