import TootTok.AuditTrail
import TootTok.Quota

/-!
# Settings

Administrators write settings, and other requests read them. What is stored is valid at any
time, so that a registration never meets a mode that it does not know.
-/

namespace TootTok

open Effects
open Json (Value)
open Relational (Table)

variable {Url : Type}

/-! ## What is stored -/

/-- Every stored setting is one that an administrator may write. -/
def Administration.SettingsValid (admin : Administration) : Prop :=
  ∀ row ∈ admin.settings, AdminRequest.validateSetting row.key row.value = .ok ()

/-- A stored setting is the one that was there or the one that is written. -/
theorem Settings.mem_set {key : String} {value : Value} {table : SettingTable} {row : SettingRow}
    (stored : row ∈ Settings.set key value table) :
    row ∈ table ∨ row.key = key ∧ row.value = value := by
  unfold Settings.set at stored
  split at stored
  next inserted =>
    rcases (Table.mem_insert? inserted).mp stored with old | rfl
    · exact .inl old
    · exact .inr ⟨rfl, rfl⟩
  next =>
    obtain ⟨old, isOld, rfl⟩ := Table.mem_update.mp stored
    unfold Table.changeWhere
    split
    next named => exact .inr ⟨of_decide_eq_true named, rfl⟩
    next => exact .inl isOld

/-- A call keeps the settings valid if it writes a valid one. -/
theorem AdminOp.settingsValid_exec (env : RegisterEnv Url) (op : AdminOp Url)
    {admin : Administration} (valid : admin.SettingsValid)
    (writes : ∀ key value, op = .setSetting key value →
      AdminRequest.validateSetting key value = .ok ()) :
    (exec env op admin).2.SettingsValid := by
  rcases exec_cases env op admin with ⟨error, failed⟩ | performed
  · rw [failed]
    exact valid
  rw [performed]
  cases op with
  | base op =>
      show Administration.SettingsValid (cascade op _ _)
      unfold cascade
      split
      · split <;> exact valid
      · exact valid
  | setSetting key value =>
      intro row stored
      rcases Settings.mem_set stored with old | ⟨isKey, isValue⟩
      · exact valid row old
      · rw [isKey, isValue]
        exact writes key value rfl
  | createReport new =>
      show Administration.SettingsValid (admin.createReport new).2
      unfold Administration.createReport
      dsimp only
      split <;> exact valid
  | logAudit adminActorId entry =>
      show Administration.SettingsValid (admin.logAudit adminActorId entry).2
      unfold Administration.logAudit
      split <;> exact valid
  | _ => exact valid

/-! ## What is read -/

/-- A setting is read as it is stored. -/
theorem AdminOp.setting_of_fetched {env : RegisterEnv Url} {admin : Administration} {key : String}
    {setting : Option Value}
    (read : (exec env (.base (.base (.base (.fetchSetting key)))) admin).1 = .ok setting) :
    setting = admin.settingOf key := by
  have executed : (WorkerOp.exec (stored env admin).toWorkerEnv (.fetchSetting key)
      admin.toServer).1 = .ok setting := performed_of_ok read
  rcases WorkerOp.exec_cases (stored env admin).toWorkerEnv (.fetchSetting key) admin.toServer with
    ⟨error, failed⟩ | performed
  · rw [failed] at executed
    cases executed
  · rw [performed] at executed
    exact (Except.ok.inj executed).symm

theorem Administration.SettingsValid.valid_of_settingOf {admin : Administration} (valid : admin.SettingsValid)
    {key : String} {value : Value} (stored : admin.settingOf key = some value) :
    AdminRequest.validateSetting key value = .ok () := by
  obtain ⟨row, found, rfl⟩ := Option.map_eq_some_iff.mp stored
  have named : row.key = key := by simpa using Table.holds_of_find?_eq_some found
  subst named
  exact valid row (Table.mem_of_find?_eq_some found)

/-- The answer to a registration in a mode that it does not know. -/
def invalidSetting : Response := .problem 500 "invalid setting"

/-- A valid mode is one that a registration knows. -/
theorem initialStatus_of_valid {value : Value}
    (valid : AdminRequest.validateSetting "registration_mode" value = .ok ()) :
    initialStatus (value.asStr.getD registrationOpen) ≠ .error invalidSetting := by
  have isMode : AdminRequest.isMode ["open", "approval", "invite"] value = true := by
    by_contra other
    rw [Bool.not_eq_true] at other
    simp [AdminRequest.validateSetting, AdminRequest.settingsWhitelist, other] at valid
  unfold AdminRequest.isMode at isMode
  cases value with
  | string text =>
      have oneOf : text = "open" ∨ text = "approval" ∨ text = "invite" := by
        simpa [Value.asStr] using isMode
      rcases oneOf with rfl | rfl | rfl <;> decide
  | _ => cases isMode

/-- The mode that was read is one that a registration does not know. -/
def AdminRecord.ReadBadMode (calls : AdminRecord Url) : Prop :=
  ∃ setting : Option Value,
    ⟨.base (.base (.base (.fetchSetting "registration_mode"))), .ok setting⟩ ∈ calls ∧
      initialStatus ((setting.bind Value.asStr).getD registrationOpen) = .error invalidSetting

/-- A registration is answered so only after it has read such a mode. -/
def BlamesMode (outcome : Except Error RegisterAnswer) (final : AdminRecord Url) : Prop :=
  outcome = .ok (.error invalidSetting) → final.ReadBadMode

theorem blamesMode_of_ne {title : String} (other : title ≠ "invalid setting") (status : Nat)
    (final : AdminRecord Url) : BlamesMode (.ok (.error (.problem status title))) final := by
  intro same
  injection same with same
  injection same with same
  injection same with _ same
  exact absurd same other

theorem validateRegister_ne {request : RegisterRequest} :
    validateRegister request ≠ .error invalidSetting := by
  unfold validateRegister
  dsimp only
  split
  · decide
  split
  · decide
  split <;> decide

section Registration

variable [HashCrate] {config : Config} {request : RegisterRequest}
  {calls : AdminRecord Url}

/-- A part of a registration whose outcome does not matter. -/
theorem follows_any {α : Type} (part : Registration Url α) :
    (AdminRequest.ofRegistration part).Follows (ServerTask.register config request).protocol
      (fun _ _ => True) calls := by
  have isBase : (AdminRequest.ofRegistration part).Calls fun op => ∃ base, op = .base base :=
    Program.calls_embed (.of_forall part fun op => ⟨op, rfl⟩)
  exact isBase.follows (fun _ => True) (fun _ _ _ allowed => allowed)
    (fun _ _ _ _ _ => trivial) trivial

/-- What follows the mode is never answered so. -/
theorem follows_registerUser (mode status passwordHash : String) (actor : ActorRow) :
    (AdminRequest.ofRegistration (registerUser request mode status passwordHash actor) :
      AdminRequest Url _).Follows (ServerTask.register config request).protocol BlamesMode
        calls := by
  refine ⟨⟨_, rfl⟩, ?_⟩
  rintro (error | user)
  · refine ⟨⟨_, rfl⟩, fun _ => ?_⟩
    show BlamesMode (.ok (.error (if error = .db .uniqueViolation then _ else _))) _
    split
    · exact blamesMode_of_ne (by decide) _ _
    · exact blamesMode_of_ne (by decide) _ _
  · change (AdminRequest.ofRegistration (verifyEmail mode user >>= fun _ =>
      (.done (.ok ⟨actor.id, request.username, status⟩) : Registration Url RegisterAnswer)) :
        AdminRequest Url _).Follows _ _ _
    unfold AdminRequest.ofRegistration
    rw [Program.embed_bind, Program.follows_bind]
    refine (follows_any (verifyEmail mode user)).mono ?_
    rintro (error | verified) final -
    · rintro ⟨⟩
    · rintro ⟨⟩

theorem follows_registerActor (mode status : String) :
    (AdminRequest.ofRegistration (registerActor config request mode status) :
      AdminRequest Url _).Follows (ServerTask.register config request).protocol BlamesMode
        calls := by
  refine ⟨⟨_, rfl⟩, ?_⟩
  rintro (error | passwordHash)
  · exact blamesMode_of_ne (by decide) _ _
  refine ⟨⟨_, rfl⟩, ?_⟩
  rintro (error | keypair)
  · exact blamesMode_of_ne (by decide) _ _
  refine ⟨⟨_, rfl⟩, ?_⟩
  rintro (error | actor)
  · show BlamesMode (.ok (.error (if error = .db .uniqueViolation then _ else _))) _
    split
    · exact blamesMode_of_ne (by decide) _ _
    · exact blamesMode_of_ne (by decide) _ _
  · exact follows_registerUser mode status passwordHash actor

theorem follows_register :
    (AdminRequest.ofRegistration (Registration.register config request) :
      AdminRequest Url _).Follows (ServerTask.register config request).protocol BlamesMode
        [] := by
  unfold Registration.register
  cases checked : validateRegister request with
  | error problem =>
      rintro ⟨⟩
      exact absurd checked validateRegister_ne
  | ok _ =>
      refine ⟨⟨_, rfl⟩, ?_⟩
      rintro (error | setting)
      · exact blamesMode_of_ne (by decide) _ _
      show (AdminRequest.ofRegistration (registerInMode config request
        ((setting.bind Value.asStr).getD registrationOpen)) : AdminRequest Url _).Follows _ _
          ([⟨.base (.base (.base (.fetchSetting "registration_mode"))), .ok setting⟩] :
            AdminRecord Url)
      unfold registerInMode
      cases mode : initialStatus ((setting.bind Value.asStr).getD registrationOpen) with
      | error problem =>
          rintro ⟨⟩
          exact ⟨setting, List.mem_singleton_self _, mode⟩
      | ok status => exact follows_registerActor _ status

/-- What a task leaves that blames the mode. -/
def ServerTask.BlamesMode (task : ServerTask Url) (outcome : Except Error ServerAnswer)
    (final : AdminRecord Url) : Prop :=
  ∀ server request, task = .register server request →
    outcome = .ok (.registered (.error invalidSetting)) → final.ReadBadMode

theorem ServerTask.follows_blamesMode [TextStd] (task : ServerTask Url) :
    task.program.Follows task.protocol task.BlamesMode [] := by
  cases task with
  | register server request =>
      change (AdminRequest.ofRegistration (Registration.register server request) >>= fun answer =>
        (.done (.registered answer) : AdminRequest Url ServerAnswer)).Follows _ _ _
      rw [Program.follows_bind]
      refine follows_register.mono ?_
      rintro (error | answer) final blames
      · rintro _ _ - ⟨⟩
      · rintro _ _ - same
        injection same with same
        injection same with same
        exact blames (congrArg Except.ok same)
  | admin _ _ | login _ | authenticate _ | other _ =>
      exact (follows_program _).mono fun _ _ _ => by rintro _ _ ⟨⟩

end Registration

/-! ## What is in force -/

/-- What an administrator is shown of a setting. -/
def Administration.shown (admin : Administration) (key : String) : Value :=
  (admin.settingOf key).getD (AdminRequest.defaultSettingValue key)

/-- The numbers that other parts of the server read, with the defaults that they use. -/
def numericReaders : List (String × F64) :=
  [("upload_size_cap_mb", uploadSizeCapMbDefault), ("clip_max_seconds", clipMaxSecondsDefault),
    (Quota.key, perUserStorageQuotaMbDefault)]

/-- A number that is valid is a number. -/
theorem number_of_valid {reader : String × F64} (isReader : reader ∈ numericReaders)
    {value : Value} (valid : AdminRequest.validateSetting reader.1 value = .ok ()) :
    ∃ number, value = .number number := by
  have isNumber : AdminRequest.isNumber value = true := by
    by_contra other
    rw [Bool.not_eq_true] at other
    simp only [numericReaders, List.mem_cons, List.not_mem_nil, or_false] at isReader
    rcases isReader with rfl | rfl | rfl <;>
      simp [AdminRequest.validateSetting, AdminRequest.settingsWhitelist, Quota.key, other] at valid
  cases value with
  | number number => exact ⟨number, rfl⟩
  | _ => cases isNumber

/-- The defaults of the readers are those that are shown. -/
theorem default_shown {reader : String × F64} (isReader : reader ∈ numericReaders) :
    F64.zero.gt reader.2 = false ∧
      ∃ number, AdminRequest.defaultSettingValue reader.1 = .number number ∧
        Json.Number.asF64 number = some reader.2 := by
  simp only [numericReaders, List.mem_cons, List.not_mem_nil, or_false] at isReader
  rcases isReader with rfl | rfl | rfl
  · exact ⟨by decide, _, rfl, by decide⟩
  · exact ⟨by decide, _, rfl, by decide⟩
  · exact ⟨by decide, _, rfl, by decide⟩

section Runs

variable [HashCrate] [TextStd] {ι : Type} [DecidableEq ι] {tasks : ι → ServerTask Url}
  {start : Administration} {events : List (ServerEvent ι Url)}
  {config : Effects.Config ι (@AdminOp.Result Url) Error ServerAnswer Administration}

/-- Valid settings stay so, whatever the requests are and however they interleave. -/
theorem ServerRun.settingsValid (run : ServerRun tasks start events config)
    (valid : start.SettingsValid) : config.state.SettingsValid := by
  refine run.invariant (fun _ admin => admin.SettingsValid) valid (fun _ _ _ valid => valid) ?_
  intro events admin thread op env valid mayCall
  refine op.settingsValid_exec env valid ?_
  rintro key value rfl
  cases isTask : tasks thread with
  | admin action head =>
      rw [isTask] at mayCall
      exact mayCall.2.2
  | register _ _ | login _ | authenticate _ | other _ =>
      rw [isTask] at mayCall
      obtain ⟨base, ⟨⟩⟩ := mayCall

/-- What an administrator may write, the others can read. In every run that starts with valid
settings they are valid at any time; no registration is ever answered that the stored mode is
unknown; and a number that an administrator is shown is the one in force exactly if it is not
negative. -/
theorem settings_in_force (tasks : ι → ServerTask Url) {start : Administration}
    (valid : start.SettingsValid) {events : List (ServerEvent ι Url)}
    {config : Effects.Config ι (@AdminOp.Result Url) Error ServerAnswer Administration}
    (run : ServerRun tasks start events config) :
    config.state.SettingsValid ∧
      (∀ thread server request, tasks thread = .register server request →
        config.threads thread ≠ .done (.registered (.error invalidSetting))) ∧
      ∀ key default, (key, default) ∈ numericReaders → ∃ number value,
        config.state.shown key = .number number ∧ number.asF64 = some value ∧
          (Quota.number default (config.state.settingOf key) = value ↔
            F64.zero.gt value = false) := by
  refine ⟨run.settingsValid valid, ?_, ?_⟩
  · intro thread server request isTask answered
    have follows := run.follows (fun thread => (tasks thread).follows_blamesMode)
      (fun _ _ => False.elim) thread
    rw [answered] at follows
    -- The mode was read from settings that were valid.
    obtain ⟨setting, member, unknown⟩ := follows server request isTask rfl
    obtain ⟨before, after, env, rfl, executed⟩ := run.executed member
    obtain ⟨earlier, reached⟩ := run.moment
    rw [show (serverAtWork tasks start).state = start from rfl] at executed
    have read : setting = (replay AdminOp.exec start before).settingOf "registration_mode" :=
      AdminOp.setting_of_fetched executed
    cases setting with
    | none => exact absurd unknown (by decide)
    | some value =>
        exact initialStatus_of_valid
          ((reached.state_eq ▸ ServerRun.settingsValid reached valid).valid_of_settingOf
            read.symm) unknown
  · intro key default isReader
    have validNow := run.settingsValid valid
    unfold Administration.shown
    cases stored : config.state.settingOf key with
    | none =>
        obtain ⟨nonnegative, number, shown, isDefault⟩ := default_shown isReader
        exact ⟨number, default, shown, isDefault, fun _ => nonnegative, fun _ => rfl⟩
    | some value =>
        obtain ⟨number, rfl⟩ := number_of_valid isReader (validNow.valid_of_settingOf stored)
        obtain ⟨value, isValue⟩ : ∃ value, number.asF64 = some value := by
          cases number <;> exact ⟨_, rfl⟩
        refine ⟨number, value, rfl, isValue, ?_⟩
        simp only [Quota.number, isValue, Option.getD_some]
        cases negative : F64.zero.gt value with
        | false => simp
        | true =>
            -- The default is not negative.
            have other : default ≠ value := by
              rintro rfl
              rw [(default_shown isReader).1] at negative
              cases negative
            simp [other]

end Runs

namespace Sample

/-- An administrator changes the settings while somebody registers. -/
def settingTasks : Bool → ServerTask NormalUrl
  | false => .admin (.putSettings
      [("registration_mode", .string "approval"), ("upload_size_cap_mb", .number (.ofInt (-1)))])
        signed
  | true => .register config ⟨"bob", none, "0123456789"⟩

/-- The registration begins between the two writes. -/
def settingsChange := takeOn settingTasks administration
  (List.replicate 7 false ++ List.replicate 6 true ++ List.replicate 10 false)

/-- A negative cap is shown, and the default is in force. -/
theorem negative_cap_shown :
    settingsChange.2.state.SettingsValid ∧
      settingsChange.2.threads true =
        .done (.registered (.ok ⟨2, "bob", "pending"⟩)) ∧
      ∃ number value, settingsChange.2.state.shown "upload_size_cap_mb" = .number number ∧
        number.asF64 = some value ∧
        (Quota.number uploadSizeCapMbDefault
          (settingsChange.2.state.settingOf "upload_size_cap_mb") = value ↔
            F64.zero.gt value = false) := by
  obtain ⟨valid, -, inForce⟩ := settings_in_force settingTasks
    (show administration.SettingsValid by rintro _ ⟨⟩) (takeOn_run settingTasks administration
      (List.replicate 7 false ++ List.replicate 6 true ++ List.replicate 10 false))
  exact ⟨valid, rfl, inForce _ _ List.mem_cons_self⟩

end Sample

end TootTok
