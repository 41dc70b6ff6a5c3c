import TootTok.Inbox

/-!
# The pipeline behind the gate

Every handler of the inbox is the same pipeline around its own work. This
module says so once, describes what the gate does to the log, and gives the
rules by which properties of the work become properties of the delivery.
-/

namespace TootTok

open Effects
open Json (Value)
open Relational (Table)
open UrlCrate

variable {Url : Type}

/-! ## The gate -/

theorem Activities.tryCreateInbound_of_logged
    {new : NewActivity} {table : ActivityTable}
    (logged : ∃ row ∈ table, row.activityId = new.activityId) :
    Activities.tryCreateInbound new table = (none, table) := by
  unfold Activities.tryCreateInbound
  rw [Table.insert?_eq_none.mpr logged]

theorem Activities.tryCreateInbound_of_fresh
    {new : NewActivity} {table : ActivityTable}
    (fresh : ¬∃ row ∈ table, row.activityId = new.activityId) :
    (Activities.tryCreateInbound new table).1 = some (new.row .inbound) ∧
      ∀ row, row ∈ (Activities.tryCreateInbound new table).2 ↔
        row ∈ table ∨ row = new.row .inbound := by
  unfold Activities.tryCreateInbound
  cases inserted : table.insert? (new.row .inbound) with
  | none => exact (fresh (Table.insert?_eq_none.mp inserted)).elim
  | some table' => exact ⟨rfl, fun row => Table.mem_insert? inserted⟩

namespace Db

/-- The state after an activity went through the gate. -/
def log (db : Db) (new : NewActivity) : Db :=
  { db with activities := (Activities.tryCreateInbound new db.activities).2 }

theorem log_of_logged {db : Db} {new : NewActivity}
    (logged : db.Logged new.activityId) : db.log new = db := by
  unfold log
  rw [Activities.tryCreateInbound_of_logged logged]

theorem logged_log (db : Db) (new : NewActivity) :
    (db.log new).Logged new.activityId := by
  by_cases logged : db.Logged new.activityId
  · rwa [log_of_logged logged]
  · exact ⟨new.row .inbound,
      ((Activities.tryCreateInbound_of_fresh logged).2 _).mpr (.inr rfl), rfl⟩

/-- The two states differ in the log of activities at most. -/
structure SameEffects (left right : Db) : Prop where
  actors : left.actors = right.actors
  clips : left.clips = right.clips
  follows : left.follows = right.follows
  tombstones : left.tombstones = right.tombstones
  jobs : left.jobs = right.jobs

theorem SameEffects.refl (db : Db) : db.SameEffects db := ⟨rfl, rfl, rfl, rfl, rfl⟩

theorem SameEffects.symm {left right : Db}
    (same : left.SameEffects right) : right.SameEffects left :=
  ⟨same.actors.symm, same.clips.symm, same.follows.symm, same.tombstones.symm,
    same.jobs.symm⟩

theorem SameEffects.trans {first second third : Db}
    (left : first.SameEffects second) (right : second.SameEffects third) :
    first.SameEffects third :=
  ⟨left.actors.trans right.actors, left.clips.trans right.clips,
    left.follows.trans right.follows, left.tombstones.trans right.tombstones,
    left.jobs.trans right.jobs⟩

theorem sameEffects_log (db : Db) (new : NewActivity) : db.SameEffects (db.log new) :=
  ⟨rfl, rfl, rfl, rfl, rfl⟩

/-- A property of states that does not look at the log of activities. -/
def IgnoresLog (holds : Db → Prop) : Prop :=
  ∀ left right, left.SameEffects right → holds left → holds right

end Db

/-- A query that writes the log of activities at most has no other effect. -/
theorem Operation.exec_sameEffects
    {op : Operation Url} (logs : op.writes = none ∨ op.writes = some .activities)
    (env : Env Url) (db : Db) :
    db.SameEffects (Operation.exec env op db).2 := by
  have frame (name : Operation.TableName) (other : name ≠ .activities) :
      op.writes ≠ some name := by
    rcases logs with quiet | logs
    · rw [quiet]
      exact fun impossible => nomatch impossible
    · rw [logs]
      exact fun same => other (Option.some.inj same).symm
  exact ⟨(exec_frame .actors (frame _ (by decide)) env db).symm,
    (exec_frame .clips (frame _ (by decide)) env db).symm,
    (exec_frame .follows (frame _ (by decide)) env db).symm,
    (exec_frame .tombstones (frame _ (by decide)) env db).symm,
    (exec_frame .jobs (frame _ (by decide)) env db).symm⟩

theorem Operation.storable_of_success
    {env : Env Url} {op : Operation Url}
    (fallible : op.infallible = false) (succeeded : failure env op = none) :
    op.storable = true := by
  unfold failure at succeeded
  by_contra unstorable
  simp [fallible, unstorable] at succeeded

/-- The environment injects no fault. -/
def Env.Quiet (env : Env Url) : Prop := env.fault = none

theorem Env.Quiet.failure_eq_none
    {env : Env Url} (quiet : env.Quiet)
    {op : Operation Url} (storable : op.storable = true) :
    Operation.failure env op = none := by
  unfold Operation.failure
  rw [quiet, storable]
  simp

/-- Without faults, a storable query is performed. -/
theorem Handler.ensures_quiet_query
    {allow : Env Url → Prop} (quiet : ∀ env, allow env → env.Quiet)
    {op : Operation Url} (storable : op.storable = true)
    {post : Except Error op.Result → Db → Prop} {db : Db}
    (performed : ∀ env, allow env →
      post (Operation.perform env op db).1 (Operation.perform env op db).2) :
    Program.Ensures Operation.exec allow post (query op) db := by
  rw [Program.ensures_perform]
  intro env allowed
  rw [Operation.exec_of_success ((quiet env allowed).failure_eq_none storable)]
  exact performed env allowed

/-- Without faults, a storable query is performed, and the program goes on. -/
theorem Handler.ensures_quiet_then {β : Type}
    {allow : Env Url → Prop} (quiet : ∀ env, allow env → env.Quiet)
    {op : Operation Url} (storable : op.storable = true)
    {rest : op.Result → Handler Url β} {post : Except Error β → Db → Prop} {db : Db}
    (performed : ∀ env, allow env →
      Program.thenEnsures Operation.exec allow post rest
        (Operation.perform env op db).1 (Operation.perform env op db).2) :
    Program.Ensures Operation.exec allow post (query op >>= rest) db := by
  rw [Program.ensures_bind]
  exact ensures_quiet_query quiet storable performed

/-! ## Rules -/

variable [UrlCrate Url]

section Rules

variable {allow : Env Url → Prop} {db : Db} {holds : Db → Prop}
  {activityId : Url} {actorApId : String} {objectApId : Option String}
  {raw : Value} {work : Handler Url Unit}

theorem ensures_inboundFinish
    (ignoresLog : Db.IgnoresLog holds) (holdsNow : holds db) :
    Program.Ensures Operation.exec allow (fun _ final => holds final)
      (inboundFinish activityId) db := by
  unfold inboundFinish
  rw [Program.ensures_bind, Program.ensures_perform]
  intro env _
  have kept : holds (Operation.exec env (.stampProcessed (asStr activityId)) db).2 :=
    ignoresLog _ _ (Operation.exec_sameEffects (.inr rfl) env db) holdsNow
  cases (Operation.exec env (.stampProcessed (asStr activityId)) db).1 with
  | ok _ => exact kept
  | error _ => exact kept

/-- What follows the gate, once an activity is through. -/
theorem ensures_work
    (ignoresLog : Db.IgnoresLog holds)
    (workEnsures :
      Program.Ensures Operation.exec allow (fun _ final => holds final) work db) :
    Program.Ensures Operation.exec allow (fun _ final => holds final)
      (work >>= fun _ => inboundFinish activityId) db := by
  rw [Program.ensures_bind]
  refine workEnsures.mono ?_
  intro outcome final holdsThen
  cases outcome with
  | ok _ => exact ensures_inboundFinish ignoresLog holdsThen
  | error _ => exact holdsThen

/-- A property that ignores the log holds after a delivery if it held before
and the work of a fresh activity ensures it. -/
theorem ensures_pipeline
    (ignoresLog : Db.IgnoresLog holds)
    (initially : holds db)
    (workEnsures : ¬db.Logged (asStr activityId) →
      (.tryCreateInbound
        ⟨asStr activityId, actorApId, objectApId, raw⟩ : Operation Url).storable = true →
      Program.Ensures Operation.exec allow (fun _ final => holds final) work
        (db.log ⟨asStr activityId, actorApId, objectApId, raw⟩)) :
    Program.Ensures Operation.exec allow (fun _ final => holds final)
      (pipeline activityId actorApId objectApId raw work) db := by
  unfold pipeline inboundBegin
  rw [Program.ensures_bind, Program.ensures_bind, Program.ensures_perform]
  intro env _
  cases failed : Operation.failure env
      (.tryCreateInbound ⟨asStr activityId, actorApId, objectApId, raw⟩) with
  | some error =>
      rw [Operation.exec_of_failure failed]
      exact initially
  | none =>
      rw [Operation.exec_of_success failed]
      by_cases logged : db.Logged (asStr activityId)
      · have refused := @Activities.tryCreateInbound_of_logged
          ⟨asStr activityId, actorApId, objectApId, raw⟩ _ logged
        simp only [Operation.perform, Operation.answered, Db.onActivities, refused]
        exact initially
      · have passed := @Activities.tryCreateInbound_of_fresh
          ⟨asStr activityId, actorApId, objectApId, raw⟩ _ logged
        have storable : (.tryCreateInbound
            ⟨asStr activityId, actorApId, objectApId, raw⟩ : Operation Url).storable = true :=
          Operation.storable_of_success rfl failed
        simp only [Operation.perform, Operation.answered, Db.onActivities, passed.1]
        exact ensures_work ignoresLog (workEnsures logged storable)

/-- Without faults, a fresh activity does its work. -/
theorem ensures_fresh_pipeline
    (quiet : ∀ env, allow env → env.Quiet)
    (ignoresLog : Db.IgnoresLog holds)
    (fresh : ¬db.Logged (asStr activityId))
    (storable : (.tryCreateInbound
      ⟨asStr activityId, actorApId, objectApId, raw⟩ : Operation Url).storable = true)
    (workEnsures :
      Program.Ensures Operation.exec allow (fun _ final => holds final) work
        (db.log ⟨asStr activityId, actorApId, objectApId, raw⟩)) :
    Program.Ensures Operation.exec allow (fun _ final => holds final)
      (pipeline activityId actorApId objectApId raw work) db := by
  have passed := @Activities.tryCreateInbound_of_fresh
    ⟨asStr activityId, actorApId, objectApId, raw⟩ _ fresh
  unfold pipeline inboundBegin
  rw [Program.ensures_bind, Program.ensures_bind]
  refine Handler.ensures_quiet_query quiet storable ?_
  intro env _
  simp only [Operation.perform, Operation.answered, Db.onActivities, passed.1]
  exact ensures_work ignoresLog workEnsures

end Rules

/-! ## The work of each handler -/

namespace ApActivities

/-- The id under which the log names the object of an activity. -/
def loggedObject : ApActivities Url → Option String
  | .follow activity => some (asStr activity.object)
  | .accept activity => some (asStr activity.object.id)
  | .reject activity => some (asStr activity.object.id)
  | .undo activity =>
      (undoFollowTarget activity.object).or (rawObjectId activity.toValue)
  | .delete activity => some (asStr activity.object.id)
  | .create activity => Note.embeddedObjectId activity.object
  | .update activity => Note.embeddedObjectId activity.object
  | .move activity => some (asStr activity.object)
  | .passthrough activity => rawObjectId activity.raw

def toValue : ApActivities Url → Value
  | .follow activity => activity.toValue
  | .accept activity => activity.toValue
  | .reject activity => activity.toValue
  | .undo activity => activity.toValue
  | .delete activity => activity.toValue
  | .create activity => activity.toValue
  | .update activity => activity.toValue
  | .move activity => activity.toValue
  | .passthrough activity => activity.raw

/-- The columns of the row that the gate logs. -/
def logged (activity : ApActivities Url) : NewActivity where
  activityId := asStr activity.id
  actorApId := asStr activity.actor
  objectApId := activity.loggedObject
  raw := activity.toValue

/-- What a fresh activity does between the gate and the stamp. -/
def work [ChronoCrate] (data : FederationData) : ApActivities Url → Handler Url Unit
  | .follow activity => do
      if ← tombstoned (asStr activity.object) then pure ()
      else activity.record data
  | .accept activity => acceptFollow (asStr activity.object.id)
  | .reject activity => rejectFollow (asStr activity.object.id)
  | .undo activity =>
      match undoFollowTarget activity.object with
      | none => pure ()
      | some followId => undoFollow followId
  | .delete activity => applyDelete (asStr activity.object.id) (asStr activity.actor)
  | .create activity =>
      match Note.embeddedObjectId activity.object with
      | none => pure ()
      | some objectId => ingestNote data activity.actor objectId activity.object
  | .update activity =>
      match Note.embeddedObjectId activity.object with
      | none => pure ()
      | some objectId => applyUpdate objectId (asStr activity.actor) activity.object
  | .move _ => pure ()
  | .passthrough _ => pure ()

/-- Every handler is the pipeline around its work. -/
theorem receive_eq [ChronoCrate] (data : FederationData) (activity : ApActivities Url) :
    activity.receive data =
      pipeline activity.id (asStr activity.actor) activity.loggedObject activity.toValue
        (activity.work data) := by
  cases activity with
  | undo activity =>
      simp only [receive, Undo.receiveInbound, work, loggedObject]
      cases undoFollowTarget activity.object <;> rfl
  | _ => rfl

/-- The log can hold the activity. -/
def storable (activity : ApActivities Url) : Bool :=
  (.tryCreateInbound activity.logged : Operation Url).storable

theorem storable_activityValue (type : String) (id actor : Url) (object : Value) :
    (activityValue type id actor object).storable =
      (Json.textStorable type && object.storable) := by
  have keys : ∀ key ∈ ["type", "id", "actor", "object"], Json.textStorable key = true := by
    decide
  simp [activityValue, Value.storable, Json.storableMembers, Json.Value.ofUrl,
    storable_asStr, keys]

/-- A delete carries nothing but ids. -/
theorem storable_delete (activity : Delete Url) :
    (ApActivities.delete activity).storable = true := by
  have texts : ∀ text ∈ ["Delete", "Tombstone", "id", "type"],
      Json.textStorable text = true := by
    decide
  have object : activity.object.toValue.storable = true := by
    cases activity.object <;>
      simp [DeleteObject.toValue, Value.storable, Json.storableMembers, Json.Value.ofUrl,
        storable_asStr, texts]
  simp [storable, Operation.storable, Operation.texts, Operation.documents, logged,
    loggedObject, toValue, Delete.toValue, storable_activityValue, ApActivities.id,
    ApActivities.actor, storable_asStr, texts, object]

variable [ChronoCrate] {allow : Env Url → Prop} {db : Db} {holds : Db → Prop}
  {data : FederationData} {activity : ApActivities Url}

/-- A property that ignores the log holds after a delivery if it held before
and the work of a fresh activity ensures it. -/
theorem ensures_receive
    (ignoresLog : Db.IgnoresLog holds)
    (initially : holds db)
    (workEnsures : ¬db.Logged (asStr activity.id) → activity.storable = true →
      Program.Ensures Operation.exec allow (fun _ final => holds final)
        (activity.work data) (db.log activity.logged)) :
    Program.Ensures Operation.exec allow (fun _ final => holds final)
      (activity.receive data) db := by
  rw [receive_eq]
  exact ensures_pipeline ignoresLog initially workEnsures

/-- Without faults, a fresh activity does its work. -/
theorem ensures_fresh_receive
    (quiet : ∀ env, allow env → env.Quiet)
    (ignoresLog : Db.IgnoresLog holds)
    (fresh : ¬db.Logged (asStr activity.id))
    (storable : activity.storable = true)
    (workEnsures :
      Program.Ensures Operation.exec allow (fun _ final => holds final)
        (activity.work data) (db.log activity.logged)) :
    Program.Ensures Operation.exec allow (fun _ final => holds final)
      (activity.receive data) db := by
  rw [receive_eq]
  exact ensures_fresh_pipeline quiet ignoresLog fresh storable workEnsures

end ApActivities

end TootTok
