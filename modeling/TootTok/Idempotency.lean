import TootTok.Effects.Runs
import TootTok.Pipeline

/-!
# Idempotency of the inbox

The log of activities is an insert-first gate, and every handler is gated by
it. A duplicate delivery therefore changes nothing, and of several concurrent
deliveries of one activity exactly one has an effect.
-/

namespace TootTok

open Effects
open Json (Value)
open Relational (Table)
open UrlCrate

variable {Url : Type}

/-! ## The gate of an activity id -/

namespace Operation

/-- The call that asks the gate about an activity id. -/
def IsGate (activityId : String) (op : Operation Url) : Prop :=
  ∃ new, op = .tryCreateInbound new ∧ new.activityId = activityId

/-- The outcome of a gate call that logged a new row. -/
def GotThrough : (op : Operation Url) → Except Error op.Result → Prop
  | .tryCreateInbound _, .ok (some _) => True
  | _, _ => False

/-- No operation removes an activity from the log. -/
theorem exec_logged
    (env : Env Url) (op : Operation Url) {db : Db} {activityId : String}
    (logged : db.Logged activityId) :
    (exec env op db).2.Logged activityId := by
  obtain ⟨row, stored, rfl⟩ := logged
  by_cases logs : op.writes = some .activities
  · rcases exec_cases env op db with ⟨error, failed⟩ | performed
    · rw [failed]
      exact ⟨row, stored, rfl⟩
    · rw [performed]
      cases op with
      | tryCreateInbound new =>
          change ∃ kept ∈ (Activities.tryCreateInbound new db.activities).2, _
          unfold Activities.tryCreateInbound
          cases inserted : db.activities.insert? (new.row .inbound) with
          | none => exact ⟨row, stored, rfl⟩
          | some table => exact ⟨row, (Table.mem_insert? inserted).mpr (.inl stored), rfl⟩
      | createOutbound new =>
          change ∃ kept ∈ (Activities.createOutbound new db.activities).2, _
          unfold Activities.createOutbound
          cases inserted : db.activities.insert? (new.row .outbound) with
          | none => exact ⟨row, stored, rfl⟩
          | some table => exact ⟨row, (Table.mem_insert? inserted).mpr (.inl stored), rfl⟩
      | stampProcessed id =>
          have keeps := ActivityRow.keepsKeys_stamp env.now
          refine ⟨_, Table.mem_update_of_mem keeps stored, ?_⟩
          unfold Table.changeWhere
          split <;> rfl
      | _ => cases logs
  · have same := exec_frame .activities logs env db
    refine ⟨row, ?_, rfl⟩
    rwa [show (exec env op db).2.activities = db.activities from same]

/-- What an operation adds to the log, if it adds anything. -/
def logs : Operation Url → Option NewActivity
  | .tryCreateInbound new | .createOutbound new => some new
  | _ => none

/-- A row of the log after an operation is an old one, with the content it had,
or carries the new id that the operation logs. -/
theorem logRow_of_exec
    {env : Env Url} {op : Operation Url} {db : Db} {row : ActivityRow}
    (member : row ∈ (exec env op db).2.activities) :
    (∃ old ∈ db.activities, old.activityId = row.activityId ∧ old.raw = row.raw) ∨
      (¬db.Logged row.activityId ∧
        ∃ new, op.logs = some new ∧ new.activityId = row.activityId ∧ new.raw = row.raw) := by
  have inserted {new : NewActivity} {direction : Direction} {table : ActivityTable}
      (added : db.activities.insert? (new.row direction) = some table) (member : row ∈ table) :
      (∃ old ∈ db.activities, old.activityId = row.activityId ∧ old.raw = row.raw) ∨
        (¬db.Logged row.activityId ∧ new.activityId = row.activityId ∧ new.raw = row.raw) := by
    rcases (Table.mem_insert? added).mp member with old | rfl
    · exact .inl ⟨row, old, rfl, rfl⟩
    · refine .inr ⟨fun logged => ?_, rfl, rfl⟩
      rw [Table.insert?_eq_none.mpr logged] at added
      cases added
  by_cases writes : op.writes = some .activities
  · rcases exec_cases env op db with ⟨error, failed⟩ | performed
    · rw [failed] at member
      exact .inl ⟨row, member, rfl, rfl⟩
    · rw [performed] at member
      cases op with
      | tryCreateInbound new =>
          change row ∈ (Activities.tryCreateInbound new db.activities).2 at member
          unfold Activities.tryCreateInbound at member
          cases added : db.activities.insert? (new.row .inbound) with
          | none =>
              rw [added] at member
              exact .inl ⟨row, member, rfl, rfl⟩
          | some table =>
              rw [added] at member
              exact (inserted added member).imp_right fun ⟨fresh, same⟩ =>
                ⟨fresh, new, rfl, same⟩
      | createOutbound new =>
          change row ∈ (Activities.createOutbound new db.activities).2 at member
          unfold Activities.createOutbound at member
          cases added : db.activities.insert? (new.row .outbound) with
          | none =>
              rw [added] at member
              exact .inl ⟨row, member, rfl, rfl⟩
          | some table =>
              rw [added] at member
              exact (inserted added member).imp_right fun ⟨fresh, same⟩ =>
                ⟨fresh, new, rfl, same⟩
      | stampProcessed id =>
          obtain ⟨old, oldMember, rfl⟩ :=
            (@Table.mem_update _ _ _ _ _ (ActivityRow.keepsKeys_stamp env.now) _).mp member
          refine .inl ⟨old, oldMember, ?_⟩
          unfold Table.changeWhere
          split <;> exact ⟨rfl, rfl⟩
      | _ => cases writes
  · have same := exec_frame .activities writes env db
    rw [show (exec env op db).2.activities = db.activities from same] at member
    exact .inl ⟨row, member, rfl, rfl⟩

/-- The log of activities is an insert-first gate for each activity id. -/
theorem idempotencyGate (activityId : String) :
    InsertFirstGate (@exec Url) (IsGate activityId)
      (fun db => db.Logged activityId) GotThrough where
  closes := by
    rintro env _ db ⟨new, rfl, rfl⟩ gotThrough
    rcases exec_cases env (.tryCreateInbound new) db with ⟨error, failed⟩ | performed
    · rw [failed] at gotThrough
      exact gotThrough.elim
    · rw [performed]
      exact db.logged_log new
  refuses := by
    rintro env _ db ⟨new, rfl, rfl⟩ logged gotThrough
    rcases exec_cases env (.tryCreateInbound new) db with ⟨error, failed⟩ | performed
    · rw [failed] at gotThrough
      exact gotThrough
    · rw [performed] at gotThrough
      simp only [perform, answered, Db.onActivities,
        Activities.tryCreateInbound_of_logged logged] at gotThrough
      exact gotThrough
  quiet := by
    rintro env _ db ⟨new, rfl, rfl⟩ refused
    rcases exec_cases env (.tryCreateInbound new) db with ⟨error, failed⟩ | performed
    · rw [failed]
    · rw [performed] at refused ⊢
      by_cases logged : db.Logged new.activityId
      · exact db.log_of_logged logged
      · have passed := Activities.tryCreateInbound_of_fresh logged
        simp only [perform, answered, Db.onActivities, passed.1] at refused
        exact (refused trivial).elim
  staysClosed := fun env op _ logged => exec_logged env op logged

/-- An open gate lets a call through unless the call fails. -/
theorem gotThrough_of_success
    {env : Env Url} {op : Operation Url} {db : Db} {activityId : String}
    (succeeded : failure env op = none)
    (isGate : IsGate activityId op)
    (fresh : ¬db.Logged activityId) :
    GotThrough op (exec env op db).1 := by
  obtain ⟨new, rfl, rfl⟩ := isGate
  rw [exec_of_success succeeded]
  have passed := Activities.tryCreateInbound_of_fresh fresh
  simp only [perform, answered, Db.onActivities, passed.1]
  trivial

end Operation

section Deliveries

variable [UrlCrate Url]

theorem gated_pipeline
    (activityId : Url) (actorApId : String) (objectApId : Option String) (raw : Value)
    (work : Handler Url Unit) :
    Gated (Operation.IsGate (asStr activityId)) Operation.GotThrough
      (pipeline activityId actorApId objectApId raw work) := by
  refine ⟨.tryCreateInbound ⟨asStr activityId, actorApId, objectApId, raw⟩, _, rfl,
    ⟨_, rfl, rfl⟩, ?_⟩
  intro outcome refused
  cases outcome with
  | error error => trivial
  | ok row =>
      cases row with
      | none => trivial
      | some row => exact (refused trivial).elim

variable [ChronoCrate]

/-- Every handler starts at the gate and stops when it is refused. -/
theorem ApActivities.gated_receive (data : FederationData) (activity : ApActivities Url) :
    Gated (Operation.IsGate (asStr activity.id)) Operation.GotThrough
      (activity.receive data) := by
  rw [receive_eq]
  exact gated_pipeline _ _ _ _ _

/-! ## Deliveries -/

/-- A verified activity and what the world answers to its handler. -/
structure Delivery (Url : Type) where
  activity : ApActivities Url
  envs : Nat → Env Url

/-- What the sender of a delivery is told. -/
def Delivery.response
    (data : FederationData) (delivery : Delivery Url) (db : Db) : Except Error Unit :=
  ((delivery.activity.receive data).run Operation.exec delivery.envs db).1

/-- The state after a delivery. -/
def deliver (data : FederationData) (db : Db) (delivery : Delivery Url) : Db :=
  ((delivery.activity.receive data).run Operation.exec delivery.envs db).2

/-- A delivery of a logged activity changes nothing. -/
theorem deliver_of_logged
    (data : FederationData) {db : Db} (delivery : Delivery Url)
    (logged : db.Logged (asStr delivery.activity.id)) :
    deliver data db delivery = db :=
  (Operation.idempotencyGate _).run_of_closed
    (delivery.activity.gated_receive data) delivery.envs logged

/-- A logged activity stays logged. -/
theorem logged_deliver
    (data : FederationData) {db : Db} (delivery : Delivery Url) {activityId : String}
    (logged : db.Logged activityId) :
    (deliver data db delivery).Logged activityId :=
  (@Operation.idempotencyGate Url activityId).closed_run
    (delivery.activity.receive data) delivery.envs logged

/-- The deliveries of a pool of threads, all at their gate. -/
def concurrentDeliveries {ι : Type}
    (data : FederationData) (db : Db) (activities : ι → ApActivities Url) :
    Effects.Config ι (@Operation.Result Url) Error Unit Db where
  state := db
  threads thread := (activities thread).receive data

end Deliveries

section Sample

open Sample

def Sample.data : FederationData where
  domain := "a"
  baseUrl := "https://a"

def Sample.like : ApActivities NormalUrl :=
  .passthrough ⟨.ofText "https://b/1", .ofText "https://b/bob",
    .object []⟩

end Sample

end TootTok
