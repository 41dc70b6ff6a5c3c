import TootTok.Idempotency
import TootTok.Instance
import TootTok.WireFormat

/-!
# The raw log

The log keeps an activity as it is written again after it has been read, not as
it was received. This module says which members are lost on the way.
-/

namespace TootTok

open Effects
open Json (Value)
open Relational (Table)
open UrlCrate

variable {Url : Type}

/-! ## Members of JSON values -/

namespace Json.Value

/-- The same JSON, up to the order of the members of an object. -/
inductive Same : Value → Value → Prop
  | refl (value : Value) : Same value value
  | object {received stored : List (String × Value)}
      (members : ∀ key, (object received).get key = (object stored).get key) :
      Same (.object received) (.object stored)

/-- Every member of a received object has been kept. -/
def KeptIn (received stored : Value) : Prop :=
  ∀ key value, received.get key = some value →
    ∃ kept, stored.get key = some kept ∧ value.Same kept

theorem Same.eq_string {value : Value} {text : String} (same : value.Same (.string text)) :
    value = .string text := by
  cases same
  rfl

end Json.Value

/-! ## Forms in which members are written -/

section Forms

variable [UrlCrate Url]

theorem structFields_congr {value other : Value} (same : value.Same other) (names : List String) :
    structFields names value = structFields names other := by
  cases same with
  | refl => rfl
  | object members =>
      unfold structFields
      simp only [members]

theorem decodeTyped_congr {Object : Type} {value other : Value} (same : value.Same other)
    (name : String) (decodeObject : Value → Option Object) :
    (decodeTyped name decodeObject value : Option (Url × Url × Object)) =
      decodeTyped name decodeObject other := by
  unfold decodeTyped
  rw [structFields_congr same]

theorem decodeUrl_congr {value other : Value} (same : value.Same other) :
    (decodeUrl value : Option Url) = decodeUrl other := by
  cases same <;> rfl

theorem decodeFollowObject_congr {value other : Value} (same : value.Same other) :
    (decodeFollowObject value : Option (FollowObject Url)) = decodeFollowObject other := by
  unfold decodeFollowObject decodeFollow decodeFollowRef
  rw [decodeTyped_congr same, structFields_congr same, decodeUrl_congr same]

theorem decodeDeleteObject_congr {value other : Value} (same : value.Same other) :
    (decodeDeleteObject value : Option (DeleteObject Url)) = decodeDeleteObject other := by
  unfold decodeDeleteObject decodeTombstone
  rw [structFields_congr same, decodeUrl_congr same]

/-- The value is in the form in which `write` writes something. -/
def InForm {α : Type} (write : α → Value) (value : Value) : Prop :=
  ∃ written, value.Same (write written)

/-- What has been read is written as it was received if and only if it was
received in the form in which such things are written. -/
theorem same_write_iff {α : Type} {read : Value → Option α} {write : α → Value}
    (congr : ∀ {value other}, value.Same other → read value = read other)
    (inverse : ∀ object, read (write object) = some object)
    {value : Value} {object : α} (isRead : read value = some object) :
    value.Same (write object) ↔ InForm write value := by
  constructor
  · exact fun same => ⟨object, same⟩
  · rintro ⟨other, same⟩
    have both := congr same
    rw [isRead, inverse] at both
    cases both
    exact same

variable (Url) in
/-- A URL as the `url` crate writes it. -/
def IsUrlText : Value → Prop := InForm (.ofUrl : Url → Value)

variable (Url) in
/-- A URL, or an object with nothing but what a follow or a reference to one has. -/
def IsFollowForm : Value → Prop := InForm (FollowObject.toValue : FollowObject Url → Value)

variable (Url) in
/-- A URL, or an object with nothing but what a tombstone has. -/
def IsDeleteForm : Value → Prop := InForm (DeleteObject.toValue : DeleteObject Url → Value)

/-- The form in which the object of an activity is written. -/
def ApActivities.ObjectForm : ApActivities Url → Value → Prop
  | .follow _ | .move _ => IsUrlText Url
  | .accept _ | .reject _ => IsFollowForm Url
  | .delete _ => IsDeleteForm Url
  | _ => fun _ => True

/-- The members that are written for an activity of a type, in their forms. A
raw activity is written as it was received. -/
def ApActivities.WritesMember : ApActivities Url → String → Value → Prop
  | .passthrough _, _, _ => True
  | activity, key, value =>
      key = "type" ∨ (key = "id" ∧ IsUrlText Url value) ∨ (key = "actor" ∧ IsUrlText Url value) ∨
        (key = "object" ∧ activity.ObjectForm value) ∨
        (key = "target" ∧ (∃ move, activity = .move move) ∧
          (value = .null ∨ IsUrlText Url value))

/-! ## What is kept -/

/-- A URL is written as it was received if and only if it was in normal form. -/
theorem same_ofUrl_iff {value : Value} {url : Url} (isRead : decodeUrl value = some url) :
    value.Same (.ofUrl url) ↔ IsUrlText Url value :=
  same_write_iff decodeUrl_congr decodeUrl_ofUrl isRead

/-- Which members of an object are kept once it has been read as a typed
activity and written again. -/
theorem kept_typed_iff {Object : Type}
    {name : String} {decodeObject : Value → Option Object}
    {members : List (String × Value)} {id actor : Url} {object : Object}
    {written : Value} {form : Value → Prop}
    (isType : (Value.object members).getStr "type" = some name)
    (decoded : decodeTyped name decodeObject (.object members) = some (id, actor, object))
    (objectKept : ∀ value, decodeObject value = some object → (value.Same written ↔ form value))
    {key : String} {value : Value} (received : (Value.object members).get key = some value) :
    (∃ kept, (activityValue name id actor written).get key = some kept ∧ value.Same kept) ↔
      key = "type" ∨ (key = "id" ∧ IsUrlText Url value) ∨ (key = "actor" ∧ IsUrlText Url value) ∨
        (key = "object" ∧ form value) := by
  obtain ⟨isId, isActor, isObject⟩ := fields_of_decodeTyped decoded
  have kept {stored : Value} (found : (activityValue name id actor written).get key = some stored) :
      (∃ kept, (activityValue name id actor written).get key = some kept ∧ value.Same kept) ↔
        value.Same stored := by
    rw [found]
    simp
  by_cases typeKey : key = "type"
  · subst typeKey
    rw [@kept (.string name) (by simp [activityValue, Value.get_object_cons])]
    have isText : value = .string name := by
      rw [Value.getStr, received, Option.bind_some] at isType
      cases value <;> cases isType
      rfl
    simp [isText, Value.Same.refl]
  by_cases idKey : key = "id"
  · subst idKey
    rw [received, Option.bind_some] at isId
    rw [@kept (.ofUrl id) (by simp [activityValue, Value.get_object_cons]), same_ofUrl_iff isId]
    simp
  by_cases actorKey : key = "actor"
  · subst actorKey
    rw [received, Option.bind_some] at isActor
    rw [@kept (.ofUrl actor) (by simp [activityValue, Value.get_object_cons]),
      same_ofUrl_iff isActor]
    simp
  by_cases objectKey : key = "object"
  · subst objectKey
    rw [received, Option.bind_some] at isObject
    rw [@kept written (by simp [activityValue, Value.get_object_cons]), objectKept value isObject]
    simp
  · have lost : (activityValue name id actor written).get key = none := by
      simp [activityValue, Value.get_object_cons, Ne.symm typeKey, Ne.symm idKey,
        Ne.symm actorKey, Ne.symm objectKey]
    simp [lost, typeKey, idKey, actorKey, objectKey]

/-- The target of a move, which is written as `null` when it has none. -/
theorem kept_target_iff {activity : Move Url} {members : List (String × Value)} {value : Value}
    (decoded : decodeMove (.object members) = some activity)
    (received : (Value.object members).get "target" = some value) :
    (∃ kept, activity.toValue.get "target" = some kept ∧ value.Same kept) ↔
      value = .null ∨ IsUrlText Url value := by
  have stored : activity.toValue.get "target" = some (activity.target.elim .null .ofUrl) := by
    simp [Move.toValue, Value.get_object_cons]
  have target : decodeTarget (some value) = some activity.target := by
    unfold decodeMove at decoded
    simp only [Option.bind_eq_bind, Option.pure_def, Option.bind_eq_some_iff] at decoded
    obtain ⟨_, -, target, isTarget, isActivity⟩ := decoded
    rw [received] at isTarget
    cases isActivity
    exact isTarget
  rw [stored]
  simp only [Option.some.injEq, exists_eq_left']
  cases value with
  | null =>
      have noTarget : none = activity.target := Option.some.inj target
      rw [← noTarget]
      exact iff_of_true (.refl _) (.inl rfl)
  | _ =>
      simp only [decodeTarget, Option.map_eq_some_iff] at target
      obtain ⟨url, isUrl, isTarget⟩ := target
      rw [← isTarget]
      simp only [Option.elim_some, reduceCtorEq, false_or]
      exact same_ofUrl_iff isUrl

/-- What is kept of a move: its target as well. -/
theorem kept_move_iff {activity : Move Url} {members : List (String × Value)}
    (isType : (Value.object members).getStr "type" = some "Move")
    (decoded : decodeMove (.object members) = some activity)
    {key : String} {value : Value} (received : (Value.object members).get key = some value) :
    (∃ kept, activity.toValue.get key = some kept ∧ value.Same kept) ↔
      (ApActivities.move activity).WritesMember key value := by
  by_cases targetKey : key = "target"
  · subst targetKey
    rw [kept_target_iff decoded received]
    simp [ApActivities.WritesMember]
  · have sameMember : activity.toValue.get key =
        (activityValue "Move" activity.id activity.actor (.ofUrl activity.object)).get key := by
      simp [Move.toValue, activityValue, Value.get_object_cons, Ne.symm targetKey]
    obtain ⟨⟨id, actor, object⟩, typed, rest⟩ := Option.bind_eq_some_iff.mp decoded
    obtain ⟨target, -, isActivity⟩ := Option.bind_eq_some_iff.mp rest
    cases isActivity
    rw [sameMember, kept_typed_iff isType typed (fun _ isObject => same_ofUrl_iff isObject) received]
    simp [ApActivities.WritesMember, ApActivities.ObjectForm, targetKey]

/-- What is kept of an activity that was read from an object. -/
theorem kept_member_iff
    {members : List (String × Value)} {activity : ApActivities Url}
    (decoded : ApActivities.decode (.object members) = some activity)
    {key : String} {value : Value} (received : (Value.object members).get key = some value) :
    (∃ kept, activity.toValue.get key = some kept ∧ value.Same kept) ↔
      activity.WritesMember key value := by
  have followKept (value : Value) (object : FollowObject Url)
      (isObject : decodeFollowObject value = some object) :
      value.Same object.toValue ↔ IsFollowForm Url value :=
    same_write_iff decodeFollowObject_congr decodeFollowObject_toValue isObject
  have deleteKept (value : Value) (object : DeleteObject Url)
      (isObject : decodeDeleteObject value = some object) :
      value.Same object.toValue ↔ IsDeleteForm Url value :=
    same_write_iff decodeDeleteObject_congr decodeDeleteObject_toValue isObject
  have rawKept (value object : Value) (isObject : some value = some object) :
      value.Same object ↔ True := by
    cases isObject
    exact iff_of_true (.refl value) trivial
  have read := ApActivities.readFrom_of_decode decoded
  cases activity with
  | follow activity =>
      obtain ⟨⟨id, actor, object⟩, typed, rfl⟩ := Option.map_eq_some_iff.mp read.2
      refine (kept_typed_iff read.1 typed (fun _ => same_ofUrl_iff) received).trans ?_
      simp [ApActivities.WritesMember, ApActivities.ObjectForm]
  | accept activity =>
      obtain ⟨⟨id, actor, object⟩, typed, rfl⟩ := Option.map_eq_some_iff.mp read.2
      refine (kept_typed_iff read.1 typed (fun value => followKept value object) received).trans ?_
      simp [ApActivities.WritesMember, ApActivities.ObjectForm]
  | reject activity =>
      obtain ⟨⟨id, actor, object⟩, typed, rfl⟩ := Option.map_eq_some_iff.mp read.2
      refine (kept_typed_iff read.1 typed (fun value => followKept value object) received).trans ?_
      simp [ApActivities.WritesMember, ApActivities.ObjectForm]
  | undo activity =>
      obtain ⟨⟨id, actor, object⟩, typed, rfl⟩ := Option.map_eq_some_iff.mp read.2
      refine (kept_typed_iff read.1 typed (fun value => rawKept value object) received).trans ?_
      simp [ApActivities.WritesMember, ApActivities.ObjectForm]
  | delete activity =>
      obtain ⟨⟨id, actor, object⟩, typed, rfl⟩ := Option.map_eq_some_iff.mp read.2
      refine (kept_typed_iff read.1 typed (fun value => deleteKept value object) received).trans ?_
      simp [ApActivities.WritesMember, ApActivities.ObjectForm]
  | create activity =>
      obtain ⟨⟨id, actor, object⟩, typed, rfl⟩ := Option.map_eq_some_iff.mp read.2
      refine (kept_typed_iff read.1 typed (fun value => rawKept value object) received).trans ?_
      simp [ApActivities.WritesMember, ApActivities.ObjectForm]
  | update activity =>
      obtain ⟨⟨id, actor, object⟩, typed, rfl⟩ := Option.map_eq_some_iff.mp read.2
      refine (kept_typed_iff read.1 typed (fun value => rawKept value object) received).trans ?_
      simp [ApActivities.WritesMember, ApActivities.ObjectForm]
  | move activity => exact kept_move_iff read.1 read.2 received
  | passthrough activity =>
      have isRaw : activity.raw = .object members := read
      refine iff_of_true ⟨value, ?_, .refl value⟩ trivial
      change activity.raw.get key = some value
      rw [isRaw]
      exact received

end Forms

/-! ## The logged value -/

/-- An activity is logged with a raw value, and with no other one. -/
structure Db.Recorded (activityId : String) (raw : Value) (db : Db) : Prop where
  logged : db.Logged activityId
  same : ∀ row ∈ db.activities, row.activityId = activityId → row.raw = raw

theorem Db.Recorded.exec
    {activityId : String} {raw : Value} {db : Db} (recorded : db.Recorded activityId raw)
    (env : Env Url) (op : Operation Url) :
    (Operation.exec env op db).2.Recorded activityId raw := by
  refine ⟨Operation.exec_logged env op recorded.logged, fun row member named => ?_⟩
  rcases Operation.logRow_of_exec member with ⟨old, oldMember, sameId, sameRaw⟩ | ⟨fresh, -⟩
  · rw [← sameRaw]
    exact recorded.same old oldMember (sameId.trans named)
  · rw [named] at fresh
    exact (fresh recorded.logged).elim

/-- What has been recorded stays recorded, whatever runs. -/
theorem Handler.ensures_recorded {α : Type} {allow : Env Url → Prop}
    {activityId : String} {raw : Value} {db : Db} (recorded : db.Recorded activityId raw)
    (part : Handler Url α) :
    Program.Ensures Operation.exec allow (fun _ final => final.Recorded activityId raw) part db := by
  have calls : part.Calls fun _ => True := Program.Calls.of_forall part fun _ => trivial
  refine (calls.ensures
    (fun before after => before.Recorded activityId raw → after.Recorded activityId raw)
    (fun _ => id) ?_ ?_ db).mono fun _ _ kept => kept recorded
  · exact fun _ _ _ first second recorded => second (first recorded)
  · exact fun env op _ _ _ recorded => recorded.exec env op

section Deliveries

variable [UrlCrate Url] [ChronoCrate]

/-- The row that a delivery logs carries the activity as it is written. -/
theorem raw_of_deliver
    (data : FederationData) {db : Db} {activity : ApActivities Url}
    (fresh : ¬db.Logged (asStr activity.id)) (envs : Nat → Env Url) :
    ∀ row ∈ (deliver data db ⟨activity, envs⟩).activities,
      row.activityId = asStr activity.id → row.raw = activity.toValue := by
  suffices ensured : Program.Ensures Operation.exec (fun _ => True)
      (fun _ final => ∀ row ∈ final.activities,
        row.activityId = asStr activity.id → row.raw = activity.toValue)
      (activity.receive data) db from ensured.run envs fun _ => trivial
  have unlogged : ∀ row ∈ db.activities,
      row.activityId = asStr activity.id → row.raw = activity.toValue :=
    fun row member named => (fresh ⟨row, member, named⟩).elim
  rw [ApActivities.receive_eq]
  unfold pipeline inboundBegin
  rw [Program.bind_assoc]
  refine Handler.ensures_query_then (fun _ _ _ _ => unlogged) fun env _ _ => ?_
  have passed := Activities.tryCreateInbound_of_fresh
    (show ¬∃ row ∈ db.activities, row.activityId = activity.logged.activityId from fresh)
  have recorded : (db.log activity.logged).Recorded (asStr activity.id) activity.toValue := by
    refine ⟨db.logged_log activity.logged, fun row member named => ?_⟩
    rcases (passed.2 row).mp member with old | rfl
    · exact unlogged row old named
    · rfl
  change Program.thenEnsures Operation.exec _ _ _
    (.ok (Activities.tryCreateInbound activity.logged db.activities).1) (db.log activity.logged)
  rw [Program.thenEnsures_ok]
  exact (Handler.ensures_recorded recorded _).mono fun _ _ final => final.same

/-- Raw log fidelity. The raw value in the log keeps every member that was
received if and only if all of them are members that an activity of the type is
written with, each in the form in which it is written. -/
theorem raw_log_keeps_iff
    (data : FederationData) (db : Db) (received : Value) (activity : ApActivities Url)
    (decoded : ApActivities.decode received = some activity)
    (fresh : ¬db.Logged (asStr activity.id)) (envs : Nat → Env Url) (row : ActivityRow)
    (stored : row ∈ (deliver data db ⟨activity, envs⟩).activities)
    (named : row.activityId = asStr activity.id) :
    received.KeptIn row.raw ↔
      ∀ key value, received.get key = some value → activity.WritesMember key value := by
  rw [raw_of_deliver data fresh envs row stored named]
  refine forall_congr' fun key => forall_congr' fun value => forall_congr' fun isMember => ?_
  cases received with
  | object members => exact kept_member_iff decoded isMember
  | _ => cases isMember

end Deliveries

/-! ## An addressee -/

namespace Sample

/-- A post that says whom it is sent to. -/
def addressedCreate : Value :=
  .object [("type", .string "Create"), ("id", .string "https://b/1"),
    ("actor", .string "https://b/bob"), ("object", .string "https://b/2"),
    ("to", .array [.string "https://a/users/alice"])]

/-- A like that does so. -/
def addressedLike : Value :=
  .object [("type", .string "Like"), ("id", .string "https://b/1"),
    ("actor", .string "https://b/bob"), ("to", .array [.string "https://a/users/alice"])]

def readCreate : ApActivities NormalUrl :=
  .create ⟨.ofText "https://b/1" parse_bobsActivity, .ofText "https://b/bob" parse_bob,
    .string "https://b/2"⟩

def readLike : ApActivities NormalUrl :=
  .passthrough ⟨.ofText "https://b/1" parse_bobsActivity, .ofText "https://b/bob" parse_bob,
    addressedLike⟩

theorem decode_addressedCreate : ApActivities.decode addressedCreate = some readCreate := by
  have isId : (decodeUrl (.string "https://b/1") : Option NormalUrl) =
      some (.ofText "https://b/1" parse_bobsActivity) := (Option.some_get _).symm
  have isActor : (decodeUrl (.string "https://b/bob") : Option NormalUrl) =
      some (.ofText "https://b/bob" parse_bob) := (Option.some_get _).symm
  simp [ApActivities.decode, addressedCreate, Value.getStr, Value.get_object_cons, Value.asStr,
    decodeCreate, decodeTyped, structFields, isKind, isId, isActor, readCreate]

theorem decode_addressedLike : ApActivities.decode addressedLike = some readLike := by
  have read := ApActivities.decodePassthrough_eq
    (show ((addressedLike).getStr "id").bind parse =
      some (NormalUrl.ofText "https://b/1" parse_bobsActivity) from (Option.some_get _).symm)
    (show ((addressedLike).getStr "actor").bind parse =
      some (NormalUrl.ofText "https://b/bob" parse_bob) from (Option.some_get _).symm)
  exact congrArg (Option.map ApActivities.passthrough) read

theorem nothing_logged_yet (activityId : String) : ¬Db.empty.Logged activityId := by
  rintro ⟨row, member, -⟩
  exact Table.not_mem_empty row member

theorem logged_of_any {db : Db} {activityId : String}
    (any : (db.activities.rows.any fun row => row.activityId = activityId) = true) :
    ∃ row ∈ db.activities, row.activityId = activityId := by
  obtain ⟨row, member, named⟩ := List.any_eq_true.mp any
  exact ⟨row, member, of_decide_eq_true named⟩

end Sample

open Sample

/-- The log forgets whom a post was sent to. -/
theorem addressee_forgotten :
    ApActivities.decode addressedCreate = some readCreate ∧
      ∃ row ∈ (deliver data Db.empty ⟨readCreate, fun _ => .offline⟩).activities,
        row.activityId = "https://b/1" ∧ ¬addressedCreate.KeptIn row.raw := by
  obtain ⟨row, stored, named⟩ := @logged_of_any
    (deliver data Db.empty ⟨readCreate, fun _ => .offline⟩) "https://b/1" (by decide)
  refine ⟨decode_addressedCreate, row, stored, named, fun kept => ?_⟩
  rw [raw_of_deliver data (nothing_logged_yet _) _ row stored named] at kept
  obtain ⟨_, found, -⟩ := kept "to" _ rfl
  cases found

/-- It remembers whom a like was sent to. -/
theorem addressee_remembered :
    ∃ row ∈ (deliver data Db.empty ⟨readLike, fun _ => .offline⟩).activities,
      row.activityId = "https://b/1" ∧ addressedLike.KeptIn row.raw := by
  obtain ⟨row, stored, named⟩ := @logged_of_any
    (deliver data Db.empty ⟨readLike, fun _ => .offline⟩) "https://b/1" (by decide)
  exact ⟨row, stored, named, (raw_log_keeps_iff data Db.empty addressedLike readLike
    decode_addressedLike (nothing_logged_yet _) _ row stored named).mpr fun _ _ _ => trivial⟩

end TootTok
