import TootTok.Database

/-!
# Queries

The queries of the database crate, one function for each, on the table that
the query is about. A query that draws a serial number spends it even when it
inserts nothing.
-/

namespace TootTok

open Json (Value)
open Relational (Table SerialTable)
open Relational.Table (KeepsKeys)

abbrev ActorTable : Type := SerialTable ActorRow.id ActorRow.Clash
abbrev ClipTable : Type := SerialTable ClipRow.id ClipRow.Clash
abbrev FollowTable : Type := Table FollowRow.Clash
abbrev ActivityTable : Type := Table ActivityRow.Clash
abbrev TombstoneTable : Type := Table TombstoneRow.Clash
abbrev JobTable : Type := SerialTable JobRow.id JobRow.Clash
abbrev MediaAssetTable : Type := Table MediaAssetRow.Clash

inductive DbError
  | uniqueViolation
  | rowNotFound
  /-- A parameter that no column can hold. -/
  | unstorable
  /-- A lost connection, a timeout or any other failure of the server. -/
  | failed
deriving DecidableEq

/-- The answer to an `INSERT … RETURNING *`. -/
def inserted {Row : Type} : Option Row → Except DbError Row
  | some row => .ok row
  | none => .error .uniqueViolation

/-! ## Actors -/

/-- Columns of a new local actor. -/
structure NewActor where
  username : String
  actorType : ActorType
  publicKeyPem : String
  privateKeyPem : String
  inboxUrl : String
  sharedInboxUrl : String
  outboxUrl : String
  followersUrl : String
  apId : String

/-- The parts of a remote actor document that make an `actors` row. -/
structure RemoteActorParts where
  id : String
  domain : String
  username : String
  actorType : ActorType
  publicKeyPem : String
  inbox : String
  sharedInbox : Option String
  outbox : String
  followers : String
  displayName : Option String
  summary : Option String
  avatarUrl : Option String
deriving DecidableEq

def NewActor.row (new : NewActor) (id : Nat) : ActorRow where
  id := id
  username := new.username
  domain := none
  actorType := new.actorType
  publicKeyPem := new.publicKeyPem
  privateKeyPem := some new.privateKeyPem
  inboxUrl := new.inboxUrl
  sharedInboxUrl := some new.sharedInboxUrl
  outboxUrl := new.outboxUrl
  followersUrl := new.followersUrl
  displayName := none
  summary := none
  avatarPath := none
  isLocked := false
  suspendedAt := none
  deletedAt := none
  apId := new.apId

def RemoteActorParts.row (parts : RemoteActorParts) (id : Nat) : ActorRow where
  id := id
  username := parts.username
  domain := some parts.domain
  actorType := parts.actorType
  publicKeyPem := parts.publicKeyPem
  privateKeyPem := none
  inboxUrl := parts.inbox
  sharedInboxUrl := parts.sharedInbox
  outboxUrl := parts.outbox
  followersUrl := parts.followers
  displayName := parts.displayName
  summary := parts.summary
  avatarPath := parts.avatarUrl
  isLocked := false
  suspendedAt := none
  deletedAt := none
  apId := parts.id

/-- `DO UPDATE` of the remote upsert. The private key is not touched, and a
deletion mark is cleared. -/
def ActorRow.refresh (parts : RemoteActorParts) (row : ActorRow) : ActorRow :=
  { row with
    username := parts.username
    domain := some parts.domain
    actorType := parts.actorType
    publicKeyPem := parts.publicKeyPem
    inboxUrl := parts.inbox
    sharedInboxUrl := parts.sharedInbox
    outboxUrl := parts.outbox
    followersUrl := parts.followers
    displayName := parts.displayName.or row.displayName
    summary := parts.summary.or row.summary
    avatarPath := parts.avatarUrl.or row.avatarPath
    deletedAt := none }

def ActorRow.delete (now : DateTime) (row : ActorRow) : ActorRow :=
  { row with deletedAt := some now }

theorem ActorRow.keepsKeys_refresh (parts : RemoteActorParts) :
    KeepsKeys ActorRow.Clash (ActorRow.refresh parts) := by
  intro row other
  simp [ActorRow.Clash, ActorRow.refresh]
  constructor <;> exact fun same => .inl same

theorem ActorRow.keepsKeys_delete (now : DateTime) :
    KeepsKeys ActorRow.Clash (ActorRow.delete now) :=
  fun _ _ => ⟨fun clash => clash, fun clash => clash⟩

namespace Actors

/-- `Actor::create` for a local actor. -/
def create (new : NewActor) (table : ActorTable) : Except DbError ActorRow × ActorTable :=
  let outcome := table.insert new.row fun _ => rfl
  (inserted outcome.1, outcome.2)

/-- The insert of `Actor::ensure_instance_actor`: nothing when the id is taken. -/
def insertInstanceActor (new : NewActor) (table : ActorTable) :
    Except DbError (Option ActorRow) × ActorTable :=
  if (table.find? fun row => row.apId = new.apId).isSome then
    (.ok none, table.spend)
  else
    let outcome := create new table
    (outcome.1.map some, outcome.2)

/-- `Actor::upsert_remote`. -/
def upsertRemote (parts : RemoteActorParts) (table : ActorTable) :
    Except DbError ActorRow × ActorTable :=
  match table.find? fun row => row.apId = parts.id with
  | some row =>
      (.ok (row.refresh parts),
        (table.update (fun row => row.apId = parts.id) (ActorRow.refresh parts)
          (fun _ => rfl) (ActorRow.keepsKeys_refresh parts)).spend)
  | none =>
      let outcome := table.insert parts.row fun _ => rfl
      (inserted outcome.1, outcome.2)

/-- A remote row clashes only with a row of the same id. -/
theorem free_for_remote
    {parts : RemoteActorParts} {table : ActorTable} {id : Nat}
    (unknown : ∀ row ∈ table, row.apId ≠ parts.id) :
    ∀ stored ∈ table, ¬stored.Clash (parts.row id) := by
  rintro stored member (sameId | ⟨-, isLocal, -⟩)
  · exact unknown stored member sameId
  · cases isLocal

/-- The row of a remote upsert is stored under the id of its document. -/
theorem upsertRemote_spec (parts : RemoteActorParts) (table : ActorTable) :
    ∃ row,
      (upsertRemote parts table).1 = .ok row ∧
      row ∈ (upsertRemote parts table).2 ∧
      row.apId = parts.id ∧ row.domain = some parts.domain ∧
      ∀ other, other ∈ (upsertRemote parts table).2 ↔
        (∃ old ∈ table,
          Table.changeWhere (fun row => row.apId = parts.id) (ActorRow.refresh parts) old =
            other) ∨
        ((∀ old ∈ table, old.apId ≠ parts.id) ∧ other = parts.row table.next) := by
  unfold upsertRemote
  cases found : table.find? fun row => row.apId = parts.id with
  | some row =>
      have stored : row ∈ table := Table.mem_of_find?_eq_some found
      have named : row.apId = parts.id := by simpa using Table.holds_of_find?_eq_some found
      refine ⟨row.refresh parts, rfl, ?_, named, rfl, fun other => ?_⟩
      · exact List.mem_map.mpr ⟨row, stored, by simp [Table.changeWhere, named]⟩
      · refine List.mem_map.trans (or_iff_left ?_).symm
        exact fun fresh => fresh.1 row stored named
  | none =>
      have unknown : ∀ row ∈ table, row.apId ≠ parts.id := fun row member named =>
        Table.find?_eq_none.mp found row member (decide_eq_true named)
      obtain ⟨result, rows⟩ := @SerialTable.insert_of_free _ _ _ _ table parts.row (fun _ => rfl)
        (free_for_remote unknown)
      refine ⟨parts.row table.next, congrArg inserted result, ?_, rfl, rfl, fun other => ?_⟩
      · rw [← SerialTable.mem_rows, rows]
        simp
      · rw [← SerialTable.mem_rows, rows, List.mem_append, List.mem_singleton]
        refine or_congr ⟨fun member => ⟨other, member, ?_⟩, ?_⟩
          ⟨fun isNew => ⟨unknown, isNew⟩, And.right⟩
        · simp [Table.changeWhere, unknown other member]
        · rintro ⟨old, member, rfl⟩
          have same : Table.changeWhere (fun row => row.apId = parts.id)
              (ActorRow.refresh parts) old = old := by
            simp [Table.changeWhere, unknown old member]
          rw [same]
          exact member

/-- `SET deleted_at = now()` for the rows that satisfy a condition. -/
def delete (condition : ActorRow → Bool) (now : DateTime) (table : ActorTable) :
    Option ActorRow × ActorTable :=
  let table := table.update condition (ActorRow.delete now) (fun _ => rfl)
    (ActorRow.keepsKeys_delete now)
  (table.find? condition, table)

theorem mem_delete
    {condition : ActorRow → Bool} {now : DateTime} {table : ActorTable} {row : ActorRow} :
    row ∈ (delete condition now table).2 ↔
      ∃ old ∈ table, Table.changeWhere condition (ActorRow.delete now) old = row :=
  List.mem_map

theorem delete_rows_of_none
    {condition : ActorRow → Bool} {table : ActorTable}
    (none : table.find? condition = none) (now : DateTime) :
    (delete condition now table).2.rows = table.rows :=
  @SerialTable.update_rows_of_none _ _ _ _ _ (ActorRow.delete now) (fun _ => rfl)
    (ActorRow.keepsKeys_delete now) none

/-- `Actor::mark_deleted`. -/
def markDeleted (id : Nat) : DateTime → ActorTable → Option ActorRow × ActorTable :=
  delete fun row => row.id = id

/-- `Actor::mark_remote_deleted_by_ap_id`. The domain is not looked at. -/
def markRemoteDeletedByApId (apId : String) :
    DateTime → ActorTable → Option ActorRow × ActorTable :=
  delete fun row => row.apId = apId

/-- `ILIKE`: `%` stands for any text and `_` for any character. -/
def ilike : List Char → List Char → Bool
  | [], text => text.isEmpty
  | '%' :: pattern, text => text.tails.any (ilike pattern)
  | '_' :: pattern, text =>
      match text with
      | [] => false
      | _ :: rest => ilike pattern rest
  | '\\' :: literal :: pattern, text =>
      match text with
      | [] => false
      | char :: rest => char.toLower == literal.toLower && ilike pattern rest
  | literal :: pattern, text =>
      match text with
      | [] => false
      | char :: rest => char.toLower == literal.toLower && ilike pattern rest

/-- The actor query of the search: at most ten live rows. -/
def search (pattern : String) (table : ActorTable) : List ActorRow :=
  (table.rows.filter fun row =>
    (ilike pattern.toList row.username.toList ||
      row.displayName.any fun name => ilike pattern.toList name.toList) &&
    row.deletedAt.isNone && row.suspendedAt.isNone).take 10

end Actors

/-! ## Clips -/

/-- Columns of a clip announced by another server. -/
structure NewRemoteClip where
  actorId : Nat
  apId : String
  captionHtml : Option String
  durationS : Option F64
  width : Option Int32
  height : Option Int32
  remoteMediaUrl : String
  isSensitive : Bool
  cwText : Option String
  publishedAt : Option DateTime
deriving DecidableEq

/-- Columns of a freshly uploaded clip. -/
structure NewUpload where
  actorId : Nat
  apId : String
  sha256Hash : String
  sizeBytes : Int
  captionHtml : Option String

def NewRemoteClip.row (new : NewRemoteClip) (now : DateTime) (id : Nat) : ClipRow where
  id := id
  actorId := new.actorId
  apId := new.apId
  origin := .remote
  captionHtml := new.captionHtml
  visibility := .everyone
  status := .ready
  durationS := new.durationS
  sha256Hash := none
  width := new.width
  height := new.height
  sizeBytes := none
  remoteMediaUrl := some new.remoteMediaUrl
  isSensitive := new.isSensitive
  cwText := new.cwText
  likeCount := 0
  commentCount := 0
  shareCount := 0
  soundId := none
  publishedAt := new.publishedAt
  deletedAt := none
  createdAt := now

def NewUpload.row (new : NewUpload) (now : DateTime) (id : Nat) : ClipRow where
  id := id
  actorId := new.actorId
  apId := new.apId
  origin := .localUpload
  captionHtml := new.captionHtml
  visibility := .everyone
  status := .pending
  durationS := none
  sha256Hash := some new.sha256Hash
  width := none
  height := none
  sizeBytes := some new.sizeBytes
  remoteMediaUrl := none
  isSensitive := false
  cwText := none
  likeCount := 0
  commentCount := 0
  shareCount := 0
  soundId := none
  publishedAt := none
  deletedAt := none
  createdAt := now

def ClipRow.delete (now : DateTime) (row : ClipRow) : ClipRow :=
  { row with deletedAt := some now, status := .deleted }

def ClipRow.updateNoteFields
    (captionHtml : Option String) (isSensitive : Bool) (cwText : Option String)
    (row : ClipRow) : ClipRow :=
  { row with captionHtml := captionHtml, isSensitive := isSensitive, cwText := cwText }

theorem ClipRow.keepsKeys_delete (now : DateTime) :
    KeepsKeys ClipRow.Clash (ClipRow.delete now) := by
  intro row other
  simp [ClipRow.Clash, ClipRow.delete, ClipRow.HashIndexed]
  constructor <;> exact fun same => .inl same

theorem ClipRow.keepsKeys_updateNoteFields
    (captionHtml : Option String) (isSensitive : Bool) (cwText : Option String) :
    KeepsKeys ClipRow.Clash (ClipRow.updateNoteFields captionHtml isSensitive cwText) :=
  fun _ _ => ⟨fun clash => clash, fun clash => clash⟩

namespace Clips

/-- `Clip::create_remote`. -/
def createRemote (new : NewRemoteClip) (now : DateTime) (table : ClipTable) :
    Except DbError ClipRow × ClipTable :=
  let outcome := table.insert (new.row now) fun _ => rfl
  (inserted outcome.1, outcome.2)

/-- `Clip::create_pending_upload`. -/
def createPendingUpload (new : NewUpload) (now : DateTime) (table : ClipTable) :
    Except DbError ClipRow × ClipTable :=
  let outcome := table.insert (new.row now) fun _ => rfl
  (inserted outcome.1, outcome.2)

/-- `Clip::update_note_fields`. -/
def updateNoteFields
    (id : Nat) (captionHtml : Option String) (isSensitive : Bool) (cwText : Option String)
    (table : ClipTable) : Option ClipRow × ClipTable :=
  let table := table.update (fun row => row.id = id)
    (ClipRow.updateNoteFields captionHtml isSensitive cwText) (fun _ => rfl)
    (ClipRow.keepsKeys_updateNoteFields captionHtml isSensitive cwText)
  (table.find? fun row => row.id = id, table)

/-- `Clip::set_ap_id`, the one query that changes the id of a stored clip. -/
def setApId (id : Nat) (apId : String) (table : ClipTable) :
    Except DbError Unit × ClipTable :=
  match table.update? (fun row => row.id = id) (fun row => { row with apId := apId })
      fun _ => rfl with
  | some table => (.ok (), table)
  | none => (.error .uniqueViolation, table)

/-- An id that no other row has can be given to a row. -/
theorem setApId_of_free
    {id : Nat} {apId : String} {table : ClipTable}
    (free : ∀ row ∈ table, row.apId = apId → row.id = id) :
    (setApId id apId table).1 = .ok () := by
  have succeeds : table.update? (fun row => row.id = id)
      (fun row => { row with apId := apId }) (fun _ => rfl) ≠ none := by
    refine SerialTable.update?_ne_none _ ?_
    intro left leftStored right rightStored different notClash clash
    unfold Table.changeWhere at clash
    simp only [decide_eq_true_eq] at clash
    split at clash <;> split at clash
    next leftNamed rightNamed => exact different (leftNamed.trans rightNamed.symm)
    next leftNamed _ =>
      rcases clash with sameId | sameHash
      · exact different (leftNamed.trans (free right rightStored sameId.symm).symm)
      · exact notClash (.inr sameHash)
    next _ rightNamed =>
      rcases clash with sameId | sameHash
      · exact different ((free left leftStored sameId).trans rightNamed.symm)
      · exact notClash (.inr sameHash)
    next => exact notClash clash
  unfold setApId
  split
  · rfl
  next failed => exact (succeeds failed).elim

/-- Every row comes from a row that differs in the given id at most. -/
theorem mem_setApId
    {id : Nat} {apId : String} {table : ClipTable} {row : ClipRow}
    (member : row ∈ (setApId id apId table).2) :
    row ∈ table ∨ ∃ old ∈ table, old.id = id ∧ row = { old with apId := apId } := by
  unfold setApId at member
  split at member
  next updated =>
    rw [← SerialTable.mem_rows, SerialTable.update?_eq_some updated] at member
    obtain ⟨old, stored, rfl⟩ := List.mem_map.mp member
    unfold Table.changeWhere
    split
    next named => exact .inr ⟨old, stored, of_decide_eq_true named, rfl⟩
    next => exact .inl stored
  next => exact .inl member

/-- `SET deleted_at = now(), status = 'deleted'` under a condition. -/
def delete (condition : ClipRow → Bool) (now : DateTime) (table : ClipTable) : ClipTable :=
  table.update condition (ClipRow.delete now) (fun _ => rfl) (ClipRow.keepsKeys_delete now)

theorem mem_delete
    {condition : ClipRow → Bool} {now : DateTime} {table : ClipTable} {row : ClipRow} :
    row ∈ delete condition now table ↔
      ∃ old ∈ table, Table.changeWhere condition (ClipRow.delete now) old = row :=
  List.mem_map

theorem mem_updateNoteFields
    {id : Nat} {captionHtml : Option String} {isSensitive : Bool} {cwText : Option String}
    {table : ClipTable} {row : ClipRow} :
    row ∈ (updateNoteFields id captionHtml isSensitive cwText table).2 ↔
      ∃ old ∈ table,
        Table.changeWhere (fun row => row.id = id)
          (ClipRow.updateNoteFields captionHtml isSensitive cwText) old = row :=
  List.mem_map

/-- `Clip::mark_deleted`. -/
def markDeleted (id : Nat) (now : DateTime) (table : ClipTable) :
    Option ClipRow × ClipTable :=
  let table := delete (fun row => row.id = id) now table
  (table.find? fun row => row.id = id, table)

/-- The first statement of an account deletion. -/
def markDeletedOfActor (actorId : Nat) : DateTime → ClipTable → ClipTable :=
  delete fun row => row.actorId = actorId ∧ row.deletedAt = none

end Clips

/-! ## Follows -/

/-- The edge from one actor to another. -/
def FollowRow.ofPair (followerId targetId : Nat) (row : FollowRow) : Bool :=
  row.followerActorId = followerId ∧ row.targetActorId = targetId

def FollowRow.setState (state : FollowState) (row : FollowRow) : FollowRow :=
  { row with state := state }

/-- `DO UPDATE` of the upsert: an absent activity id keeps the stored one. -/
def FollowRow.renew (activityId : Option String) (state : FollowState) (row : FollowRow) :
    FollowRow :=
  { row with apActivityId := activityId.or row.apActivityId, state := state }

theorem FollowRow.keepsKeys_setState (state : FollowState) :
    KeepsKeys FollowRow.Clash (FollowRow.setState state) :=
  fun _ _ => ⟨id, id⟩

theorem FollowRow.keepsKeys_renew (activityId : Option String) (state : FollowState) :
    KeepsKeys FollowRow.Clash (FollowRow.renew activityId state) :=
  fun _ _ => ⟨id, id⟩

namespace Follows

/-- `Follow::upsert`. -/
def upsert
    (followerId targetId : Nat) (activityId : Option String) (state : FollowState)
    (table : FollowTable) : Except DbError FollowRow × FollowTable :=
  match table.find? (FollowRow.ofPair followerId targetId) with
  | some row =>
      (.ok (row.renew activityId state),
        table.update (FollowRow.ofPair followerId targetId)
          (FollowRow.renew activityId state) (FollowRow.keepsKeys_renew activityId state))
  | none =>
      match table.insert? ⟨followerId, targetId, activityId, state⟩ with
      | some table => (.ok ⟨followerId, targetId, activityId, state⟩, table)
      | none => (.error .uniqueViolation, table)

/-- `Follow::set_state`. -/
def setState (followerId targetId : Nat) (state : FollowState) (table : FollowTable) :
    Option FollowRow × FollowTable :=
  let table := table.update (FollowRow.ofPair followerId targetId)
    (FollowRow.setState state) (FollowRow.keepsKeys_setState state)
  (table.find? (FollowRow.ofPair followerId targetId), table)

/-- `Follow::delete`; true when a row was removed. -/
def delete (followerId targetId : Nat) (table : FollowTable) : Bool × FollowTable :=
  ((table.find? (FollowRow.ofPair followerId targetId)).isSome,
    table.erase (FollowRow.ofPair followerId targetId))

end Follows

/-! ## Activities -/

/-- Columns of a logged activity. -/
structure NewActivity where
  activityId : String
  actorApId : String
  objectApId : Option String
  raw : Value

def NewActivity.row (new : NewActivity) (direction : Direction) : ActivityRow where
  activityId := new.activityId
  direction := direction
  actorApId := new.actorApId
  objectApId := new.objectApId
  raw := new.raw
  processedAt := none

def ActivityRow.stamp (now : DateTime) (row : ActivityRow) : ActivityRow :=
  { row with processedAt := some now }

theorem ActivityRow.keepsKeys_stamp (now : DateTime) :
    KeepsKeys ActivityRow.Clash (ActivityRow.stamp now) :=
  fun _ _ => ⟨id, id⟩

namespace Activities

/-- `Activity::try_create_inbound`, the idempotency gate: `none` when the id is
already logged. -/
def tryCreateInbound (new : NewActivity) (table : ActivityTable) :
    Option ActivityRow × ActivityTable :=
  match table.insert? (new.row .inbound) with
  | some table => (some (new.row .inbound), table)
  | none => (none, table)

/-- `Activity::create_outbound`. A logged id leaves no row to return. -/
def createOutbound (new : NewActivity) (table : ActivityTable) :
    Except DbError ActivityRow × ActivityTable :=
  match table.insert? (new.row .outbound) with
  | some table => (.ok (new.row .outbound), table)
  | none => (.error .rowNotFound, table)

/-- `Activity::stamp_processed`. -/
def stampProcessed (activityId : String) (now : DateTime) (table : ActivityTable) :
    Option ActivityRow × ActivityTable :=
  let unstamped (row : ActivityRow) : Bool :=
    row.activityId = activityId ∧ row.processedAt = none
  ((table.find? unstamped).map (ActivityRow.stamp now),
    table.update unstamped (ActivityRow.stamp now) (ActivityRow.keepsKeys_stamp now))

end Activities

/-! ## Tombstones -/

def TombstoneRow.retype (type : TombstoneType) (row : TombstoneRow) : TombstoneRow :=
  { row with type := type }

theorem TombstoneRow.keepsKeys_retype (type : TombstoneType) :
    KeepsKeys TombstoneRow.Clash (TombstoneRow.retype type) :=
  fun _ _ => ⟨id, id⟩

namespace Tombstones

/-- `Tombstone::upsert`. Only the type of a stored tombstone changes. -/
def upsert (apId : String) (type : TombstoneType) (now : DateTime)
    (table : TombstoneTable) : Except DbError TombstoneRow × TombstoneTable :=
  match table.find? fun row => row.apId = apId with
  | some row =>
      (.ok (row.retype type),
        table.update (fun row => row.apId = apId) (TombstoneRow.retype type)
          (TombstoneRow.keepsKeys_retype type))
  | none =>
      match table.insert? ⟨apId, type, now⟩ with
      | some table => (.ok ⟨apId, type, now⟩, table)
      | none => (.error .uniqueViolation, table)

/-- The tombstone insert of an account deletion: nothing when there is one. -/
def insert (apId : String) (type : TombstoneType) (now : DateTime)
    (table : TombstoneTable) : TombstoneTable :=
  (table.insert? ⟨apId, type, now⟩).getD table

end Tombstones

/-! ## Jobs and media assets -/

namespace Jobs

/-- A job as it is queued, with the defaults of the schema. -/
def queued (kind : JobKind) (payload : Value) (now : DateTime) (id : Nat) : JobRow where
  id := id
  kind := kind
  payload := payload
  runAfter := now
  attempts := 0
  maxAttempts := 5
  state := .queued
  lockedBy := none
  lockedAt := none

/-- `Job::create`. -/
def create (kind : JobKind) (payload : Value) (now : DateTime) (table : JobTable) :
    Except DbError JobRow × JobTable :=
  let outcome := table.insert (queued kind payload now) fun _ => rfl
  (inserted outcome.1, outcome.2)

end Jobs

namespace MediaAssets

/-- `MediaAsset::largest_video_filename`. -/
def largestVideoFilename (clipId : Nat) (table : MediaAssetTable) : Option String :=
  let ready := table.rows.filter fun asset =>
    asset.clipId = clipId ∧ asset.kind = .videoMp4 ∧ asset.readyAt ≠ none
  (["1080", "720", "480"].find? fun rendition =>
    ready.any fun asset => asset.rendition = rendition).map (· ++ ".mp4")

end MediaAssets
end TootTok
