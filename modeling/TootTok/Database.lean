import TootTok.Crates
import TootTok.Relational.Table

/-!
# The database

The rows and tables that federation reads and writes, with the uniqueness
constraints of the schema. Columns that no modelled query uses are left out.
-/

namespace TootTok

open Json (Value)
open Relational (Table SerialTable)

/-! ## Rows -/

inductive ActorType
  | person
  | application
  | service
deriving DecidableEq

/-- A row of `actors`. It is local when it has no domain. -/
structure ActorRow where
  id : Nat
  username : String
  domain : Option String
  actorType : ActorType
  publicKeyPem : String
  privateKeyPem : Option String
  inboxUrl : String
  sharedInboxUrl : Option String
  outboxUrl : String
  followersUrl : String
  displayName : Option String
  summary : Option String
  avatarPath : Option String
  isLocked : Bool
  suspendedAt : Option DateTime
  deletedAt : Option DateTime
  apId : String
deriving DecidableEq

inductive Origin
  | localUpload
  | remote
deriving DecidableEq

inductive ClipStatus
  | pending
  | processing
  | ready
  | failed
  | deleted
deriving DecidableEq

inductive Visibility
  | everyone
  | unlisted
  | followers
deriving DecidableEq

/-- A row of `clips`. -/
structure ClipRow where
  id : Nat
  actorId : Nat
  apId : String
  origin : Origin
  captionHtml : Option String
  visibility : Visibility
  status : ClipStatus
  durationS : Option F64
  sha256Hash : Option String
  width : Option Int32
  height : Option Int32
  sizeBytes : Option Int
  remoteMediaUrl : Option String
  isSensitive : Bool
  cwText : Option String
  likeCount : Int
  commentCount : Int
  shareCount : Int
  soundId : Option Nat
  publishedAt : Option DateTime
  deletedAt : Option DateTime
  createdAt : DateTime
deriving DecidableEq

inductive FollowState
  | requested
  | accepted
  | rejected
deriving DecidableEq

/-- A row of `follows`. -/
structure FollowRow where
  followerActorId : Nat
  targetActorId : Nat
  apActivityId : Option String
  state : FollowState
deriving DecidableEq

inductive Direction
  | inbound
  | outbound
deriving DecidableEq

/-- A row of `activities`, the log behind the idempotency gate. -/
structure ActivityRow where
  activityId : String
  direction : Direction
  actorApId : String
  objectApId : Option String
  raw : Value
  processedAt : Option DateTime

inductive TombstoneType
  | person
  | note
deriving DecidableEq

/-- A row of `tombstones`. -/
structure TombstoneRow where
  apId : String
  type : TombstoneType
  deletedAt : DateTime
deriving DecidableEq

inductive JobKind
  | deliver
  | deliverFollow
  | deliverCreate
  | backfillActor
  | probe
  | transcode
  | finalize
  /-- A kind that no code of this program queues. -/
  | other (name : String)
deriving DecidableEq

inductive JobState
  | queued
  | running
  | done
  | dead
deriving DecidableEq

/-- A row of `jobs`. -/
structure JobRow where
  id : Nat
  kind : JobKind
  payload : Value
  runAfter : DateTime
  attempts : Int
  maxAttempts : Int
  state : JobState
  lockedBy : Option String
  lockedAt : Option DateTime

inductive MediaKind
  | videoHls
  | videoMp4
  | poster
  | preview
  | captions
  | audio
deriving DecidableEq

/-- A row of `media_assets`. -/
structure MediaAssetRow where
  clipId : Nat
  kind : MediaKind
  rendition : String
  path : String
  readyAt : Option DateTime
deriving DecidableEq

/-! ## Constraints -/

/-- The comparison of `CITEXT` columns. -/
def citext (text : String) : List Char :=
  text.toList.map Char.toLower

/-- `ap_id` is unique; so is the username among local actors. -/
def ActorRow.Clash (left right : ActorRow) : Prop :=
  left.apId = right.apId ∨
    (left.domain = none ∧ right.domain = none ∧
      citext left.username = citext right.username)

instance : DecidableRel ActorRow.Clash := fun left right => by
  unfold ActorRow.Clash
  infer_instance

/-- The rows of the partial unique index on the content hash. -/
def ClipRow.HashIndexed (row : ClipRow) : Prop :=
  row.deletedAt = none ∧ row.sha256Hash ≠ none ∧ row.status ≠ .failed

instance : DecidablePred ClipRow.HashIndexed := fun row => by
  unfold ClipRow.HashIndexed
  infer_instance

/-- `ap_id` is unique; so is the hash among indexed rows. -/
def ClipRow.Clash (left right : ClipRow) : Prop :=
  left.apId = right.apId ∨
    (left.HashIndexed ∧ right.HashIndexed ∧ left.sha256Hash = right.sha256Hash)

instance : DecidableRel ClipRow.Clash := fun left right => by
  unfold ClipRow.Clash
  infer_instance

/-- The primary key of `follows` is the pair of actors. -/
def FollowRow.Clash (left right : FollowRow) : Prop :=
  left.followerActorId = right.followerActorId ∧
    left.targetActorId = right.targetActorId

instance : DecidableRel FollowRow.Clash := fun left right => by
  unfold FollowRow.Clash
  infer_instance

def ActivityRow.Clash (left right : ActivityRow) : Prop :=
  left.activityId = right.activityId

instance : DecidableRel ActivityRow.Clash := fun left right => by
  unfold ActivityRow.Clash
  infer_instance

def TombstoneRow.Clash (left right : TombstoneRow) : Prop :=
  left.apId = right.apId

instance : DecidableRel TombstoneRow.Clash := fun left right => by
  unfold TombstoneRow.Clash
  infer_instance

/-- Jobs have no key besides their number. -/
def JobRow.Clash (_ _ : JobRow) : Prop := False

instance : DecidableRel JobRow.Clash := fun _ _ => .isFalse id

/-- A clip has one asset of each kind and rendition. -/
def MediaAssetRow.Clash (left right : MediaAssetRow) : Prop :=
  left.clipId = right.clipId ∧ left.kind = right.kind ∧ left.rendition = right.rendition

instance : DecidableRel MediaAssetRow.Clash := fun left right => by
  unfold MediaAssetRow.Clash
  infer_instance

theorem ActorRow.Clash.symm {left right : ActorRow}
    (clash : left.Clash right) : right.Clash left := by
  rcases clash with sameId | ⟨leftLocal, rightLocal, sameName⟩
  · exact .inl sameId.symm
  · exact .inr ⟨rightLocal, leftLocal, sameName.symm⟩

theorem ClipRow.Clash.symm {left right : ClipRow}
    (clash : left.Clash right) : right.Clash left := by
  rcases clash with sameId | ⟨leftIndexed, rightIndexed, sameHash⟩
  · exact .inl sameId.symm
  · exact .inr ⟨rightIndexed, leftIndexed, sameHash.symm⟩

/-! ## Tables -/

/-- The state of the database. -/
structure Db where
  actors : SerialTable ActorRow.id ActorRow.Clash
  clips : SerialTable ClipRow.id ClipRow.Clash
  follows : Table FollowRow.Clash
  activities : Table ActivityRow.Clash
  tombstones : Table TombstoneRow.Clash
  jobs : SerialTable JobRow.id JobRow.Clash
  mediaAssets : Table MediaAssetRow.Clash

namespace Db

/-- The database after the migrations. -/
def empty : Db where
  actors := .empty
  clips := .empty
  follows := .empty
  activities := .empty
  tombstones := .empty
  jobs := .empty
  mediaAssets := .empty

def actorById (db : Db) (id : Nat) : Option ActorRow :=
  db.actors.find? fun row => row.id = id

def actorByApId (db : Db) (apId : String) : Option ActorRow :=
  db.actors.find? fun row => row.apId = apId

def localActorByUsername (db : Db) (username : String) : Option ActorRow :=
  db.actors.find? fun row => row.domain = none ∧ citext row.username = citext username

def clipById (db : Db) (id : Nat) : Option ClipRow :=
  db.clips.find? fun row => row.id = id

def clipByApId (db : Db) (apId : String) : Option ClipRow :=
  db.clips.find? fun row => row.apId = apId

def followByPair (db : Db) (followerId targetId : Nat) : Option FollowRow :=
  db.follows.find? fun row =>
    row.followerActorId = followerId ∧ row.targetActorId = targetId

/-- The first follow row that a Follow activity has created. -/
def followByActivityId (db : Db) (activityId : String) : Option FollowRow :=
  db.follows.find? fun row => row.apActivityId = some activityId

/-- The activity has been logged. -/
def Logged (db : Db) (activityId : String) : Prop :=
  ∃ row ∈ db.activities, row.activityId = activityId

def tombstoned (db : Db) (apId : String) : Bool :=
  (db.tombstones.find? fun row => row.apId = apId).isSome

theorem actorById_eq_some {db : Db} {id : Nat} {row : ActorRow} :
    db.actorById id = some row ↔ row ∈ db.actors ∧ row.id = id := by
  constructor
  · intro found
    exact ⟨Table.mem_of_find?_eq_some found,
      by simpa using Table.holds_of_find?_eq_some found⟩
  · rintro ⟨member, rfl⟩
    exact SerialTable.find?_eq_some_of_mem (fun _ _ => ActorRow.Clash.symm)
      (fun left right leftId rightId =>
        .inl (by simp_all)) member (by simp)

theorem actorByApId_eq_some {db : Db} {apId : String} {row : ActorRow} :
    db.actorByApId apId = some row ↔ row ∈ db.actors ∧ row.apId = apId := by
  constructor
  · intro found
    exact ⟨Table.mem_of_find?_eq_some found,
      by simpa using Table.holds_of_find?_eq_some found⟩
  · rintro ⟨member, rfl⟩
    exact SerialTable.find?_eq_some_of_mem (fun _ _ => ActorRow.Clash.symm)
      (fun left right leftId rightId =>
        .inr (.inl (by simp_all))) member (by simp)

theorem clipById_eq_some {db : Db} {id : Nat} {row : ClipRow} :
    db.clipById id = some row ↔ row ∈ db.clips ∧ row.id = id := by
  constructor
  · intro found
    exact ⟨Table.mem_of_find?_eq_some found,
      by simpa using Table.holds_of_find?_eq_some found⟩
  · rintro ⟨member, rfl⟩
    exact SerialTable.find?_eq_some_of_mem (fun _ _ => ClipRow.Clash.symm)
      (fun left right leftId rightId =>
        .inl (by simp_all)) member (by simp)

theorem clipByApId_eq_some {db : Db} {apId : String} {row : ClipRow} :
    db.clipByApId apId = some row ↔ row ∈ db.clips ∧ row.apId = apId := by
  constructor
  · intro found
    exact ⟨Table.mem_of_find?_eq_some found,
      by simpa using Table.holds_of_find?_eq_some found⟩
  · rintro ⟨member, rfl⟩
    exact SerialTable.find?_eq_some_of_mem (fun _ _ => ClipRow.Clash.symm)
      (fun left right leftId rightId =>
        .inr (.inl (by simp_all))) member (by simp)

theorem tombstoned_iff {db : Db} {apId : String} :
    db.tombstoned apId = true ↔ ∃ row ∈ db.tombstones, row.apId = apId := by
  unfold tombstoned
  rw [Table.find?_isSome]
  simp

end Db
end TootTok
