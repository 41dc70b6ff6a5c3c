import TootTok.Api
import TootTok.Relational.Join
import TootTok.Relational.Keyset
import Mathlib.Data.Prod.Lex

/-!
# Listings

The listings of clips, notifications, comments and bookmarks that clients page
through: the queries, the cursor, and the pages they are answered with.
-/

namespace TootTok

open Relational (Table SerialTable join orderBy)

/-! ## Rows -/

/-- A row of `comments`. -/
structure Comment where
  id : Nat
  clipId : Nat
  actorId : Nat
  bodyHtml : String
  deletedAt : Option DateTime
  createdAt : DateTime
deriving DecidableEq

inductive NotificationKind
  | follow
  | like
  | comment
  | mention
  | boost
deriving DecidableEq

/-- A row of `notifications`. -/
structure Notification where
  id : Nat
  actorId : Nat
  kind : NotificationKind
  sourceActorId : Nat
  clipId : Option Nat
  readAt : Option DateTime
  createdAt : DateTime
deriving DecidableEq

/-- A row of `bookmarks`. -/
structure Bookmark where
  clipId : Nat
  actorId : Nat
  createdAt : DateTime
deriving DecidableEq

/-- The primary key of `bookmarks` is the pair of clip and actor. -/
def Bookmark.Clash (left right : Bookmark) : Prop :=
  left.clipId = right.clipId ∧ left.actorId = right.actorId

instance : DecidableRel Bookmark.Clash := fun left right => by
  unfold Bookmark.Clash
  infer_instance

/-- A row of `hashtags`. -/
structure Hashtag where
  id : Nat
  tag : String
deriving DecidableEq

def Hashtag.Clash (left right : Hashtag) : Prop :=
  citext left.tag = citext right.tag

instance : DecidableRel Hashtag.Clash := fun left right => by
  unfold Hashtag.Clash
  infer_instance

/-- A row of `clip_hashtags`, whose primary key is the whole row. -/
structure ClipHashtag where
  clipId : Nat
  hashtagId : Nat
deriving DecidableEq

/-- The database with the tables behind the listings. -/
structure Social extends Db where
  comments : SerialTable Comment.id fun _ _ => False
  notifications : SerialTable Notification.id fun _ _ => False
  bookmarks : Table Bookmark.Clash
  hashtags : SerialTable Hashtag.id Hashtag.Clash
  clipHashtags : Table (@Eq ClipHashtag)

/-! ## Rows of a page -/

structure FeedClipRow where
  id : Nat
  apId : String
  captionHtml : Option String
  durationS : Option F64
  width : Option Int32
  height : Option Int32
  likeCount : Int
  commentCount : Int
  shareCount : Int
  clipCreatedAt : DateTime
  actorId : Nat
  username : String
  displayName : Option String
  avatarPath : Option String
  domain : Option String
  remoteMediaUrl : Option String
deriving DecidableEq

/-- The columns of a card, selected from a clip and its author. -/
def FeedClipRow.ofJoin (row : ClipRow × ActorRow) : FeedClipRow where
  id := row.1.id
  apId := row.1.apId
  captionHtml := row.1.captionHtml
  durationS := row.1.durationS
  width := row.1.width
  height := row.1.height
  likeCount := row.1.likeCount
  commentCount := row.1.commentCount
  shareCount := row.1.shareCount
  clipCreatedAt := row.1.createdAt
  actorId := row.1.actorId
  username := row.2.username
  displayName := row.2.displayName
  avatarPath := row.2.avatarPath
  domain := row.2.domain
  remoteMediaUrl := row.1.remoteMediaUrl

structure NotificationRow where
  id : Nat
  kind : NotificationKind
  sourceUsername : String
  sourceAvatarPath : Option String
  clipId : Option Nat
  readAt : Option DateTime
  createdAt : DateTime
deriving DecidableEq

def NotificationRow.ofJoin (row : Notification × ActorRow) : NotificationRow where
  id := row.1.id
  kind := row.1.kind
  sourceUsername := row.2.username
  sourceAvatarPath := row.2.avatarPath
  clipId := row.1.clipId
  readAt := row.1.readAt
  createdAt := row.1.createdAt

structure CommentRow where
  id : Nat
  bodyHtml : String
  createdAt : DateTime
  username : String
  domain : Option String
deriving DecidableEq

def CommentRow.ofJoin (row : Comment × ActorRow) : CommentRow where
  id := row.1.id
  bodyHtml := row.1.bodyHtml
  createdAt := row.1.createdAt
  username := row.2.username
  domain := row.2.domain

/-! ## Cursors -/

/-- A timestamp and a number, compared like a row of SQL. -/
abbrev Keyset := Int ×ₗ Int

def keyset (createdAt : DateTime) (id : Int) : Keyset :=
  toLex (createdAt.micros, id)

/-- The whole seconds since the epoch, rounded down. -/
def DateTime.timestamp (time : DateTime) : Int :=
  time.micros / 1000000

/-- `Utc.timestamp_opt(secs, 0)`: the dates that `chrono` represents. -/
def timestampOpt (secs : Int) : Option DateTime :=
  if -8334601228800 ≤ secs ∧ secs ≤ 8210266876799 then some ⟨secs * 1000000⟩ else none

/-- An optional sign, and what follows it. -/
def splitSign (text : List Char) : Bool × List Char :=
  match text with
  | '-' :: digits => (true, digits)
  | '+' :: digits => (false, digits)
  | digits => (false, digits)

/-- `str::parse::<i64>`. -/
def parseI64 (text : List Char) : Option Int :=
  let (negative, digits) := splitSign text
  if digits = [] ∨ !digits.all Char.isDigit then none
  else
    let magnitude : Int := Nat.ofDigitChars 10 digits 0
    let number := if negative then -magnitude else magnitude
    if -0x8000000000000000 ≤ number ∧ number < 0x8000000000000000 then some number else none

/-- Parse a `{timestamp_secs}-{id}` cursor, split at its first hyphen. -/
def parseCursor (cursor : String) : Option Keyset :=
  match cursor.toList.dropWhile (· ≠ '-') with
  | [] => none
  | _ :: id => do
      let secs ← parseI64 (cursor.toList.takeWhile (· ≠ '-'))
      let id ← parseI64 id
      let time ← timestampOpt secs
      pure (keyset time id)

def formatCursor (createdAt : DateTime) (id : Nat) : String :=
  toString createdAt.timestamp ++ "-" ++ toString id

structure FeedParams where
  cursor : Option String
  page : Option UInt64
deriving DecidableEq

/-- A page size, by default and at most what the endpoint allows. -/
def pageLimit (page : Option UInt64) (default max : Int) : Nat :=
  let size := (page.map fun size => size.toInt64.toInt).getD default
  (min (Max.max size 1) max).toNat

def feedLimit (params : FeedParams) : Nat :=
  pageLimit params.page 20 50

def cursorKeyset (params : FeedParams) : Except Response (Option Keyset) :=
  match params.cursor with
  | none => .ok none
  | some cursor =>
      match parseCursor cursor with
      | some key => .ok (some key)
      | none => .error (.problem 400 "invalid cursor")

/-- A page of a listing. -/
structure Page (Item : Type) where
  items : List Item
  nextCursor : Option String
deriving DecidableEq

/-- The cursor of the next page, present only while the page came back full. -/
def nextCursor {Item : Type} (format : Item → String) (items : List Item) (limit : Nat) :
    Option String :=
  if items.length = limit then items.getLast?.map format else none

def renderFeed (rows : List FeedClipRow) (limit : Nat) : Page FeedClipRow where
  items := rows
  nextCursor := nextCursor (fun last => formatCursor last.clipCreatedAt last.id) rows limit

/-! ## Queries -/

section Queries

variable {Row : Type}

/-- `AND key < before ORDER BY key DESC LIMIT limit`. -/
def descendingPage (key : Row → Keyset) (before : Option Keyset) (limit : Nat)
    (rows : List Row) : List Row :=
  (orderBy (fun row => OrderDual.toDual (key row))
    (rows.filter fun row => before.all fun cursor => key row < cursor)).take limit

/-- `AND key > after ORDER BY key ASC LIMIT limit`. -/
def ascendingPage (key : Row → Keyset) (after : Option Keyset) (limit : Nat)
    (rows : List Row) : List Row :=
  (orderBy key (rows.filter fun row => after.all fun cursor => cursor < key row)).take limit

end Queries

/-- `c.status = 'ready' OR c.origin = 'remote'`. -/
def ClipRow.Playable (clip : ClipRow) : Prop :=
  clip.status = .ready ∨ clip.origin = .remote

instance : DecidablePred ClipRow.Playable := fun clip => by
  unfold ClipRow.Playable
  infer_instance

/-- The clips that the public feeds show. -/
def Shown (row : ClipRow × ActorRow) : Prop :=
  row.1.deletedAt = none ∧ row.1.visibility = .everyone ∧
    row.2.suspendedAt = none ∧ row.2.deletedAt = none ∧ row.1.Playable

instance : DecidablePred Shown := fun row => by
  unfold Shown
  infer_instance

/-- `FROM clips c JOIN actors a ON a.id = c.actor_id`. -/
def Db.clipsWithActors (db : Db) : List (ClipRow × ActorRow) :=
  join db.clips.rows db.actors.rows fun clip actor => actor.id = clip.actorId

namespace Social

variable (db : Social)

def discoverRows : List FeedClipRow :=
  (db.clipsWithActors.filter Shown).map .ofJoin

def followingRows (viewerActorId : Nat) : List FeedClipRow :=
  ((join db.clipsWithActors db.follows.rows fun row follow =>
      follow.targetActorId = row.1.actorId).filter fun row =>
    Shown row.1 ∧ row.2.followerActorId = viewerActorId ∧ row.2.state = .accepted).map
      fun row => .ofJoin row.1

def localRows : List FeedClipRow :=
  (db.clipsWithActors.filter fun row => Shown row ∧ row.2.domain = none).map .ofJoin

/-- The clips with a tag, given in lower case. -/
def tagRows (tag : String) : List FeedClipRow :=
  ((join
      (join db.clipsWithActors db.clipHashtags.rows fun row link => link.clipId = row.1.id)
      db.hashtags.rows fun row hashtag => hashtag.id = row.2.hashtagId).filter fun row =>
    row.2.tag = tag ∧ Shown row.1.1).map fun row => .ofJoin row.1.1

def soundRows (soundId : Nat) : List FeedClipRow :=
  (db.clipsWithActors.filter fun row =>
    row.1.soundId = some soundId ∧ row.1.deletedAt = none ∧ row.1.Playable).map .ofJoin

/-- The actor of a profile: the one of a domain, or a local one. -/
def profileActor (username : String) (domain : Option String) : Option ActorRow :=
  db.actors.find? fun actor =>
    actor.username = username ∧ actor.domain = domain ∧
      actor.deletedAt = none ∧ actor.suspendedAt = none

def profileRows (actorId : Nat) : List FeedClipRow :=
  (db.clipsWithActors.filter fun row =>
    row.1.deletedAt = none ∧ row.1.visibility = .everyone ∧ row.1.Playable ∧
      row.1.actorId = actorId).map .ofJoin

def notificationRows (viewerActorId : Nat) : List NotificationRow :=
  ((join db.notifications.rows db.actors.rows fun notification actor =>
      actor.id = notification.sourceActorId).filter fun row =>
    row.1.actorId = viewerActorId).map .ofJoin

def commentRows (clipId : Nat) : List CommentRow :=
  ((join db.comments.rows db.actors.rows fun comment actor =>
      actor.id = comment.actorId).filter fun row =>
    row.1.clipId = clipId ∧ row.1.deletedAt = none).map .ofJoin

/-- The bookmarked clips of a viewer, each with its bookmark. -/
def bookmarkRows (viewerActorId : Nat) : List (Bookmark × ClipRow × ActorRow) :=
  (join db.bookmarks.rows db.clipsWithActors fun bookmark row =>
      row.1.id = bookmark.clipId).filter fun row =>
    row.1.actorId = viewerActorId ∧ row.2.1.deletedAt = none ∧ row.2.1.Playable

end Social

/-! ## Endpoints -/

/-- The listings of clips that are ordered by the creation of the clip. -/
inductive FeedListing
  | following (viewerActorId : Nat)
  | discover
  | local
  | tag (tag : String)
  | sound (soundId : Nat)
  | profile (username : String) (domain : Option String)
deriving DecidableEq

/-- The rows of a listing. A profile has none when nobody has its name. -/
def Social.feedRows (db : Social) : FeedListing → Option (List FeedClipRow)
  | .following viewerActorId => some (db.followingRows viewerActorId)
  | .discover => some db.discoverRows
  | .local => some db.localRows
  | .tag tag => some (db.tagRows tag)
  | .sound soundId => some (db.soundRows soundId)
  | .profile username domain =>
      (db.profileActor username domain).map fun actor => db.profileRows actor.id

def FeedClipRow.key (row : FeedClipRow) : Keyset :=
  keyset row.clipCreatedAt row.id

/-- A page of clips. -/
def feedPage (db : Social) (listing : FeedListing) (params : FeedParams) :
    Except Response (Page FeedClipRow) := do
  let before ← cursorKeyset params
  let limit := feedLimit params
  match db.feedRows listing with
  | none => .error (.problem 404 "profile not found")
  | some rows => pure (renderFeed (descendingPage FeedClipRow.key before limit rows) limit)

def NotificationRow.key (row : NotificationRow) : Keyset :=
  keyset row.createdAt row.id

def listNotifications (db : Social) (viewerActorId : Nat) (params : FeedParams) :
    Except Response (Page NotificationRow) := do
  let before ← cursorKeyset params
  let limit := pageLimit params.page 30 50
  let rows := descendingPage NotificationRow.key before limit (db.notificationRows viewerActorId)
  pure ⟨rows, nextCursor (fun last => formatCursor last.createdAt last.id) rows limit⟩

def CommentRow.key (row : CommentRow) : Keyset :=
  keyset row.createdAt row.id

def listComments (db : Social) (clipId : Nat) (params : FeedParams) :
    Except Response (Page CommentRow) := do
  let after ← cursorKeyset params
  let limit := pageLimit params.page 50 100
  let rows := ascendingPage CommentRow.key after limit (db.commentRows clipId)
  pure ⟨rows, nextCursor (fun last => formatCursor last.createdAt last.id) rows limit⟩

/-- Bookmarks are ordered by the time of the bookmark. -/
def bookmarkKey (row : Bookmark × ClipRow × ActorRow) : Keyset :=
  keyset row.1.createdAt row.1.clipId

def listBookmarks (db : Social) (viewerActorId : Nat) (params : FeedParams) :
    Except Response (Page FeedClipRow) := do
  let before ← cursorKeyset params
  let limit := feedLimit params
  let rows := descendingPage bookmarkKey before limit (db.bookmarkRows viewerActorId)
  pure (renderFeed (rows.map fun row => .ofJoin row.2) limit)

end TootTok
