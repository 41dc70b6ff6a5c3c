import TootTok.Inbox

/-!
# Local objects

Where the local rows of the database come from: the instance actor and the
registered users, uploads, the announcement of a finished clip, and what the
deletion of an account does to them.
-/

namespace TootTok

open Effects
open Json (Value)
open UrlCrate

variable {Url : Type}

/-! ## Local actors -/

/-- Columns of the instance actor. -/
def instanceActor (config : Config) (publicKeyPem privateKeyPem : String) : NewActor where
  username := config.domain
  actorType := .application
  publicKeyPem := publicKeyPem
  privateKeyPem := privateKeyPem
  inboxUrl := config.publicBaseUrl ++ "/ap/inbox"
  sharedInboxUrl := config.publicBaseUrl ++ "/ap/inbox"
  outboxUrl := config.publicBaseUrl ++ "/ap/outbox"
  followersUrl := config.publicBaseUrl ++ "/ap/followers"
  apId := config.publicBaseUrl ++ "/ap/actor"

/-- Create the instance actor on first boot, with the given fresh keys; keep the
stored one afterwards. -/
def initFederation (config : Config) (publicKeyPem privateKeyPem : String) :
    Handler Url ActorRow := do
  let stored ← Handler.caught (query (.fetchActorByApId (config.publicBaseUrl ++ "/ap/actor")))
  let new :=
    match stored with
    | .ok (some row) =>
        instanceActor config (ActorRow.publicKeyPem row) (row.privateKeyPem.getD "")
    | _ => instanceActor config publicKeyPem privateKeyPem
  match ← query (.insertInstanceActor new) with
  | some actor => pure actor
  | none =>
      match ← query (.fetchActorByApId new.apId) with
      | some actor => pure actor
      | none => .fail (.panicked (.expect "instance actor exists after conflict"))

/-- Columns of a registered user. -/
def userActor (config : Config) (username publicKeyPem privateKeyPem : String) :
    NewActor where
  username := username
  actorType := .person
  publicKeyPem := publicKeyPem
  privateKeyPem := privateKeyPem
  inboxUrl := config.publicBaseUrl ++ "/users/" ++ username ++ "/inbox"
  sharedInboxUrl := config.publicBaseUrl ++ "/ap/inbox"
  outboxUrl := config.publicBaseUrl ++ "/users/" ++ username ++ "/outbox"
  followersUrl := config.publicBaseUrl ++ "/users/" ++ username ++ "/followers"
  apId := config.publicBaseUrl ++ "/users/" ++ username

/-- The actor of a registration. -/
def register (config : Config) (username publicKeyPem privateKeyPem : String) :
    Handler Url ActorRow :=
  query (.createActor (userActor config username publicKeyPem privateKeyPem))

/-- What the deletion of an account does to clips, tombstones and actors. -/
def deleteMe (auth : ActorRow) : Handler Url Unit := do
  query (.markClipsOfActorDeleted auth.id)
  query (.insertTombstone auth.apId .person)
  let _ ← query (.markActorDeleted auth.id)
  pure ()

/-! ## Local clips -/

/-- Store an uploaded clip under a placeholder id. -/
def storeUpload
    (auth : ActorRow) (sha256Hash : String) (sizeBytes : Int)
    (caption : Option String) : Handler Url ClipRow := do
  let uuid ← query .newUuid
  query (.createPendingUpload {
    actorId := auth.id
    apId := "https://toottok.local/clips/" ++ uuid
    sha256Hash := sha256Hash
    sizeBytes := sizeBytes
    captionHtml := cleanCaption caption })

/-- The canonical object id of a local clip. -/
def clipObjectId (baseUrl : String) (clipId : Nat) : String :=
  baseUrl ++ "/clips/" ++ toString clipId

/-- A number is read back from its digits. -/
theorem toString_injective {left right : Nat} (same : toString left = toString right) :
    left = right := by
  have digits : Nat.toDigits 10 left = Nat.toDigits 10 right := by
    have texts := congrArg String.toList same
    rwa [Nat.toString_eq_repr, Nat.toString_eq_repr, Nat.toList_repr, Nat.toList_repr] at texts
  calc
    left = Nat.ofDigitChars 10 (Nat.toDigits 10 left) 0 :=
      Nat.ofDigitChars_ten_toDigits.symm
    _ = Nat.ofDigitChars 10 (Nat.toDigits 10 right) 0 := by rw [digits]
    _ = right := Nat.ofDigitChars_ten_toDigits

variable [ChronoCrate]

/-- A duration rounded to milliseconds, half away from zero. -/
def durationValue : F64 → Value
  | .finite value =>
      let scaled := value * 1000
      let rounded := if 0 ≤ scaled then (scaled + 1 / 2).floor else (scaled - 1 / 2).ceil
      .number (.float (rounded / 1000))
  | _ => .null

omit [ChronoCrate] in
def attachmentJson (baseUrl : String) (clip : ClipRow) (mediaFilename : Option String) :
    Value :=
  .object ([
    ("type", .string "Document"),
    ("mediaType", .string "video/mp4"),
    ("url", .string (baseUrl ++ "/assets/" ++ toString clip.id ++ "/" ++
      mediaFilename.getD "720.mp4"))] ++
    (clip.width.map fun width => ("width", .number (.ofInt width.toInt))).toList ++
    (clip.height.map fun height => ("height", .number (.ofInt height.toInt))).toList ++
    (clip.durationS.map fun duration => ("duration", durationValue duration)).toList)

/-- The note of a local clip. -/
def clipNoteJson
    (baseUrl : String) (clip : ClipRow) (author : ActorRow)
    (mediaFilename : Option String) : Value :=
  .object ([
    ("id", .string clip.apId),
    ("type", .string "Note"),
    ("attributedTo", .string author.apId),
    ("content", .string (clip.captionHtml.getD "")),
    ("published",
      .string (ChronoCrate.toRfc3339 (clip.publishedAt.getD clip.createdAt))),
    ("url", .string clip.apId),
    ("sensitive", .bool clip.isSensitive),
    ("attachment", .array [attachmentJson baseUrl clip mediaFilename]),
    ("tag", .array [])] ++
    (clip.cwText.map fun cw => ("summary", .string cw)).toList)

/-- The announcement of a local clip. -/
def clipCreateActivity
    (baseUrl : String) (clip : ClipRow) (author : ActorRow)
    (mediaFilename : Option String) : Value :=
  .object [
    ("@context", .string "https://www.w3.org/ns/activitystreams"),
    ("id", .string (clip.apId ++ "/activity")),
    ("type", .string "Create"),
    ("actor", .string author.apId),
    ("published",
      .string (ChronoCrate.toRfc3339 (clip.publishedAt.getD clip.createdAt))),
    ("to", .array [.string author.followersUrl]),
    ("cc", .array [.string "https://www.w3.org/ns/activitystreams#Public"]),
    ("object", clipNoteJson baseUrl clip author mediaFilename)]

omit [ChronoCrate] in
/-- Give a finished clip its canonical id. -/
def canonicalizeClip (baseUrl : String) (clip : ClipRow) : Handler Url Unit :=
  if clip.apId = clipObjectId baseUrl clip.id then pure ()
  else query (.setApId clip.id (clipObjectId baseUrl clip.id))

/-- Announce a finished local clip: give it its canonical id, log the activity
and queue its fan-out. -/
def enqueueClipCreate (baseUrl : String) (clipId : Nat) : Handler Url Unit := do
  match ← query (.fetchClipById clipId) with
  | none =>
      .fail (.other ("clip " ++ toString clipId ++ " vanished before finalize federation"))
  | some clip =>
      if ClipRow.origin clip ≠ .localUpload ∨ clip.deletedAt ≠ none then pure ()
      else
        match ← query (.fetchActorById clip.actorId) with
        | none => .fail (.other ("clip " ++ toString clipId ++ " has no author row"))
        | some author =>
            if ActorRow.domain author ≠ none then pure ()
            else do
              canonicalizeClip baseUrl clip
              match ← query (.fetchClipById clipId) with
              | none =>
                  .fail (.other ("clip " ++ toString clipId ++ " vanished after ap_id update"))
              | some clip => do
                  let stored ← Handler.caught (query (.largestVideoFilename clipId))
                  let mediaFilename :=
                    match stored with
                    | .ok filename => Option.or filename (some "720.mp4")
                    | .error _ => some "720.mp4"
                  let activity := clipCreateActivity baseUrl clip author mediaFilename
                  Handler.discarded (query (.createOutbound {
                    activityId := activityIdFromJson activity
                    actorApId := author.apId
                    objectApId := some (clipObjectId baseUrl clipId)
                    raw := activity }))
                  let _ ← query (.createJob .deliverCreate (.object [
                    ("clip_id", .number (.ofInt clipId)), ("activity", activity)]))
                  pure ()

end TootTok
