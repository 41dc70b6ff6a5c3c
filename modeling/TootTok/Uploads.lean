import TootTok.Effects.Recording
import TootTok.Listings
import TootTok.Sessions

/-!
# The upload

A file is read, checked, stored, entered as a pending clip, filed under its sound and
its hashtags, and handed to the media pipeline. Each step from the clip on that fails
deletes the file and fails the clip.
-/

namespace TootTok

open Effects
open Json (Value)
open Relational (Table SerialTable)

variable {Url : Type}

/-! ## Containers -/

/-- A container that is told by its first bytes. -/
structure Container where
  ext : String
  mime : String
deriving DecidableEq

namespace Container

def mp4 : Container := ⟨"mp4", "video/mp4"⟩

def mov : Container := ⟨"mov", "video/quicktime"⟩

def webm : Container := ⟨"webm", "video/webm"⟩

end Container

/-- `ftyp` after four bytes, or the EBML header. -/
def sniffContainer (data : List UInt8) : Option Container :=
  if data.take 4 = [0x1A, 0x45, 0xDF, 0xA3] then some .webm
  else if (data.drop 4).take 4 = [0x66, 0x74, 0x79, 0x70] then
    some (if (data.drop 8).take 4 = [0x71, 0x74, 0x20, 0x20] then .mov else .mp4)
  else none

example : sniffContainer [0, 0, 0, 0, 0x66, 0x74, 0x79, 0x70] = some .mp4 := by decide

/-! ## The form -/

/-- A part of a form, in the chunks in which it arrives. -/
structure Field where
  name : Option String
  chunks : List (List UInt8)
  /-- The connection breaks after the chunks. -/
  broken : Bool

structure Multipart where
  fields : List Field
  broken : Bool

/-- What the upload reads of its form. -/
structure UploadFields where
  file : Option (List UInt8)
  captionHtml : Option String
  soundTitle : Option String
  hasAudio : Bool

def Field.isNamed (name : String) (field : Field) : Bool :=
  field.name.map String.toLower = some name

/-- The bytes of the last file. -/
def Multipart.file (multipart : Multipart) : Option (List UInt8) :=
  multipart.fields.foldl
    (fun file field => if field.isNamed "file" then some field.chunks.flatten else file) none

namespace Upload

def captionMaxBytes : Nat := 16 * 1024

def invalidMultipart : Response := .problem 400 "invalid multipart"

def tooLarge (what : String) : Response := .problem 413 (what ++ " too large")

/-- The chunks of a field, unless they exceed the cap. -/
def readChunks (cap : Nat) (exceeded : Response) (broken : Bool) :
    List UInt8 → List (List UInt8) → Except Response (List UInt8)
  | buffer, [] => if broken then .error invalidMultipart else .ok buffer
  | buffer, chunk :: chunks =>
      if cap < buffer.length + chunk.length then .error exceeded
      else readChunks cap exceeded broken (buffer ++ chunk) chunks

/-- `String::from_utf8`, without empty texts. -/
def textOf (buffer : List UInt8) : Option String :=
  (String.fromUTF8? ⟨buffer.toArray⟩).filter (· ≠ "")

/-- A short text of a form. -/
def readText (what : String) (field : Field) : Except Response (Option String) :=
  (readChunks captionMaxBytes (tooLarge what) field.broken [] field.chunks).map textOf

def readField (sizeCapBytes : Nat) (fields : UploadFields) (field : Field) :
    Except Response UploadFields :=
  if field.isNamed "file" then
    (readChunks sizeCapBytes (tooLarge "upload") field.broken [] field.chunks).map
      fun file => { fields with file := some file }
  else if field.isNamed "sound_title" then
    (readText "sound title" field).map fun title => { fields with soundTitle := title }
  else if field.isNamed "music" || field.isNamed "vo" then
    .ok { fields with hasAudio := true }
  else if field.isNamed "caption_html" then
    (readText "caption" field).map fun caption => { fields with captionHtml := caption }
  else .ok fields

def readUploadFields (sizeCapBytes : Nat) (multipart : Multipart) :
    Except Response UploadFields :=
  match multipart.fields.foldlM (readField sizeCapBytes) ⟨none, none, none, false⟩ with
  | .error response => .error response
  | .ok fields => if multipart.broken then .error invalidMultipart else .ok fields

theorem readChunks_ok {cap : Nat} {exceeded : Response} {broken : Bool}
    {chunks : List (List UInt8)} {buffer bytes : List UInt8}
    (read : readChunks cap exceeded broken buffer chunks = .ok bytes) :
    bytes = buffer ++ chunks.flatten := by
  induction chunks generalizing buffer with
  | nil =>
      unfold readChunks at read
      split at read
      · cases read
      · cases read
        simp
  | cons chunk chunks inductionHypothesis =>
      unfold readChunks at read
      split at read
      · cases read
      · rw [inductionHypothesis read]
        simp

theorem exists_of_map_ok {ε α β : Type} {outcome : Except ε α} {change : α → β} {after : β}
    (mapped : outcome.map change = .ok after) :
    ∃ value, outcome = .ok value ∧ change value = after := by
  cases outcome with
  | error error => cases mapped
  | ok value => exact ⟨value, rfl, Except.ok.inj mapped⟩

theorem readField_file {cap : Nat} {before after : UploadFields} {field : Field}
    (read : readField cap before field = .ok after) :
    after.file = if field.isNamed "file" then some field.chunks.flatten else before.file := by
  unfold readField at read
  split at read
  next isFile =>
    obtain ⟨bytes, collected, rfl⟩ := exists_of_map_ok read
    rw [if_pos isFile, readChunks_ok collected, List.nil_append]
  next notFile =>
    rw [if_neg notFile]
    split at read
    · obtain ⟨_, -, rfl⟩ := exists_of_map_ok read
      rfl
    · split at read
      · cases read
        rfl
      · split at read
        · obtain ⟨_, -, rfl⟩ := exists_of_map_ok read
          rfl
        · cases read
          rfl

/-- The form cannot be read to its end, or a part of it is too large. -/
def RefusesForm (response : Response) : Prop :=
  response = invalidMultipart ∨ ∃ what, response = tooLarge what

theorem readChunks_error {cap : Nat} {what : String} {broken : Bool}
    {chunks : List (List UInt8)} {buffer : List UInt8} {response : Response}
    (refused : readChunks cap (tooLarge what) broken buffer chunks = .error response) :
    RefusesForm response := by
  induction chunks generalizing buffer with
  | nil =>
      unfold readChunks at refused
      split at refused
      · cases refused
        exact .inl rfl
      · cases refused
  | cons chunk chunks inductionHypothesis =>
      unfold readChunks at refused
      split at refused
      · cases refused
        exact .inr ⟨what, rfl⟩
      · exact inductionHypothesis refused

theorem readField_error {cap : Nat} {before : UploadFields} {field : Field} {response : Response}
    (refused : readField cap before field = .error response) : RefusesForm response := by
  have ofMap {α β : Type} {outcome : Except Response α} {change : α → β}
      (mapped : outcome.map change = .error response) : outcome = .error response := by
    cases outcome with
    | error other =>
        cases mapped
        rfl
    | ok value => cases mapped
  unfold readField at refused
  split at refused
  · exact readChunks_error (ofMap refused)
  split at refused
  · exact readChunks_error (ofMap (ofMap refused))
  split at refused
  · cases refused
  split at refused
  · exact readChunks_error (ofMap (ofMap refused))
  · cases refused

theorem readUploadFields_error {cap : Nat} {multipart : Multipart} {response : Response}
    (refused : readUploadFields cap multipart = .error response) : RefusesForm response := by
  have folded (parts : List Field) (before : UploadFields)
      (refusedPart : parts.foldlM (readField cap) before = .error response) :
      RefusesForm response := by
    induction parts generalizing before with
    | nil => cases refusedPart
    | cons part parts inductionHypothesis =>
        rw [List.foldlM_cons] at refusedPart
        cases step : readField cap before part with
        | error first =>
            rw [step] at refusedPart
            cases refusedPart
            exact readField_error step
        | ok middle =>
            rw [step] at refusedPart
            exact inductionHypothesis middle refusedPart
  unfold readUploadFields at refused
  split at refused
  next first readParts =>
    cases refused
    exact folded _ _ readParts
  next =>
    split at refused
    · cases refused
      exact .inl rfl
    · cases refused

/-- What is read of a form is collected part by part. -/
theorem readUploadFields_fold {cap : Nat} {multipart : Multipart} {fields : UploadFields}
    {α : Type} {part : UploadFields → α} {step : α → Field → α}
    (reads : ∀ before after field, readField cap before field = .ok after →
      part after = step (part before) field)
    (read : readUploadFields cap multipart = .ok fields) :
    part fields = multipart.fields.foldl step (part ⟨none, none, none, false⟩) := by
  have folded (parts : List Field) (before after : UploadFields)
      (readParts : parts.foldlM (readField cap) before = .ok after) :
      part after = parts.foldl step (part before) := by
    induction parts generalizing before with
    | nil =>
        cases readParts
        rfl
    | cons first parts inductionHypothesis =>
        rw [List.foldlM_cons] at readParts
        cases readFirst : readField cap before first with
        | error response =>
            rw [readFirst] at readParts
            cases readParts
        | ok middle =>
            rw [readFirst] at readParts
            rw [inductionHypothesis middle readParts, reads before middle first readFirst,
              List.foldl_cons]
  unfold readUploadFields at read
  split at read
  next => cases read
  next collected readParts =>
    split at read
    · cases read
    · cases read
      exact folded _ _ _ readParts

/-- The file that is read is the file of the form. -/
theorem readUploadFields_file {cap : Nat} {multipart : Multipart} {fields : UploadFields}
    (read : readUploadFields cap multipart = .ok fields) : fields.file = multipart.file :=
  readUploadFields_fold (fun _ _ _ readPart => readField_file readPart) read

end Upload

/-! ## What uploads are filed under -/

/-- A row of `sounds`. -/
structure SoundRow where
  id : Nat
  title : String
  authorActorId : Option Nat

/-- A sound is known by its title and its author. -/
def SoundRow.Clash (left right : SoundRow) : Prop :=
  left.title = right.title ∧ left.authorActorId.isSome ∧
    left.authorActorId = right.authorActorId

instance : DecidableRel SoundRow.Clash := fun left right => by
  unfold SoundRow.Clash
  infer_instance

abbrev SoundTable : Type := SerialTable SoundRow.id SoundRow.Clash

/-- The server, with the sounds and hashtags of its clips. -/
structure Library extends Server where
  sounds : SoundTable
  hashtags : SerialTable Hashtag.id Hashtag.Clash
  clipHashtags : Table (@Eq ClipHashtag)

namespace Hashtags

def maxHashtags : Nat := 10

def isTagChar (char : Char) : Bool := char.isAlphanum || char == '_'

/-- The texts that follow a `#`, each up to the end of its tag. -/
def candidates : List Char → List String
  | [] => []
  | '#' :: rest => String.ofList (rest.takeWhile isTagChar) :: candidates rest
  | _ :: rest => candidates rest

/-- The distinct tags of a caption, in lower case, the first ten of them. -/
def extractHashtags (caption : String) : List String :=
  (((candidates caption.toList).filter (· ≠ "")).map String.toLower).foldl
    (fun tags tag => if tags.length < maxHashtags ∧ tag ∉ tags then tags ++ [tag] else tags) []

end Hashtags

/-- Store a tag unless it is there, and link it to a clip unless it is linked. -/
def Library.linkHashtag (clipId : Nat) (library : Library) (tag : String) : Library :=
  let hashtags := (library.hashtags.insert (fun id => ⟨id, tag⟩) fun _ => rfl).2
  match hashtags.find? fun row => citext row.tag = citext tag with
  | none => { library with hashtags := hashtags }
  | some row =>
      { library with
        hashtags := hashtags
        clipHashtags :=
          (library.clipHashtags.insert? ⟨clipId, row.id⟩).getD library.clipHashtags }

def ClipRow.setSound (soundId : Option Nat) (row : ClipRow) : ClipRow :=
  { row with soundId := soundId }

theorem ClipRow.keepsKeys_setSound (soundId : Option Nat) :
    Table.KeepsKeys ClipRow.Clash (ClipRow.setSound soundId) :=
  fun _ _ => ⟨fun clash => clash, fun clash => clash⟩

namespace Clips

/-- `Clip::set_sound`. -/
def setSound (id : Nat) (soundId : Option Nat) (table : ClipTable) : ClipTable :=
  table.update (fun row => row.id = id) (ClipRow.setSound soundId) (fun _ => rfl)
    (ClipRow.keepsKeys_setSound soundId)

theorem mem_setSound {id : Nat} {soundId : Option Nat} {table : ClipTable} {row : ClipRow} :
    row ∈ setSound id soundId table ↔
      ∃ old ∈ table, Table.changeWhere (fun row => row.id = id) (ClipRow.setSound soundId) old =
        row :=
  SerialTable.mem_update

end Clips

namespace Sounds

/-- `sound::get_or_create`. -/
def getOrCreate (title : String) (authorActorId : Option Nat) (sounds : SoundTable) :
    Nat × SoundTable :=
  let named (row : SoundRow) : Bool :=
    row.title = title ∧ row.authorActorId.isSome ∧ row.authorActorId = authorActorId
  match sounds.find? named with
  | some row => (row.id, sounds.spend)
  | none => (sounds.next, (sounds.insert (fun id => ⟨id, title, authorActorId⟩) fun _ => rfl).2)

end Sounds

/-! ## Operations -/

/-- The hash of an upload. -/
class DigestCrate where
  sha256Hex : List UInt8 → String

/-- What the outside world contributes to one operation of an upload. -/
structure UploadEnv (Url : Type) extends WorkerEnv Url where
  /-- The bytes that the clips of an actor take up. -/
  storageUsed : Nat → Int

inductive UploadOp (Url : Type)
  | base (op : WorkerOp Url)
  | fetchBySha256 (hash : String)
  | storageUsed (actorId : Nat)
  | getOrCreateSound (title : String) (authorActorId : Option Nat)
  | setSound (clipId : Nat) (soundId : Option Nat)
  | linkHashtags (clipId : Nat) (caption : String)

/-- The condition of `Clip::fetch_by_sha256`. -/
def ClipRow.isDuplicate (hash : String) (row : ClipRow) : Bool :=
  row.sha256Hash = some hash ∧ row.deletedAt = none ∧ row.status ≠ .failed

namespace UploadOp

/-- What an operation returns when it succeeds. -/
@[reducible] def Result : UploadOp Url → Type
  | .base op => op.Result
  | .fetchBySha256 _ => Option ClipRow
  | .storageUsed _ => Int
  | .getOrCreateSound _ _ => Nat
  | .setSound _ _ | .linkHashtags _ _ => Unit

/-- The effect of an operation that does not fail for an outside reason. -/
def perform (env : UploadEnv Url) :
    (op : UploadOp Url) → Library → Except Error op.Result × Library
  | .base op, library =>
      ((WorkerOp.exec env.toWorkerEnv op library.toServer).1,
        { library with toServer := (WorkerOp.exec env.toWorkerEnv op library.toServer).2 })
  | .fetchBySha256 hash, library =>
      (.ok (library.clips.find? (ClipRow.isDuplicate hash)), library)
  | .storageUsed actorId, library => (.ok (env.storageUsed actorId), library)
  | .getOrCreateSound title authorActorId, library =>
      (.ok (Sounds.getOrCreate title authorActorId library.sounds).1,
        { library with sounds := (Sounds.getOrCreate title authorActorId library.sounds).2 })
  | .setSound clipId soundId, library =>
      (.ok (), { library with clips := Clips.setSound clipId soundId library.clips })
  | .linkHashtags clipId caption, library =>
      (.ok (),
        (Hashtags.extractHashtags caption).foldl (Library.linkHashtag clipId) library)

/-- The error with which an operation fails for an outside reason. -/
def failure (env : UploadEnv Url) : UploadOp Url → Option Error
  | .base _ => none
  | _ => env.fault

/-- A failed operation has no effect. -/
def exec : Program.Executor (@Result Url) Error Library (UploadEnv Url) :=
  fun env op library =>
    match failure env op with
    | some error => (.error error, library)
    | none => perform env op library

end UploadOp

/-! ## The request -/

namespace F64

/-- `self <= other`, false when either is a NaN. -/
def le (left right : F64) : Bool :=
  right.gt left || (left ≠ .nan && left = right)

/-- `self as usize`. -/
def toUsize : F64 → Nat
  | .finite value =>
      if 18446744073709551615 < value.floor.toNat then 18446744073709551615
      else value.floor.toNat
  | .infinite negative => if negative then 0 else 18446744073709551615
  | .nan => 0

/-- The nearest `i64`. -/
def saturate (value : Int) : Int :=
  if value < -9223372036854775808 then -9223372036854775808
  else if 9223372036854775807 < value then 9223372036854775807
  else value

/-- `self as i64`. -/
def toI64 : F64 → Int
  | .finite value => saturate (value.num.tdiv value.den)
  | .infinite negative => if negative then -9223372036854775808 else 9223372036854775807
  | .nan => 0

end F64

def uploadSizeCapMbDefault : F64 := .finite 500

def perUserStorageQuotaMbDefault : F64 := .finite 0

/-- A part of an upload. -/
abbrev Upload (Url α : Type) : Type :=
  Program (@UploadOp.Result Url) Error α

namespace Upload

/-- The id of the new clip, or the response that refuses it. -/
abbrev Answer : Type := Except Response Nat

/-- Call an operation and go on with its outcome, whatever it is. -/
def tried (op : UploadOp Url) : Upload Url (Except Error op.Result) :=
  .call op .done

/-- A part that the workers have too. -/
def ofRoutine {α : Type} (routine : Routine Url α) : Upload Url (Except Error α) :=
  (routine.embed UploadOp.base fun _ outcome => outcome : Upload Url α).attempt

def newUuid : Upload Url String :=
  Program.perform (UploadOp.base (.base .newUuid))

def duplicateUpload : Response := .problem 409 "duplicate upload"

def storageError : Response := .problem 500 "storage error"

/-- A failure that is answered at once. -/
def orAnswer {α : Type} (response : Response) (outcome : Except Error α)
    (rest : α → Upload Url Answer) : Upload Url Answer :=
  match outcome with
  | .error _ => .done (.error response)
  | .ok value => rest value

def checkStorageQuota (actorId : Nat) (uploadBytes : Int) (rest : Upload Url Answer) :
    Upload Url Answer := do
  let setting ← ofRoutine (numericSetting "per_user_storage_quota_mb" perUserStorageQuotaMbDefault)
  orAnswer databaseError setting fun quotaMb =>
    if quotaMb.le .zero then rest
    else do
      orAnswer databaseError (← tried (.storageUsed actorId)) fun used =>
        if ((quotaMb.scale 1024).scale 1024).toI64 < F64.saturate (used + uploadBytes) then
          .done (.error (.problem 413 "storage_quota_exceeded"))
        else rest

/-- Undo the storage of the original, whatever becomes of it. -/
def deleteOriginal (mediaDir key : String) : Upload Url Unit := do
  let _ ← ofRoutine (deleteKey mediaDir key)
  return ()

/-- A stored clip that cannot be handed on: delete its file and fail it. -/
def abandon (mediaDir key : String) (clipId : Nat) : Upload Url Answer := do
  deleteOriginal mediaDir key
  let _ ← tried (.base (.markFailed clipId))
  return .error databaseError

def orAbandon {α : Type} (mediaDir key : String) (clipId : Nat) (outcome : Except Error α)
    (rest : α → Upload Url Answer) : Upload Url Answer :=
  match outcome with
  | .error _ => abandon mediaDir key clipId
  | .ok value => rest value

/-- The title in the form, or the default one for a clip with a sound track. -/
def soundTitle (username : String) (fields : UploadFields) : Option String :=
  ((fields.soundTitle.map fun raw => trimmed (Sanitize.stripHtmlTags raw)).filter (· ≠ "")).or
    (if fields.soundTitle.isNone && fields.hasAudio then
      some ("original sound — @" ++ username)
    else none)

def attachSound (mediaDir key : String) (auth : AuthUser) (clipId : Nat)
    (title : Option String) (rest : Upload Url Answer) : Upload Url Answer :=
  match title with
  | none => rest
  | some title => do
      let outcome ← tried (.getOrCreateSound title (some auth.actor.id))
      orAbandon mediaDir key clipId outcome fun soundId => do
        orAbandon mediaDir key clipId (← tried (.setSound clipId (some soundId))) fun _ => rest

def attachHashtags (mediaDir key : String) (clipId : Nat) (caption : Option String)
    (rest : Upload Url Answer) : Upload Url Answer :=
  match caption with
  | none => rest
  | some caption => do
      orAbandon mediaDir key clipId (← tried (.linkHashtags clipId caption)) fun _ => rest

/-- Queue the probe, and register the original. Only the first has to succeed. -/
def handOn (mediaDir key : String) (container : Container) (clipId : Nat) :
    Upload Url Answer := do
  let payload : Value := .object [
    ("clip_id", .number (.ofInt clipId)),
    ("path", .string ((Store.abs mediaDir key).getD "")),
    ("key", .string key),
    ("mime", .string container.mime)]
  orAbandon mediaDir key clipId (← tried (.base (.base (.createJob .probe payload)))) fun _ => do
    let _ ← tried (.base (.createAsset ⟨clipId, .videoMp4, "orig", key⟩))
    return .ok clipId

/-- The upload once its clip is stored. -/
def fileClip (mediaDir key : String) (auth : AuthUser) (fields : UploadFields)
    (container : Container) (clipId : Nat) : Upload Url Answer :=
  attachSound mediaDir key auth clipId (soundTitle auth.actor.username fields) <|
    attachHashtags mediaDir key clipId (cleanCaption fields.captionHtml) <|
      handOn mediaDir key container clipId

/-- The upload once its original is stored. -/
def enterClip (mediaDir key : String) (auth : AuthUser) (fields : UploadFields)
    (container : Container) (hash : String) (sizeBytes : Nat) : Upload Url Answer := do
  let uuid ← newUuid
  match ← tried (.base (.base (.createPendingUpload {
      actorId := auth.actor.id
      apId := "https://toottok.local/clips/" ++ uuid
      sha256Hash := hash
      sizeBytes := sizeBytes
      captionHtml := cleanCaption fields.captionHtml }))) with
  | .ok clip => fileClip mediaDir key auth fields container clip.id
  | .error error => do
      deleteOriginal mediaDir key
      return .error (if error = .db .uniqueViolation then duplicateUpload else databaseError)

/-- The upload once its original has a key. -/
def storeUnder (mediaDir key : String) (auth : AuthUser) (fields : UploadFields)
    (container : Container) (hash : String) (sizeBytes : Nat) : Upload Url Answer := do
  orAnswer storageError (← ofRoutine (saveBytes mediaDir key)) fun _ =>
    enterClip mediaDir key auth fields container hash sizeBytes

/-- The upload once its file is accepted. -/
def storeOriginal (mediaDir : String) (auth : AuthUser) (fields : UploadFields)
    (container : Container) (hash : String) (sizeBytes : Nat) : Upload Url Answer := do
  let uuid ← newUuid
  storeUnder mediaDir ("original/" ++ uuid ++ "." ++ container.ext) auth fields container hash
    sizeBytes

/-- The upload once its container is known. -/
def acceptFile [DigestCrate] (mediaDir : String) (auth : AuthUser) (fields : UploadFields)
    (container : Container) (data : List UInt8) : Upload Url Answer := do
  orAnswer databaseError (← tried (.fetchBySha256 (DigestCrate.sha256Hex data)))
    fun duplicate =>
      if duplicate.isSome then .done (.error duplicateUpload)
      else checkStorageQuota auth.actor.id data.length <|
        storeOriginal mediaDir auth fields container (DigestCrate.sha256Hex data) data.length

/-- `POST /api/v1/clips/upload`. -/
def upload [DigestCrate] (mediaDir : String) (auth : AuthUser) (multipart : Multipart) :
    Upload Url Answer := do
  orAnswer databaseError (← ofRoutine (numericSetting "upload_size_cap_mb" uploadSizeCapMbDefault))
    fun sizeCapMb =>
      match readUploadFields ((sizeCapMb.scale 1024).scale 1024).toUsize multipart with
      | .error response => .done (.error response)
      | .ok fields =>
          match fields.file with
          | none => .done (.error (.problem 400 "missing file"))
          | some data =>
              if data = [] then .done (.error (.problem 400 "empty file"))
              else
                match sniffContainer data with
                | none => .done (.error (.problem 415 "unsupported container"))
                | some container => acceptFile mediaDir auth fields container data

end Upload

/-! ## What a refusal leaves behind -/

/-- The operation undoes a step of an upload. -/
def UploadOp.undoes : UploadOp Url → Bool
  | .base (.removeFile _) | .base (.markFailed _) => true
  | _ => false

/-- The calls of an upload. -/
abbrev Upload.Calls (Url : Type) : Type :=
  Program.Record (@UploadOp.Result Url) Error

namespace Upload.Calls

/-- A file has been saved. -/
def Wrote (calls : Upload.Calls Url) (path : String) : Prop :=
  (⟨.base (.writeFile path), .ok ()⟩ : Σ op : UploadOp Url, Except Error op.Result) ∈ calls

/-- The calls that undo an upload have succeeded. -/
def Undone (calls : Upload.Calls Url) : Prop :=
  ∀ call ∈ calls, call.1.undoes = true → call.2.isOk = true

theorem Undone.of_append {calls later : Upload.Calls Url} (undone : (calls ++ later).Undone) :
    calls.Undone :=
  fun call member => undone call (List.mem_append_left later member)

theorem wrote_recording {recorded : Library × Upload.Calls Url} {op : UploadOp Url}
    {env : UploadEnv Url} {path : String}
    (wrote : Wrote (Program.recording UploadOp.exec env op recorded).2.2 path) :
    Wrote recorded.2 path ∨ op = .base (.writeFile path) := by
  rcases List.mem_append.mp wrote with earlier | last
  · exact .inl earlier
  · exact .inr (congrArg Sigma.fst (List.mem_singleton.mp last)).symm

end Upload.Calls

/-- The upload has left no clip but failed ones, no job and no file. -/
structure NothingLeft (start final : Library) (calls : Upload.Calls Url) : Prop where
  clips : ∀ row ∈ final.clips, row ∈ start.clips ∨ row.status = .failed
  jobs : final.jobs.rows = start.jobs.rows
  files : ∀ path, calls.Wrote path → final.files path = false

/-- The database reports no violation that is none, and the ids of new clips are new. -/
def UploadEnv.Trusted (library : Library) (env : UploadEnv Url) : Prop :=
  env.fault ≠ some (.db .uniqueViolation) ∧
    ∀ row ∈ library.clips, row.apId ≠ "https://toottok.local/clips/" ++ env.uuid

/-- The query for duplicates agrees with the unique index. -/
theorem ClipRow.isDuplicate_iff {hash : String} {row : ClipRow} :
    row.isDuplicate hash = true ↔ row.HashIndexed ∧ row.sha256Hash = some hash := by
  unfold ClipRow.isDuplicate ClipRow.HashIndexed
  rw [decide_eq_true_iff]
  constructor
  · rintro ⟨hashed, live, succeeded⟩
    exact ⟨⟨live, by simp [hashed], succeeded⟩, hashed⟩
  · rintro ⟨⟨live, -, succeeded⟩, hashed⟩
    exact ⟨hashed, live, succeeded⟩

namespace Upload

section Refusal

variable {allow : UploadEnv Url → Prop} {start : Library} {duplicate : Prop}

/-- What holds of the end of an upload that is refused. -/
def Refused (allow : UploadEnv Url → Prop) (start : Library) (duplicate : Prop)
    (outcome : Except Error Answer) (recorded : Library × Calls Url) : Prop :=
  ∀ response, outcome = .ok (.error response) →
    (recorded.2.Undone → NothingLeft start recorded.1 recorded.2) ∧
      ((∀ env, allow env → env.Trusted start) → response = duplicateUpload → duplicate)

/-- Every run of the rest of an upload that is refused leaves nothing behind. -/
abbrev Clean (allow : UploadEnv Url → Prop) (start : Library) (duplicate : Prop)
    (program : Upload Url Answer) (recorded : Library × Calls Url) : Prop :=
  program.Ensures (Program.recording UploadOp.exec) allow (Refused allow start duplicate) recorded

/-- Nothing is stored yet. -/
def Untouched (start : Library) (recorded : Library × Calls Url) : Prop :=
  recorded.1 = start ∧ ∀ path, ¬recorded.2.Wrote path

/-- The original is stored, and maybe a clip. -/
structure Pending (start : Library) (path : String) (clipId : Option Nat)
    (recorded : Library × Calls Url) : Prop where
  clips : ∀ row ∈ recorded.1.clips, row ∈ start.clips ∨ some row.id = clipId
  jobs : recorded.1.jobs.rows = start.jobs.rows
  wrote : ∀ other, recorded.2.Wrote other → other = path

/-- The original is deleted again. -/
structure Cleared (start : Library) (clipId : Option Nat)
    (recorded : Library × Calls Url) : Prop where
  clips : ∀ row ∈ recorded.1.clips, row ∈ start.clips ∨ some row.id = clipId
  jobs : recorded.1.jobs.rows = start.jobs.rows
  files : ∀ path, recorded.2.Wrote path → recorded.1.files path = false

variable {library : Library} {calls : Calls Url} {path : String} {clipId : Option Nat}

/-- A response to an upload that has stored nothing. -/
theorem Untouched.refused {recorded : Library × Calls Url}
    (untouched : Untouched start recorded) {response : Response}
    (notDuplicate : response = duplicateUpload → duplicate) :
    Refused allow start duplicate (.ok (.error response)) recorded := by
  intro _ same
  cases same
  refine ⟨fun _ => ?_, fun _ => notDuplicate⟩
  obtain ⟨same, unwritten⟩ := untouched
  rw [same]
  exact ⟨fun _ stored => .inl stored, rfl, fun path wrote => (unwritten path wrote).elim⟩

theorem Untouched.called {recorded : Library × Calls Url} (untouched : Untouched start recorded)
    {op : UploadOp Url} {env : UploadEnv Url}
    (unchanged : (UploadOp.exec env op recorded.1).2 = recorded.1)
    (reads : ∀ path, op ≠ .base (.writeFile path)) :
    Untouched start (Program.recording UploadOp.exec env op recorded).2 := by
  refine ⟨unchanged.trans untouched.1, fun path wrote => ?_⟩
  rcases Calls.wrote_recording wrote with earlier | isWrite
  · exact untouched.2 path earlier
  · exact reads path isWrite

theorem Pending.kept {recorded : Library × Calls Url}
    (pending : Pending start path clipId recorded) {op : UploadOp Url} {env : UploadEnv Url}
    {other : Option Nat}
    (clips : ∀ row ∈ (UploadOp.exec env op recorded.1).2.clips,
      row ∈ recorded.1.clips ∨ some row.id = other)
    (sameClip : ∀ id, some id = clipId → some id = other)
    (jobs : (UploadOp.exec env op recorded.1).2.jobs.rows = recorded.1.jobs.rows)
    (reads : ∀ path, op ≠ .base (.writeFile path)) :
    Pending start path other (Program.recording UploadOp.exec env op recorded).2 := by
  refine ⟨fun row stored => ?_, jobs.trans pending.jobs, fun file wrote => ?_⟩
  · rcases clips row stored with earlier | isNew
    · exact (pending.clips row earlier).imp_right (sameClip row.id)
    · exact .inr isNew
  · rcases Calls.wrote_recording wrote with earlier | isWrite
    · exact pending.wrote file earlier
    · exact (reads file isWrite).elim

theorem Pending.called {recorded : Library × Calls Url}
    (pending : Pending start path clipId recorded) {op : UploadOp Url} {env : UploadEnv Url}
    (unchanged : (UploadOp.exec env op recorded.1).2.toServer = recorded.1.toServer)
    (reads : ∀ path, op ≠ .base (.writeFile path)) :
    Pending start path clipId (Program.recording UploadOp.exec env op recorded).2 := by
  refine pending.kept (fun row stored => .inl ?_) (fun _ same => same) ?_ reads
  · have same : (UploadOp.exec env op recorded.1).2.clips = recorded.1.clips := by rw [unchanged]
    exact same ▸ stored
  · rw [unchanged]

/-- A call whose outcome is handed on. -/
theorem clean_tried {op : UploadOp Url} {rest : Except Error op.Result → Upload Url Answer}
    {recorded : Library × Calls Url}
    (next : ∀ env, allow env →
      Clean allow start duplicate (rest (UploadOp.exec env op recorded.1).1)
        (Program.recording UploadOp.exec env op recorded).2) :
    Clean allow start duplicate (tried op >>= rest) recorded :=
  next

theorem exec_fetchSetting (env : UploadEnv Url) (key : String) (library : Library) :
    (UploadOp.exec env (.base (.fetchSetting key)) library).2 = library := by
  show ({ library with
    toServer := (WorkerOp.exec env.toWorkerEnv (.fetchSetting key) library.toServer).2 } :
      Library) = library
  rcases WorkerOp.exec_cases env.toWorkerEnv (.fetchSetting key) library.toServer with
    ⟨error, failed⟩ | performed
  · rw [failed]
  · rw [performed]
    rfl

/-- A setting is read without a trace. -/
theorem clean_setting {key : String} {default : F64}
    {rest : Except Error F64 → Upload Url Answer} {recorded : Library × Calls Url}
    (untouched : Untouched start recorded)
    (next : ∀ outcome final, Untouched start final →
      Clean allow start duplicate (rest outcome) final) :
    Clean allow start duplicate (ofRoutine (numericSetting key default) >>= rest) recorded := by
  intro env _
  have still := untouched.called (exec_fetchSetting env key recorded.1) (by rintro _ ⟨⟩)
  simp only [Program.recording] at still ⊢
  generalize (UploadOp.exec env (.base (.fetchSetting key)) recorded.1).1 = outcome at still ⊢
  cases outcome with
  | error error => exact next (.error error) _ still
  | ok stored =>
      cases stored with
      | none => exact next (.ok default) _ still
      | some value =>
          simp only [Program.bind]
          split <;> split <;> exact next (.ok _) _ still

/-! ### The compensation -/

/-- The original is deleted, if the file system lets it. -/
theorem ensures_deleteOriginal {mediaDir key : String} {recorded : Library × Calls Url}
    (located : Store.abs mediaDir key = some path)
    (pending : Pending start path clipId recorded) :
    (deleteOriginal mediaDir key : Upload Url Unit).Ensures
      (Program.recording UploadOp.exec) allow
      (fun outcome final => outcome = .ok () ∧
        (Calls.Undone final.2 → Cleared start clipId final)) recorded := by
  unfold deleteOriginal ofRoutine deleteKey onKey
  rw [located]
  intro env _
  have cleared (undone : Calls.Undone
      (Program.recording UploadOp.exec env (.base (.removeFile path)) recorded).2.2) :
      Cleared start clipId
        (Program.recording UploadOp.exec env (.base (.removeFile path)) recorded).2 := by
    have succeeded := undone _ (List.mem_append_right _ (List.mem_singleton_self _)) rfl
    rcases WorkerOp.exec_cases env.toWorkerEnv (.removeFile path) recorded.1.toServer with
      ⟨error, failed⟩ | performed
    · cases (congrArg (fun outcome => outcome.1.isOk) failed).symm.trans succeeded
    · have state : (UploadOp.exec env (.base (.removeFile path)) recorded.1).2 =
          { recorded.1 with toServer := recorded.1.toServer.setFile path false } := by
        show ({ recorded.1 with
          toServer := (WorkerOp.exec env.toWorkerEnv (.removeFile path)
            recorded.1.toServer).2 } : Library) = _
        rw [performed]
        rfl
      refine ⟨?_, ?_, fun other wrote => ?_⟩
      · intro row stored
        have same := congrArg (fun library : Library => library.clips) state
        exact pending.clips row (same ▸ stored)
      · exact (congrArg (fun library : Library => library.jobs.rows) state).trans pending.jobs
      · rcases Calls.wrote_recording wrote with earlier | isWrite
        · rw [pending.wrote other earlier]
          refine (congrArg (fun library : Library => library.files path) state).trans ?_
          exact Function.update_self path false recorded.1.files
        · cases isWrite
  simp only [Program.recording] at cleared ⊢
  generalize (UploadOp.exec env (.base (.removeFile path)) recorded.1).1 = outcome at cleared ⊢
  cases outcome with
  | error error => exact ⟨rfl, cleared⟩
  | ok value => exact ⟨rfl, cleared⟩

theorem clean_abandon {mediaDir key : String} {clip : Nat} {recorded : Library × Calls Url}
    (located : Store.abs mediaDir key = some path)
    (pending : Pending start path (some clip) recorded) :
    Clean allow start duplicate (abandon mediaDir key clip) recorded := by
  unfold abandon Clean
  rw [Program.ensures_bind]
  refine (ensures_deleteOriginal located pending).mono ?_
  rintro _ middle ⟨rfl, cleared⟩ env _ _ same
  cases same
  refine ⟨fun undone => ?_, by rintro _ ⟨⟩⟩
  have still := cleared undone.of_append
  have succeeded := undone _ (List.mem_append_right _ (List.mem_singleton_self _)) rfl
  have state : (UploadOp.exec env (.base (.markFailed clip)) middle.1).2 =
      { middle.1 with toServer := (middle.1.toServer.onClips (Clips.markFailed clip)).2 } := by
    show ({ middle.1 with
      toServer := (WorkerOp.exec env.toWorkerEnv (.markFailed clip) middle.1.toServer).2 } :
        Library) = _
    rcases WorkerOp.exec_cases env.toWorkerEnv (.markFailed clip) middle.1.toServer with
      ⟨error, failed⟩ | performed
    · cases (congrArg (fun outcome => outcome.1.isOk) failed).symm.trans succeeded
    · rw [performed]
      rfl
  refine ⟨fun row stored => ?_, ?_, fun other wrote => ?_⟩
  · have same := congrArg (fun library : Library => library.clips) state
    obtain ⟨old, oldStored, rfl⟩ := Clips.mem_markFailed.mp (same ▸ stored)
    unfold Table.changeWhere
    split
    · exact .inr rfl
    next unnamed =>
      rcases still.clips old oldStored with known | isNew
      · exact .inl known
      · cases isNew
        exact (unnamed (by unfold ClipRow.hasId; exact decide_eq_true rfl)).elim
  · exact (congrArg (fun library : Library => library.jobs.rows) state).trans still.jobs
  · rcases Calls.wrote_recording wrote with earlier | isWrite
    · exact (congrArg (fun library : Library => library.files other) state).trans
        (still.files other earlier)
    · cases isWrite

/-- A call after which the upload goes on or is abandoned. -/
theorem clean_orAbandon {mediaDir key : String} {clip : Nat} {op : UploadOp Url}
    {rest : op.Result → Upload Url Answer} {recorded : Library × Calls Url}
    (located : Store.abs mediaDir key = some path)
    (called : ∀ env, Pending start path (some clip)
      (Program.recording UploadOp.exec env op recorded).2)
    (next : ∀ value final, Pending start path (some clip) final →
      Clean allow start duplicate (rest value) final) :
    Clean allow start duplicate
      (tried op >>= fun outcome => orAbandon mediaDir key clip outcome rest) recorded := by
  refine clean_tried fun env _ => ?_
  have still := called env
  cases (UploadOp.exec env op recorded.1).1 with
  | error error => exact clean_abandon located still
  | ok value => exact next value _ still

/-! ### The steps -/

/-- An id is drawn without a trace. -/
theorem exec_newUuid (env : UploadEnv Url) (library : Library) :
    UploadOp.exec env (.base (.base .newUuid)) library = (.ok env.uuid, library) := rfl

theorem clean_newUuid {rest : String → Upload Url Answer} {recorded : Library × Calls Url}
    (next : ∀ env, allow env →
      Clean allow start duplicate (rest env.uuid)
        (Program.recording UploadOp.exec env (.base (.base .newUuid)) recorded).2) :
    Clean allow start duplicate (newUuid >>= rest) recorded :=
  next

theorem exec_getOrCreateSound (env : UploadEnv Url) (title : String) (author : Option Nat)
    (library : Library) :
    (UploadOp.exec env (.getOrCreateSound title author) library).2.toServer =
      library.toServer := by
  unfold UploadOp.exec
  split <;> rfl

theorem clips_of_setSound {env : UploadEnv Url} {clip : Nat} {sound : Option Nat}
    {row : ClipRow} (stored : row ∈ (UploadOp.exec env (.setSound clip sound) library).2.clips) :
    row ∈ library.clips ∨ some row.id = some clip := by
  unfold UploadOp.exec at stored
  split at stored
  · exact .inl stored
  · obtain ⟨old, oldStored, rfl⟩ := Clips.mem_setSound.mp stored
    unfold Table.changeWhere
    split
    next named => exact .inr (congrArg some (of_decide_eq_true named))
    next => exact .inl oldStored

theorem jobs_of_setSound (env : UploadEnv Url) (clip : Nat) (sound : Option Nat)
    (library : Library) :
    (UploadOp.exec env (.setSound clip sound) library).2.jobs = library.jobs := by
  unfold UploadOp.exec
  split <;> rfl

theorem toServer_linkHashtag (clip : Nat) (library : Library) (tag : String) :
    (library.linkHashtag clip tag).toServer = library.toServer := by
  unfold Library.linkHashtag
  dsimp only
  split <;> rfl

theorem exec_linkHashtags (env : UploadEnv Url) (clip : Nat) (caption : String)
    (library : Library) :
    (UploadOp.exec env (.linkHashtags clip caption) library).2.toServer = library.toServer := by
  have linked (tags : List String) (library : Library) :
      (tags.foldl (Library.linkHashtag clip) library).toServer = library.toServer := by
    induction tags generalizing library with
    | nil => rfl
    | cons tag tags inductionHypothesis =>
        rw [List.foldl_cons, inductionHypothesis, toServer_linkHashtag]
  unfold UploadOp.exec
  split
  · rfl
  · exact linked _ library

theorem clips_of_createJob (env : UploadEnv Url) (kind : JobKind) (payload : Value)
    (library : Library) :
    (UploadOp.exec env (.base (.base (.createJob kind payload))) library).2.clips =
      library.clips :=
  Operation.exec_frame .clips (by rintro ⟨⟩) env.toEnv library.toDb

/-- A job that is refused is not queued. -/
theorem jobs_of_createJob_error {env : UploadEnv Url} {kind : JobKind} {payload : Value}
    {error : Error}
    (refused : (UploadOp.exec env (.base (.base (.createJob kind payload))) library).1 =
      .error error) :
    (UploadOp.exec env (.base (.base (.createJob kind payload))) library).2.jobs.rows =
      library.jobs.rows := by
  change (Operation.exec env.toEnv (.createJob kind payload) library.toDb).1 = .error error
    at refused
  show (Operation.exec env.toEnv (.createJob kind payload) library.toDb).2.jobs.rows = _
  rcases Operation.exec_cases env.toEnv (.createJob kind payload) library.toDb with
    ⟨_, failed⟩ | performed
  · rw [failed]
  · rw [performed] at refused ⊢
    rcases SerialTable.insert_cases library.jobs (Jobs.queued kind payload env.now) (fun _ => rfl)
      with ⟨-, made, -⟩ | ⟨-, spent⟩
    · change (inserted (SerialTable.insert library.jobs (Jobs.queued kind payload env.now)
        fun _ => rfl).1).mapError Error.db = .error error at refused
      rw [made] at refused
      cases refused
    · show (SerialTable.insert library.jobs (Jobs.queued kind payload env.now)
        fun _ => rfl).2.rows = _
      rw [spent]
      rfl

theorem clean_handOn {mediaDir key : String} {container : Container} {clip : Nat}
    {recorded : Library × Calls Url}
    (located : Store.abs mediaDir key = some path)
    (pending : Pending start path (some clip) recorded) :
    Clean allow start duplicate (handOn mediaDir key container clip) recorded := by
  refine clean_tried fun env _ => ?_
  cases outcome : (UploadOp.exec env (.base (.base (.createJob .probe _))) recorded.1).1 with
  | error error =>
      refine clean_abandon located (pending.kept ?_ (fun _ same => same) ?_ (by rintro _ ⟨⟩))
      · intro row stored
        rw [clips_of_createJob] at stored
        exact .inl stored
      · exact jobs_of_createJob_error outcome
  | ok row =>
      rintro later - _ ⟨⟩

theorem clean_fileClip {mediaDir key : String} {auth : AuthUser} {fields : UploadFields}
    {container : Container} {clip : Nat} {recorded : Library × Calls Url}
    (located : Store.abs mediaDir key = some path)
    (pending : Pending start path (some clip) recorded) :
    Clean allow start duplicate (fileClip mediaDir key auth fields container clip) recorded := by
  have tagged (middle : Library × Calls Url) (pending : Pending start path (some clip) middle) :
      Clean allow start duplicate
        (attachHashtags mediaDir key clip (cleanCaption fields.captionHtml)
          (handOn mediaDir key container clip)) middle := by
    cases cleanCaption fields.captionHtml with
    | none => exact clean_handOn located pending
    | some caption =>
        refine clean_orAbandon located (fun env => ?_) fun _ _ still => clean_handOn located still
        exact pending.called (exec_linkHashtags env clip caption middle.1) (by rintro _ ⟨⟩)
  unfold fileClip
  cases soundTitle auth.actor.username fields with
  | none => exact tagged recorded pending
  | some title =>
      refine clean_orAbandon located (fun env => ?_) fun sound middle still =>
        clean_orAbandon located (fun env => ?_) fun _ final kept => tagged final kept
      · exact pending.called (exec_getOrCreateSound env title (some auth.actor.id) recorded.1)
          (by rintro _ ⟨⟩)
      · exact still.kept (fun _ stored => clips_of_setSound stored) (fun _ same => same)
          (congrArg (fun jobs : JobTable => jobs.rows)
            (jobs_of_setSound env clip (some sound) middle.1)) (by rintro _ ⟨⟩)

theorem jobs_of_createPendingUpload (env : UploadEnv Url) (new : NewUpload)
    (library : Library) :
    (UploadOp.exec env (.base (.base (.createPendingUpload new))) library).2.jobs.rows =
      library.jobs.rows :=
  congrArg (fun jobs : JobTable => jobs.rows)
    (Operation.exec_frame .jobs (by rintro ⟨⟩) env.toEnv library.toDb)

/-- A pending clip is stored, or nothing is, and then a clash is one with a stored clip. -/
theorem createPendingUpload_cases (env : UploadEnv Url) (new : NewUpload) (library : Library) :
    (∃ clip, (UploadOp.exec env (.base (.base (.createPendingUpload new))) library).1 = .ok clip ∧
        ∀ row ∈ (UploadOp.exec env (.base (.base (.createPendingUpload new))) library).2.clips,
          row ∈ library.clips ∨ some row.id = some clip.id) ∨
      ∃ error,
        (UploadOp.exec env (.base (.base (.createPendingUpload new))) library).1 =
          .error error ∧
        (∀ row ∈ (UploadOp.exec env (.base (.base (.createPendingUpload new))) library).2.clips,
          row ∈ library.clips) ∧
        (error = .db .uniqueViolation → env.fault = some (.db .uniqueViolation) ∨
          ∃ row ∈ library.clips, ClipRow.Clash row (new.row env.now library.clips.next)) := by
  show (∃ clip, (Operation.exec env.toEnv (.createPendingUpload new) library.toDb).1 = .ok clip ∧
      ∀ row ∈ (Operation.exec env.toEnv (.createPendingUpload new) library.toDb).2.clips, _) ∨
    ∃ error, (Operation.exec env.toEnv (.createPendingUpload new) library.toDb).1 = .error error ∧
      (∀ row ∈ (Operation.exec env.toEnv (.createPendingUpload new) library.toDb).2.clips, _) ∧ _
  cases failing : Operation.failure env.toEnv (.createPendingUpload new) with
  | some error =>
      rw [Operation.exec_of_failure failing]
      refine .inr ⟨error, rfl, fun _ stored => stored, ?_⟩
      rintro rfl
      unfold Operation.failure at failing
      rw [if_neg (by rintro ⟨⟩)] at failing
      rcases Option.or_eq_some_iff.mp failing with fault | ⟨-, unstorable⟩
      · exact .inl fault
      · split at unstorable <;> cases unstorable
  | none =>
      rw [Operation.exec_of_success failing]
      rcases SerialTable.insert_cases library.clips (new.row env.now) (fun _ => rfl) with
        ⟨-, made, rows⟩ | ⟨taken, spent⟩
      · refine .inl ⟨new.row env.now library.clips.next, ?_, fun row stored => ?_⟩
        · show (inserted (SerialTable.insert library.clips (new.row env.now)
            fun _ => rfl).1).mapError Error.db = _
          rw [made]
          rfl
        · rcases SerialTable.mem_of_mem_insert stored with old | rfl
          · exact .inl old
          · exact .inr rfl
      · refine .inr ⟨.db .uniqueViolation, ?_, fun row stored => ?_, fun _ => .inr taken⟩
        · show (inserted (SerialTable.insert library.clips (new.row env.now)
            fun _ => rfl).1).mapError Error.db = _
          rw [spent]
          rfl
        · change row ∈ (SerialTable.insert library.clips (new.row env.now) fun _ => rfl).2 at stored
          rw [spent] at stored
          exact stored

theorem clean_enterClip {mediaDir key : String} {auth : AuthUser} {fields : UploadFields}
    {container : Container} {hash : String} {sizeBytes : Nat} {recorded : Library × Calls Url}
    (located : Store.abs mediaDir key = some path)
    (pending : Pending start path none recorded)
    (sameClips : recorded.1.clips = start.clips)
    (isDuplicate : (∃ row ∈ start.clips, row.isDuplicate hash = true) → duplicate) :
    Clean allow start duplicate
      (enterClip mediaDir key auth fields container hash sizeBytes) recorded := by
  refine clean_newUuid fun env allowed => clean_tried fun later laterAllowed => ?_
  have drawn : Pending start path none
      (Program.recording UploadOp.exec env (.base (.base .newUuid)) recorded).2 :=
    pending.called rfl (by rintro _ ⟨⟩)
  rcases createPendingUpload_cases later ⟨auth.actor.id, "https://toottok.local/clips/" ++ env.uuid,
      hash, sizeBytes, cleanCaption fields.captionHtml⟩ recorded.1 with
    ⟨clip, created, clips⟩ | ⟨error, refused, clips, violation⟩
  · have entered := drawn.kept clips (by rintro _ ⟨⟩)
      (jobs_of_createPendingUpload later _ recorded.1) (by rintro _ ⟨⟩)
    simp only [Program.recording, exec_newUuid] at entered ⊢
    rw [created] at entered ⊢
    exact clean_fileClip located entered
  · have still := drawn.kept
      (fun row stored => .inl (clips row stored)) (fun _ same => same)
      (jobs_of_createPendingUpload later _ recorded.1) (by rintro _ ⟨⟩)
    simp only [Program.recording, exec_newUuid] at still ⊢
    rw [refused] at still ⊢
    unfold Clean
    dsimp only
    rw [Program.ensures_bind]
    refine (ensures_deleteOriginal located still).mono ?_
    rintro _ final ⟨rfl, cleared⟩ _ same
    cases same
    refine ⟨fun undone => ?_, fun trusted answered => ?_⟩
    · obtain ⟨finalClips, finalJobs, files⟩ := cleared undone
      refine ⟨fun row stored => .inl ?_, finalJobs, files⟩
      exact (finalClips row stored).resolve_right (by rintro ⟨⟩)
    · split at answered
      next isViolation =>
        rcases violation isViolation with fault | ⟨row, stored, sameId | ⟨indexed, -, sameHash⟩⟩
        · exact ((trusted later laterAllowed).1 fault).elim
        · rw [sameClips] at stored
          exact ((trusted env allowed).2 row stored sameId).elim
        · rw [sameClips] at stored
          exact isDuplicate ⟨row, stored, ClipRow.isDuplicate_iff.mpr ⟨indexed, sameHash⟩⟩
      next => cases answered

/-- The file is saved, or nothing has happened. -/
theorem exec_writeFile_cases (env : UploadEnv Url) (path : String) (library : Library) :
    (∃ error, UploadOp.exec env (.base (.writeFile path)) library = (.error error, library)) ∨
      UploadOp.exec env (.base (.writeFile path)) library =
        (.ok (), { library with toServer := library.toServer.setFile path true }) := by
  show (∃ error, ((WorkerOp.exec env.toWorkerEnv (.writeFile path) library.toServer).1,
      ({ library with
        toServer := (WorkerOp.exec env.toWorkerEnv (.writeFile path) library.toServer).2 } :
          Library)) = _) ∨ ((WorkerOp.exec env.toWorkerEnv (.writeFile path) library.toServer).1,
      ({ library with
        toServer := (WorkerOp.exec env.toWorkerEnv (.writeFile path) library.toServer).2 } :
          Library)) = _
  rcases WorkerOp.exec_cases env.toWorkerEnv (.writeFile path) library.toServer with
    ⟨error, failed⟩ | performed
  · rw [failed]
    exact .inl ⟨error, rfl⟩
  · rw [performed]
    exact .inr rfl

theorem clean_storeUnder {mediaDir key : String} {auth : AuthUser} {fields : UploadFields}
    {container : Container} {hash : String} {sizeBytes : Nat} {recorded : Library × Calls Url}
    (untouched : Untouched start recorded)
    (isDuplicate : (∃ row ∈ start.clips, row.isDuplicate hash = true) → duplicate) :
    Clean allow start duplicate
      (storeUnder mediaDir key auth fields container hash sizeBytes) recorded := by
  unfold storeUnder ofRoutine saveBytes onKey
  cases located : Store.abs mediaDir key with
  | none => exact untouched.refused (by rintro ⟨⟩)
  | some path =>
      intro env _
      obtain ⟨rfl, unwritten⟩ := untouched
      rcases exec_writeFile_cases env path recorded.1 with ⟨error, failed⟩ | saved
      · have still : Untouched recorded.1
            (Program.recording UploadOp.exec env (.base (.writeFile path)) recorded).2 := by
          refine ⟨congrArg Prod.snd failed, fun other wrote => ?_⟩
          rcases List.mem_append.mp wrote with earlier | last
          · exact unwritten other earlier
          · rw [failed] at last
            cases List.mem_singleton.mp last
        simp only [Program.recording] at still ⊢
        rw [failed] at still ⊢
        exact still.refused (by rintro ⟨⟩)
      · have pending : Pending recorded.1 path none
            (Program.recording UploadOp.exec env (.base (.writeFile path)) recorded).2 := by
          refine ⟨fun row stored => .inl ?_, ?_, fun other wrote => ?_⟩
          · rw [show (Program.recording UploadOp.exec env (.base (.writeFile path))
              recorded).2.1 = _ from congrArg Prod.snd saved] at stored
            exact stored
          · exact congrArg (fun outcome => outcome.2.jobs.rows) saved
          · rcases Calls.wrote_recording wrote with earlier | isWrite
            · exact (unwritten other earlier).elim
            · cases isWrite
              rfl
        have sameClips : (Program.recording UploadOp.exec env (.base (.writeFile path))
            recorded).2.1.clips = recorded.1.clips :=
          congrArg (fun outcome => outcome.2.clips) saved
        simp only [Program.recording] at pending sameClips ⊢
        rw [saved] at pending sameClips ⊢
        exact clean_enterClip located pending sameClips isDuplicate

theorem clean_storeOriginal {mediaDir : String} {auth : AuthUser} {fields : UploadFields}
    {container : Container} {hash : String} {sizeBytes : Nat} {recorded : Library × Calls Url}
    (untouched : Untouched start recorded)
    (isDuplicate : (∃ row ∈ start.clips, row.isDuplicate hash = true) → duplicate) :
    Clean allow start duplicate
      (storeOriginal mediaDir auth fields container hash sizeBytes) recorded := by
  unfold storeOriginal
  refine clean_newUuid ?_
  intro env _
  have kept := untouched.called (congrArg Prod.snd (exec_newUuid env recorded.1))
    (by rintro _ ⟨⟩)
  -- the rest of the upload is not unfolded
  with_reducible exact clean_storeUnder kept isDuplicate

theorem exec_storageUsed (env : UploadEnv Url) (actorId : Nat) (library : Library) :
    (UploadOp.exec env (.storageUsed actorId) library).2 = library := by
  unfold UploadOp.exec
  split <;> rfl

theorem exec_fetchBySha256_cases (env : UploadEnv Url) (hash : String) (library : Library) :
    (∃ error, UploadOp.exec env (.fetchBySha256 hash) library = (.error error, library)) ∨
      UploadOp.exec env (.fetchBySha256 hash) library =
        (.ok (library.clips.find? (ClipRow.isDuplicate hash)), library) := by
  unfold UploadOp.exec
  split
  next error _ => exact .inl ⟨error, rfl⟩
  next => exact .inr rfl

theorem clean_checkStorageQuota {actorId : Nat} {uploadBytes : Int} {rest : Upload Url Answer}
    {recorded : Library × Calls Url}
    (untouched : Untouched start recorded)
    (next : ∀ final, Untouched start final → Clean allow start duplicate rest final) :
    Clean allow start duplicate (checkStorageQuota actorId uploadBytes rest) recorded := by
  refine clean_setting untouched fun setting middle still => ?_
  cases setting with
  | error error => exact still.refused (by rintro ⟨⟩)
  | ok quotaMb =>
      unfold orAnswer
      dsimp only
      split
      · exact next middle still
      · refine clean_tried fun env _ => ?_
        have kept := still.called (exec_storageUsed env actorId middle.1) (by rintro _ ⟨⟩)
        cases (UploadOp.exec env (.storageUsed actorId) middle.1).1 with
        | error error => exact kept.refused (by rintro ⟨⟩)
        | ok used =>
            dsimp only
            split
            · exact kept.refused (by rintro ⟨⟩)
            · exact next _ kept

variable [DigestCrate]

theorem clean_acceptFile {mediaDir : String} {auth : AuthUser} {fields : UploadFields}
    {container : Container} {data : List UInt8} {recorded : Library × Calls Url}
    (untouched : Untouched start recorded)
    (isDuplicate : (∃ row ∈ start.clips,
      row.isDuplicate (DigestCrate.sha256Hex data) = true) → duplicate) :
    Clean allow start duplicate (acceptFile mediaDir auth fields container data) recorded := by
  unfold acceptFile
  refine clean_tried ?_
  intro env _
  rcases exec_fetchBySha256_cases env (DigestCrate.sha256Hex data) recorded.1 with
    ⟨error, failed⟩ | found
  · have still := untouched.called (congrArg Prod.snd failed) (by rintro _ ⟨⟩)
    simp only [Program.recording] at still ⊢
    rw [failed] at still ⊢
    exact still.refused (by rintro ⟨⟩)
  · have still := untouched.called (congrArg Prod.snd found) (by rintro _ ⟨⟩)
    simp only [Program.recording] at still ⊢
    rw [found] at still ⊢
    unfold orAnswer
    dsimp only
    split
    next isSome =>
      obtain ⟨row, stored, matched⟩ := Table.find?_isSome.mp isSome
      refine still.refused fun _ => isDuplicate ⟨row, ?_, matched⟩
      rw [← untouched.1]
      exact stored
    next =>
      refine clean_checkStorageQuota still ?_
      intro final kept
      with_reducible exact clean_storeOriginal kept isDuplicate

theorem clean_upload {mediaDir : String} {auth : AuthUser} {multipart : Multipart}
    {recorded : Library × Calls Url} (untouched : Untouched start recorded)
    (isDuplicate : (∃ data, multipart.file = some data ∧ ∃ row ∈ start.clips,
      row.isDuplicate (DigestCrate.sha256Hex data) = true) → duplicate) :
    Clean allow start duplicate (upload mediaDir auth multipart) recorded := by
  refine clean_setting untouched fun setting middle still => ?_
  cases setting with
  | error error => exact still.refused (by rintro ⟨⟩)
  | ok sizeCapMb =>
      unfold orAnswer
      dsimp only
      split
      next response refused =>
        refine still.refused fun same => ?_
        rcases readUploadFields_error refused with invalid | ⟨what, large⟩
        · cases invalid.symm.trans same
        · cases large.symm.trans same
      next fields read =>
        split
        next => exact still.refused (by rintro ⟨⟩)
        next data isFile =>
          split
          · exact still.refused (by rintro ⟨⟩)
          split
          next => exact still.refused (by rintro ⟨⟩)
          next container _ =>
            refine clean_acceptFile still fun stored => isDuplicate ⟨data, ?_, stored⟩
            rw [← readUploadFields_file read, isFile]

end Refusal

end Upload

/-- An upload that is refused, and whose compensation succeeds, leaves no clip but a
failed one, no job and no file. The same bytes are refused as a duplicate afterwards only
for a clip that was there before. -/
theorem upload_atomic [DigestCrate]
    (mediaDir : String) (auth : AuthUser) (multipart : Multipart)
    (envs : Nat → UploadEnv Url) (start : Library) {response : Response}
    (refused : ((Upload.upload mediaDir auth multipart).run UploadOp.exec envs start).1 =
      .ok (.error response))
    (undone : Upload.Calls.Undone
      ((Upload.upload mediaDir auth multipart).history UploadOp.exec envs start)) :
    NothingLeft start ((Upload.upload mediaDir auth multipart).run UploadOp.exec envs start).2
        ((Upload.upload mediaDir auth multipart).history UploadOp.exec envs start) ∧
      ∀ (later : AuthUser) (again : Multipart) (laterEnvs : Nat → UploadEnv Url),
        again.file = multipart.file →
        (∀ index, (laterEnvs index).Trusted
          ((Upload.upload mediaDir auth multipart).run UploadOp.exec envs start).2) →
        ((Upload.upload mediaDir later again).run UploadOp.exec laterEnvs
          ((Upload.upload mediaDir auth multipart).run UploadOp.exec envs start).2).1 =
          .ok (.error Upload.duplicateUpload) →
        ∃ data, multipart.file = some data ∧ ∃ row ∈ start.clips,
          row.isDuplicate (DigestCrate.sha256Hex data) = true := by
  have clean : Upload.Clean (fun _ : UploadEnv Url => True) start True
      (Upload.upload mediaDir auth multipart) (start, []) :=
    Upload.clean_upload ⟨rfl, by rintro _ ⟨⟩⟩ fun _ => trivial
  have left := (clean.recorded envs (fun _ => trivial) response refused).1 undone
  refine ⟨left, fun later again laterEnvs sameFile trusted duplicate => ?_⟩
  generalize ((Upload.upload mediaDir auth multipart).run UploadOp.exec envs start).2 = after
    at left trusted duplicate
  have retried : Upload.Clean (fun env : UploadEnv Url => env.Trusted after) after
      (∃ data, again.file = some data ∧ ∃ row ∈ after.clips,
        row.isDuplicate (DigestCrate.sha256Hex data) = true)
      (Upload.upload mediaDir later again) (after, []) :=
    Upload.clean_upload ⟨rfl, by rintro _ ⟨⟩⟩ id
  obtain ⟨data, isFile, row, stored, matched⟩ :=
    (retried.recorded laterEnvs trusted _ duplicate).2 (fun _ trusted => trusted) rfl
  refine ⟨data, sameFile ▸ isFile, row, ?_, matched⟩
  -- A failed clip is no duplicate, so this one was there before.
  rcases left.clips row stored with known | failed
  · exact known
  · exact ((ClipRow.isDuplicate_iff.mp matched).1.2.2 failed).elim

namespace Sample

/-- The first bytes of a video. -/
def video : List UInt8 := [0, 0, 0, 0, 0x66, 0x74, 0x79, 0x70]

instance digestCrate : DigestCrate where
  sha256Hex data :=
    if data = video then "2545aed0ac384e4e1cfcfada2d096ccab54568a995d69641cd4efe77b3d1bf44"
    else ""

/-- A form with the video in it. -/
def form : Multipart := ⟨[⟨some "File", [video], false⟩], false⟩

def uploading : AuthUser := ⟨activeUser 1, uploader, openSession⟩

/-- Nothing is stored yet. -/
def emptyLibrary : Library where
  toDb := Db.empty
  files _ := false
  sounds := SerialTable.empty
  hashtags := SerialTable.empty
  clipHashtags := Table.empty

/-- The database refuses the job, which is the eighth call of the upload. -/
def jobRefused (index : Nat) : UploadEnv NormalUrl where
  toWorkerEnv := { atSecond 0 with fault := if index = 7 then some (.db .failed) else none }
  storageUsed _ := 0

/-- The upload fails, everything it did is undone, and its clip has failed. -/
theorem form_evaluated :
    ((Upload.upload "m" uploading form).run UploadOp.exec jobRefused emptyLibrary).1 =
        .ok (.error databaseError) ∧
      ((Upload.upload "m" uploading form).history UploadOp.exec jobRefused
        emptyLibrary).all (fun call => !call.1.undoes || call.2.isOk) = true ∧
      ((Upload.upload "m" uploading form).run UploadOp.exec jobRefused
        emptyLibrary).2.clips.rows.map ClipRow.status = [.failed] := by
  decide +kernel

theorem form_undone :
    Upload.Calls.Undone
      ((Upload.upload "m" uploading form).history UploadOp.exec jobRefused emptyLibrary) := by
  intro call member undoes
  have succeeded := List.all_eq_true.mp form_evaluated.2.1 call member
  rw [undoes] at succeeded
  exact succeeded

/-- The upload leaves nothing behind when the database refuses its job. -/
theorem nothing_left_without_job :
    NothingLeft emptyLibrary
        ((Upload.upload "m" uploading form).run UploadOp.exec jobRefused emptyLibrary).2
        ((Upload.upload "m" uploading form).history UploadOp.exec jobRefused emptyLibrary) ∧
      ((Upload.upload "m" uploading form).run UploadOp.exec jobRefused
        emptyLibrary).2.clips.rows.map ClipRow.status = [.failed] :=
  ⟨(upload_atomic "m" uploading form jobRefused emptyLibrary form_evaluated.1 form_undone).1,
    form_evaluated.2.2⟩

end Sample
end TootTok
