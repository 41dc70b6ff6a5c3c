import TootTok.LocalObjects
import Mathlib.Algebra.Order.Round
import Mathlib.Data.Rat.Floor

/-!
# Notes read back

The note of a local clip is written member by member, and read by another
instance through `parseInboundNote`. What is read is what the clip says, its
duration to the millisecond.
-/

namespace TootTok

open Json (Value)

/-! ## Members that may be absent -/

namespace Json.Value

theorem get_object_append (key : String) (first rest : List (String × Value)) :
    (object (first ++ rest)).get key = ((object first).get key).or ((object rest).get key) := by
  simp only [get, List.find?_append]
  cases first.find? fun member => member.1 = key <;> simp

theorem get_object_optional {α : Type} (key name : String) (value : Option α) (write : α → Value) :
    (object (value.map fun value => (name, write value)).toList).get key =
      if name = key then value.map write else none := by
  cases value with
  | none => simp
  | some value => simp [get_object_cons]

end Json.Value

open Json.Value (get_object_append get_object_cons get_object_optional get_object_nil)

/-- A number of an `i32` column is read back. -/
theorem Note.intField_of_get
    {entry : Value} {key : String} {value : Option Int32}
    (written : entry.get key = value.map fun value => .number (.ofInt value.toInt)) :
    Note.intField entry key = value := by
  unfold Note.intField
  rw [written]
  cases value with
  | none => rfl
  | some value =>
      have least := Int32.le_toInt value
      have most := Int32.toInt_lt value
      have read : (Json.Number.ofInt value.toInt).asI64 = some value.toInt :=
        Json.Number.asI64_ofInt (by omega) (by omega)
      simp only [Option.map_some, Option.bind_some, Value.asI64, read]
      rw [if_pos (by omega), Int32.ofInt_toInt]

/-! ## Durations -/

/-- A number of seconds to the millisecond. -/
def toMillis (seconds : ℚ) : ℚ := (round (seconds * 1000) : ℚ) / 1000

theorem toMillis_nonneg {seconds : ℚ} (nonneg : 0 ≤ seconds) : 0 ≤ toMillis seconds := by
  have rounded : 0 ≤ round (seconds * 1000) := by
    rw [round_eq]
    exact Int.floor_nonneg.mpr (by positivity)
  unfold toMillis
  positivity

/-- What is lost is at most half a millisecond. -/
theorem abs_toMillis_sub_le (seconds : ℚ) : |toMillis seconds - seconds| ≤ 1 / 2000 := by
  have close := abs_sub_round (seconds * 1000)
  unfold toMillis
  rw [abs_le] at close ⊢
  constructor <;> linarith

theorem durationValue_finite [ChronoCrate] {seconds : ℚ} (nonneg : 0 ≤ seconds) :
    durationValue (.finite seconds) = .number (.float (toMillis seconds)) := by
  have scaled : 0 ≤ seconds * 1000 := by positivity
  unfold durationValue toMillis
  rw [round_eq]
  simp only [scaled, if_true]
  rfl

/-! ## The attachment -/

/-- The URL of the media of a clip. -/
def attachmentUrl (baseUrl : String) (clip : ClipRow) (mediaFilename : Option String) : String :=
  baseUrl ++ "/assets/" ++ toString clip.id ++ "/" ++ mediaFilename.getD "720.mp4"

theorem attachmentUrl_ne_empty (baseUrl : String) (clip : ClipRow) (mediaFilename : Option String) :
    attachmentUrl baseUrl clip mediaFilename ≠ "" := by
  intro empty
  have letters := congrArg String.toList empty
  simp [attachmentUrl] at letters

section RoundTrip

variable [ChronoCrate] (baseUrl : String) (clip : ClipRow) (mediaFilename : Option String)

omit [ChronoCrate] in
theorem getStr_url_attachmentJson :
    (attachmentJson baseUrl clip mediaFilename).getStr "url" =
      some (attachmentUrl baseUrl clip mediaFilename) := by
  simp [attachmentJson, Value.getStr, get_object_cons, Value.asStr, attachmentUrl]

omit [ChronoCrate] in
theorem mp4Url_attachmentJson :
    Note.mp4Url (attachmentJson baseUrl clip mediaFilename) =
      some (attachmentUrl baseUrl clip mediaFilename) := by
  have type : (attachmentJson baseUrl clip mediaFilename).getStr "type" = some "Document" := by
    simp [attachmentJson, Value.getStr, get_object_cons, Value.asStr]
  have mediaType : (attachmentJson baseUrl clip mediaFilename).getStr "mediaType" =
      some "video/mp4" := by
    simp [attachmentJson, Value.getStr, get_object_cons, Value.asStr]
  unfold Note.mp4Url
  rw [type, mediaType, getStr_url_attachmentJson]
  simp [Option.filter, attachmentUrl_ne_empty]

omit [ChronoCrate] in
theorem get_optional_attachmentJson :
    (attachmentJson baseUrl clip mediaFilename).get "width" =
        clip.width.map (fun width => .number (.ofInt width.toInt)) ∧
      (attachmentJson baseUrl clip mediaFilename).get "height" =
        clip.height.map (fun height => .number (.ofInt height.toInt)) ∧
      (attachmentJson baseUrl clip mediaFilename).get "duration" =
        clip.durationS.map durationValue := by
  refine ⟨?_, ?_, ?_⟩
  · simp [attachmentJson, get_object_cons, get_object_append, get_object_optional]
  · simp [attachmentJson, get_object_cons, get_object_append, get_object_optional]
  · simp [attachmentJson, get_object_cons, get_object_append, get_object_optional]

variable {clip} {seconds : Option ℚ}

/-- The attachment is read as it was written. -/
theorem findMp4Attachment_attachmentJson
    (timed : clip.durationS = seconds.map .finite) (nonneg : ∀ second ∈ seconds, 0 ≤ second) :
    Note.findMp4Attachment (.array [attachmentJson baseUrl clip mediaFilename]) =
      .ok (some {
        mediaUrl := attachmentUrl baseUrl clip mediaFilename
        width := clip.width
        height := clip.height
        durationS := seconds.map fun second => .finite (toMillis second) }) := by
  obtain ⟨width, height, duration⟩ := get_optional_attachmentJson baseUrl clip mediaFilename
  simp only [Note.findMp4Attachment, Note.findInEntries, mp4Url_attachmentJson]
  rw [Note.intField_of_get width, Note.intField_of_get height, duration, timed]
  cases seconds with
  | none => rfl
  | some second =>
      have known := nonneg second rfl
      have read : Duration.parseDurationSeconds (durationValue (.finite second)) =
          .ok (some (.finite (toMillis second))) := by
        rw [durationValue_finite known]
        simp [Duration.parseDurationSeconds, Json.Number.asF64, Option.filter,
          F64.isNonnegative, toMillis_nonneg known]
      simp only [Option.map_some, read]
      rfl

/-! ## The note -/

/-- What another instance should read. -/
def ClipRow.asRead (baseUrl : String) (clip : ClipRow) (author : ActorRow)
    (mediaFilename : Option String) (seconds : Option ℚ) : ParsedNote where
  id := clip.apId
  attributedTo := author.apId
  contentHtml := some (clip.captionHtml.getD "")
  sensitive := clip.isSensitive
  summary := clip.cwText
  published := some (clip.publishedAt.getD clip.createdAt)
  attachment := {
    mediaUrl := attachmentUrl baseUrl clip mediaFilename
    width := clip.width
    height := clip.height
    durationS := seconds.map fun second => .finite (toMillis second) }

theorem clipNoteJson_members (author : ActorRow) :
    (clipNoteJson baseUrl clip author mediaFilename).getStr "type" = some "Note" ∧
      (clipNoteJson baseUrl clip author mediaFilename).getStr "id" = some clip.apId ∧
      (clipNoteJson baseUrl clip author mediaFilename).get "attributedTo" =
        some (.string author.apId) ∧
      (clipNoteJson baseUrl clip author mediaFilename).get "attachment" =
        some (.array [attachmentJson baseUrl clip mediaFilename]) := by
  refine ⟨?_, ?_, ?_, ?_⟩ <;>
    simp [clipNoteJson, Value.getStr, get_object_cons, Value.asStr]

/-- The rest of a note is read as it was written. -/
theorem readNote_clipNoteJson
    (inverse : ChronoCrate.parseFromRfc3339
      (ChronoCrate.toRfc3339 (clip.publishedAt.getD clip.createdAt)) =
        some (clip.publishedAt.getD clip.createdAt))
    (author : ActorRow) :
    Note.readNote (clipNoteJson baseUrl clip author mediaFilename) clip.apId author.apId
        { mediaUrl := attachmentUrl baseUrl clip mediaFilename
          width := clip.width
          height := clip.height
          durationS := seconds.map fun second => .finite (toMillis second) } =
      clip.asRead baseUrl author mediaFilename seconds := by
  have summary : (clipNoteJson baseUrl clip author mediaFilename).getStr "summary" =
      clip.cwText := by
    cases written : clip.cwText with
    | none => simp [clipNoteJson, Value.getStr, get_object_cons, written]
    | some cw => simp [clipNoteJson, Value.getStr, get_object_cons, written, Value.asStr]
  unfold Note.readNote ClipRow.asRead
  rw [summary]
  simp [clipNoteJson, Value.getStr, get_object_cons, Value.asStr, Value.asBool, inverse]

/-- Note round trip. The note of a local clip is accepted and says what the clip
says, and the activity around it names its author as the actor. -/
theorem note_round_trip
    (baseUrl : String) (clip : ClipRow) (author : ActorRow) (mediaFilename : Option String)
    (inverse : ChronoCrate.parseFromRfc3339
      (ChronoCrate.toRfc3339 (clip.publishedAt.getD clip.createdAt)) =
        some (clip.publishedAt.getD clip.createdAt))
    (named : clip.apId ≠ "")
    (seconds : Option ℚ) (timed : clip.durationS = seconds.map .finite)
    (nonneg : ∀ second ∈ seconds, 0 ≤ second) :
    Note.parseInboundNote (clipNoteJson baseUrl clip author mediaFilename) =
        .ok (.ok (clip.asRead baseUrl author mediaFilename seconds)) ∧
      (attachmentJson baseUrl clip mediaFilename).getStr "url" =
        some (attachmentUrl baseUrl clip mediaFilename) ∧
      ∃ note, (clipCreateActivity baseUrl clip author mediaFilename).get "object" = some note ∧
        note = clipNoteJson baseUrl clip author mediaFilename ∧
        (clipCreateActivity baseUrl clip author mediaFilename).get "actor" =
          note.get "attributedTo" := by
  obtain ⟨type, id, attributedTo, attachment⟩ :=
    clipNoteJson_members baseUrl mediaFilename author
  have readId : ((clipNoteJson baseUrl clip author mediaFilename).getStr "id").filter
      (· ≠ "") = some clip.apId := by
    rw [id]
    simp [Option.filter, named]
  refine ⟨?_, getStr_url_attachmentJson baseUrl clip mediaFilename, _, ?_, rfl, ?_⟩
  · simp only [Note.parseInboundNote, type, readId, attributedTo, Note.firstString, attachment]
    rw [Option.elim_some,
      findMp4Attachment_attachmentJson baseUrl mediaFilename timed nonneg]
    exact congrArg (fun note => Except.ok (Except.ok note))
      (readNote_clipNoteJson baseUrl mediaFilename inverse author)
  · simp [clipCreateActivity, get_object_cons]
  · rw [attributedTo]
    simp [clipCreateActivity, get_object_cons]

end RoundTrip

/-! ## A clip of the epoch -/

namespace Sample

/-- Dates for a clip that is published at the epoch. -/
def epoch : ChronoCrate where
  parseFromRfc3339 text := if text = "1970-01-01T00:00:00+00:00" then some ⟨0⟩ else none
  toRfc3339 _ := "1970-01-01T00:00:00+00:00"

/-- A clip of two seconds and a third, whose height is not known. -/
def epochClip : ClipRow :=
  { NewUpload.row ⟨1, "https://a/clips/7", "hash", 9, none⟩ ⟨0⟩ 7 with
    durationS := some (.finite (7 / 3))
    width := some 480
    cwText := some "rain" }

def epochAuthor : ActorRow :=
  NewActor.row ⟨"al", .person, "key", "secret", "", "", "", "", "https://a/users/al"⟩ 1

theorem epochClip_read_back :
    @Note.parseInboundNote epoch
        (@clipNoteJson epoch "https://a" epochClip epochAuthor (some "480.mp4")) =
      .ok (.ok (epochClip.asRead "https://a" epochAuthor (some "480.mp4") (some (7 / 3)))) :=
  (@note_round_trip epoch "https://a" epochClip epochAuthor (some "480.mp4") rfl (by decide)
    (some (7 / 3)) rfl (by
      intro second isSecond
      cases isSecond
      norm_num)).1

end Sample

end TootTok
