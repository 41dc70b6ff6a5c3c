import TootTok.Crates
import TootTok.Duration

/-!
# Inbound notes

Which JSON objects are taken for a video note, and what is read from them. The
inbox and the backfill both go through `parseInboundNote`.
-/

namespace TootTok

open Json (Value)
open Duration (parseDurationSeconds)

/-- One validated mp4 attachment of an inbound note. -/
structure ParsedAttachment where
  mediaUrl : String
  width : Option Int32
  height : Option Int32
  durationS : Option F64
deriving DecidableEq

/-- A validated inbound note. -/
structure ParsedNote where
  id : String
  attributedTo : String
  contentHtml : Option String
  sensitive : Bool
  summary : Option String
  published : Option DateTime
  attachment : ParsedAttachment
deriving DecidableEq

/-- What an update of a note may change. -/
structure NoteFields where
  contentHtml : Option String
  sensitive : Bool
  summary : Option String
deriving DecidableEq

namespace Note

/-- A string, or the first string of an array. -/
def firstString : Option Value → Option String
  | some (.string text) => some text
  | some (.array items) => items.findSome? Value.asStr
  | _ => none

/-- An integer member in the range of `i32`. -/
def intField (entry : Value) (key : String) : Option Int32 :=
  ((entry.get key).bind Value.asI64).bind fun value =>
    if -0x80000000 ≤ value ∧ value < 0x80000000 then some (Int32.ofInt value) else none

/-- The URL of an attachment entry that satisfies the media rules: a
`Document` or `Video` of type `video/mp4` with a URL. -/
def mp4Url (entry : Value) : Option String :=
  let kind := (entry.getStr "type").getD ""
  if kind ≠ "Document" ∧ kind ≠ "Video" then none
  else if entry.getStr "mediaType" ≠ some "video/mp4" then none
  else (entry.getStr "url").filter (· ≠ "")

/-- The first entry that satisfies the media rules. -/
def findInEntries : List Value → Panicking (Option ParsedAttachment)
  | [] => .ok none
  | entry :: entries =>
      match mp4Url entry with
      | none => findInEntries entries
      | some url => do
          let durationS ←
            match entry.get "duration" with
            | some value => parseDurationSeconds value
            | none => .ok none
          pure (some {
            mediaUrl := url
            width := intField entry "width"
            height := intField entry "height"
            durationS := durationS })

/-- The attachment may be an array or a single object. -/
def findMp4Attachment : Value → Panicking (Option ParsedAttachment)
  | .array items => findInEntries items
  | .object members => findInEntries [.object members]
  | _ => .ok none

variable [ChronoCrate]

/-- The note read from an object whose required members have been found. -/
def readNote
    (object : Value) (id attributedTo : String) (attachment : ParsedAttachment) :
    ParsedNote where
  id := id
  attributedTo := attributedTo
  contentHtml := object.getStr "content"
  sensitive := ((object.get "sensitive").bind Value.asBool).getD false
  summary := object.getStr "summary"
  published := (object.getStr "published").bind ChronoCrate.parseFromRfc3339
  attachment := attachment

/-- Validate an inbound note. A rejection carries its reason. -/
def parseInboundNote (object : Value) : Panicking (Except String ParsedNote) :=
  if object.getStr "type" ≠ some "Note" then
    .ok (.error "object is not a Note")
  else
    match (object.getStr "id").filter (· ≠ "") with
    | none => .ok (.error "note has no id")
    | some id =>
        match firstString (object.get "attributedTo") with
        | none => .ok (.error "note has no attributedTo")
        | some attributedTo =>
            ((object.get "attachment").elim (.ok none) findMp4Attachment).map fun
              | none => .error
                  "attachment array has no Document/Video with mediaType video/mp4"
              | some attachment => .ok (readNote object id attributedTo attachment)

omit [ChronoCrate] in
/-- Lenient extraction for an update: no attachment is required. -/
def extractNoteFields (object : Value) : NoteFields where
  contentHtml := object.getStr "content"
  sensitive := ((object.get "sensitive").bind Value.asBool).getD false
  summary := object.getStr "summary"

omit [ChronoCrate] in
/-- The id of an object embedded in a `Create` or `Update`. -/
def embeddedObjectId (object : Value) : Option String :=
  (object.getStr "id").filter (· ≠ "")

/-- What an accepted note was read from. -/
theorem parseInboundNote_eq_ok
    {object : Value} {note : ParsedNote}
    (parsed : parseInboundNote object = .ok (.ok note)) :
    embeddedObjectId object = some note.id ∧
      firstString (object.get "attributedTo") = some note.attributedTo ∧
      (object.get "attachment").elim (.ok none) findMp4Attachment =
        .ok (some note.attachment) := by
  unfold parseInboundNote at parsed
  split at parsed
  · cases parsed
  split at parsed
  · cases parsed
  next id foundId =>
    split at parsed
    · cases parsed
    next attributedTo foundAttributed =>
      generalize foundAttachment :
        (object.get "attachment").elim (.ok none) findMp4Attachment = search at parsed
      cases search with
      | error panic => cases parsed
      | ok selected =>
          cases selected with
          | none => cases parsed
          | some attachment =>
              cases parsed
              exact ⟨foundId, foundAttributed, rfl⟩

end Note
end TootTok
