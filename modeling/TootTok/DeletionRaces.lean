import TootTok.NotePaths
import TootTok.ActorDeletion
import TootTok.DeleteAuthority
import TootTok.DeliveryProtocol

/-!
# Deletes among other activities

A `Create` asks for the tombstone of its object and inserts the clip some calls later; a
`Delete` looks the clip up and then buries the object. The calls of any number of handlers
may interleave. What a `Delete` has looked up decides which inserts it takes back.
-/

namespace TootTok

open Effects
open Json (Value)
open Relational (Table SerialTable)
open UrlCrate

variable {Url : Type}

/-! ## Live objects -/

/-- The object has a clip that is not deleted. -/
def Db.live (db : Db) (objectId : String) : Bool :=
  db.clips.rows.any fun clip => clip.apId = objectId ∧ clip.deletedAt = none

theorem Db.live_iff {db : Db} {objectId : String} :
    db.live objectId = true ↔ ∃ clip ∈ db.clips, clip.apId = objectId ∧ clip.deletedAt = none := by
  simp only [live, List.any_eq_true, decide_eq_true_eq]
  rfl

theorem Db.live_congr {left right : Db} {objectId : String}
    (same : (∃ clip ∈ left.clips, clip.apId = objectId ∧ clip.deletedAt = none) ↔
      ∃ clip ∈ right.clips, clip.apId = objectId ∧ clip.deletedAt = none) :
    left.live objectId = right.live objectId := by
  rw [Bool.eq_iff_iff, live_iff, live_iff]
  exact same

/-- An object lives while its one clip does. -/
theorem Db.live_eq_false_of_deleted {db : Db} {objectId : String} {clip : ClipRow}
    (stored : clip ∈ db.clips) (named : clip.apId = objectId) (deleted : clip.deletedAt ≠ none) :
    db.live objectId = false := by
  rw [← Bool.not_eq_true, live_iff]
  rintro ⟨other, otherStored, otherNamed, otherLive⟩
  have same : clip = other := SerialTable.eq_of_clash (fun _ _ => ClipRow.Clash.symm)
    stored otherStored (.inl (named.trans otherNamed.symm))
  exact deleted (same ▸ otherLive)

theorem Db.live_eq_false_of_clipByApId {db : Db} {objectId : String}
    (unknown : db.clipByApId objectId = none) : db.live objectId = false := by
  rw [← Bool.not_eq_true, live_iff]
  rintro ⟨clip, stored, named, -⟩
  rw [clipByApId_eq_some.mpr ⟨stored, named⟩] at unknown
  cases unknown

namespace Operation

/-- What a call does to the life of an object. -/
def liveAfter (objectId : String) (live : Bool) :
    (op : Operation Url) → Except Error op.Result → Bool
  | .createRemote new, .ok _ => live || new.apId = objectId
  | .markClipDeleted _, .ok (some clip) => live && clip.apId ≠ objectId
  | _, _ => live

@[simp] theorem liveAfter_error (objectId : String) (live : Bool) (op : Operation Url)
    (error : Error) : liveAfter objectId live op (.error error) = live := by
  cases op <;> rfl

end Operation

namespace Clips

variable {table : ClipTable} {objectId : String} {now : DateTime}

/-- A clip that is deleted by its number is the one that is returned. -/
theorem live_markDeleted {id : Nat} :
    (∃ clip ∈ (markDeleted id now table).2, clip.apId = objectId ∧ clip.deletedAt = none) ↔
      (∃ clip ∈ table, clip.apId = objectId ∧ clip.deletedAt = none) ∧
        ∀ clip, (markDeleted id now table).1 = some clip → clip.apId ≠ objectId := by
  have mem (row : ClipRow) : row ∈ (markDeleted id now table).2 ↔ ∃ old ∈ table,
      Table.changeWhere (fun row => row.id = id) (ClipRow.delete now) old = row := mem_delete
  have hit (old : ClipRow) (named : old.id = id) :
      Table.changeWhere (fun row => row.id = id) (ClipRow.delete now) old = old.delete now := by
    simp [Table.changeWhere, named]
  have missed (old : ClipRow) (other : old.id ≠ id) :
      Table.changeWhere (fun row => row.id = id) (ClipRow.delete now) old = old := by
    simp [Table.changeWhere, other]
  constructor
  · rintro ⟨clip, stored, named, live⟩
    obtain ⟨old, oldStored, changed⟩ := (mem clip).mp stored
    by_cases isHit : old.id = id
    · rw [hit old isHit] at changed
      rw [← changed] at live
      cases live
    rw [missed old isHit] at changed
    subst changed
    refine ⟨⟨old, oldStored, named, live⟩, fun other found sameName => isHit ?_⟩
    have otherStored : other ∈ (markDeleted id now table).2 := Table.mem_of_find?_eq_some found
    have isId : other.id = id := by simpa using Table.holds_of_find?_eq_some found
    have same : other = old := SerialTable.eq_of_clash (fun _ _ => ClipRow.Clash.symm)
      otherStored stored (.inl (sameName.trans named.symm))
    rw [← same]
    exact isId
  · rintro ⟨⟨clip, stored, named, live⟩, spared⟩
    have other : clip.id ≠ id := by
      intro isId
      have deleted : clip.delete now ∈ (markDeleted id now table).2 :=
        (mem _).mpr ⟨clip, stored, hit clip isId⟩
      refine spared (clip.delete now) ?_ named
      exact SerialTable.find?_eq_some_of_mem (fun _ _ => ClipRow.Clash.symm)
        (fun left right leftId rightId => .inl (by simp_all)) deleted
        (decide_eq_true (show (clip.delete now).id = id from isId))
    exact ⟨clip, (mem clip).mpr ⟨clip, stored, missed clip other⟩, named, live⟩

/-- An update of the fields of a note leaves the ids and the deletion marks. -/
theorem live_updateNoteFields {id : Nat} {captionHtml : Option String} {isSensitive : Bool}
    {cwText : Option String} :
    (∃ clip ∈ (updateNoteFields id captionHtml isSensitive cwText table).2,
        clip.apId = objectId ∧ clip.deletedAt = none) ↔
      ∃ clip ∈ table, clip.apId = objectId ∧ clip.deletedAt = none := by
  have kept (row : ClipRow) :
      (Table.changeWhere (fun row => row.id = id)
        (ClipRow.updateNoteFields captionHtml isSensitive cwText) row).apId = row.apId ∧
      (Table.changeWhere (fun row => row.id = id)
        (ClipRow.updateNoteFields captionHtml isSensitive cwText) row).deletedAt =
          row.deletedAt := by
    unfold Table.changeWhere
    split <;> exact ⟨rfl, rfl⟩
  constructor
  · rintro ⟨clip, stored, named, live⟩
    obtain ⟨old, oldStored, rfl⟩ := mem_updateNoteFields.mp stored
    exact ⟨old, oldStored, (kept old).1.symm.trans named, (kept old).2.symm.trans live⟩
  · rintro ⟨clip, stored, named, live⟩
    exact ⟨_, mem_updateNoteFields.mpr ⟨clip, stored, rfl⟩, (kept clip).1.trans named,
      (kept clip).2.trans live⟩

end Clips

/-- What an operation does to the life of an object can be read off its outcome. -/
theorem Operation.live_exec (env : Env Url) {op : Operation Url}
    (federated : op.servesAccount = false) (db : Db) (objectId : String) :
    (exec env op db).2.live objectId =
      liveAfter objectId (db.live objectId) op (exec env op db).1 := by
  rcases exec_cases env op db with ⟨error, failed⟩ | performed
  · rw [failed, liveAfter_error]
  by_cases frame : op.writes = some .clips
  case neg =>
    have same : (exec env op db).2.clips = db.clips := exec_frame .clips frame env db
    have unchanged : (exec env op db).2.live objectId = db.live objectId := by
      unfold Db.live
      rw [same]
    rw [unchanged]
    cases op with
    | createRemote _ | markClipDeleted _ => exact (frame rfl).elim
    | _ => rfl
  rw [performed]
  cases op with
  | createRemote new =>
      rcases db.createRemote_cases new env.now with
        ⟨⟨row, succeeded⟩, now, id, rows, -⟩ | ⟨-, refused, same⟩
      · have isOk : (perform env (.createRemote new) db).1 = .ok row := by
          simp only [perform, checked, Db.onClips, succeeded, Except.mapError]
        rw [isOk, Bool.eq_iff_iff]
        simp only [liveAfter, Bool.or_eq_true, decide_eq_true_eq]
        rw [Db.live_iff, Db.live_iff]
        constructor
        · rintro ⟨clip, stored, named, live⟩
          rcases (rows clip).mp stored with old | rfl
          · exact .inl ⟨clip, old, named, live⟩
          · exact .inr named
        · rintro (⟨clip, stored, facts⟩ | named)
          · exact ⟨clip, (rows clip).mpr (.inl stored), facts⟩
          · exact ⟨_, (rows _).mpr (.inr rfl), named, rfl⟩
      · have isError : (perform env (.createRemote new) db).1 = .error (.db .uniqueViolation) := by
          simp only [perform, checked, Db.onClips, refused, Except.mapError]
        rw [isError, liveAfter_error]
        refine Db.live_congr (exists_congr fun clip => and_congr_left' (same clip))
  | updateNoteFields id captionHtml isSensitive cwText =>
      exact Db.live_congr Clips.live_updateNoteFields
  | markClipDeleted id =>
      show Db.live _ objectId = liveAfter objectId (db.live objectId) (.markClipDeleted id)
        (.ok (Clips.markDeleted id env.now db.clips).1)
      rw [Bool.eq_iff_iff, Db.live_iff]
      refine Clips.live_markDeleted.trans ?_
      cases (Clips.markDeleted id env.now db.clips).1 with
      | none => simp [liveAfter, Db.live_iff]
      | some clip => simp [liveAfter, Db.live_iff]
  | createPendingUpload _ | setApId _ _ | markClipsOfActorDeleted _ => cases federated
  | _ => cases frame

/-! ## What outcomes tell -/

namespace Operation

variable {env : Env Url} {op : Operation Url} {db : Db}

/-- An operation that succeeds has been performed. -/
theorem performed_of_ok {result : op.Result} (succeeded : (exec env op db).1 = .ok result) :
    exec env op db = perform env op db := by
  rcases exec_cases env op db with ⟨error, failed⟩ | performed
  · rw [failed] at succeeded
    cases succeeded
  · exact performed

/-- Where a clip comes from that is there after an operation. -/
theorem clip_source (federated : op.servesAccount = false) {clip : ClipRow}
    (member : clip ∈ (exec env op db).2.clips) :
    (∃ old ∈ db.clips, old.actorId = clip.actorId ∧ old.apId = clip.apId) ∨
      ∃ new, op = .createRemote new ∧ new.actorId = clip.actorId ∧ new.apId = clip.apId := by
  by_cases frame : op.writes = some .clips
  case neg =>
    have same : (exec env op db).2.clips = db.clips := exec_frame .clips frame env db
    exact .inl ⟨clip, same ▸ member, rfl, rfl⟩
  rcases exec_cases env op db with ⟨error, failed⟩ | performed
  · rw [failed] at member
    exact .inl ⟨clip, member, rfl, rfl⟩
  rw [performed] at member
  cases op with
  | createRemote new =>
      rcases db.createRemote_cases new env.now with ⟨-, now, id, rows, -⟩ | ⟨-, -, same⟩
      · rcases (rows clip).mp member with old | rfl
        · exact .inl ⟨clip, old, rfl, rfl⟩
        · exact .inr ⟨new, rfl, rfl, rfl⟩
      · exact .inl ⟨clip, (same clip).mp member, rfl, rfl⟩
  | updateNoteFields id captionHtml isSensitive cwText =>
      obtain ⟨old, stored, rfl⟩ := Clips.mem_updateNoteFields.mp member
      refine .inl ⟨old, stored, ?_⟩
      unfold Table.changeWhere
      split <;> exact ⟨rfl, rfl⟩
  | markClipDeleted id =>
      obtain ⟨old, stored, rfl⟩ := Clips.mem_delete.mp member
      refine .inl ⟨old, stored, ?_⟩
      unfold Table.changeWhere
      split <;> exact ⟨rfl, rfl⟩
  | createPendingUpload _ | setApId _ _ | markClipsOfActorDeleted _ => cases federated
  | _ => cases frame

/-- A clip keeps its ids and its deletion mark. -/
theorem clip_kept (federated : op.servesAccount = false) {row : ClipRow}
    (stored : row ∈ db.clips) :
    ∃ new ∈ (exec env op db).2.clips, new.id = row.id ∧ new.apId = row.apId ∧
      (row.deletedAt ≠ none → new.deletedAt ≠ none) := by
  by_cases frame : op.writes = some .clips
  case neg =>
    have same : (exec env op db).2.clips = db.clips := exec_frame .clips frame env db
    exact ⟨row, same ▸ stored, rfl, rfl, id⟩
  rcases exec_cases env op db with ⟨error, failed⟩ | performed
  · exact ⟨row, by rwa [failed], rfl, rfl, id⟩
  rw [performed]
  cases op with
  | createRemote new =>
      exact ⟨row, SerialTable.mem_insert_of_mem (new.row env.now) (fun _ => rfl) stored, rfl,
        rfl, id⟩
  | updateNoteFields id captionHtml isSensitive cwText =>
      refine ⟨_, Clips.mem_updateNoteFields.mpr ⟨row, stored, rfl⟩, ?_⟩
      unfold Table.changeWhere
      split <;> exact ⟨rfl, rfl, fun deleted => deleted⟩
  | markClipDeleted id =>
      refine ⟨_, Clips.mem_delete.mpr ⟨row, stored, rfl⟩, ?_⟩
      unfold Table.changeWhere
      split
      · exact ⟨rfl, rfl, fun _ => Option.some_ne_none _⟩
      · exact ⟨rfl, rfl, fun deleted => deleted⟩
  | createPendingUpload _ | setApId _ _ | markClipsOfActorDeleted _ => cases federated
  | _ => cases frame

/-- A clip that is deleted by its number is deleted afterwards. -/
theorem clip_marked {row : ClipRow} {marked : Option ClipRow}
    (succeeded : (exec env (.markClipDeleted row.id : Operation Url) db).1 = .ok marked)
    (stored : row ∈ db.clips) :
    ∃ new ∈ (exec env (.markClipDeleted row.id : Operation Url) db).2.clips,
      new.id = row.id ∧ new.apId = row.apId ∧ new.deletedAt ≠ none := by
  rw [performed_of_ok succeeded]
  refine ⟨row.delete env.now, Clips.mem_delete.mpr ⟨row, stored, ?_⟩, rfl, rfl,
    Option.some_ne_none _⟩
  simp [Table.changeWhere]

/-- A taken id is refused. -/
theorem createRemote_refused {new : NewRemoteClip} {row result : ClipRow}
    (stored : row ∈ db.clips) (taken : row.apId = new.apId) :
    (exec env (.createRemote new : Operation Url) db).1 ≠ .ok result := by
  intro succeeded
  have performed := performed_of_ok succeeded
  rcases db.createRemote_cases new env.now with
    ⟨-, now, id, -, fresh⟩ | ⟨-, refused, -⟩
  · exact (fresh row stored).2 taken
  · rw [performed] at succeeded
    simp only [perform, checked, Db.onClips, refused, Except.mapError] at succeeded
    cases succeeded

/-- A tombstone is there once it was written. -/
theorem tombstoned_of_upsert {objectId : String} {type : TombstoneType} {row : TombstoneRow}
    (succeeded : (exec env (.upsertTombstone objectId type : Operation Url) db).1 = .ok row) :
    (exec env (.upsertTombstone objectId type : Operation Url) db).2.tombstoned objectId =
      true := by
  rw [performed_of_ok succeeded]
  obtain ⟨stored, isStored, named, -⟩ :=
    Tombstones.mem_upsert objectId type env.now db.tombstones
  exact Db.tombstoned_iff.mpr ⟨stored, isStored, named⟩

/-- An actor that was read by its id is known. -/
theorem known_of_fetchActorByApId {apId : String} {row : ActorRow}
    (succeeded : (exec env (.fetchActorByApId apId : Operation Url) db).1 = .ok (some row)) :
    Actors.Known row.id apId db.actors := by
  rw [performed_of_ok succeeded] at succeeded
  obtain ⟨stored, named⟩ := Db.actorByApId_eq_some.mp (Except.ok.inj succeeded)
  exact ⟨row, stored, rfl, named⟩

/-- An actor that was stored is known. -/
theorem known_of_upsertRemote {parts : RemoteActorParts} {row : ActorRow}
    (succeeded : (exec env (.upsertRemote parts : Operation Url) db).1 = .ok row) :
    Actors.Known row.id parts.id (exec env (.upsertRemote parts : Operation Url) db).2.actors := by
  have performed := performed_of_ok succeeded
  rw [performed] at succeeded ⊢
  obtain ⟨other, isOther, stored, named, -, -⟩ := Actors.upsertRemote_spec parts db.actors
  have same : other = row := by
    simp only [perform, checked, Db.onActors, isOther, Except.mapError] at succeeded
    exact Except.ok.inj succeeded
  subst same
  exact ⟨other, stored, rfl, named⟩

/-- The author of a clip is found under its number. -/
theorem author_of_known {id : Nat} {apId : String} {author : Option ActorRow}
    (known : Actors.Known id apId db.actors)
    (succeeded : (exec env (.fetchActorById id : Operation Url) db).1 = .ok author) :
    author.any (fun author => author.apId = apId) = true := by
  obtain ⟨row, stored, numbered, named⟩ := known
  rw [performed_of_ok succeeded] at succeeded
  have found : db.actorById id = some row := Db.actorById_eq_some.mpr ⟨stored, numbered⟩
  cases found.symm.trans (Except.ok.inj succeeded)
  simpa using named

end Operation

/-! ## Runs -/

section Runs

variable [UrlCrate Url] {ι : Type} [DecidableEq ι]

/-! ### Tombstones win over later Creates -/

omit [UrlCrate Url] in
/-- No operation takes a tombstone away. -/
theorem Operation.tombstoned_exec (env : Env Url) (op : Operation Url) {db : Db}
    {objectId : String} (tombstoned : db.tombstoned objectId = true) :
    (exec env op db).2.tombstoned objectId = true := by
  rcases exec_cases env op db with ⟨error, failed⟩ | performed
  · rw [failed]
    exact tombstoned
  rw [performed]
  have has := Db.tombstoned_iff.mp tombstoned
  cases op with
  | upsertTombstone other type =>
      exact Db.tombstoned_iff.mpr (Tombstones.has_upsert has other type env.now)
  | insertTombstone other type =>
      exact Db.tombstoned_iff.mpr (Tombstones.has_insert has other type env.now)
  | _ => exact tombstoned

/-- Whether the object has come to life since a thread looked its clip up. -/
def liveSince (objectId : String) (deleter : ι) (since : Option Bool) :
    DeliveryEvent ι Url → Option Bool
  | .began thread => if thread = deleter then none else since
  | .called ⟨thread, .fetchClipByApId _, _, _⟩ =>
      if thread = deleter then some false else since
  | .called ⟨_, op, _, outcome⟩ => since.map fun live => op.liveAfter objectId live outcome

/-- Whether an insert that no other deletion has taken back has come after the lookup of the
thread, which has to come first. -/
def insertedSinceLookup (objectId : String) (deleter : ι) (events : List (DeliveryEvent ι Url)) :
    Option Bool :=
  events.foldl (liveSince objectId deleter) none

omit [UrlCrate Url] in
@[simp] theorem insertedSinceLookup_append (objectId : String) (deleter : ι)
    (events : List (DeliveryEvent ι Url)) (event : DeliveryEvent ι Url) :
    insertedSinceLookup objectId deleter (events ++ [event]) =
      liveSince objectId deleter (insertedSinceLookup objectId deleter events) event := by
  unfold insertedSinceLookup
  rw [List.foldl_append]
  rfl

/-- What holds while a `Delete` of an object by its author races the other handlers: every
clip of the object and everyone whom its `Create`s resolve is the author's; the clip that the
`Delete` has found is there, and deleted once it says so; and when it has found none, the
object lives exactly if it was inserted since. -/
structure Race (activities : ι → ApActivities Url) (objectId : String) (deleter : ι)
    (events : List (DeliveryEvent ι Url)) (db : Db) : Prop where
  owned : ∀ clip ∈ db.clips, clip.apId = objectId →
    Actors.Known clip.actorId (asStr (activities deleter).actor) db.actors
  faithful : ∀ thread url document,
    ⟨.fetchActor url, .ok document⟩ ∈ recollectionOf events thread → document.id = url
  resolved : ∀ thread row, (activities thread).creates = some objectId →
    (recollectionOf events thread).Resolved (activities deleter).actor row →
      Actors.Known row.id (asStr (activities deleter).actor) db.actors
  buried : ∀ thread, (recollectionOf events thread).Buried objectId →
    db.tombstoned objectId = true
  fresh : recollectionOf events deleter = [] → insertedSinceLookup objectId deleter events = none
  missed : ⟨.fetchClipByApId objectId, .ok none⟩ ∈ recollectionOf events deleter →
    insertedSinceLookup objectId deleter events = some (db.live objectId)
  found : ∀ clip, ⟨.fetchClipByApId objectId, .ok (some clip)⟩ ∈ recollectionOf events deleter →
    insertedSinceLookup objectId deleter events = some false ∧
      Actors.Known clip.actorId (asStr (activities deleter).actor) db.actors ∧
      ∃ row ∈ db.clips, row.id = clip.id ∧ row.apId = objectId ∧
        ((∃ marked, ⟨.markClipDeleted clip.id, .ok marked⟩ ∈ recollectionOf events deleter) →
          row.deletedAt ≠ none)
  author : ∀ clip, ⟨.fetchClipByApId objectId, .ok (some clip)⟩ ∈ recollectionOf events deleter →
    ∀ author : Option ActorRow,
      ⟨.fetchActorById clip.actorId, .ok author⟩ ∈ recollectionOf events deleter →
        author.any (fun author => author.apId = asStr (activities deleter).actor) = true

namespace Race

variable {activities : ι → ApActivities Url} {objectId : String} {deleter : ι}
  {events : List (DeliveryEvent ι Url)} {db : Db}

theorem start (owned : ∀ clip ∈ db.clips, clip.apId = objectId →
      Actors.Known clip.actorId (asStr (activities deleter).actor) db.actors) :
    Race activities objectId deleter [] db where
  owned := owned
  faithful := by rintro _ _ _ ⟨⟩
  resolved := by rintro _ _ _ (nothing | ⟨_, nothing⟩) <;> cases nothing
  buried := by rintro _ ⟨_, _, ⟨⟩⟩
  fresh _ := rfl
  missed := by rintro ⟨⟩
  found := by rintro _ ⟨⟩
  author := by rintro _ ⟨⟩

theorem began (race : Race activities objectId deleter events db) (thread : ι) :
    Race activities objectId deleter (events ++ [.began thread]) db := by
  have earlier {other : ι} {call : Σ op : Operation Url, Except Error op.Result}
      (member : call ∈ recollectionOf (events ++ [.began thread]) other) :
      call ∈ recollectionOf events other := mem_callsOfTask_began member
  -- Either the deleter starts over, or its memory and the count are what they were.
  have cases : (recollectionOf (events ++ [.began thread]) deleter = [] ∧
        insertedSinceLookup objectId deleter (events ++ [.began thread]) = none) ∨
      (recollectionOf (events ++ [.began thread]) deleter = recollectionOf events deleter ∧
        insertedSinceLookup objectId deleter (events ++ [.began thread]) =
          insertedSinceLookup objectId deleter events) := by
    rw [insertedSinceLookup_append, liveSince]
    unfold recollectionOf
    rw [callsOfTask_began]
    by_cases same : thread = deleter
    · subst same
      exact .inl ⟨Function.update_self .., if_pos rfl⟩
    · exact .inr ⟨Function.update_of_ne (Ne.symm same) .., if_neg same⟩
  constructor
  · exact race.owned
  · exact fun other url document member => race.faithful other url document (earlier member)
  · intro other row creates resolved
    refine race.resolved other row creates (resolved.mono fun call member => earlier member)
  · rintro other ⟨type, row, member⟩
    exact race.buried other ⟨type, row, earlier member⟩
  · rcases cases with ⟨-, reset⟩ | ⟨same, since⟩
    · exact fun _ => reset
    · rw [same, since]
      exact race.fresh
  · rcases cases with ⟨nothing, -⟩ | ⟨same, since⟩
    · rw [nothing]
      rintro ⟨⟩
    · rw [same, since]
      exact race.missed
  · rcases cases with ⟨nothing, -⟩ | ⟨same, since⟩
    · rw [nothing]
      rintro _ ⟨⟩
    · rw [same, since]
      exact race.found
  · rcases cases with ⟨nothing, -⟩ | ⟨same, -⟩
    · rw [nothing]
      rintro _ ⟨⟩
    · rw [same]
      exact race.author

/-- The clip that the `Delete` has found stays, and so does its deletion mark. -/
theorem found_called (race : Race activities objectId deleter events db) {thread : ι}
    {op : Operation Url} {env : Env Url}
    (mayCall : (activities thread).MayCall (recollectionOf events thread) op)
    {clip : ClipRow}
    (found : ⟨.fetchClipByApId objectId, .ok (some clip)⟩ ∈ recollectionOf events deleter) :
    ∃ row ∈ (Operation.exec env op db).2.clips, row.id = clip.id ∧ row.apId = objectId ∧
      ((∃ marked, ⟨.markClipDeleted clip.id, .ok marked⟩ ∈ recollectionOf
        (events ++ [.called ⟨thread, op, env, (Operation.exec env op db).1⟩]) deleter) →
        row.deletedAt ≠ none) := by
  obtain ⟨-, -, row, stored, numbered, named, marks⟩ := race.found clip found
  generalize isOutcome : (Operation.exec env op db).1 = outcome
  by_cases marksNow : op = .markClipDeleted clip.id ∧ ∃ marked, outcome = .ok marked
  · obtain ⟨rfl, marked, rfl⟩ := marksNow
    rw [← numbered] at isOutcome ⊢
    obtain ⟨new, isNew, sameId, sameName, deleted⟩ := Operation.clip_marked isOutcome stored
    exact ⟨new, isNew, sameId, sameName.trans named, fun _ => deleted⟩
  · obtain ⟨new, isNew, sameId, sameName, kept⟩ :=
      Operation.clip_kept mayCall.federated stored
    refine ⟨new, isNew, sameId.trans numbered, sameName.trans named, ?_⟩
    rintro ⟨marked, member⟩
    rcases mem_callsOfTask_called member with earlier | ⟨-, same⟩
    · exact kept (marks ⟨marked, earlier⟩)
    · cases same
      exact (marksNow ⟨rfl, marked, rfl⟩).elim

omit [UrlCrate Url] in
/-- A call of the deleter itself that is no lookup, or any call of the others, counts. -/
theorem insertedSinceLookup_called {thread : ι} {op : Operation Url} {env : Env Url}
    {outcome : Except Error op.Result}
    (noLookup : thread = deleter → ∀ apId, op ≠ .fetchClipByApId apId) :
    insertedSinceLookup objectId deleter (events ++ [.called ⟨thread, op, env, outcome⟩]) =
      (insertedSinceLookup objectId deleter events).map fun live =>
        op.liveAfter objectId live outcome := by
  rw [insertedSinceLookup_append]
  cases op with
  | fetchClipByApId apId =>
      have other : thread ≠ deleter := fun same => noLookup same apId rfl
      show (if thread = deleter then some false else _) = _
      rw [if_neg other]
      cases insertedSinceLookup objectId deleter events <;> rfl
  | _ => rfl

/-- What the handlers may call keeps the invariant. -/
theorem called (deletes : (activities deleter).deletes = some objectId)
    (authors : ∀ thread, (activities thread).creates = some objectId →
      (activities thread).actor = (activities deleter).actor)
    (race : Race activities objectId deleter events db) {thread : ι} {op : Operation Url}
    {env : Env Url} (mayCall : (activities thread).MayCall (recollectionOf events thread) op)
    (faithful : env.Faithful) :
    Race activities objectId deleter
      (events ++ [.called ⟨thread, op, env, (Operation.exec env op db).1⟩])
      (Operation.exec env op db).2 := by
  -- The deleter looks the clip up once, before anything that it remembers.
  have lookup {call : Σ op : Operation Url, Except Error op.Result}
      (member : call ∈ recollectionOf events deleter) (isDeleter : thread = deleter)
      (apId : String) : op ≠ .fetchClipByApId apId := by
    rintro rfl
    subst isDeleter
    rw [(mayCall objectId deletes).2] at member
    cases member
  have revived := Operation.live_exec env mayCall.federated db objectId
  have stays := @race.found_called _ _ _ _ _ _ _ _ _ thread op env mayCall
  have sources := @Operation.clip_source _ env op db mayCall.federated
  have knows {id : Nat} {apId : String} := @Operation.known_exec _ id apId env op db
  have entombed := @Operation.tombstoned_exec _ env op db objectId
  generalize isOutcome : (Operation.exec env op db).1 = outcome at revived stays
  generalize isFinal : (Operation.exec env op db).2 = final at revived stays sources knows entombed
  have isNew {other : ι} {call : Σ op : Operation Url, Except Error op.Result}
      (member : call ∈ recollectionOf
        (events ++ [.called ⟨thread, op, env, outcome⟩]) other) :=
    mem_callsOfTask_called member
  constructor
  case owned =>
    intro clip stored named
    rcases sources stored with ⟨old, oldStored, sameActor, sameName⟩ |
      ⟨new, rfl, sameActor, sameName⟩
    · exact sameActor ▸ knows (race.owned old oldStored (sameName.trans named))
    · obtain ⟨creates, -, row, numbered, resolved⟩ := mayCall
      rw [sameName, named] at creates
      rw [authors thread creates] at resolved
      rw [← sameActor, ← numbered]
      exact knows (race.resolved thread row creates resolved)
  case faithful =>
    intro other url document member
    rcases isNew member with earlier | ⟨-, same⟩
    · exact race.faithful other url document earlier
    · cases same
      rw [Operation.performed_of_ok isOutcome] at isOutcome
      refine faithful url document ?_
      cases answer : env.fetchActor url with
      | error error => simp [Operation.perform, Operation.requested, answer, Except.mapError] at isOutcome
      | ok found =>
          simp only [Operation.perform, Operation.requested, answer, Except.mapError,
            Except.ok.injEq] at isOutcome
          rw [isOutcome]
  case resolved =>
    rintro other row creates (member | ⟨parts, member⟩)
    · rcases isNew member with earlier | ⟨-, same⟩
      · exact knows (race.resolved other row creates (.inl earlier))
      · cases same
        exact knows (Operation.known_of_fetchActorByApId isOutcome)
    · rcases isNew member with earlier | ⟨rfl, same⟩
      · exact knows (race.resolved other row creates (.inr ⟨parts, earlier⟩))
      · cases same
        obtain ⟨document, fetched, named⟩ := mayCall
        have known := Operation.known_of_upsertRemote isOutcome
        rw [isFinal, named, race.faithful other _ document fetched, authors other creates] at known
        exact known
  case buried =>
    rintro other ⟨type, row, member⟩
    rcases isNew member with earlier | ⟨-, same⟩
    · exact entombed (race.buried other ⟨type, row, earlier⟩)
    · cases same
      rw [← isFinal]
      exact Operation.tombstoned_of_upsert isOutcome
  case fresh =>
    intro empty
    rcases callsOfTask_called_cases Operation.recalled events thread deleter op env outcome with
      ⟨same, silent⟩ | ⟨-, extended⟩
    · rw [insertedSinceLookup_called, race.fresh (same.symm.trans empty)]
      · rfl
      · rintro isDeleter apId rfl
        cases silent isDeleter.symm
    · exact absurd (extended.symm.trans empty) (List.append_ne_nil_of_right_ne_nil _ (by simp))
  case missed =>
    intro member
    rcases isNew member with earlier | ⟨rfl, same⟩
    · rw [insertedSinceLookup_called (lookup earlier), race.missed earlier, revived]
      rfl
    · cases same
      rw [Operation.performed_of_ok isOutcome] at isOutcome
      rw [insertedSinceLookup_append, revived]
      refine (if_pos rfl).trans (congrArg some ?_)
      exact (Db.live_eq_false_of_clipByApId (Except.ok.inj isOutcome)).symm
  case found =>
    intro clip member
    rcases isNew member with earlier | ⟨rfl, same⟩
    · obtain ⟨since, known, row, stored, -, named, -⟩ := race.found clip earlier
      refine ⟨?_, knows known, stays earlier⟩
      rw [insertedSinceLookup_called (lookup earlier), since]
      cases op with
      | createRemote new =>
          cases outcome with
          | error error => rfl
          | ok result =>
              have other : new.apId ≠ objectId := fun same =>
                Operation.createRemote_refused stored (named.trans same.symm) isOutcome
              simp [Operation.liveAfter, other]
      | markClipDeleted id => rcases outcome with error | _ | marked <;> rfl
      | _ => rfl
    · cases same
      have performed := Operation.performed_of_ok isOutcome
      rw [performed] at isOutcome isFinal
      obtain ⟨stored, named⟩ := Db.clipByApId_eq_some.mp (Except.ok.inj isOutcome)
      have unchanged : db = final := isFinal
      subst unchanged
      refine ⟨?_, race.owned clip stored named, clip, stored, rfl, named, ?_⟩
      · rw [insertedSinceLookup_append]
        exact if_pos rfl
      · rintro ⟨marked, marks⟩
        rcases isNew marks with earlier | ⟨-, same⟩
        · exact (lookup earlier rfl objectId rfl).elim
        · cases same
  case author =>
    intro clip clipMember author member
    rcases isNew clipMember with clipEarlier | ⟨rfl, sameClip⟩
    · rcases isNew member with earlier | ⟨-, same⟩
      · exact race.author clip clipEarlier author earlier
      · cases same
        exact Operation.author_of_known (race.found clip clipEarlier).2.1 isOutcome
    · cases sameClip
      rcases isNew member with earlier | ⟨-, same⟩
      · exact (lookup earlier rfl objectId rfl).elim
      · cases same

end Race

/-- A `Delete` against any number of `Create`s. In every run of concurrent deliveries in which
the `Create`s of an object are those of its author, a `Delete` by the author that was no
duplicate, once it has ended without an error, leaves a tombstone; and the object then has a
clip that is not deleted exactly if one was inserted after the lookup of the `Delete` and not
taken back by another one. -/
theorem delete_wins_iff [ChronoCrate] (data : FederationData)
    (activities : ι → ApActivities Url) {deleter : ι} {objectId : String}
    (deletes : (activities deleter).deletes = some objectId)
    (authors : ∀ thread, (activities thread).creates = some objectId →
      (activities thread).actor = (activities deleter).actor)
    {start : Db}
    (owned : ∀ clip ∈ start.clips, clip.apId = objectId →
      Actors.Known clip.actorId (asStr (activities deleter).actor) start.actors)
    {events : List (DeliveryEvent ι Url)}
    {config : Effects.Config ι (@Operation.Result Url) Error Unit Db}
    (run : ConcurrentRun data activities Env.Faithful start events config)
    (finished : config.threads deleter = .done ()) {inserted : Bool}
    (processed : insertedSinceLookup objectId deleter events = some inserted) :
    config.state.tombstoned objectId = true ∧ config.state.live objectId = inserted := by
  have race : Race activities objectId deleter events config.state :=
    run.invariant (Race activities objectId deleter) (.start owned)
      (fun _ _ thread race => race.began thread)
      fun _ _ _ _ _ race mayCall faithful => race.called deletes authors mayCall faithful
  rcases run.finishes finished rfl objectId deletes with nothing | done
  · rw [race.fresh nothing] at processed
    cases processed
  rcases done with ⟨missed, buried⟩ | ⟨clip, found, spared | ⟨buried, marked⟩⟩
  · refine ⟨race.buried deleter buried, ?_⟩
    exact Option.some.inj ((race.missed missed).symm.trans processed)
  · obtain ⟨author, read, foreign⟩ := spared
    rw [race.author clip found author read] at foreign
    cases foreign
  · obtain ⟨since, -, row, stored, -, named, deleted⟩ := race.found clip found
    refine ⟨race.buried deleter buried, ?_⟩
    rw [Db.live_eq_false_of_deleted stored named (deleted marked)]
    exact Option.some.inj (since.symm.trans processed)

end Runs

namespace Sample

theorem parse_bobsDelete : (NormalUrl.parse "https://b/2").isSome = true := by decide

theorem parse_bobsNote : (NormalUrl.parse "https://b/n").isSome = true := by decide

/-- Bob deletes his note. -/
def bobsDelete : Delete NormalUrl :=
  ⟨.ofText "https://b/2" parse_bobsDelete, bob.id, .url (.ofText "https://b/n" parse_bobsNote)⟩

/-- Bob's note and its deletion. -/
def noteAndDelete : Bool → ApActivities NormalUrl
  | false => .create bobsCreate
  | true => .delete bobsDelete

/-- Carry out both handlers: the next call is that of the next of the threads. -/
def compete (start : Db) (schedule : List Bool) :
    List (DeliveryEvent Bool NormalUrl) ×
      Effects.Config Bool (@Operation.Result NormalUrl) Error Unit Db :=
  Config.serve Operation.exec (fun _ _ _ _ _ => true) []
    (concurrentDeliveries config.federationData start noteAndDelete)
    (schedule.map fun thread => .call thread online)

/-- The `Create` has asked for the tombstone before the `Delete`, and inserts after it. -/
def deleteAmidCreate := compete knowsBob
  (List.replicate 2 false ++ List.replicate 5 true ++ List.replicate 4 false)

/-- The `Delete` comes last. -/
def deleteLast := compete knowsBob (List.replicate 6 false ++ List.replicate 6 true)

theorem compete_run (start : Db) {allow : Env NormalUrl → Prop} (allowed : allow online)
    (schedule : List Bool) :
    ConcurrentRun config.federationData noteAndDelete allow start
      (compete start schedule).1 (compete start schedule).2 := by
  have goesOn (schedule : List Bool) (events : List (DeliveryEvent Bool NormalUrl))
      (current : Effects.Config Bool (@Operation.Result NormalUrl) Error Unit Db)
      (run : ConcurrentRun config.federationData noteAndDelete allow start events current) :
      ConcurrentRun config.federationData noteAndDelete allow start
        (current.serve Operation.exec (fun _ _ _ _ _ => true) events
          (schedule.map fun thread => .call thread online)).1
        (current.serve Operation.exec (fun _ _ _ _ _ => true) events
          (schedule.map fun thread => .call thread online)).2 := by
    induction schedule generalizing events current with
    | nil => exact run
    | cons thread schedule inductionHypothesis =>
        rw [List.map_cons, Config.serve]
        split
        next op next atCall =>
          exact inductionHypothesis _ _ (run.called atCall allowed)
        next => exact inductionHypothesis _ _ run
  exact goesOn schedule [] _ .start

theorem creates_noteAndDelete (thread : Bool) (object : String)
    (_ : (noteAndDelete thread).creates = some object) :
    (noteAndDelete thread).actor = (noteAndDelete true).actor := by
  cases thread <;> rfl

/-- Both orders of bob's note and its deletion: the deletion takes the note back if it comes
last, and not if it comes between the check and the insert. -/
theorem note_and_delete_compete :
    (deleteLast.2.state.tombstoned "https://b/n" = true ∧
        deleteLast.2.state.live "https://b/n" = false) ∧
      deleteAmidCreate.2.state.tombstoned "https://b/n" = true ∧
        deleteAmidCreate.2.state.live "https://b/n" = true := by
  have race (schedule : List Bool) (inserted : Bool) :=
    @delete_wins_iff NormalUrl _ Bool _ _ config.federationData noteAndDelete true "https://b/n"
      (by decide) (fun thread creates => creates_noteAndDelete thread _ creates) knowsBob
      (by rintro _ ⟨⟩) _ _ (compete_run knowsBob faithful_online schedule)
  exact ⟨race _ false (by rfl) (by rfl), race _ true (by rfl) (by rfl)⟩

/-- A server that has heard of the deletion first. -/
def knowsDelete : Db where
  __ := knowsBob
  tombstones := ⟨[⟨"https://b/n", .person, ⟨0⟩⟩], List.pairwise_singleton _ _⟩

end Sample

end TootTok
