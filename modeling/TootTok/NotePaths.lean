import TootTok.Egress
import TootTok.NoteArrivals

/-!
# Two paths of one note

A note that its author has sent with a `Create` may also be found by a backfill of the author.
The clips that both paths make are the same, but the paths do not ask the same questions, and
neither asks the guard for media URLs.
-/

namespace TootTok

open Effects
open Egress (Dns validateMediaIngestUrl)
open Json (Value)
open Relational (Table SerialTable)
open UrlCrate

variable {Url : Type}

/-! ## Actors -/

namespace Actors

variable {id : Nat} {apId : String} {table : ActorTable}

/-- An actor has this number and this id. -/
def Known (id : Nat) (apId : String) (table : ActorTable) : Prop :=
  ∃ row ∈ table, row.id = id ∧ row.apId = apId

theorem known_create (known : Known id apId table) (new : NewActor) :
    Known id apId (create new table).2 := by
  obtain ⟨row, stored, isKnown⟩ := known
  exact ⟨row, SerialTable.mem_insert_of_mem new.row (fun _ => rfl) stored, isKnown⟩

theorem known_upsertRemote (known : Known id apId table) (parts : RemoteActorParts) :
    Known id apId (upsertRemote parts table).2 := by
  obtain ⟨row, stored, isKnown⟩ := known
  obtain ⟨-, -, -, -, -, mem⟩ := upsertRemote_spec parts table
  refine ⟨_, (mem _).mpr (.inl ⟨row, stored, rfl⟩), ?_⟩
  unfold Table.changeWhere
  split <;> exact isKnown

theorem known_delete (known : Known id apId table) (condition : ActorRow → Bool)
    (now : DateTime) : Known id apId (delete condition now table).2 := by
  obtain ⟨row, stored, isKnown⟩ := known
  refine ⟨_, mem_delete.mpr ⟨row, stored, rfl⟩, ?_⟩
  unfold Table.changeWhere
  split <;> exact isKnown

end Actors

/-- No operation drops an actor, renumbers or renames it. -/
theorem Operation.known_exec {id : Nat} {apId : String} (env : Env Url) (op : Operation Url)
    {db : Db} (known : Actors.Known id apId db.actors) :
    Actors.Known id apId (Operation.exec env op db).2.actors := by
  rcases Operation.exec_cases env op db with ⟨error, failed⟩ | performed
  · rw [failed]
    exact known
  rw [performed]
  cases op with
  | createActor new => exact Actors.known_create known new
  | insertInstanceActor new =>
      show Actors.Known id apId (Actors.insertInstanceActor new db.actors).2
      unfold Actors.insertInstanceActor
      split
      · exact known
      · exact Actors.known_create known new
  | upsertRemote parts => exact Actors.known_upsertRemote known parts
  | markActorDeleted _ => exact Actors.known_delete known _ _
  | markRemoteDeletedByApId _ => exact Actors.known_delete known _ _
  | _ => exact known

theorem known_run {α : Type} (program : Handler Url α) (envs : Nat → Env Url) {db : Db}
    {id : Nat} {apId : String} (known : Actors.Known id apId db.actors) :
    Actors.Known id apId (program.run Operation.exec envs db).2.actors := by
  have ensured : Program.Ensures Operation.exec (fun _ => True)
      (fun _ (final : Db) => Actors.Known id apId db.actors → Actors.Known id apId final.actors)
      program db := by
    refine (Program.Calls.of_forall program fun _ => trivial).ensures
      (fun before after : Db => Actors.Known id apId before.actors →
        Actors.Known id apId after.actors) ?_ ?_ ?_ db
    · exact fun _ known => known
    · exact fun _ _ _ first second known => second (first known)
    · exact fun env op _ _ _ => Operation.known_exec env op
  exact ensured.run envs (fun _ => trivial) known

section Paths

variable [UrlCrate Url] [ChronoCrate]

namespace NoteArrival

variable {data : FederationData} {db : Db}

/-! ## Media URLs -/

section Media

variable (Url) in
/-- The guard accepts the media URL of each new clip. -/
def MediaVetted (dns : Dns) (allowLoopback : Bool) (before after : Db) : Prop :=
  ∀ clip ∈ after.clips, clip ∉ before.clips → ∃ raw, clip.remoteMediaUrl = some raw ∧
    validateMediaIngestUrl Url dns raw allowLoopback = .ok ()

omit [ChronoCrate] in
/-- The new clip of a note has its media URL. -/
theorem mediaVetted_of_added {before after : Db} {note : ParsedNote} {actorId : Nat} {dns : Dns}
    {allowLoopback : Bool} (added : before.ClipAdded (note.newClip actorId) after) :
    MediaVetted Url dns allowLoopback before after ↔
      validateMediaIngestUrl Url dns note.attachment.mediaUrl allowLoopback = .ok () := by
  obtain ⟨now, id, rows, fresh⟩ := added
  constructor
  · intro vetted
    obtain ⟨raw, isRaw, accepted⟩ := vetted _ ((rows _).mpr (.inr rfl))
      fun stored => (fresh _ stored).1 rfl
    cases isRaw
    exact accepted
  · intro accepted clip stored isNew
    rcases (rows clip).mp stored with old | rfl
    · exact (isNew old).elim
    · exact ⟨_, rfl, accepted⟩

/-- An object is read as one note. -/
theorem read_unique {object : Value} {left right : ParsedNote}
    (isLeft : Note.parseInboundNote object = .ok (.ok left))
    (isRight : Note.parseInboundNote object = .ok (.ok right)) : left = right :=
  Except.ok.inj (Except.ok.inj (isLeft.symm.trans isRight))

/-- Media URLs. In every run the media URL of each new clip is one that the guard accepts,
exactly if a note that passes the checks of its path has such a URL: no path asks the guard. -/
theorem media_vetted_iff (config : Config) (dns : Dns) (db : Db) (arrival : NoteArrival Url) :
    (∀ envs, arrival.Ordinary envs →
        MediaVetted Url dns config.allowLoopback db
          (arrival.after config.federationData envs db)) ↔
      ∀ note, arrival.Takes config.federationData db note →
        validateMediaIngestUrl Url dns note.attachment.mediaUrl config.allowLoopback = .ok () := by
  constructor
  · intro vetted note takes
    obtain ⟨other, actorId, otherTakes, -, added⟩ := takes.made
    rw [read_unique takes.read otherTakes.read]
    exact (mediaVetted_of_added added).mp
      (vetted _ arrival.ordinary_obliging)
  · intro accepted envs ordinary
    rcases arrival.unchanged_or_made envs ordinary with same | ⟨note, actorId, takes, -, added⟩
    · exact fun clip stored isNew => (isNew ((same clip).mp stored)).elim
    · exact (mediaVetted_of_added added).mpr (accepted note takes)

end Media

/-! ## Agreement -/

section Agreement

/-- The clips agree in everything but their numbers and the time they were stored. -/
def SameClip (left right : ClipRow) : Prop :=
  right = { left with id := right.id, createdAt := right.createdAt }

variable {actor : ActorRow} {activity : Create Url} {code : String}

/-- The author that the inbox gives to a clip is the actor that is stored. -/
theorem authored_eq (stored : actor ∈ db.actors) (signed : asStr activity.actor = actor.apId)
    (envs : Nat → Env Url) {actorId : Nat}
    (authored : (created activity).Authored ((created activity).after data envs db) actorId) :
    actorId = actor.id := by
  obtain ⟨author, isAuthor, rfl, named⟩ := authored
  obtain ⟨row, isRow, sameNumber, sameName⟩ := known_run
    ((created activity).program data) envs ⟨actor, stored, rfl, rfl⟩
  rw [← sameNumber]
  refine congrArg ActorRow.id (SerialTable.eq_of_clash (fun _ _ => ActorRow.Clash.symm)
    isAuthor isRow (.inl ?_))
  rw [named, signed, sameName]

/-- Both paths make the same clip of a note, in whatever runs. -/
theorem sameClip_of_both (stored : actor ∈ db.actors)
    (signed : asStr activity.actor = actor.apId)
    {left right : Nat → Env Url}
    (leftOrdinary : (created activity).Ordinary left)
    (rightOrdinary : (backfilled actor code activity.object).Ordinary right)
    {new other : ClipRow} (isNew : new ∈ ((created activity).after data left db).clips)
    (newFresh : new ∉ db.clips)
    (isOther : other ∈ ((backfilled actor code activity.object).after data right db).clips)
    (otherFresh : other ∉ db.clips) : SameClip new other := by
  rcases (created activity).unchanged_or_made left leftOrdinary with
    same | ⟨note, actorId, takes, authored, now, id, rows, -⟩
  · exact (newFresh ((same new).mp isNew)).elim
  rcases (backfilled actor code activity.object).unchanged_or_made right rightOrdinary with
    same | ⟨note', actorId', takes', authored', now', id', rows', -⟩
  · exact (otherFresh ((same other).mp isOther)).elim
  cases read_unique takes.read takes'.read
  have sameAuthor : actorId = actorId' := (authored_eq stored signed left authored).trans
    (show actorId' = actor.id from authored').symm
  cases sameAuthor
  cases ((rows new).mp isNew).resolve_left newFresh
  cases ((rows' other).mp isOther).resolve_left otherFresh
  rfl

/-- Agreement of both paths. Of a note that a stored actor has sent with a fresh `Create`, and
that a backfill of the actor finds, both paths make the same clip, in whatever runs; and they
agree on whether to make one exactly if the note is attributed to the actor in the spelling of
the stored id just where it is not tombstoned, can be logged and is attributed to the signer. -/
theorem paths_agree_iff (data : FederationData) (db : Db) (stored : actor ∈ db.actors)
    (signed : asStr activity.actor = actor.apId) (fresh : ¬db.Logged (asStr activity.id))
    (isUrl : (parse ("https://loops.video/v/" ++ code) : Option Url).isSome = true) :
    (∀ left right : Nat → Env Url, (created activity).Ordinary left →
      (backfilled actor code activity.object).Ordinary right →
      ∀ new ∈ ((created activity).after data left db).clips, new ∉ db.clips →
      ∀ other ∈ ((backfilled actor code activity.object).after data right db).clips,
        other ∉ db.clips → SameClip new other) ∧
    (((created activity).CanMake data db ↔
      (backfilled actor code activity.object : NoteArrival Url).CanMake data db) ↔
    ∀ note, Note.parseInboundNote activity.object = .ok (.ok note) →
      (∀ clip ∈ db.clips, clip.apId ≠ note.id) →
      (Operation.createRemote (note.newClip 0) : Operation Url).storable = true →
      (note.attributedTo = actor.apId ↔
        db.tombstoned note.id = false ∧ (ApActivities.create activity).storable = true ∧
          attributedToSigner data activity.actor note = true)) := by
  have known : db.CanResolve activity.actor := by
    refine .inl (Option.isSome_iff_exists.mpr ⟨actor, ?_⟩)
    rw [signed]
    exact Db.actorByApId_eq_some.mpr ⟨stored, rfl⟩
  constructor
  · exact fun left right leftOrdinary rightOrdinary new isNew newFresh other isOther otherFresh =>
      sameClip_of_both stored signed leftOrdinary rightOrdinary isNew newFresh isOther otherFresh
  rw [canMake_iff, canMake_iff]
  constructor
  · intro agree note read free storable
    constructor
    · intro spelled
      obtain ⟨other, takes⟩ := agree.mpr ⟨note, read, ⟨isUrl, spelled⟩, free, storable⟩
      cases read_unique takes.read read
      obtain ⟨-, loggable, alive, attributed, -⟩ := takes.passes
      exact ⟨alive, loggable, attributed⟩
    · rintro ⟨alive, loggable, attributed⟩
      obtain ⟨other, takes⟩ := agree.mp
        ⟨note, read, ⟨fresh, loggable, alive, attributed, known⟩, free, storable⟩
      cases read_unique takes.read read
      exact takes.passes.2
  · intro sameChecks
    constructor
    · rintro ⟨note, read, ⟨-, loggable, alive, attributed, -⟩, free, storable⟩
      exact ⟨note, read, ⟨isUrl, (sameChecks note read free storable).mpr
        ⟨alive, loggable, attributed⟩⟩, free, storable⟩
    · rintro ⟨note, read, ⟨-, spelled⟩, free, storable⟩
      obtain ⟨alive, loggable, attributed⟩ := (sameChecks note read free storable).mp spelled
      exact ⟨note, read, ⟨fresh, loggable, alive, attributed, known⟩, free, storable⟩

end Agreement

end NoteArrival

end Paths

namespace Sample

open NoteArrival

/-- A server that knows bob. -/
def knowsBob : Db where
  __ := Db.empty
  actors := ⟨⟨[(bob.parts "b").row 1], List.pairwise_singleton _ _⟩, 2, by decide +kernel⟩

/-- Bob sends a note. -/
def bobsCreate : Create NormalUrl :=
  ⟨.ofText "https://b/1" parse_bobsActivity, bob.id, note "https://b/n" "https://b/bob" "https://b/v"⟩

def bobsNote : ParsedNote :=
  ⟨"https://b/n", "https://b/bob", none, false, none, none, "https://b/v", none, none, none⟩

/-- The inbox and a backfill agree on bob's note. -/
theorem paths_agree_on_bobs_note :
    (created bobsCreate).CanMake config.federationData knowsBob ↔
      (backfilled ((bob.parts "b").row 1) "x" bobsCreate.object :
        NoteArrival NormalUrl).CanMake config.federationData knowsBob := by
  refine (paths_agree_iff config.federationData knowsBob List.mem_cons_self rfl ?_ ?_).2.mpr ?_
  · rintro ⟨row, logged, -⟩
    cases logged
  · decide
  · intro fields read free storable
    have isNote : Note.parseInboundNote bobsCreate.object = .ok (.ok bobsNote) := by decide
    rw [read_unique read isNote]
    decide

end Sample

end TootTok
