import TootTok.Frames

/-!
# Ingested notes

What the ingestion of a note leaves in the database, on the path of the inbox
and on that of the backfill: at most one new clip, made from the note, whose
author is the actor that the path has resolved.
-/

namespace TootTok

open Effects
open Json (Value)
open Relational (Table SerialTable)
open UrlCrate

variable {Url : Type}

/-! ## Dereferencing an author -/

/-- An actor that is fetched is the one that was asked for. -/
def Env.Faithful (env : Env Url) : Prop :=
  ∀ url document, env.fetchActor url = .ok document → document.id = url

section Dereferencing

variable [UrlCrate Url] {allow : Env Url → Prop} {db : Db} {url : Url}

/-- A resolved actor is stored under the URL. -/
def Resolves (url : Url) (outcome : Except Error (DbActor Url)) (final : Db) : Prop :=
  ∀ actor, outcome = .ok actor → actor.row ∈ final.actors ∧ actor.row.apId = asStr url

theorem resolves_error (error : Error) (final : Db) : Resolves url (.error error) final :=
  fun _ impossible => nomatch impossible

/-- The actor of a stored row. -/
theorem ensures_fromRow {row : ActorRow} :
    Program.Ensures Operation.exec allow
      (fun outcome final => final = db ∧ ∀ actor : DbActor Url, outcome = .ok actor → actor.row = row)
      (DbActor.fromRow row) db := by
  unfold DbActor.fromRow
  split
  · refine ⟨rfl, fun actor isActor => ?_⟩
    cases isActor
    rfl
  · exact ⟨rfl, fun _ impossible => nomatch impossible⟩

/-- A cached actor is stored under the URL. -/
theorem ensures_readFromId :
    Program.Ensures Operation.exec allow
      (fun outcome final => final = db ∧ ∀ actor, outcome = .ok (some actor) →
        actor.row ∈ db.actors ∧ actor.row.apId = asStr url)
      (DbActor.readFromId url) db := by
  refine Handler.ensures_query_then (fun _ _ _ _ => ⟨rfl, by rintro _ ⟨⟩⟩) ?_
  intro env _ _
  simp only [Operation.perform, Program.thenEnsures_ok]
  cases found : db.actorByApId (asStr url) with
  | none => exact ⟨rfl, by rintro _ ⟨⟩⟩
  | some row =>
      have stored := Db.actorByApId_eq_some.mp found
      refine (Program.ensures_bind _ _ _ _).mpr (ensures_fromRow.mono ?_)
      rintro outcome final ⟨rfl, isRow⟩
      cases outcome with
      | error error => exact ⟨rfl, by rintro _ ⟨⟩⟩
      | ok actor =>
          refine ⟨rfl, fun _ isActor => ?_⟩
          cases isActor
          rw [isRow actor rfl]
          exact stored

theorem ensures_dereferenceLocal :
    Program.Ensures Operation.exec allow (Resolves url) (dereferenceLocal url) db := by
  refine (Program.ensures_bind _ _ _ _).mpr (ensures_readFromId.mono ?_)
  rintro outcome final ⟨rfl, isStored⟩
  cases outcome with
  | error error => exact resolves_error error final
  | ok found =>
      cases found with
      | none => exact resolves_error _ final
      | some actor =>
          rintro _ ⟨rfl⟩
          exact isStored actor rfl

/-- A document is stored under its id. -/
theorem ensures_fromJson {document : ApActor Url} (named : document.id = url) :
    Program.Ensures Operation.exec allow (Resolves url) (DbActor.fromJson document) db := by
  unfold DbActor.fromJson
  cases hostStr document.id with
  | none => exact resolves_error _ db
  | some host =>
      refine Handler.ensures_query_then (fun _ error _ _ => resolves_error error db) ?_
      intro env _ _
      obtain ⟨row, succeeded, stored, rowNamed, -⟩ :=
        Actors.upsertRemote_spec (document.parts host) db.actors
      dsimp only [Operation.perform, Db.onActors, Operation.checked]
      rw [succeeded]
      refine ensures_fromRow.mono ?_
      rintro outcome final ⟨rfl, isRow⟩ actor isActor
      rw [isRow actor isActor]
      exact ⟨stored, rowNamed.trans (congrArg asStr named)⟩

/-- A document that is fetched for a URL is stored under it. -/
theorem ensures_dereferenceFromHttp
    (faithful : ∀ env, allow env → env.Faithful)
    {domain : String} {cached : Option (DbActor Url)}
    (cachedStored : ∀ actor, cached = some actor →
      actor.row ∈ db.actors ∧ actor.row.apId = asStr url) :
    Program.Ensures Operation.exec allow (Resolves url)
      (dereferenceFromHttp domain url cached) db := by
  have fallsBack (error : Error) :
      Handler.surviving (Program.thenEnsures Operation.exec allow (Resolves url)
        (dereferenceFromAnswer domain url cached)) (.error error) db := by
    refine Handler.surviving_of (fun panic => resolves_error _ db) ?_
    rw [Program.thenEnsures_ok]
    unfold dereferenceFromAnswer
    split
    · exact resolves_error _ db
    · cases cached with
      | none => exact resolves_error _ db
      | some actor =>
          rintro _ ⟨rfl⟩
          exact cachedStored actor rfl
    next impossible => cases impossible
  refine (Handler.ensures_caught_then _ _ _).mpr (Handler.ensures_query ?_ ?_)
  · exact fun _ error _ _ => fallsBack error
  · intro env allowed _
    dsimp only [Operation.perform, Operation.requested]
    cases answer : env.fetchActor url with
    | error error => exact fallsBack (.fetch error)
    | ok document =>
        simp only [Except.mapError, Handler.surviving_ok, Program.thenEnsures_ok,
          dereferenceFromAnswer]
        split
        · exact ensures_dereferenceLocal
        · split
          · exact resolves_error _ db
          · exact ensures_fromJson (faithful env allowed url document answer)

/-- An actor that is dereferenced is stored under the URL. -/
theorem ensures_dereference
    (faithful : ∀ env, allow env → env.Faithful) (domain : String) :
    Program.Ensures Operation.exec allow (Resolves url) (dereference domain url) db := by
  refine (Program.ensures_bind _ _ _ _).mpr (ensures_readFromId.mono ?_)
  rintro outcome final ⟨rfl, isStored⟩
  cases outcome with
  | error error => exact resolves_error error final
  | ok found =>
      cases found with
      | none =>
          rw [Program.thenEnsures_ok]
          exact ensures_dereferenceFromHttp faithful fun _ impossible => by cases impossible
      | some actor =>
          have stored := isStored actor rfl
          rw [Program.thenEnsures_ok]
          dsimp only
          split
          · rintro _ ⟨rfl⟩
            exact stored
          · refine Handler.ensures_query_then (fun _ error _ _ => resolves_error error final) ?_
            intro env _ _
            simp only [Operation.perform, Program.thenEnsures_ok]
            split
            · refine ensures_dereferenceFromHttp faithful ?_
              rintro _ ⟨rfl⟩
              exact stored
            · rintro _ ⟨rfl⟩
              exact stored

end Dereferencing

/-! ## New clips -/

namespace Db

/-- The two states have the same clips. -/
def SameClips (before after : Db) : Prop :=
  ∀ clip, clip ∈ after.clips ↔ clip ∈ before.clips

/-- One clip has been added, under a fresh number and a fresh id. -/
def ClipAdded (before : Db) (new : NewRemoteClip) (after : Db) : Prop :=
  ∃ now id,
    (∀ clip, clip ∈ after.clips ↔ clip ∈ before.clips ∨ clip = new.row now id) ∧
      ∀ old ∈ before.clips, old.id ≠ id ∧ old.apId ≠ new.apId

theorem SameClips.refl (db : Db) : db.SameClips db := fun _ => Iff.rfl

theorem sameClips_of_sameTable {before after : Db}
    (same : after.SameTable before .clips) : before.SameClips after := by
  intro clip
  rw [show after.clips = before.clips from same]

/-- An insert adds the row unless its id is taken. -/
theorem createRemote_cases (db : Db) (new : NewRemoteClip) (now : DateTime) :
    ((∃ row, (Clips.createRemote new now db.clips).1 = .ok row) ∧
        db.ClipAdded new (db.onClips (Clips.createRemote new now)).2) ∨
      ((∃ stored ∈ db.clips, stored.apId = new.apId) ∧
        (Clips.createRemote new now db.clips).1 = .error .uniqueViolation ∧
        db.SameClips (db.onClips (Clips.createRemote new now)).2) := by
  have clash_iff (stored : ClipRow) (id : Nat) :
      stored.Clash (new.row now id) ↔ stored.apId = new.apId := by
    constructor
    · rintro (sameId | ⟨-, ⟨-, hasHash, -⟩, -⟩)
      · exact sameId
      · exact (hasHash rfl).elim
    · exact .inl
  rcases db.clips.insert_cases (new.row now) (fun _ => rfl) with
    ⟨free, result, rows⟩ | ⟨⟨stored, member, clash⟩, refused⟩
  · refine .inl ⟨⟨_, congrArg inserted result⟩, now, db.clips.next, fun clip => ?_,
      fun old member => ⟨SerialTable.number_ne_next member, fun sameId => ?_⟩⟩
    · change clip ∈ (db.clips.insert (new.row now) fun _ => rfl).2.rows ↔ _
      rw [rows, List.mem_append, List.mem_singleton, SerialTable.mem_rows]
    · exact free old member ((clash_iff old _).mpr sameId)
  · refine .inr ⟨⟨stored, member, (clash_iff stored _).mp clash⟩,
      congrArg (fun outcome : Option ClipRow × ClipTable => inserted outcome.1) refused, fun clip => ?_⟩
    change clip ∈ (db.clips.insert (new.row now) fun _ => rfl).2 ↔ _
    rw [refused]
    exact SerialTable.mem_spend

end Db

section Notes

variable {allow : Env Url → Prop} {db : Db}

/-- At most the clip of the note is added, if the database can hold it, and no actor
changes. -/
theorem ensures_storeClip (note : ParsedNote) (actorId : Nat) :
    Program.Ensures Operation.exec allow
      (fun _ final => final.actors = db.actors ∧
        (db.SameClips final ∨
          (Operation.createRemote (note.newClip actorId) : Operation Url).storable = true ∧
            db.ClipAdded (note.newClip actorId) final))
      (storeClip note actorId : Handler Url Bool) db := by
  refine (Handler.ensures_caught_then _ _ _).mpr (Handler.ensures_query ?_ ?_)
  · intro _ error _ _
    refine Handler.surviving_of (fun _ => ⟨rfl, .inl (.refl db)⟩) ?_
    rw [Program.thenEnsures_ok]
    split <;> exact ⟨rfl, .inl (.refl db)⟩
  · intro env _ succeeded
    have storable := Operation.storable_of_success rfl succeeded
    dsimp only [Operation.perform, Operation.checked]
    rcases db.createRemote_cases (note.newClip actorId) env.now with
      ⟨⟨row, succeeded⟩, added⟩ | ⟨-, failed, same⟩
    · rw [show (db.onClips (Clips.createRemote (note.newClip actorId) env.now)).1 = .ok row
        from succeeded]
      exact ⟨rfl, .inr ⟨storable, added⟩⟩
    · rw [show (db.onClips (Clips.createRemote (note.newClip actorId) env.now)).1 =
        .error .uniqueViolation from failed]
      exact ⟨rfl, .inl same⟩

variable [UrlCrate Url] [ChronoCrate]

/-- What an inbound note leaves behind. -/
def Ingested
    (data : FederationData) (signer : Url) (object : Value) (before after : Db) : Prop :=
  before.SameClips after ∨
    ∃ note author,
      Note.parseInboundNote object = .ok (.ok note) ∧
      attributedToSigner data signer note = true ∧
      before.tombstoned note.id = false ∧
      author ∈ after.actors ∧ author.apId = asStr signer ∧
      before.ClipAdded (note.newClip author.id) after

/-- What holds after an ingestion that makes no clip, and is ensured by storing the clip for
an author who was resolved, holds after every ingestion. -/
theorem ensures_ingestNote_of
    {resolution : Except Error (DbActor Url) → Db → Prop} {holds : Db → Prop}
    {data : FederationData} {signer : Url} {objectId : String} {object : Value}
    (resolves : Program.Ensures Operation.exec allow resolution
      (dereference data.domain signer) db)
    (skipped : ∀ final, db.SameClips final → holds final)
    (stores : ∀ note author middle, Note.parseInboundNote object = .ok (.ok note) →
      db.tombstoned objectId = false → attributedToSigner data signer note = true →
      resolution (.ok author) middle → db.SameClips middle →
      Program.Ensures Operation.exec allow (fun _ final => holds final)
        (storeClip note author.row.id : Handler Url Bool) middle) :
    Program.Ensures Operation.exec allow (fun _ final => holds final)
      (ingestNote data signer objectId object) db := by
  have unchanged := skipped db (.refl db)
  unfold ingestNote tombstoned
  refine Handler.ensures_query_then (fun _ _ _ _ => unchanged) ?_
  intro env _ _
  simp only [Operation.perform, Program.thenEnsures_ok]
  split
  next => exact unchanged
  next notTombstoned =>
  cases parsed : Note.parseInboundNote object with
  | error panic => exact unchanged
  | ok outcome =>
      cases outcome with
      | error reason => exact unchanged
      | ok note =>
          simp only [Handler.ofPanicking, Program.done_bind]
          split
          next attributed =>
            -- The dereference changes no clip.
            have frame : Program.Ensures Operation.exec allow
                (fun _ final => final.SameTable db .clips)
                (dereference data.domain signer) db :=
              Handler.ensures_frame (calls_dereference
                (Operation.writes_ne_of_writesOnly List.not_mem_nil)
                (fun _ _ _ _ => by simp [Operation.writes]) signer)
            refine (Handler.ensures_caught_then _ _ _).mpr ((frame.and resolves).mono ?_)
            rintro outcome middle ⟨sameTable, resolved⟩
            have sameClips := Db.sameClips_of_sameTable sameTable
            refine Handler.surviving_of (fun _ => skipped middle sameClips) ?_
            cases outcome with
            | error error => exact skipped middle sameClips
            | ok author =>
                refine (Program.ensures_bind _ _ _ _).mpr
                  ((stores note author middle parsed (by simpa using notTombstoned) attributed
                    resolved sameClips).mono ?_)
                rintro (_ | _) final holdsThen <;> exact holdsThen
          next => exact unchanged

theorem ensures_ingestNote
    (faithful : ∀ env, allow env → env.Faithful)
    (data : FederationData) (signer : Url) {objectId : String} {object : Value}
    (embedded : Note.embeddedObjectId object = some objectId) :
    Program.Ensures Operation.exec allow
      (fun _ final => Ingested data signer object db final)
      (ingestNote data signer objectId object) db := by
  refine ensures_ingestNote_of (ensures_dereference faithful data.domain) (fun _ => .inl) ?_
  intro note author middle parsed alive attributed resolved sameClips
  obtain ⟨stored, named⟩ := resolved author rfl
  refine (ensures_storeClip note author.row.id).mono ?_
  rintro _ final ⟨sameActors, same | ⟨-, now, id, added, fresh⟩⟩
  · exact .inl fun clip => (same clip).trans (sameClips clip)
  · refine .inr ⟨note, author.row, parsed, attributed, ?_, ?_, named, now, id, ?_, ?_⟩
    · have sameId := embedded.symm.trans (Note.parseInboundNote_eq_ok parsed).1
      rwa [← Option.some.inj sameId]
    · rw [sameActors]
      exact stored
    · exact fun clip => (added clip).trans (or_congr_left (sameClips clip))
    · exact fun old member => fresh old ((sameClips old).mpr member)

/-! ## The backfill -/

omit [UrlCrate Url] [ChronoCrate] in
/-- Clips are only added, and every new one is made from accepted columns. -/
def Db.Grows (accepted : NewRemoteClip → Prop) (before after : Db) : Prop :=
  (∀ clip ∈ before.clips, clip ∈ after.clips) ∧
    ∀ clip ∈ after.clips, clip ∈ before.clips ∨
      ∃ new now id, accepted new ∧ clip = new.row now id ∧
        ∀ old ∈ before.clips, old.apId ≠ new.apId

omit [UrlCrate Url] [ChronoCrate] in
theorem Db.Grows.refl (accepted : NewRemoteClip → Prop) (db : Db) : db.Grows accepted db :=
  ⟨fun _ => id, fun _ stored => .inl stored⟩

omit [UrlCrate Url] [ChronoCrate] in
theorem Db.Grows.trans {accepted : NewRemoteClip → Prop} {first second third : Db}
    (left : first.Grows accepted second) (right : second.Grows accepted third) :
    first.Grows accepted third := by
  refine ⟨fun clip stored => right.1 clip (left.1 clip stored), fun clip stored => ?_⟩
  rcases right.2 clip stored with old | ⟨new, now, id, isAccepted, isNew, fresh⟩
  · exact left.2 clip old
  · exact .inr ⟨new, now, id, isAccepted, isNew, fun old member => fresh old (left.1 old member)⟩

omit [UrlCrate Url] [ChronoCrate] in
theorem Db.SameClips.grows
    {accepted : NewRemoteClip → Prop} {before after : Db} (same : before.SameClips after) :
    before.Grows accepted after :=
  ⟨fun clip => (same clip).mpr, fun clip stored => .inl ((same clip).mp stored)⟩

omit [UrlCrate Url] [ChronoCrate] in
theorem Db.ClipAdded.grows
    {accepted : NewRemoteClip → Prop} {new : NewRemoteClip} {before after : Db}
    (isAccepted : accepted new) (added : before.ClipAdded new after) :
    before.Grows accepted after := by
  obtain ⟨now, id, rows, fresh⟩ := added
  refine ⟨fun clip stored => (rows clip).mpr (.inl stored), fun clip stored => ?_⟩
  rcases (rows clip).mp stored with old | isNew
  · exact .inl old
  · exact .inr ⟨new, now, id, isAccepted, isNew, fun old member => (fresh old member).2⟩

/-- The columns that a backfill for an actor takes from the note served for a
code. -/
def FromNote (allow : Env Url → Prop) (actor : ActorRow) (code : String)
    (new : NewRemoteClip) : Prop :=
  ∃ env url note parsed,
    allow env ∧ parse ("https://loops.video/v/" ++ code) = some url ∧
    env.getJson url = .ok note ∧
    Note.parseInboundNote note = .ok (.ok parsed) ∧
    parsed.attributedTo = actor.apId ∧
    new = parsed.newClip actor.id

/-- The columns that a backfill for an actor takes from the notes of its feed. -/
def FromFeed (allow : Env Url → Prop) (actor : ActorRow) (max : Nat)
    (new : NewRemoteClip) : Prop :=
  ∃ env feed body code,
    allow env ∧ atomFeedUrl actor = .ok (some feed) ∧ env.getText feed = .ok body ∧
    code ∈ (extractVideoLinks body).take max ∧
    FromNote allow actor code new

omit [UrlCrate Url] in
/-- At most the clip of the note is added, and no actor changes. -/
theorem ensures_ingestFetched (actor : ActorRow) (note : Value) :
    Program.Ensures Operation.exec allow
      (fun _ final => final.actors = db.actors ∧
        (db.SameClips final ∨
          ∃ parsed, Note.parseInboundNote note = .ok (.ok parsed) ∧
            parsed.attributedTo = actor.apId ∧
            (Operation.createRemote (parsed.newClip actor.id) : Operation Url).storable = true ∧
            db.ClipAdded (parsed.newClip actor.id) final))
      (ingestFetched actor note : Handler Url Bool) db := by
  unfold ingestFetched
  cases parsed : Note.parseInboundNote note with
  | error panic => exact ⟨rfl, .inl (.refl db)⟩
  | ok outcome =>
      cases outcome with
      | error reason => exact ⟨rfl, .inl (.refl db)⟩
      | ok fields =>
          simp only [Handler.ofPanicking, Program.done_bind]
          split
          next => exact ⟨rfl, .inl (.refl db)⟩
          next attributed =>
            refine (ensures_storeClip fields actor.id).mono ?_
            rintro _ final ⟨sameActors, same | ⟨storable, added⟩⟩
            · exact ⟨sameActors, .inl same⟩
            · exact ⟨sameActors, .inr ⟨fields, rfl, not_not.mp attributed, storable, added⟩⟩

theorem ensures_fetchAndIngestOne (actor : ActorRow) (code : String) :
    Program.Ensures Operation.exec allow
      (fun _ final => final.actors = db.actors ∧
        db.Grows (FromNote allow actor code) final)
      (fetchAndIngestOne actor code : Handler Url Bool) db := by
  have unchanged : db.actors = db.actors ∧ db.Grows (FromNote allow actor code) db :=
    ⟨rfl, .refl _ db⟩
  unfold fetchAndIngestOne
  cases parsedUrl : (parse ("https://loops.video/v/" ++ code) : Option Url) with
  | none => exact unchanged
  | some url =>
      refine Handler.ensures_query_then (fun _ _ _ _ => unchanged) ?_
      intro env allowed _
      dsimp only [Operation.perform, Operation.requested]
      cases answer : env.getJson url with
      | error error => exact unchanged
      | ok note =>
          refine (ensures_ingestFetched actor note).mono ?_
          rintro _ final ⟨sameActors, same | ⟨parsed, isParsed, attributed, -, added⟩⟩
          · exact ⟨sameActors, same.grows⟩
          · refine ⟨sameActors, added.grows ?_⟩
            exact ⟨env, url, note, parsed, allowed, parsedUrl, answer, isParsed, attributed, rfl⟩

omit [UrlCrate Url] [ChronoCrate] in
theorem Db.Grows.mono
    {accepted wider : NewRemoteClip → Prop} {before after : Db}
    (grown : before.Grows accepted after) (widen : ∀ new, accepted new → wider new) :
    before.Grows wider after := by
  refine ⟨grown.1, fun clip stored => ?_⟩
  rcases grown.2 clip stored with old | ⟨new, now, id, isAccepted, isNew, fresh⟩
  · exact .inl old
  · exact .inr ⟨new, now, id, widen new isAccepted, isNew, fresh⟩

/-- A failed note is skipped, and the next one is ingested. -/
theorem ensures_ingestAll (actor : ActorRow) (codes : List String) :
    Program.Ensures Operation.exec allow
      (fun _ final => final.actors = db.actors ∧
        db.Grows (fun new => ∃ code ∈ codes, FromNote allow actor code new) final)
      (ingestAll actor codes : Handler Url Nat) db := by
  induction codes generalizing db with
  | nil => exact ⟨rfl, .refl _ db⟩
  | cons code codes inductionHypothesis =>
      refine (Handler.ensures_caught_then _ _ _).mpr
        ((ensures_fetchAndIngestOne actor code).mono ?_)
      rintro outcome middle ⟨sameActors, grownByOne⟩
      have grown := grownByOne.mono fun new fromNote =>
        (⟨code, List.mem_cons_self, fromNote⟩ :
          ∃ listed ∈ code :: codes, FromNote allow actor listed new)
      refine Handler.surviving_of (fun _ => ⟨sameActors, grown⟩) ?_
      refine (Program.ensures_bind _ _ _ _).mpr (inductionHypothesis.mono ?_)
      rintro count final ⟨sameLater, grownByRest⟩
      have grownLater := grownByRest.mono fun new ⟨listed, isListed, fromNote⟩ =>
        (⟨listed, List.mem_cons_of_mem code isListed, fromNote⟩ :
          ∃ listed ∈ code :: codes, FromNote allow actor listed new)
      cases count with
      | error error => exact ⟨sameLater.trans sameActors, grown.trans grownLater⟩
      | ok count =>
          rw [Program.thenEnsures_ok]
          split <;> exact ⟨sameLater.trans sameActors, grown.trans grownLater⟩

/-- A backfill adds clips of its actor, who is remote. -/
theorem ensures_backfillActorPosts (actorId max : Nat) :
    Program.Ensures Operation.exec allow
      (fun _ final => final.actors = db.actors ∧
        db.Grows (fun new => ∃ actor, db.actorById actorId = some actor ∧
          actor.domain ≠ none ∧ FromFeed allow actor max new) final)
      (backfillActorPosts actorId max : Handler Url Nat) db := by
  have unchanged (accepted : NewRemoteClip → Prop) :
      db.actors = db.actors ∧ db.Grows accepted db := ⟨rfl, .refl _ db⟩
  refine Handler.ensures_query_then (fun _ _ _ _ => unchanged _) ?_
  intro env _ _
  simp only [Operation.perform, Program.thenEnsures_ok]
  cases found : db.actorById actorId with
  | none => exact unchanged _
  | some actor =>
      dsimp only
      split
      · exact unchanged _
      next isRemote =>
        split
        · exact unchanged _
        · exact unchanged _
        next feed isFeed =>
          refine Handler.ensures_query_then (fun _ _ _ _ => unchanged _) ?_
          intro env allowed _
          dsimp only [Operation.perform, Operation.requested]
          cases answer : env.getText feed with
          | error error => exact unchanged _
          | ok body =>
              refine (ensures_ingestAll actor _).mono ?_
              rintro _ final ⟨sameActors, grown⟩
              refine ⟨sameActors, grown.mono ?_⟩
              rintro new ⟨code, listed, fromNote⟩
              exact ⟨actor, rfl, isRemote, env, feed, body, code, allowed, isFeed, answer, listed,
                fromNote⟩

end Notes

namespace Sample

theorem faithful_online : online.Faithful := by
  intro url document answer
  unfold online at answer
  dsimp only at answer
  split at answer
  next isBob =>
    cases answer
    exact asStr_injective isBob.symm
  next => cases answer

/-- A note of an author with nothing but a video. -/
def note (id author video : String) : Value :=
  .object [("type", .string "Note"), ("id", .string id), ("attributedTo", .string author),
    ("attachment", .object [("type", .string "Video"), ("mediaType", .string "video/mp4"),
      ("url", .string video)])]

/-- Bob posts a video. -/
def bobPosts : ApActivities NormalUrl :=
  .create ⟨.ofText "https://b/1" parse_bobsActivity, bob.id,
    note "https://b/n" "https://b/bob" "https://b/v"⟩

end Sample

end TootTok
