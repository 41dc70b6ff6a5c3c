import TootTok.Authorship

/-!
# Arrivals of notes

A note comes in with a `Create`, or a backfill finds it. Which checks it has to pass on either
path, that only a note that passes them becomes a clip, and that it does so where no operation
fails.
-/

namespace TootTok

open Effects
open Json (Value)
open UrlCrate

variable {Url : Type}

/-- A note that is sent to the inbox, or that a backfill finds under a code. -/
inductive NoteArrival (Url : Type)
  | created (activity : Create Url)
  | backfilled (actor : ActorRow) (code : String) (note : Value)

/-- A world without faults in which every URL is an actor, and the note is found everywhere. -/
def Env.obliging (note : Value) : Env Url where
  fault := none
  now := ⟨0⟩
  uuid := "u-0"
  outdated := false
  fetchActor url := .ok {
    kind := .person
    id := url
    preferredUsername := "b"
    name := none
    summary := none
    inbox := url
    outbox := none
    followers := none
    sharedInbox := none
    publicKeyPem := "key" }
  getJson _ := .ok note
  getText _ := .error .failed

theorem Env.faithful_obliging (note : Value) : (obliging note : Env Url).Faithful := by
  intro url document answer
  cases answer
  rfl

theorem Env.quiet_obliging (note : Value) : (obliging note : Env Url).Quiet := rfl

/-! ## Authors -/

section Authors

variable [UrlCrate Url] {allow : Env Url → Prop} {db : Db} {url : Url}

/-- The actor is stored, or can be fetched. -/
def Db.CanResolve (db : Db) (url : Url) : Prop :=
  (db.actorByApId (asStr url)).isSome = true ∨ (hostStr url).isSome = true

section Unknown

variable (unknown : db.actorByApId (asStr url) = none)
include unknown

theorem notCached_of_unknown :
    Program.Ensures Operation.exec allow
      (fun outcome final => final = db ∧ ∀ found : Option (DbActor Url),
        outcome = .ok found → found = none)
      (DbActor.readFromId url) db := by
  refine Handler.ensures_query_then (fun _ _ _ _ => ⟨rfl, by rintro _ ⟨⟩⟩) ?_
  intro env _ _
  simp only [Operation.perform, Program.thenEnsures_ok, unknown]
  exact ⟨rfl, fun found isFound => (Except.ok.inj isFound).symm⟩

theorem notLocal_of_unknown :
    Program.Ensures Operation.exec allow
      (fun (outcome : Except Error (DbActor Url)) _ => ∃ error, outcome = .error error)
      (dereferenceLocal url) db := by
  refine (Program.ensures_bind _ _ _ _).mpr ((notCached_of_unknown unknown).mono ?_)
  rintro outcome final ⟨-, isNone⟩
  cases outcome with
  | error error => exact ⟨error, rfl⟩
  | ok found =>
      cases isNone found rfl
      exact ⟨.notFound, rfl⟩

/-- An actor who is not stored and has no host is not resolved. -/
theorem notResolved_of_unknown
    (faithful : ∀ env, allow env → env.Faithful) (noHost : hostStr url = none)
    (domain : String) :
    Program.Ensures Operation.exec allow
      (fun (outcome : Except Error (DbActor Url)) _ => ∃ error, outcome = .error error)
      (dereference domain url) db := by
  refine (Program.ensures_bind _ _ _ _).mpr ((notCached_of_unknown unknown).mono ?_)
  rintro outcome final ⟨rfl, isNone⟩
  cases outcome with
  | error error => exact ⟨error, rfl⟩
  | ok found =>
  cases isNone found rfl
  refine (Handler.ensures_caught_then _ _ _).mpr (Handler.ensures_query ?_ ?_)
  · intro _ error _ _
    refine Handler.surviving_of (fun _ => ⟨_, rfl⟩) ?_
    rw [Program.thenEnsures_ok]
    unfold dereferenceFromAnswer
    split
    · exact ⟨_, rfl⟩
    · exact ⟨_, rfl⟩
    next impossible => cases impossible
  · intro env allowed _
    dsimp only [Operation.perform, Operation.requested]
    cases answer : env.fetchActor url with
    | error error =>
        refine Handler.surviving_of (fun _ => ⟨_, rfl⟩) ?_
        cases error <;> exact ⟨_, rfl⟩
    | ok document =>
        have named := faithful env allowed url document answer
        simp only [Except.mapError, Handler.surviving_ok, Program.thenEnsures_ok,
          dereferenceFromAnswer]
        split
        · exact notLocal_of_unknown unknown
        · split
          · exact ⟨_, rfl⟩
          · unfold DbActor.fromJson
            rw [named, noHost]
            exact ⟨_, rfl⟩

end Unknown

/-- An actor who is resolved is stored or has a host. -/
theorem ensures_canResolve
    (faithful : ∀ env, allow env → env.Faithful) (domain : String) :
    Program.Ensures Operation.exec allow
      (fun (outcome : Except Error (DbActor Url)) _ =>
        ∀ actor, outcome = .ok actor → db.CanResolve url)
      (dereference domain url) db := by
  by_cases known : db.CanResolve url
  · exact .of_forall (fun _ _ _ _ => known) _ db
  · have unknown : db.actorByApId (asStr url) = none := by
      simpa using mt Or.inl known
    have noHost : hostStr url = none := by
      simpa using mt Or.inr known
    refine (notResolved_of_unknown unknown faithful noHost domain).mono ?_
    rintro _ _ ⟨error, rfl⟩ actor impossible
    cases impossible

/-! ### Where no operation fails -/

/-- A row under the id of a URL is read as an actor. -/
theorem fromRow_eq {row : ActorRow} (named : row.apId = asStr url) :
    (DbActor.fromRow row : Handler Url (DbActor Url)) = .done ⟨row, url⟩ := by
  unfold DbActor.fromRow
  rw [named, parse_asStr]

section Obliging

variable {note : Value} {domain : String}

omit [UrlCrate Url] in
theorem quiet_of_obliging {env : Env Url} (obliging : env = .obliging note) : env.Quiet := by
  rw [obliging]
  exact Env.quiet_obliging note

/-- An actor is read from the row under its id, if there is one. -/
theorem ensures_read :
    Program.Ensures Operation.exec (· = Env.obliging note)
      (fun outcome final => final = db ∧
        outcome = .ok ((db.actorByApId (asStr url)).map fun row => ⟨row, url⟩))
      (DbActor.readFromId url) db := by
  unfold DbActor.readFromId
  refine Handler.ensures_quiet_then (fun _ => quiet_of_obliging) ?_ ?_
  · simp [Operation.storable, Operation.texts, Operation.documents, storable_asStr]
  · rintro _ rfl
    simp only [Operation.perform, Program.thenEnsures_ok]
    cases found : db.actorByApId (asStr url) with
    | none => exact ⟨rfl, rfl⟩
    | some row =>
        dsimp only
        rw [fromRow_eq (Db.actorByApId_eq_some.mp found).2]
        exact ⟨rfl, rfl⟩

theorem ensures_fetched (notLocal : isLocalUrl url domain = false) {host : String}
    (hasHost : hostStr url = some host) :
    Program.Ensures Operation.exec (· = Env.obliging note)
      (fun outcome final => final.SameTable db .clips ∧ ∃ row : ActorRow,
        row.apId = asStr url ∧ outcome = .ok ⟨row, url⟩)
      (dereferenceFromHttp domain url none) db := by
  refine (Handler.ensures_caught_then _ _ _).mpr
    (Handler.ensures_quiet_query (fun _ => quiet_of_obliging) rfl ?_)
  rintro _ rfl
  simp only [Operation.perform, Operation.requested, Env.obliging, Except.mapError,
    Handler.surviving_ok, Program.thenEnsures_ok, dereferenceFromAnswer, notLocal]
  rw [if_neg Bool.false_ne_true, if_neg (by decide)]
  unfold DbActor.fromJson
  dsimp only
  rw [hasHost]
  refine Handler.ensures_quiet_then (fun _ => quiet_of_obliging) ?_ ?_
  · have texts : Json.textStorable "b" = true ∧ Json.textStorable "key" = true := by
      decide
    simp [Operation.storable, Operation.texts, Operation.documents, ApActor.parts,
      storable_asStr, storable_hostStr url host hasHost, texts]
  · rintro _ rfl
    obtain ⟨row, succeeded, -, named, -⟩ := Actors.upsertRemote_spec
      (ApActor.parts ⟨.person, url, "b", none, none, url, none, none, none, "key"⟩ host)
      db.actors
    dsimp only [Operation.perform, Operation.checked, Db.onActors]
    rw [succeeded]
    show Program.Ensures _ _ _ (DbActor.fromRow row) _
    rw [fromRow_eq named]
    exact ⟨rfl, row, named, rfl⟩

/-- An actor who is stored or has a host is resolved. -/
theorem ensures_resolved (known : db.CanResolve url) (notLocal : isLocalUrl url domain = false) :
    Program.Ensures Operation.exec (· = Env.obliging note)
      (fun outcome final => final.SameTable db .clips ∧ ∃ row : ActorRow,
        row.apId = asStr url ∧ outcome = .ok ⟨row, url⟩)
      (dereference domain url) db := by
  refine (Program.ensures_bind _ _ _ _).mpr (ensures_read.mono ?_)
  rintro _ final ⟨rfl, rfl⟩
  rw [Program.thenEnsures_ok]
  cases found : final.actorByApId (asStr url) with
  | none =>
      obtain ⟨host, hasHost⟩ : ∃ host, hostStr url = some host := by
        rcases known with stored | hasHost
        · rw [found] at stored
          cases stored
        · exact Option.isSome_iff_exists.mp hasHost
      exact ensures_fetched notLocal hasHost
  | some row =>
      have named := (Db.actorByApId_eq_some.mp found).2
      simp only [Option.map_some, notLocal]
      rw [if_neg Bool.false_ne_true]
      refine Handler.ensures_quiet_then (fun _ => quiet_of_obliging) rfl ?_
      rintro _ rfl
      exact ⟨rfl, row, named, rfl⟩

omit [UrlCrate Url] in
/-- A clip is stored if the database can hold it and its id is free. -/
theorem ensures_stored {fields : ParsedNote} {actorId : Nat}
    (free : ∀ clip ∈ db.clips, clip.apId ≠ fields.id)
    (storable : (Operation.createRemote (fields.newClip 0) : Operation Url).storable = true) :
    Program.Ensures Operation.exec (· = Env.obliging note)
      (fun outcome final => outcome = .ok true ∧ db.ClipAdded (fields.newClip actorId) final)
      (storeClip fields actorId : Handler Url Bool) db := by
  refine (Handler.ensures_caught_then _ _ _).mpr
    (Handler.ensures_quiet_query (fun _ => quiet_of_obliging) ?_ ?_)
  · exact storable
  rintro env rfl
  dsimp only [Operation.perform, Operation.checked]
  rcases db.createRemote_cases (fields.newClip actorId) (Env.obliging note : Env Url).now with
    ⟨⟨row, succeeded⟩, added⟩ | ⟨⟨clip, stored, taken⟩, -⟩
  · rw [show (db.onClips (Clips.createRemote (fields.newClip actorId)
      (Env.obliging note : Env Url).now)).1 = .ok row from succeeded]
    exact ⟨rfl, added⟩
  · exact (free clip stored taken).elim

/-- A note is ingested if it is read, alive and attributed to a signer who can be resolved. -/
theorem ensures_ingested [ChronoCrate] {data : FederationData} {object : Value}
    {fields : ParsedNote} (read : Note.parseInboundNote object = .ok (.ok fields))
    (alive : db.tombstoned fields.id = false)
    (attributed : attributedToSigner data url fields = true) (known : db.CanResolve url)
    (free : ∀ clip ∈ db.clips, clip.apId ≠ fields.id)
    (storable : (Operation.createRemote (fields.newClip 0) : Operation Url).storable = true) :
    Program.Ensures Operation.exec (· = Env.obliging note)
      (fun _ final => ∃ actorId, db.ClipAdded (fields.newClip actorId) final)
      (ingestNote data url fields.id object) db := by
  have idStorable : Json.textStorable fields.id = true := by
    simp only [Operation.storable, Operation.texts, ParsedNote.newClip, Bool.and_eq_true,
      List.all_append, List.all_cons] at storable
    exact storable.1.1.1.1
  unfold ingestNote tombstoned
  refine Handler.ensures_quiet_then (fun _ => quiet_of_obliging) ?_ ?_
  · simp [Operation.storable, Operation.texts, Operation.documents, idStorable]
  rintro _ rfl
  simp only [Operation.perform, Program.thenEnsures_ok, alive]
  rw [if_neg Bool.false_ne_true, read]
  simp only [Handler.ofPanicking, Program.done_bind, attributed]
  rw [if_pos trivial]
  refine (Handler.ensures_caught_then _ _ _).mpr
    ((ensures_resolved known (not_local_of_attributedToSigner attributed)).mono ?_)
  rintro _ middle ⟨sameTable, row, -, rfl⟩
  have sameClips := Db.sameClips_of_sameTable sameTable
  rw [Handler.surviving_ok, Program.thenEnsures_ok]
  refine (Program.ensures_bind _ _ _ _).mpr
    ((ensures_stored (fun clip stored => free clip ((sameClips clip).mp stored)) storable).mono ?_)
  rintro _ final ⟨rfl, now, id, added, fresh⟩
  exact ⟨row.id, now, id, fun clip => (added clip).trans (or_congr_left (sameClips clip)),
    fun old member => fresh old ((sameClips old).mpr member)⟩

end Obliging

end Authors

/-! ## What becomes of a note -/

namespace NoteArrival

variable [UrlCrate Url]

def object : NoteArrival Url → Value
  | .created activity => activity.object
  | .backfilled _ _ note => note

/-- The world serves the note that is backfilled. -/
def Served (env : Env Url) : NoteArrival Url → Prop
  | .created _ => True
  | .backfilled _ code note =>
      ∀ url, parse ("https://loops.video/v/" ++ code) = some url → env.getJson url = .ok note

/-- The checks that a path makes besides reading the note. -/
def Passes (data : FederationData) (db : Db) (note : ParsedNote) : NoteArrival Url → Prop
  | .created activity =>
      ¬db.Logged (asStr activity.id) ∧ (ApActivities.create activity).storable = true ∧
        db.tombstoned note.id = false ∧ attributedToSigner data activity.actor note = true ∧
        db.CanResolve activity.actor
  | .backfilled actor code _ =>
      (parse ("https://loops.video/v/" ++ code) : Option Url).isSome = true ∧
        note.attributedTo = actor.apId

/-- The author that a path gives to a clip. -/
def Authored (final : Db) (actorId : Nat) : NoteArrival Url → Prop
  | .created activity =>
      ∃ author ∈ final.actors, author.id = actorId ∧ author.apId = asStr activity.actor
  | .backfilled actor _ _ => actorId = actor.id

variable [ChronoCrate]

/-- What an arrival runs. -/
def program (data : FederationData) : NoteArrival Url → Handler Url Unit
  | .created activity => (ApActivities.create activity).receive data
  | .backfilled actor code _ => do
      let _ ← fetchAndIngestOne actor code
      pure ()

def after (data : FederationData) (arrival : NoteArrival Url) (envs : Nat → Env Url) (db : Db) :
    Db :=
  ((arrival.program data).run Operation.exec envs db).2

/-- Fetched actors are what they were asked for, and the note is there. -/
def Ordinary (arrival : NoteArrival Url) (envs : Nat → Env Url) : Prop :=
  ∀ index, (envs index).Faithful ∧ arrival.Served (envs index)

/-- Some run makes a clip. -/
def CanMake (data : FederationData) (db : Db) (arrival : NoteArrival Url) : Prop :=
  ∃ envs, arrival.Ordinary envs ∧ ¬db.SameClips (arrival.after data envs db)

/-- The note passes every check of its path, and its clip has a place. -/
structure Takes (data : FederationData) (db : Db) (arrival : NoteArrival Url)
    (note : ParsedNote) : Prop where
  read : Note.parseInboundNote arrival.object = .ok (.ok note)
  passes : arrival.Passes data db note
  free : ∀ clip ∈ db.clips, clip.apId ≠ note.id
  storable : (Operation.createRemote (note.newClip 0) : Operation Url).storable = true

/-- The clip of a note that was taken is there, with its author. -/
def Made (data : FederationData) (db : Db) (arrival : NoteArrival Url) (final : Db) : Prop :=
  ∃ note actorId, arrival.Takes data db note ∧ arrival.Authored final actorId ∧
    db.ClipAdded (note.newClip actorId) final

variable {data : FederationData} {db : Db} {allow : Env Url → Prop}

theorem ignoresLog_made {arrival : NoteArrival Url} :
    Db.IgnoresLog fun final => db.SameClips final ∨ arrival.Made data db final := by
  rintro left right same (unchanged | ⟨note, actorId, takes, authored, now, id, rows, fresh⟩)
  · refine .inl fun clip => ?_
    rw [← same.clips]
    exact unchanged clip
  · refine .inr ⟨note, actorId, takes, ?_, now, id, fun clip => ?_, fresh⟩
    · cases arrival with
      | created activity =>
          obtain ⟨author, stored, isAuthor⟩ := authored
          exact ⟨author, same.actors ▸ stored, isAuthor⟩
      | backfilled actor code note => exact authored
    · rw [← same.clips]
      exact rows clip

/-- A clip of a `Create` is made of a note that passes the checks. -/
theorem ensures_created
    (faithful : ∀ env, allow env → env.Faithful) (activity : Create Url) :
    Program.Ensures Operation.exec allow
      (fun _ final => db.SameClips final ∨ (created activity).Made data db final)
      ((ApActivities.create activity).receive data) db := by
  refine ApActivities.ensures_receive ignoresLog_made (.inl (.refl db)) fun fresh storable => ?_
  simp only [ApActivities.work]
  split
  next => exact .inl (.refl db)
  next objectId embedded =>
  refine ensures_ingestNote_of
    ((ensures_dereference faithful data.domain).and (ensures_canResolve faithful data.domain))
    (fun _ => .inl) ?_
  rintro note author middle parsed alive attributed ⟨resolved, known⟩ sameClips
  obtain ⟨stored, named⟩ := resolved author rfl
  have sameId : note.id = objectId :=
    (Option.some.inj (embedded.symm.trans (Note.parseInboundNote_eq_ok parsed).1)).symm
  refine (ensures_storeClip note author.row.id).mono ?_
  rintro _ final ⟨sameActors, same | ⟨canHold, now, id, added, free⟩⟩
  · exact .inl fun clip => (same clip).trans (sameClips clip)
  · refine .inr ⟨note, author.row.id, ⟨parsed, ⟨fresh, storable, ?_, attributed, ?_⟩, ?_, canHold⟩,
      ⟨author.row, ?_, rfl, named⟩, now, id, ?_, ?_⟩
    · rw [sameId]
      exact alive
    · exact known author rfl
    · exact fun clip member => (free clip ((sameClips clip).mpr member)).2
    · rw [sameActors]
      exact stored
    · exact fun clip => (added clip).trans (or_congr_left (sameClips clip))
    · exact fun old member => free old ((sameClips old).mpr member)

/-- A clip of a backfill is made of a note that passes the checks. -/
theorem ensures_backfilled (data : FederationData) {actor : ActorRow} {code : String} {note : Value}
    (serves : ∀ env, allow env → (backfilled actor code note : NoteArrival Url).Served env) :
    Program.Ensures Operation.exec allow
      (fun _ final => db.SameClips final ∨
        (backfilled actor code note : NoteArrival Url).Made data db final)
      (fetchAndIngestOne actor code : Handler Url Bool) db := by
  unfold fetchAndIngestOne
  cases isUrl : (parse ("https://loops.video/v/" ++ code) : Option Url) with
  | none => exact .inl (.refl db)
  | some url =>
      refine Handler.ensures_query_then (fun _ _ _ _ => .inl (.refl db)) ?_
      intro env allowed _
      dsimp only [Operation.perform, Operation.requested]
      rw [serves env allowed url isUrl]
      refine (ensures_ingestFetched actor note).mono ?_
      rintro _ final ⟨-, same | ⟨parsed, isParsed, attributed, storable, now, id, added, free⟩⟩
      · exact .inl same
      · refine .inr ⟨parsed, actor.id, ⟨isParsed, ⟨?_, attributed⟩, ?_, storable⟩, rfl,
          now, id, added, free⟩
        · rw [isUrl]
          rfl
        · exact fun clip member => (free clip member).2

/-- Whatever the world answers, an arrival makes no clip but that of a note that passes the
checks of its path. -/
theorem unchanged_or_made (arrival : NoteArrival Url) (envs : Nat → Env Url)
    (ordinary : arrival.Ordinary envs) :
    db.SameClips (arrival.after data envs db) ∨
      arrival.Made data db (arrival.after data envs db) := by
  cases arrival with
  | created activity =>
      exact (ensures_created (fun env (allowed : env.Faithful) => allowed) activity).run envs
        fun index => (ordinary index).1
  | backfilled actor code note =>
      have ensured : Program.Ensures Operation.exec
          (backfilled actor code note : NoteArrival Url).Served
          (fun _ final => db.SameClips final ∨
            (backfilled actor code note : NoteArrival Url).Made data db final)
          ((backfilled actor code note).program data) db := by
        refine (Program.ensures_bind _ _ _ _).mpr
          ((ensures_backfilled data fun _ allowed => allowed).mono ?_)
        rintro (_ | _) final holds <;> exact holds
      exact ensured.run envs fun index => (ordinary index).2

/-! ### Notes that are taken -/

theorem ordinary_obliging (arrival : NoteArrival Url) :
    arrival.Ordinary fun _ => .obliging arrival.object := by
  refine fun _ => ⟨Env.faithful_obliging _, ?_⟩
  cases arrival with
  | created activity => trivial
  | backfilled actor code note => exact fun _ _ => rfl

/-- Where no operation fails, a note that passes the checks becomes a clip. -/
theorem Takes.added {arrival : NoteArrival Url} {note : ParsedNote}
    (takes : arrival.Takes data db note) :
    ∃ actorId, db.ClipAdded (note.newClip actorId)
      (arrival.after data (fun _ => .obliging arrival.object) db) := by
  cases arrival with
  | created activity =>
      obtain ⟨fresh, storable, alive, attributed, known⟩ := takes.passes
      have read : Note.parseInboundNote activity.object = .ok (.ok note) := takes.read
      have ensured : Program.Ensures Operation.exec (· = Env.obliging activity.object)
          (fun _ final => ∃ actorId, db.ClipAdded (note.newClip actorId) final)
          ((ApActivities.create activity).receive data) db := by
        refine ApActivities.ensures_fresh_receive (fun _ => quiet_of_obliging) ?_ fresh storable ?_
        · rintro left right same ⟨actorId, now, id, rows, free⟩
          refine ⟨actorId, now, id, fun clip => ?_, free⟩
          rw [← same.clips]
          exact rows clip
        · simp only [ApActivities.work]
          rw [(Note.parseInboundNote_eq_ok read).1]
          refine (ensures_ingested read ?_ attributed ?_ ?_ takes.storable).mono
            fun _ _ added => added
          · exact alive
          · exact known
          · exact takes.free
      exact ensured.run _ fun _ => rfl
  | backfilled actor code object =>
      obtain ⟨isUrl, attributed⟩ := takes.passes
      have read : Note.parseInboundNote object = .ok (.ok note) := takes.read
      obtain ⟨url, parsed⟩ := Option.isSome_iff_exists.mp isUrl
      have ensured : Program.Ensures Operation.exec (· = Env.obliging object)
          (fun _ final => ∃ actorId, db.ClipAdded (note.newClip actorId) final)
          ((backfilled actor code object : NoteArrival Url).program data) db := by
        refine (Program.ensures_bind _ _ _ _).mpr ?_
        unfold fetchAndIngestOne
        rw [parsed]
        refine Handler.ensures_quiet_then (fun _ => quiet_of_obliging) rfl ?_
        rintro _ rfl
        dsimp only [Operation.perform, Operation.requested]
        rw [show (Env.obliging object : Env Url).getJson url = .ok object from rfl]
        show Program.Ensures _ _ _ (ingestFetched actor object) db
        unfold ingestFetched
        rw [read]
        simp only [Handler.ofPanicking, Program.done_bind]
        rw [if_neg (not_not.mpr attributed)]
        refine (ensures_stored takes.free takes.storable).mono ?_
        rintro _ final ⟨rfl, added⟩
        exact ⟨actor.id, added⟩
      exact ensured.run _ fun _ => rfl

/-- The clip that is made of a note that passes the checks has the author of its path. -/
theorem Takes.made {arrival : NoteArrival Url} {note : ParsedNote}
    (takes : arrival.Takes data db note) :
    arrival.Made data db (arrival.after data (fun _ => .obliging arrival.object) db) := by
  obtain ⟨actorId, now, id, rows, fresh⟩ := takes.added
  refine (arrival.unchanged_or_made _ arrival.ordinary_obliging).resolve_left
    fun same => ?_
  have stored := (same _).mp ((rows ((note.newClip actorId).row now id)).mpr (.inr rfl))
  exact (fresh _ stored).1 rfl

/-- A new clip is none of the old ones. -/
theorem Made.not_sameClips {arrival : NoteArrival Url} {final : Db}
    (made : arrival.Made data db final) : ¬db.SameClips final := by
  obtain ⟨note, actorId, -, -, now, id, rows, fresh⟩ := made
  intro same
  have stored := (same _).mp ((rows ((note.newClip actorId).row now id)).mpr (.inr rfl))
  exact (fresh _ stored).1 rfl

theorem canMake_iff (data : FederationData) (db : Db) (arrival : NoteArrival Url) :
    arrival.CanMake data db ↔ ∃ note, arrival.Takes data db note := by
  constructor
  · rintro ⟨envs, ordinary, changed⟩
    obtain ⟨note, -, takes, -⟩ :=
      (arrival.unchanged_or_made envs ordinary).resolve_left changed
    exact ⟨note, takes⟩
  · rintro ⟨note, takes⟩
    exact ⟨_, arrival.ordinary_obliging, takes.made.not_sameClips⟩

/-- Ingestion of a note. Whatever the other servers answer and whichever operations fail, an
arrival changes no clip or makes the clip of a note that passes the checks of its path, with
the author of that path; and some run makes a clip as soon as a note passes them. -/
theorem ingestion_iff (data : FederationData) (db : Db) (arrival : NoteArrival Url) :
    (∀ envs, arrival.Ordinary envs →
        db.SameClips (arrival.after data envs db) ∨
          arrival.Made data db (arrival.after data envs db)) ∧
      (arrival.CanMake data db ↔ ∃ note, arrival.Takes data db note) :=
  ⟨fun envs ordinary => arrival.unchanged_or_made envs ordinary, canMake_iff data db arrival⟩

end NoteArrival

end TootTok
