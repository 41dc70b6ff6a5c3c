import TootTok.Authorship

/-!
# Object ids

The ids of local clips are minted below the public base, long after the clips
are inserted. Nothing reserves them: an inbound note may name any id, and only
a note that names an id of its author's host leaves the minted ids free.
-/

namespace TootTok

open Effects
open Json (Value)
open Relational (Table SerialTable)
open UrlCrate

variable {Url : Type}

/-! ## Minted ids -/

theorem lastSegment_of_toList
    {text name : String} {before : List Char}
    (split : text.toList = before ++ '/' :: name.toList) (plain : '/' ∉ name.toList) :
    lastSegment text = name := by
  have apart : ∀ char ∈ name.toList.reverse, decide (char ≠ '/') = true := by
    intro char member
    refine decide_eq_true fun isSlash => plain ?_
    exact isSlash ▸ List.mem_reverse.mp member
  unfold lastSegment
  rw [split, List.reverse_append, List.reverse_cons, List.append_assoc,
    List.takeWhile_append_of_pos apart]
  simp

theorem isDigit_of_mem_toString {number : Nat} {char : Char}
    (member : char ∈ (toString number).toList) : char.isDigit = true :=
  Nat.isDigit_of_mem_toDigits (by decide) (by decide)
    (show char ∈ Nat.toDigits 10 number from Nat.toList_repr ▸ member)

theorem lastSegment_clipObjectId (baseUrl : String) (clipId : Nat) :
    lastSegment (clipObjectId baseUrl clipId) = toString clipId := by
  refine @lastSegment_of_toList _ _ (baseUrl.toList ++ "/clips".toList) ?_ ?_
  · simp [clipObjectId, String.toList_append]
  · exact fun isSlash => absurd (isDigit_of_mem_toString isSlash) (by decide)

theorem clipObjectId_injective {baseUrl : String} {left right : Nat}
    (same : clipObjectId baseUrl left = clipObjectId baseUrl right) : left = right := by
  have segments := congrArg lastSegment same
  rw [lastSegment_clipObjectId, lastSegment_clipObjectId] at segments
  exact toString_injective segments

/-- A hyphenated text, as the `uuid` crate prints it. -/
def Hyphenated (uuid : String) : Prop :=
  '-' ∈ uuid.toList ∧ '/' ∉ uuid.toList

/-- The placeholder of an upload is no minted id. -/
theorem placeholder_ne_clipObjectId {uuid : String} (hyphenated : Hyphenated uuid)
    (baseUrl : String) (clipId : Nat) :
    "https://toottok.local/clips/" ++ uuid ≠ clipObjectId baseUrl clipId := by
  intro same
  have ofUuid : lastSegment ("https://toottok.local/clips/" ++ uuid) = uuid := by
    refine @lastSegment_of_toList _ _ "https://toottok.local/clips".toList ?_ hyphenated.2
    simp [String.toList_append]
  rw [same, lastSegment_clipObjectId] at ofUuid
  have isDigit := isDigit_of_mem_toString (ofUuid ▸ hyphenated.1)
  exact absurd isDigit (by decide)

/-! ## Actors that stay -/

namespace Actors

/-- Every row is still there under its number and id. -/
def Persist (before after : ActorTable) : Prop :=
  ∀ row ∈ before, ∃ kept ∈ after, kept.id = row.id ∧ kept.apId = row.apId

theorem Persist.refl (table : ActorTable) : Persist table table :=
  fun row stored => ⟨row, stored, rfl, rfl⟩

theorem Persist.trans {first second third : ActorTable}
    (left : Persist first second) (right : Persist second third) : Persist first third := by
  intro row stored
  obtain ⟨middle, middleStored, sameId, sameApId⟩ := left row stored
  obtain ⟨last, lastStored, sameId', sameApId'⟩ := right middle middleStored
  exact ⟨last, lastStored, sameId'.trans sameId, sameApId'.trans sameApId⟩

theorem persist_create (new : NewActor) (table : ActorTable) :
    Persist table (create new table).2 :=
  fun row stored =>
    ⟨row, SerialTable.mem_insert_of_mem new.row (fun _ => rfl) stored, rfl, rfl⟩

theorem persist_insertInstanceActor (new : NewActor) (table : ActorTable) :
    Persist table (insertInstanceActor new table).2 := by
  unfold insertInstanceActor
  split
  · exact Persist.refl table
  · exact persist_create new table

theorem persist_upsertRemote (parts : RemoteActorParts) (table : ActorTable) :
    Persist table (upsertRemote parts table).2 := by
  obtain ⟨-, -, -, -, -, mem⟩ := upsertRemote_spec parts table
  intro row stored
  refine ⟨_, (mem _).mpr (.inl ⟨row, stored, rfl⟩), ?_⟩
  unfold Table.changeWhere
  split <;> exact ⟨rfl, rfl⟩

theorem persist_delete (condition : ActorRow → Bool) (now : DateTime) (table : ActorTable) :
    Persist table (delete condition now table).2 := by
  intro row stored
  refine ⟨_, mem_delete.mpr ⟨row, stored, rfl⟩, ?_⟩
  unfold Table.changeWhere
  split <;> exact ⟨rfl, rfl⟩

end Actors

/-- No operation removes an actor or gives it another id. -/
theorem Operation.exec_persist (env : Env Url) (op : Operation Url) (db : Db) :
    Actors.Persist db.actors (exec env op db).2.actors := by
  rcases exec_cases env op db with ⟨error, failed⟩ | performed
  · rw [failed]
    exact .refl _
  · rw [performed]
    cases op with
    | createActor new => exact Actors.persist_create new _
    | insertInstanceActor new => exact Actors.persist_insertInstanceActor new _
    | upsertRemote parts => exact Actors.persist_upsertRemote parts _
    | markActorDeleted id => exact Actors.persist_delete _ _ _
    | markRemoteDeletedByApId apId => exact Actors.persist_delete _ _ _
    | _ => exact .refl _

/-! ## The namespace -/

section Namespace

variable (Url) [UrlCrate Url]

/-- The host of a URL given as text. -/
def hostOf (text : String) : Option String :=
  (parse text : Option Url).bind hostStr

def SameHost (left right : String) : Prop :=
  ∃ host, hostOf Url left = some host ∧ hostOf Url right = some host

/-- An id that a remote author may give to an object: it is on the host of the
author and is none of the ids that this instance mints. -/
def OwnObjectId (baseUrl objectId authorApId : String) : Prop :=
  SameHost Url objectId authorApId ∧ ∀ clipId, objectId ≠ clipObjectId baseUrl clipId

/-- A remote clip is on the host of its author and has no minted id, and the
finished upload can be given the id that is minted for it. -/
structure Db.ObjectNamespace (baseUrl : String) (db : Db) : Prop where
  remote : ∀ clip ∈ db.clips, clip.origin = .remote →
    ∃ author ∈ db.actors, author.id = clip.actorId ∧
      OwnObjectId Url baseUrl clip.apId author.apId
  mintable : ∀ clip ∈ db.clips, clip.origin = .localUpload →
    (Clips.setApId clip.id (clipObjectId baseUrl clip.id) db.clips).1 = .ok ()

/-- The invariant behind the namespace: a minted id is on the clip that it was
minted for. -/
structure Db.ObjectIds (baseUrl : String) (db : Db) : Prop where
  remote : ∀ clip ∈ db.clips, clip.origin = .remote →
    ∃ author ∈ db.actors, author.id = clip.actorId ∧
      OwnObjectId Url baseUrl clip.apId author.apId
  minted : ∀ clip ∈ db.clips, ∀ clipId, clip.apId = clipObjectId baseUrl clipId →
    clip.id = clipId

variable {Url} {baseUrl : String} {before after : Db}

theorem Db.ObjectIds.objectNamespace {db : Db} (ids : db.ObjectIds Url baseUrl) :
    db.ObjectNamespace Url baseUrl where
  remote := ids.remote
  mintable clip _ _ := Clips.setApId_of_free fun row rowStored named =>
    ids.minted row rowStored clip.id named

/-- The invariant is kept when every clip is one of before, or is a new one of
which it holds. -/
theorem Db.ObjectIds.of_clips
    (ids : before.ObjectIds Url baseUrl)
    (actors : Actors.Persist before.actors after.actors)
    (clips : ∀ new ∈ after.clips,
      (∃ old ∈ before.clips, old.SameObject new) ∨
        ((new.origin = .remote → ∃ author ∈ after.actors, author.id = new.actorId ∧
            OwnObjectId Url baseUrl new.apId author.apId) ∧
          ∀ clipId, new.apId = clipObjectId baseUrl clipId → new.id = clipId)) :
    after.ObjectIds Url baseUrl := by
  constructor
  · intro new stored isRemote
    rcases clips new stored with ⟨old, oldStored, same⟩ | ⟨authored, -⟩
    · obtain ⟨author, authorStored, sameAuthor, own⟩ :=
        ids.remote old oldStored (same.origin ▸ isRemote)
      obtain ⟨kept, keptStored, keptId, keptApId⟩ := actors author authorStored
      refine ⟨kept, keptStored, ?_, ?_⟩
      · rw [keptId, sameAuthor, same.actorId]
      · rw [keptApId, same.apId]
        exact own
    · exact authored isRemote
  · intro new stored clipId named
    rcases clips new stored with ⟨old, oldStored, same⟩ | ⟨-, minted⟩
    · rw [same.id]
      exact ids.minted old oldStored clipId (same.apId ▸ named)
    · exact minted clipId named

end Namespace

/-! ## Local clips -/

section LocalClips

variable {allow : Env Url → Prop} {db : Db}

/-- What the handler of a session ensures for every actor. -/
theorem ensures_authenticated {α : Type} {holds : Db → Prop} {authId : Nat}
    {body : ActorRow → Handler Url α} (initially : holds db)
    (ensured : ∀ auth,
      Program.Ensures Operation.exec allow (fun _ final => holds final) (body auth) db) :
    Program.Ensures Operation.exec allow (fun _ final => holds final)
      (authenticated authId body) db := by
  refine Handler.ensures_query_then (fun _ _ _ _ => initially) ?_
  intro env _ _
  simp only [Operation.perform, Program.thenEnsures_ok]
  split
  · exact initially
  next auth _ =>
    refine (Program.ensures_bind _ _ _ _).mpr ((ensured auth).mono ?_)
    intro outcome final holdsThen
    cases outcome <;> exact holdsThen

/-- An upload adds at most one clip, under a placeholder. -/
theorem ensures_storeUpload
    (hyphenated : ∀ env, allow env → Hyphenated env.uuid)
    (auth : ActorRow) (sha256Hash : String) (sizeBytes : Int) (caption : Option String) :
    Program.Ensures Operation.exec allow
      (fun _ final => ∀ clip ∈ final.clips, clip ∈ db.clips ∨
        (clip.origin = .localUpload ∧ ∃ uuid, Hyphenated uuid ∧
          clip.apId = "https://toottok.local/clips/" ++ uuid))
      (storeUpload auth sha256Hash sizeBytes caption : Handler Url ClipRow) db := by
  refine Handler.ensures_query_then (fun _ _ _ _ clip => .inl) ?_
  intro env allowed _
  simp only [Operation.perform, Program.thenEnsures_ok]
  refine @Handler.ensures_query _ _ _ (.createPendingUpload _) _ ?_ ?_
  · exact fun _ _ _ _ _ => .inl
  · intro later _ _ clip stored
    rcases SerialTable.mem_of_mem_insert stored with old | rfl
    · exact .inl old
    · exact .inr ⟨rfl, env.uuid, hyphenated env allowed, rfl⟩

/-- A deleted account keeps its clips, marked deleted. -/
theorem ensures_deleteMe (auth : ActorRow) :
    Program.Ensures Operation.exec allow (fun _ final => db.NoNewClips final)
      (deleteMe auth : Handler Url Unit) db := by
  have unchanged : db.NoNewClips db := (Db.SameClips.refl db).noNewClips
  refine Handler.ensures_query_then (fun _ _ _ _ => unchanged) ?_
  intro env _ _
  simp only [Operation.perform, Operation.answered, Program.thenEnsures_ok]
  have marked : db.NoNewClips
      (db.onClips fun table => ((), Clips.markDeletedOfActor auth.id env.now table)).2 := by
    intro new stored
    obtain ⟨old, oldStored, rfl⟩ := Clips.mem_delete.mp stored
    have same (row : ClipRow) : row.SameObject (ClipRow.delete env.now row) :=
      ⟨rfl, rfl, rfl, rfl⟩
    exact ⟨old, oldStored, ClipRow.sameObject_changeWhere same _ old⟩
  have frame : (do
      query (.insertTombstone auth.apId .person)
      let _ ← query (.markActorDeleted auth.id)
      pure () : Handler Url Unit).Calls fun op => op.writes ≠ some .clips := by
    refine Handler.calls_query_then (by simp [Operation.writes]) fun _ => ?_
    exact Handler.calls_query_then (by simp [Operation.writes]) fun _ => trivial
  refine (Handler.ensures_frame frame).mono fun _ final same new stored => ?_
  exact marked new (show new ∈ _ from (show final.clips = _ from same) ▸ stored)

/-- At most clips that are uploaded here have changed, and those only in their
id, to the one minted for them. -/
def Db.Minted (baseUrl : String) (before after : Db) : Prop :=
  ∀ new ∈ after.clips, new ∈ before.clips ∨
    ∃ old ∈ before.clips, old.origin = .localUpload ∧
      new = { old with apId := clipObjectId baseUrl old.id }

theorem Db.Minted.refl (baseUrl : String) (db : Db) : db.Minted baseUrl db :=
  fun _ => Or.inl

theorem ensures_canonicalizeClip {clip : ClipRow} {baseUrl : String}
    (stored : clip ∈ db.clips) (isLocal : clip.origin = .localUpload) :
    Program.Ensures Operation.exec allow (fun _ final => db.Minted baseUrl final)
      (canonicalizeClip baseUrl clip : Handler Url Unit) db := by
  unfold canonicalizeClip
  split
  · exact .refl baseUrl db
  · refine @Handler.ensures_query _ _ _ (.setApId _ _) _ ?_ ?_
    · exact fun _ _ _ _ => .refl baseUrl db
    · intro env _ _ new newStored
      rcases Clips.mem_setApId newStored with unchanged | ⟨old, oldStored, sameId, rfl⟩
      · exact .inl unchanged
      · cases SerialTable.eq_of_number_eq oldStored stored sameId
        exact .inr ⟨clip, stored, isLocal, rfl⟩

/-- An announcement mints the id of its clip. -/
theorem ensures_enqueueClipCreate [ChronoCrate] (baseUrl : String) (clipId : Nat) :
    Program.Ensures Operation.exec allow (fun _ final => db.Minted baseUrl final)
      (enqueueClipCreate baseUrl clipId : Handler Url Unit) db := by
  have unchanged : db.Minted baseUrl db := .refl baseUrl db
  refine Handler.ensures_query_then (fun _ _ _ _ => unchanged) ?_
  intro env _ _
  simp only [Operation.perform, Program.thenEnsures_ok]
  split
  next => exact unchanged
  next clip found =>
  have stored := (Db.clipById_eq_some.mp found).1
  split
  next => exact unchanged
  next announced =>
  have isLocal := not_not.mp (not_or.mp announced).1
  refine Handler.ensures_query_then (fun _ _ _ _ => unchanged) ?_
  intro env _ _
  simp only [Operation.perform, Program.thenEnsures_ok]
  split
  next => exact unchanged
  next author _ =>
  split
  next => exact unchanged
  next =>
  refine (Program.ensures_bind _ _ _ _).mpr ((ensures_canonicalizeClip stored isLocal).mono ?_)
  intro outcome middle minted
  cases outcome with
  | error error => exact minted
  | ok _ =>
      -- What is left writes the log and the jobs.
      refine (@Handler.ensures_frame _ _ _ _ .clips _ ?_).mono fun _ final same new newStored => ?_
      · refine Handler.calls_query_then (by simp [Operation.writes]) fun again => ?_
        split
        · trivial
        · refine Handler.calls_caught_then (Handler.calls_query (by simp [Operation.writes])) ?_
          intro filename
          refine (Handler.calls_discarded
            (Handler.calls_query (by simp [Operation.writes]))).bind fun _ => ?_
          exact Handler.calls_query_then (by simp [Operation.writes]) fun _ => trivial
      · have sameClips : final.clips = middle.clips := same
        rw [sameClips] at newStored
        exact minted new newStored

end LocalClips

/-! ## Runs -/

/-- What the environment of the program promises: an actor that is fetched is
the one that was asked for, and a new uuid is printed with hyphens. -/
structure Env.Sound (env : Env Url) : Prop where
  faithful : env.Faithful
  hyphenated : Hyphenated env.uuid

section Runs

variable [UrlCrate Url] [ChronoCrate]

/-- Every note that the event turns into a clip has an id of its author. -/
def OwnObjectIds (config : Config) (db : Db) (occurrence : Occurrence Url) : Prop :=
  match occurrence.event with
  | .inbound (.create activity) =>
      ¬db.Logged (asStr activity.id) → (ApActivities.create activity).storable = true →
      ∀ note, Note.parseInboundNote activity.object = .ok (.ok note) →
        attributedToSigner config.federationData activity.actor note = true →
        db.tombstoned note.id = false → (∀ clip ∈ db.clips, clip.apId ≠ note.id) →
        OwnObjectId Url config.publicBaseUrl note.id (asStr activity.actor)
  | .backfill actorId max =>
      ∀ actor, db.actorById actorId = some actor → actor.domain ≠ none →
        ∀ new, FromFeed (fun env => ∃ index, occurrence.envs index = env) actor max new →
          (∀ clip ∈ db.clips, clip.apId ≠ new.apId) →
          OwnObjectId Url config.publicBaseUrl new.apId actor.apId
  | _ => True

/-- Actors stay. -/
theorem persist_step (config : Config) (db : Db) (occurrence : Occurrence Url) :
    Actors.Persist db.actors (step config db occurrence).actors :=
  Program.run_related (fun before after : Db => Actors.Persist before.actors after.actors)
    (fun _ => .refl _) (fun _ _ _ => .trans) Operation.exec_persist _ _ _

variable {config : Config} {db : Db} {envs : Nat → Env Url}

theorem sameClips_step {event : Event Url}
    (frame : (event.program config).Calls fun op => op.writes ≠ some .clips) :
    db.SameClips (step config db ⟨event, envs⟩) :=
  step_of_ensures (fun _ => True) (fun final => db.SameClips final) (fun _ => trivial)
    ((Handler.ensures_frame frame).mono fun _ _ => Db.sameClips_of_sameTable)

/-- What each event does to the clips. -/
def StepOfClips (config : Config) (before : Db) (occurrence : Occurrence Url)
    (after : Db) : Prop :=
  match occurrence.event with
  | .inbound activity =>
      before.NoNewClips after ∨
        (¬before.Logged (asStr activity.id) ∧ activity.storable = true ∧
          ClipsOf config.federationData activity before after)
  | .backfill actorId max =>
      before.Grows (fun new => ∃ actor, before.actorById actorId = some actor ∧
        actor.domain ≠ none ∧
        FromFeed (fun env => ∃ index, occurrence.envs index = env) actor max new) after
  | .upload _ _ _ _ =>
      ∀ clip ∈ after.clips, clip ∈ before.clips ∨
        (clip.origin = .localUpload ∧ ∃ uuid, Hyphenated uuid ∧
          clip.apId = "https://toottok.local/clips/" ++ uuid)
  | .announceClip _ => before.Minted config.publicBaseUrl after
  | _ => before.NoNewClips after

-- Lest a search be run on an unknown text.
attribute [local irreducible] searchActors

theorem stepOfClips_step {event : Event Url} (sound : ∀ index, (envs index).Sound) :
    StepOfClips config db ⟨event, envs⟩ (step config db ⟨event, envs⟩) := by
  have others {names : List Operation.TableName} (other : .clips ∉ names) :=
    @Operation.writes_ne_of_writesOnly Url names .clips other
  have caches (parts : RemoteActorParts) (id : Url) (_ : parts.id = asStr id)
      (_ : isLocalUrl id config.federationDomain = false) :
      (Operation.upsertRemote parts : Operation Url).writes ≠ some .clips := by
    simp [Operation.writes]
  cases event with
  | boot publicKeyPem privateKeyPem =>
      refine (sameClips_step ?_).noNewClips
      exact (calls_initFederation (others (by decide)) config _ _).bind fun _ => trivial
  | registration username publicKeyPem privateKeyPem =>
      refine (sameClips_step ?_).noNewClips
      exact Program.Calls.bind (Handler.calls_query (by simp [Operation.writes]))
        fun _ => trivial
  | inbound activity =>
      rcases @clipsOf_step _ _ _ config activity envs (fun index => (sound index).faithful) db
        with same | changed
      · exact .inl same.noNewClips
      · exact .inr changed
  | resolution url =>
      refine (sameClips_step ?_).noNewClips
      exact (calls_dereference (others (by decide)) caches url).bind fun _ => trivial
  | backfill actorId max =>
      refine step_of_ensures (fun env => ∃ index, envs index = env) _ (fun index => ⟨index, rfl⟩) ?_
      refine (Program.ensures_bind _ _ _ _).mpr
        ((ensures_backfillActorPosts actorId max).mono ?_)
      rintro outcome final ⟨-, grown⟩
      cases outcome <;> exact grown
  | follow authId request =>
      refine (sameClips_step ?_).noNewClips
      refine calls_authenticated (others (by decide)) authId fun auth => ?_
      exact calls_apiFollow (others (by decide)) caches auth request
  | unfollow authId targetId =>
      refine (sameClips_step ?_).noNewClips
      refine calls_authenticated (others (by decide)) authId fun auth => ?_
      exact calls_apiUnfollow (others (by decide)) auth targetId
  | search text =>
      refine (sameClips_step ?_).noNewClips
      refine Program.Calls.bind (calls_searchActors (others (by decide)) ?_ text)
        fun _ => trivial
      simp [Operation.writes]
  | upload authId sha256Hash sizeBytes caption =>
      refine step_of_ensures Env.Sound _ sound ?_
      refine ensures_authenticated (fun _ => Or.inl) fun auth => ?_
      exact ensures_storeUpload (fun env => Env.Sound.hyphenated) auth _ _ _
  | announceClip clipId =>
      refine step_of_ensures Env.Sound _ sound ?_
      exact ensures_enqueueClipCreate config.publicBaseUrl clipId
  | deleteAccount authId =>
      refine step_of_ensures Env.Sound _ sound ?_
      exact ensures_authenticated (Db.SameClips.refl db).noNewClips ensures_deleteMe

/-- A step whose notes have ids of their authors keeps the invariant. -/
theorem objectIds_step {occurrence : Occurrence Url}
    (sound : ∀ index, (occurrence.envs index).Sound)
    (own : OwnObjectIds config db occurrence)
    (ids : db.ObjectIds Url config.publicBaseUrl) :
    (step config db occurrence).ObjectIds Url config.publicBaseUrl := by
  obtain ⟨event, envs⟩ := occurrence
  have stays := persist_step config db ⟨event, envs⟩
  have clips := @stepOfClips_step _ _ _ config db envs event sound
  have unchanged (same : db.NoNewClips (step config db ⟨event, envs⟩)) :
      (step config db ⟨event, envs⟩).ObjectIds Url config.publicBaseUrl :=
    ids.of_clips stays fun new stored => .inl (same new stored)
  cases event with
  | inbound activity =>
      rcases clips with same | ⟨fresh, storable, clips⟩
      · exact unchanged same
      cases activity with
      | create activity =>
          rcases clips with same | ⟨note, author, parsed, attributed, notTombstoned,
            authorStored, authorNamed, now, id, rows, isNew⟩
          · exact unchanged same.noNewClips
          have ownId := own fresh storable note parsed attributed notTombstoned
            fun clip stored => (isNew clip stored).2
          refine ids.of_clips stays fun new stored => ?_
          rcases (rows new).mp stored with old | rfl
          · exact .inl ⟨new, old, .refl new⟩
          · refine .inr ⟨fun _ => ⟨author, authorStored, rfl, authorNamed ▸ ownId⟩, ?_⟩
            exact fun clipId named => (ownId.2 clipId named).elim
      | update activity => exact unchanged clips.1
      | delete activity => exact unchanged clips.1
      | _ => exact unchanged (Db.SameClips.noNewClips clips)
  | backfill actorId max =>
      refine ids.of_clips stays fun clip stored => ?_
      rcases clips.2 clip stored with
        old | ⟨new, now, id, ⟨actor, found, isRemote, fromFeed⟩, rfl, isNew⟩
      · exact .inl ⟨clip, old, .refl clip⟩
      have ownId := own actor found isRemote new fromFeed isNew
      obtain ⟨actorStored, actorNamed⟩ := Db.actorById_eq_some.mp found
      obtain ⟨kept, keptStored, keptId, keptApId⟩ := stays actor actorStored
      have author : new.actorId = actor.id := by
        obtain ⟨env, feed, body, code, -, -, -, -, env, url, note, parsed, -, -, -, -, -, rfl⟩ :=
          fromFeed
        rfl
      refine .inr ⟨fun _ => ⟨kept, keptStored, ?_, ?_⟩, ?_⟩
      · exact keptId.trans author.symm
      · rw [keptApId]
        exact ownId
      · exact fun clipId named => (ownId.2 clipId named).elim
  | upload authId sha256Hash sizeBytes caption =>
      refine ids.of_clips stays fun new stored => ?_
      rcases clips new stored with old | ⟨isLocal, uuid, hyphenated, named⟩
      · exact .inl ⟨new, old, .refl new⟩
      · refine .inr ⟨fun isRemote => ?_, fun clipId isMinted => ?_⟩
        · rw [isLocal] at isRemote
          cases isRemote
        · exact (placeholder_ne_clipObjectId hyphenated _ clipId (named ▸ isMinted)).elim
  | announceClip clipId =>
      refine ids.of_clips stays fun new stored => ?_
      rcases clips new stored with old | ⟨old, oldStored, isLocal, rfl⟩
      · exact .inl ⟨new, old, .refl new⟩
      · refine .inr ⟨fun isRemote => ?_, fun other => clipObjectId_injective⟩
        rw [isLocal] at isRemote
        cases isRemote
  | _ => exact unchanged clips

/-- The namespace of object ids. Along a run in which every note that becomes a
clip has an id of its author, remote clips stay on the hosts of their authors,
and no finished upload finds the id minted for it taken. -/
theorem object_ids_kept
    (config : Config) (occurrences : List (Occurrence Url))
    (sound : ∀ occurrence ∈ occurrences, ∀ index, (occurrence.envs index).Sound)
    (own : Runs.EachStep (step config) (OwnObjectIds config) Db.empty occurrences) :
    (Runs.after (step config) Db.empty occurrences).ObjectNamespace Url
      config.publicBaseUrl := by
  have initially : Db.empty.ObjectIds Url config.publicBaseUrl :=
    ⟨fun clip stored => (Table.not_mem_empty clip stored).elim,
      fun clip stored => (Table.not_mem_empty clip stored).elim⟩
  have ids := Runs.invariant_after
    (fun db occurrence holds admitted => objectIds_step admitted.1 admitted.2 holds)
    initially (own.and_of_mem sound)
  exact ids.objectNamespace

end Runs

section Sample

open Sample

theorem Sample.sound_online : online.Sound where
  faithful := faithful_online
  hyphenated := by
    have plain : (online.uuid.toList.contains '-' && !online.uuid.toList.contains '/') = true := by
      decide
    simpa [Hyphenated] using plain

/-- Bob posts a note on his own host. -/
def Sample.bobPostsAtHome : List (Occurrence NormalUrl) :=
  arrivals ++ [⟨.inbound bobPosts, fun _ => online⟩]

theorem bob_keeps_to_his_host :
    (Runs.after (step Sample.config) Db.empty Sample.bobPostsAtHome).ObjectNamespace NormalUrl
      Sample.config.publicBaseUrl := by
  refine object_ids_kept config bobPostsAtHome ?_ ?_
  · intro occurrence member index
    have isOnline : occurrence.envs = fun _ => online := by
      simp only [bobPostsAtHome, arrivals, List.cons_append, List.nil_append, List.mem_cons,
        List.not_mem_nil, or_false] at member
      rcases member with rfl | rfl | rfl <;> rfl
    rw [isOnline]
    exact sound_online
  · refine ⟨trivial, trivial, ?_, trivial⟩
    intro _ _ parsedNote parsed _ _ _
    have isNote : parsedNote.id = "https://b/n" := by
      have embedded := (Note.parseInboundNote_eq_ok parsed).1
      have named : Note.embeddedObjectId (note "https://b/n" "https://b/bob" "https://b/v") =
          some "https://b/n" := by
        decide
      exact Option.some.inj (embedded.symm.trans named)
    rw [isNote]
    refine ⟨⟨"b", by decide, by decide⟩, fun clipId same => ?_⟩
    have segment : lastSegment "https://b/n" = "n" := by decide
    rw [same, lastSegment_clipObjectId] at segment
    have isDigit : 'n'.isDigit = true := isDigit_of_mem_toString (by rw [segment]; decide)
    exact absurd isDigit (by decide)

/-- Bob's note takes the id that will be minted for the second clip, and alice
uploads the second clip. -/
def Sample.bobSquats : List (Occurrence NormalUrl) :=
  arrivals ++
    [⟨.inbound (.create ⟨.ofText "https://b/1" parse_bobsActivity, bob.id,
        note "https://a/clips/2" "https://b/bob" "https://b/v"⟩), fun _ => online⟩,
      ⟨.upload 1 "0" 1 none, fun _ => online⟩]

/-- A remote note on a foreign host takes a minted id, and the announcement of
the upload fails. -/
theorem minted_id_taken_by_bob :
    ¬(Runs.after (step Sample.config) Db.empty Sample.bobSquats).ObjectNamespace NormalUrl
        Sample.config.publicBaseUrl ∧
      ((enqueueClipCreate Sample.config.publicBaseUrl 2).run Operation.exec
        (fun _ => Sample.online)
        (Runs.after (step Sample.config) Db.empty Sample.bobSquats)).1 =
          .error (.db .uniqueViolation) := by
  have taken : ((Runs.after (step config) Db.empty bobSquats).clips.rows.any fun clip =>
      decide (clip.origin = .localUpload) &&
        !(Clips.setApId clip.id (clipObjectId config.publicBaseUrl clip.id)
          (Runs.after (step config) Db.empty bobSquats).clips).1.isOk) = true := by
    decide
  constructor
  · intro namespaced
    obtain ⟨clip, stored, fails⟩ := List.any_eq_true.mp taken
    rw [Bool.and_eq_true] at fails
    have mintable := namespaced.mintable clip stored (of_decide_eq_true fails.1)
    rw [mintable] at fails
    exact absurd fails.2 (by decide)
  · decide

end Sample

end TootTok
