import TootTok.Instance
import TootTok.Pipeline

/-!
# Who may delete

A `Delete` may be sent by the author of the deleted clip, or by the deleted
actor itself. For an object that is no known clip the handler takes the id for
that of an actor and asks for no authority at all. This module says exactly
which deliveries of a `Delete` are nevertheless safe.
-/

namespace TootTok

open Effects
open Relational (Table SerialTable)
open UrlCrate

variable {Url : Type}

namespace Db

/-- The two states have the same tombstones, actors and clips. -/
structure SameObjects (before after : Db) : Prop where
  tombstones : after.tombstones.rows = before.tombstones.rows
  actors : after.actors.rows = before.actors.rows
  clips : after.clips.rows = before.clips.rows

theorem SameObjects.refl (db : Db) : db.SameObjects db := ⟨rfl, rfl, rfl⟩

theorem SameEffects.sameObjects {before left right : Db}
    (same : left.SameEffects right) (objects : before.SameObjects left) :
    before.SameObjects right := by
  refine ⟨?_, ?_, ?_⟩
  · rw [← same.tombstones, objects.tombstones]
  · rw [← same.actors, objects.actors]
  · rw [← same.clips, objects.clips]

/-- The signer owns an object: it is that object, or the author of the stored
clip with that id. -/
def Owns (db : Db) (signer objectId : String) : Prop :=
  signer = objectId ∨
    ∃ clip author,
      db.clipByApId objectId = some clip ∧
      db.actorById clip.actorId = some author ∧
      author.apId = signer

/-- Someone is already recorded as gone: the tombstone of a person stands for
the id, and no actor has it. -/
def PersonGone (db : Db) (objectId : String) : Prop :=
  (∃ row ∈ db.tombstones, row.apId = objectId ∧ row.type = .person) ∧
    db.actorByApId objectId = none

/-- The id has the tombstone of a person, and its actors a deletion mark. -/
def ActorDeleted (before : Db) (objectId : String) (now : DateTime) (after : Db) : Prop :=
  (∃ row ∈ after.tombstones, row.apId = objectId ∧ row.type = .person) ∧
    ∀ row ∈ before.actors, row.apId = objectId → row.delete now ∈ after.actors

/-- A deletion mark at an unusual time shows. -/
theorem personGone_of_actorDeleted
    {before after : Db} {objectId : String} {now : DateTime}
    (deleted : before.ActorDeleted objectId now after)
    (unusual : ∀ row, before.actorByApId objectId = some row → row.deletedAt ≠ some now)
    (same : before.SameObjects after) : before.PersonGone objectId := by
  constructor
  · obtain ⟨row, stored, kind⟩ := deleted.1
    refine ⟨row, ?_, kind⟩
    rwa [← Table.mem_rows, same.tombstones] at stored
  · cases found : before.actorByApId objectId with
    | none => rfl
    | some actor =>
        obtain ⟨stored, named⟩ := actorByApId_eq_some.mp found
        have marked := deleted.2 actor stored named
        rw [← SerialTable.mem_rows, same.actors] at marked
        have unmarked : actor.delete now = actor :=
          SerialTable.eq_of_number_eq marked stored rfl
        exact absurd (congrArg ActorRow.deletedAt unmarked).symm (unusual actor found)

end Db

/-! ## The branch of an unknown object -/

/-- The tombstone is there after an upsert. -/
theorem Tombstones.mem_upsert
    (apId : String) (type : TombstoneType) (now : DateTime) (table : TombstoneTable) :
    ∃ row ∈ (Tombstones.upsert apId type now table).2, row.apId = apId ∧ row.type = type := by
  unfold Tombstones.upsert
  cases found : table.find? fun row => row.apId = apId with
  | some row =>
      have stored : row ∈ table := Table.mem_of_find?_eq_some found
      have named : row.apId = apId := by simpa using Table.holds_of_find?_eq_some found
      refine ⟨_, Table.mem_update_of_mem (TombstoneRow.keepsKeys_retype type) stored, ?_⟩
      simp [Table.changeWhere, named, TombstoneRow.retype]
  | none =>
      cases inserted : table.insert? ⟨apId, type, now⟩ with
      | some table' => exact ⟨⟨apId, type, now⟩, (Table.mem_insert? inserted).mpr (.inr rfl), rfl, rfl⟩
      | none =>
          obtain ⟨row, stored, clash⟩ := Table.insert?_eq_none.mp inserted
          exact absurd (show decide (row.apId = apId) = true from decide_eq_true clash)
            (Table.find?_eq_none.mp found row stored)

/-- An upsert of a tombstone meets no conflict that it does not handle. -/
theorem Tombstones.upsert_ok
    (apId : String) (type : TombstoneType) (now : DateTime) (table : TombstoneTable) :
    ∃ row, (Tombstones.upsert apId type now table).1 = .ok row := by
  unfold Tombstones.upsert
  cases found : table.find? fun row => row.apId = apId with
  | some row => exact ⟨_, rfl⟩
  | none =>
      cases inserted : table.insert? ⟨apId, type, now⟩ with
      | some table' => exact ⟨_, rfl⟩
      | none =>
          obtain ⟨row, stored, clash⟩ := Table.insert?_eq_none.mp inserted
          exact absurd (show decide (row.apId = apId) = true from decide_eq_true clash)
            (Table.find?_eq_none.mp found row stored)

/-- An upsert of a tombstone of the same type changes no row. -/
theorem Tombstones.upsert_rows_of_same
    {apId : String} {type : TombstoneType} {table : TombstoneTable} {row : TombstoneRow}
    (stored : row ∈ table) (named : row.apId = apId) (typed : row.type = type)
    (now : DateTime) :
    (Tombstones.upsert apId type now table).2.rows = table.rows := by
  unfold Tombstones.upsert
  cases found : table.find? fun row => row.apId = apId with
  | none =>
      exact absurd (show decide (row.apId = apId) = true from decide_eq_true named)
        (Table.find?_eq_none.mp found row stored)
  | some _ =>
      refine Table.update_rows_of_idle (TombstoneRow.keepsKeys_retype type) ?_
      intro other member holds
      have same : other = row := Table.eq_of_clash (fun _ _ => Eq.symm) member stored
        ((of_decide_eq_true holds).trans named.symm)
      rw [same, ← typed]
      rfl

section Work

variable {allow : Env Url → Prop} {db : Db} {objectId signer : String}

/-- A person who is already gone stays gone, and nothing changes. -/
theorem ensures_deleteActor_of_gone (gone : db.PersonGone objectId) :
    Program.Ensures Operation.exec allow (fun _ final => db.SameObjects final)
      (deleteActor objectId : Handler Url Unit) db := by
  obtain ⟨⟨row, stored, named, typed⟩, unknown⟩ := gone
  refine Handler.ensures_query_then (fun _ _ _ _ => .refl db) ?_
  intro env _ _
  have same : db.SameObjects
      (Operation.perform env (.upsertTombstone objectId .person) db).2 :=
    ⟨Tombstones.upsert_rows_of_same stored named typed env.now, rfl, rfl⟩
  cases (Operation.perform env (.upsertTombstone objectId .person) db).1 with
  | error error => exact same
  | ok _ =>
      refine Handler.ensures_discarded (Handler.ensures_query (fun _ _ _ _ => same) ?_)
      exact fun later _ _ => ⟨same.tombstones,
        Actors.delete_rows_of_none unknown later.now, same.clips⟩

theorem ensures_deleteActor
    {now : DateTime}
    (quiet : ∀ env, allow env → env.Quiet ∧ env.now = now)
    (storable : Json.textStorable objectId = true) :
    Program.Ensures Operation.exec allow
      (fun _ final => db.ActorDeleted objectId now final)
      (deleteActor objectId : Handler Url Unit) db := by
  have storableOp (op : Operation Url)
      (texts : op.texts = [objectId]) (documents : op.documents = []) :
      op.storable = true := by
    simp [Operation.storable, texts, documents, storable]
  refine Handler.ensures_quiet_then (fun env allowed => (quiet env allowed).1)
    (storableOp _ rfl rfl) ?_
  intro env _
  have entombed := Tombstones.mem_upsert objectId .person env.now db.tombstones
  obtain ⟨row, upserted⟩ := Tombstones.upsert_ok objectId .person env.now db.tombstones
  have succeeded : (Operation.perform env (.upsertTombstone objectId .person) db).1 = .ok row :=
    congrArg (Except.mapError Error.db) upserted
  rw [succeeded]
  refine Handler.ensures_discarded
    (Handler.ensures_quiet_query (fun env allowed => (quiet env allowed).1)
      (storableOp _ rfl rfl) ?_)
  intro later allowed
  refine ⟨entombed, fun actor stored named => ?_⟩
  rw [← (quiet later allowed).2]
  refine Actors.mem_delete.mpr ⟨actor, stored, ?_⟩
  simp [Table.changeWhere, named]

/-- A `Delete` of a stored clip changes something for its author only. -/
theorem ensures_applyDelete_of_clip
    {clip : ClipRow} (stored : db.clipByApId objectId = some clip) :
    Program.Ensures Operation.exec allow
      (fun _ final => db.SameObjects final ∨ db.Owns signer objectId)
      (applyDelete objectId signer : Handler Url Unit) db := by
  refine Handler.ensures_query_then (fun _ _ _ _ => .inl (.refl db)) ?_
  intro env _ _
  simp only [Operation.perform, stored, Program.thenEnsures_ok, ownsClip]
  rw [Program.ensures_bind]
  refine Handler.ensures_query_then (fun _ _ _ _ => Or.inl (.refl db)) ?_
  intro env _ _
  simp only [Operation.perform, Program.thenEnsures_ok, Program.pure_eq_done,
    Program.ensures_done]
  split
  next owner =>
    obtain ⟨author, found, isSigner⟩ := (Option.any_eq_true _ _).mp owner
    refine Program.Ensures.of_forall (fun _ _ => .inr (.inr ?_)) _ _
    exact ⟨clip, author, stored, found, of_decide_eq_true isSigner⟩
  next => exact .inl (.refl db)

end Work

/-! ## Deliveries -/

section Deliveries

variable [UrlCrate Url] [ChronoCrate]

omit [ChronoCrate] in
/-- The deletes that touch only what the signer owns: of a stored clip, of the
signer itself, or of a person who is already gone. -/
def SafeTarget (activity : Delete Url) (db : Db) : Prop :=
  (db.clipByApId (asStr activity.object.id)).isSome = true ∨
    activity.actor = activity.object.id ∨
    db.PersonGone (asStr activity.object.id)

omit [ChronoCrate] in
theorem ensures_applyDelete_of_safe
    {allow : Env Url → Prop} {db : Db} {activity : Delete Url}
    (safe : SafeTarget activity db) :
    Program.Ensures Operation.exec allow
      (fun _ final => db.SameObjects final ∨
        db.Owns (asStr activity.actor) (asStr activity.object.id))
      (applyDelete (asStr activity.object.id) (asStr activity.actor) : Handler Url Unit) db := by
  cases stored : db.clipByApId (asStr activity.object.id) with
  | some clip => exact ensures_applyDelete_of_clip stored
  | none =>
      rcases safe with known | isSelf | gone
      · rw [stored] at known
        cases known
      · exact Program.Ensures.of_forall (fun _ _ => .inr (.inl (congrArg asStr isSelf))) _ _
      · refine Handler.ensures_query_then (fun _ _ _ _ => Or.inl (.refl db)) ?_
        intro env _ _
        simp only [Operation.perform, stored, Program.thenEnsures_ok]
        exact (ensures_deleteActor_of_gone gone).mono fun _ _ same => Or.inl same

/-- The delivery touches tombstones, actors and clips only if the signer owns
the object. -/
def DeletesOwn (activity : Delete Url) (before after : Db) : Prop :=
  before.SameObjects after ∨ before.Owns (asStr activity.actor) (asStr activity.object.id)

/-- Whatever the world answers, a safe delete touches what the signer owns. -/
theorem deletesOwn_of_safe
    {config : Config} {db : Db} {activity : Delete Url}
    (safe : db.Logged (asStr activity.id) ∨ SafeTarget activity db)
    (envs : Nat → Env Url) :
    DeletesOwn activity db (step config db ⟨.inbound (.delete activity), envs⟩) := by
  refine step_inbound_of_ensures (fun _ => True) _ (fun _ => trivial) ?_
  refine ApActivities.ensures_receive ?_ (.inl (.refl db)) ?_
  · exact fun left right same ends => ends.imp_left same.sameObjects
  · intro fresh _
    rcases safe with logged | safe
    · exact (fresh logged).elim
    · have work := @ensures_applyDelete_of_safe Url _ (fun _ => True)
        (db.log (ApActivities.delete activity).logged) activity safe
      exact work.mono fun _ final => Or.imp_left fun same =>
        ⟨same.tombstones, same.actors, same.clips⟩

/-- Without faults, any other delete touches what the signer does not own. -/
theorem safe_of_deletesOwn
    {config : Config} {db : Db} {activity : Delete Url}
    (own : ∀ envs,
      DeletesOwn activity db (step config db ⟨.inbound (.delete activity), envs⟩)) :
    db.Logged (asStr activity.id) ∨ SafeTarget activity db := by
  by_contra unsafe'
  simp only [SafeTarget, not_or] at unsafe'
  obtain ⟨fresh, unknown, notSelf, notGone⟩ := unsafe'
  have noClip : db.clipByApId (asStr activity.object.id) = none := by simpa using unknown
  -- A time at which the actor with that id is not marked deleted.
  obtain ⟨now, unusual⟩ : ∃ now, ∀ row,
      db.actorByApId (asStr activity.object.id) = some row → row.deletedAt ≠ some now := by
    cases db.actorByApId (asStr activity.object.id) with
    | none => exact ⟨⟨0⟩, fun _ impossible => nomatch impossible⟩
    | some actor =>
        refine ⟨⟨(actor.deletedAt.getD ⟨0⟩).micros + 1⟩, ?_⟩
        rintro _ ⟨rfl⟩ marked
        have later := congrArg (fun time => (time.getD ⟨0⟩).micros) marked
        simp only [Option.getD_some] at later
        omega
  have deleted : db.ActorDeleted (asStr activity.object.id) now
      (step config db ⟨.inbound (.delete activity), fun _ => { Env.offline with now := now }⟩) := by
    refine step_inbound_of_ensures (fun env => env.Quiet ∧ env.now = now) _
      (fun _ => ⟨rfl, rfl⟩) ?_
    refine ApActivities.ensures_fresh_receive (fun _ allowed => allowed.1) ?_ fresh
      (ApActivities.storable_delete activity) ?_
    · intro left right same ends
      simpa only [Db.ActorDeleted, same.tombstones, same.actors] using ends
    · refine Handler.ensures_quiet_then (fun _ allowed => allowed.1) ?_ ?_
      · simp [Operation.storable, Operation.texts, Operation.documents, storable_asStr]
      · intro env _
        have noClip' : (db.log (ApActivities.delete activity).logged).clipByApId
            (asStr activity.object.id) = none := noClip
        simp only [Operation.perform, noClip', Program.thenEnsures_ok]
        exact @ensures_deleteActor _ _ (db.log (ApActivities.delete activity).logged) _ now
          (fun _ allowed => allowed) (storable_asStr activity.object.id)
  rcases own fun _ => { Env.offline with now := now } with same | isSelf | ⟨clip, _, stored, -⟩
  · exact notGone (Db.personGone_of_actorDeleted deleted unusual same)
  · exact notSelf (asStr_injective isSelf)
  · rw [noClip] at stored
    cases stored

end Deliveries

/-! ## A stranger's delete -/

section Sample

open Sample

/-- Mallory deletes alice. -/
def Sample.deletion : Delete NormalUrl :=
  ⟨.ofText "https://c/1", .ofText "https://c/mallory", .url (.ofText "https://a/users/al")⟩

/-- Alice registers. -/
def Sample.registered : Db :=
  step config Db.empty
    (⟨.registration "al" "key" "secret", fun _ => .offline⟩ : Occurrence NormalUrl)

end Sample

end TootTok
