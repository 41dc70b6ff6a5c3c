import TootTok.Instance

/-!
# Deleted actors

An actor that has deleted itself leaves a tombstone and a row with a deletion mark.
Nothing takes the tombstone away. The mark is taken away when a document with the id
of the actor is fetched again and stored, and by nothing else.
-/

namespace TootTok

open Effects
open Relational (Table SerialTable)
open UrlCrate

variable {Url : Type}

/-- The actor has a tombstone, and its row a deletion mark. -/
def Db.ActorGone (id : Nat) (apId : String) (db : Db) : Prop :=
  db.tombstoned apId = true ∧
    ∃ row ∈ db.actors, row.id = id ∧ row.apId = apId ∧ row.deletedAt ≠ none

/-! ## Tombstones stay -/

namespace Tombstones

/-- The id has a tombstone. -/
def Has (apId : String) (table : TombstoneTable) : Prop :=
  ∃ row ∈ table, row.apId = apId

variable {apId : String} {table : TombstoneTable}

theorem has_upsert (has : Has apId table) (other : String) (type : TombstoneType)
    (now : DateTime) : Has apId (upsert other type now table).2 := by
  obtain ⟨row, stored, named⟩ := has
  unfold upsert
  split
  · refine ⟨_, Table.mem_update_of_mem (TombstoneRow.keepsKeys_retype type) stored, ?_⟩
    unfold Table.changeWhere
    split <;> exact named
  · split
    next inserted => exact ⟨row, (Table.mem_insert? inserted).mpr (.inl stored), named⟩
    next => exact ⟨row, stored, named⟩

theorem has_insert (has : Has apId table) (other : String) (type : TombstoneType)
    (now : DateTime) : Has apId (insert other type now table) := by
  obtain ⟨row, stored, named⟩ := has
  unfold insert
  cases inserted : table.insert? ⟨other, type, now⟩ with
  | some table' => exact ⟨row, (Table.mem_insert? inserted).mpr (.inl stored), named⟩
  | none => exact ⟨row, stored, named⟩

end Tombstones

/-! ## Deletion marks -/

namespace Actors

/-- The row of the actor has a deletion mark. -/
def Marked (id : Nat) (apId : String) (table : ActorTable) : Prop :=
  ∃ row ∈ table, row.id = id ∧ row.apId = apId ∧ row.deletedAt ≠ none

variable {id : Nat} {apId : String} {table : ActorTable}

theorem marked_create (marked : Marked id apId table) (new : NewActor) :
    Marked id apId (create new table).2 := by
  obtain ⟨row, stored, facts⟩ := marked
  exact ⟨row, SerialTable.mem_insert_of_mem new.row (fun _ => rfl) stored, facts⟩

theorem marked_insertInstanceActor (marked : Marked id apId table) (new : NewActor) :
    Marked id apId (insertInstanceActor new table).2 := by
  unfold insertInstanceActor
  split
  · exact marked
  · exact marked_create marked new

/-- A document with another id leaves the mark. -/
theorem marked_upsertRemote (marked : Marked id apId table) {parts : RemoteActorParts}
    (other : parts.id ≠ apId) : Marked id apId (upsertRemote parts table).2 := by
  obtain ⟨row, stored, sameId, named, deleted⟩ := marked
  obtain ⟨-, -, -, -, -, mem⟩ := upsertRemote_spec parts table
  refine ⟨row, (mem row).mpr (.inl ⟨row, stored, ?_⟩), sameId, named, deleted⟩
  unfold Table.changeWhere
  rw [if_neg]
  intro isNamed
  exact other ((of_decide_eq_true isNamed).symm.trans named)

theorem marked_delete (marked : Marked id apId table) (condition : ActorRow → Bool)
    (now : DateTime) : Marked id apId (delete condition now table).2 := by
  obtain ⟨row, stored, sameId, named, deleted⟩ := marked
  refine ⟨_, mem_delete.mpr ⟨row, stored, rfl⟩, ?_⟩
  unfold Table.changeWhere
  split
  · exact ⟨sameId, named, Option.some_ne_none now⟩
  · exact ⟨sameId, named, deleted⟩

end Actors

/-! ## Operations -/

/-- The operation stores no document of the actor. -/
def Operation.SparesActor (apId : String) : Operation Url → Prop
  | .upsertRemote parts => parts.id ≠ apId
  | _ => True

/-- A deleted actor stays deleted under every operation but the upsert of its own
document. -/
theorem Operation.actorGone_exec {id : Nat} {apId : String} {op : Operation Url}
    (spares : op.SparesActor apId) (env : Env Url) {db : Db} (gone : db.ActorGone id apId) :
    (Operation.exec env op db).2.ActorGone id apId := by
  rcases Operation.exec_cases env op db with ⟨error, failed⟩ | performed
  · rw [failed]
    exact gone
  rw [performed]
  obtain ⟨tombstoned, marked⟩ := gone
  have has := Db.tombstoned_iff.mp tombstoned
  cases op with
  | createActor new => exact ⟨tombstoned, Actors.marked_create marked new⟩
  | insertInstanceActor new => exact ⟨tombstoned, Actors.marked_insertInstanceActor marked new⟩
  | upsertRemote parts => exact ⟨tombstoned, Actors.marked_upsertRemote marked spares⟩
  | markActorDeleted _ => exact ⟨tombstoned, Actors.marked_delete marked _ _⟩
  | markRemoteDeletedByApId _ => exact ⟨tombstoned, Actors.marked_delete marked _ _⟩
  | upsertTombstone other type =>
      exact ⟨Db.tombstoned_iff.mpr (Tombstones.has_upsert has other type env.now), marked⟩
  | insertTombstone other type =>
      exact ⟨Db.tombstoned_iff.mpr (Tombstones.has_insert has other type env.now), marked⟩
  | _ => exact ⟨tombstoned, marked⟩

/-! ## Runs -/

section Runs

variable [UrlCrate Url] [ChronoCrate]

/-- No document that the event stores has the id of a deleted actor. -/
def StoresNoneGone (config : Config) (state : Db) (occurrence : Occurrence Url) : Prop :=
  ∀ call ∈ (occurrence.event.program config).trace Operation.exec occurrence.envs state,
    ∀ id apId, state.ActorGone id apId → call.1.SparesActor apId

theorem actorGone_step {config : Config} {state : Db} {occurrence : Occurrence Url}
    (spares : StoresNoneGone config state occurrence) {id : Nat} {apId : String}
    (gone : state.ActorGone id apId) : (step config state occurrence).ActorGone id apId := by
  refine Program.run_related_of_trace
    (fun before after => before.ActorGone id apId → after.ActorGone id apId)
    (fun _ goneBefore => goneBefore)
    (fun _ _ _ first second goneBefore => second (first goneBefore)) _ _ state ?_ gone
  intro call member before goneBefore
  exact Operation.actorGone_exec (spares call member id apId gone) call.2 goneBefore

/-- An actor that is deleted at some point of a run stays deleted, as long as no document
of a deleted actor is stored again. -/
theorem deleted_actor_stays
    (config : Config) (earlier later : List (Occurrence Url))
    (spares : Runs.EachStep (step config) (StoresNoneGone config)
      (Runs.after (step config) Db.empty earlier) later)
    {row : ActorRow} (stored : row ∈ (Runs.after (step config) Db.empty earlier).actors)
    (tombstoned : (Runs.after (step config) Db.empty earlier).tombstoned row.apId = true)
    (deleted : row.deletedAt ≠ none) :
    ∃ kept ∈ (Runs.after (step config) Db.empty (earlier ++ later)).actors,
      kept.id = row.id ∧ kept.apId = row.apId ∧ kept.deletedAt ≠ none := by
  have gone : (Runs.after (step config) Db.empty earlier).ActorGone row.id row.apId :=
    ⟨tombstoned, row, stored, rfl, rfl, deleted⟩
  have kept := Runs.related_after
    (fun before after => before.ActorGone row.id row.apId → after.ActorGone row.id row.apId)
    (fun _ goneBefore => goneBefore)
    (fun _ _ _ first second goneBefore => second (first goneBefore))
    (fun _ _ sparesStep => actorGone_step sparesStep) spares
  rw [Runs.after_append]
  exact (kept gone).2

end Runs

/-! ## A deleted actor that is resolved again -/

section Sample

open Sample

/-- Bob is resolved, and deletes himself. -/
def Sample.departure : List (Occurrence NormalUrl) :=
  [⟨.resolution bob.id, fun _ => online⟩,
    ⟨.inbound (.delete ⟨.ofText "https://b/1" parse_bobsActivity, bob.id, .url bob.id⟩),
      fun _ => .offline⟩]

/-- Bob is resolved once more, when his row is no longer fresh. -/
def Sample.resolvedAgain (env : Env NormalUrl) : Occurrence NormalUrl :=
  ⟨.resolution bob.id, fun _ => { env with outdated := true }⟩

/-- Which actors are tombstoned, and which are marked. -/
def Sample.traces (db : Db) : List (Bool × Bool) :=
  db.actors.rows.map fun row => (db.tombstoned row.apId, row.deletedAt.isSome)

/-- Bob's server does not answer, and bob stays deleted. -/
theorem bob_stays_deleted :
    traces (Runs.after (step Sample.config) Db.empty Sample.departure) = [(true, true)] ∧
      ∀ row ∈ (Runs.after (step Sample.config) Db.empty Sample.departure).actors,
        ∃ kept ∈ (Runs.after (step Sample.config) Db.empty
            (Sample.departure ++ [Sample.resolvedAgain .offline])).actors,
          kept.id = row.id ∧ kept.apId = row.apId ∧ kept.deletedAt ≠ none := by
  have left : traces (Runs.after (step config) Db.empty departure) = [(true, true)] := by
    decide
  have stores : (((resolvedAgain .offline).event.program config).trace Operation.exec
      (resolvedAgain .offline).envs (Runs.after (step config) Db.empty departure)).all
        (fun call => match call.1 with | .upsertRemote _ => false | _ => true) = true := by
    decide
  refine ⟨left, fun row stored => ?_⟩
  have traced : (Db.tombstoned _ row.apId, row.deletedAt.isSome) ∈
      traces (Runs.after (step config) Db.empty departure) :=
    List.mem_map_of_mem stored
  rw [left] at traced
  obtain ⟨tombstoned, deleted⟩ := Prod.mk.inj (List.mem_singleton.mp traced)
  refine deleted_actor_stays config departure [resolvedAgain .offline] ⟨?_, trivial⟩ stored
    tombstoned ?_
  · intro call member id apId _
    have idle := List.all_eq_true.mp stores call member
    cases op : call.1 with
    | upsertRemote parts =>
        rw [op] at idle
        cases idle
    | _ => trivial
  · exact Option.isSome_iff_ne_none.mp deleted

/-- Bob's server answers, and bob is back although he has deleted himself. -/
theorem deleted_bob_resolved_again :
    traces (Runs.after (step Sample.config) Db.empty Sample.departure) = [(true, true)] ∧
      ¬∀ row ∈ (Runs.after (step Sample.config) Db.empty Sample.departure).actors,
        ∃ kept ∈ (Runs.after (step Sample.config) Db.empty
            (Sample.departure ++ [Sample.resolvedAgain online])).actors,
          kept.id = row.id ∧ kept.apId = row.apId ∧ kept.deletedAt ≠ none := by
  have left : traces (Runs.after (step config) Db.empty departure) = [(true, true)] := by
    decide
  have back : (Runs.after (step config) Db.empty
      (departure ++ [resolvedAgain online])).actors.rows.all
        (fun row => row.deletedAt.isNone) = true := by
    decide
  refine ⟨left, fun stays => ?_⟩
  obtain ⟨row, stored, -⟩ : ∃ row ∈ (Runs.after (step config) Db.empty departure).actors.rows,
      (Db.tombstoned (Runs.after (step config) Db.empty departure) row.apId,
        row.deletedAt.isSome) = (true, true) := by
    rw [← List.mem_map]
    have listed : (true, true) ∈ traces (Runs.after (step config) Db.empty departure) :=
      left ▸ List.mem_singleton_self _
    exact listed
  obtain ⟨kept, keptStored, -, -, deleted⟩ := stays row stored
  have unmarked := List.all_eq_true.mp back kept keptStored
  exact deleted (Option.isNone_iff_eq_none.mp unmarked)

end Sample
end TootTok
