import TootTok.Ingest
import TootTok.LocalActors

/-!
# Authors of remote clips

A clip that arrives through the inbox belongs to the actor who signed the
activity, and only its author can change it there. `Create`, `Update` and
`Delete` establish this each in its own way.
-/

namespace TootTok

open Effects
open Relational (Table SerialTable)
open UrlCrate

variable {Url : Type}

/-! ## Changes of stored clips -/

/-- The columns of a clip that an activity could change. -/
structure ClipRow.SameContent (old new : ClipRow) : Prop where
  captionHtml : new.captionHtml = old.captionHtml
  isSensitive : new.isSensitive = old.isSensitive
  cwText : new.cwText = old.cwText
  deletedAt : new.deletedAt = old.deletedAt

/-- The columns that say what a clip is and whose. -/
structure ClipRow.SameObject (old new : ClipRow) : Prop where
  id : new.id = old.id
  apId : new.apId = old.apId
  origin : new.origin = old.origin
  actorId : new.actorId = old.actorId

theorem ClipRow.SameObject.refl (row : ClipRow) : row.SameObject row := ⟨rfl, rfl, rfl, rfl⟩

/-- A change under a condition keeps what the change keeps. -/
theorem ClipRow.sameObject_changeWhere
    {change : ClipRow → ClipRow} (same : ∀ row, ClipRow.SameObject row (change row))
    (condition : ClipRow → Bool) (row : ClipRow) :
    row.SameObject (Table.changeWhere condition change row) := by
  unfold Table.changeWhere
  split
  · exact same row
  · exact .refl row

namespace Db

/-- Every clip was there before, under the same id and author. -/
def NoNewClips (before after : Db) : Prop :=
  ∀ new ∈ after.clips, ∃ old ∈ before.clips, old.SameObject new

theorem SameClips.noNewClips {before after : Db} (same : before.SameClips after) :
    before.NoNewClips after :=
  fun new stored => ⟨new, (same new).mp stored, .refl new⟩

/-- The id of the author of a clip is the given one. -/
def AuthoredBy (db : Db) (clip : ClipRow) (apId : String) : Prop :=
  ∃ author, db.actorById clip.actorId = some author ∧ author.apId = apId

/-- No clip is new, and the ones that have changed are those of the signer. -/
def ChangedBy (before : Db) (signer : String) (after : Db) : Prop :=
  before.NoNewClips after ∧
    ∀ old ∈ before.clips, ∃ new ∈ after.clips,
      new.id = old.id ∧ (new = old ∨ before.AuthoredBy old signer)

theorem SameClips.changedBy
    {before after : Db} (same : before.SameClips after) (signer : String) :
    before.ChangedBy signer after :=
  ⟨same.noNewClips,
    fun old stored => ⟨old, (same old).mpr stored, rfl, .inl rfl⟩⟩

/-- A write to a single clip of the signer. -/
theorem changedBy_update
    {before after : Db} {clip : ClipRow} {signer : String}
    (change : ClipRow → ClipRow)
    (stored : clip ∈ before.clips) (authored : before.AuthoredBy clip signer)
    (sameObject : ∀ row, ClipRow.SameObject row (change row))
    (updated : after.clips.rows =
      before.clips.rows.map (Table.changeWhere (fun row => row.id = clip.id) change)) :
    before.ChangedBy signer after := by
  have same (row : ClipRow) :
      row.SameObject (Table.changeWhere (fun row => row.id = clip.id) change row) :=
    ClipRow.sameObject_changeWhere sameObject _ row
  constructor
  · intro new newStored
    rw [← SerialTable.mem_rows, updated] at newStored
    obtain ⟨old, oldStored, rfl⟩ := List.mem_map.mp newStored
    exact ⟨old, oldStored, same old⟩
  · intro old oldStored
    refine ⟨Table.changeWhere (fun row => row.id = clip.id) change old, ?_, (same old).id, ?_⟩
    · rw [← SerialTable.mem_rows, updated]
      exact List.mem_map_of_mem oldStored
    · by_cases isClip : old.id = clip.id
      · rw [SerialTable.eq_of_number_eq oldStored stored isClip]
        exact .inr authored
      · exact .inl (by simp [Table.changeWhere, isClip])

end Db

section Work

variable {allow : Env Url → Prop} {db : Db} {objectId signer : String}

/-- Who owns a clip is read off the row of its author. -/
theorem ensures_ownsClip (clip : ClipRow) :
    Program.Ensures Operation.exec allow
      (fun outcome final => final = db ∧ (outcome = .ok true → db.AuthoredBy clip signer))
      (ownsClip clip signer : Handler Url Bool) db := by
  refine Handler.ensures_query_then (fun _ _ _ _ => ⟨rfl, fun impossible => nomatch impossible⟩) ?_
  intro env _ _
  refine ⟨rfl, fun owner => ?_⟩
  obtain ⟨author, found, isSigner⟩ := (Option.any_eq_true _ _).mp (Except.ok.inj owner)
  exact ⟨author, found, of_decide_eq_true isSigner⟩

theorem ensures_deleteClip {clip : ClipRow}
    (stored : clip ∈ db.clips) (authored : db.AuthoredBy clip signer) :
    Program.Ensures Operation.exec allow (fun _ final => db.ChangedBy signer final)
      (deleteClip objectId clip : Handler Url Unit) db := by
  have unchanged : db.ChangedBy signer db := (Db.SameClips.refl db).changedBy signer
  refine Handler.ensures_query_then (fun _ _ _ _ => unchanged) ?_
  intro env _ _
  have entombed : db.SameClips
      (Operation.perform env (.upsertTombstone objectId .note) db).2 := fun _ => Iff.rfl
  cases (Operation.perform env (.upsertTombstone objectId .note) db).1 with
  | error error => exact entombed.changedBy signer
  | ok _ =>
      refine Handler.ensures_query_then (fun _ _ _ _ => entombed.changedBy signer) ?_
      exact fun env _ _ => Db.changedBy_update (ClipRow.delete env.now) stored authored
        (fun _ => ⟨rfl, rfl, rfl, rfl⟩) rfl

/-- A delete changes only clips of its signer. -/
theorem ensures_applyDelete :
    Program.Ensures Operation.exec allow (fun _ final => db.ChangedBy signer final)
      (applyDelete objectId signer : Handler Url Unit) db := by
  have unchanged : db.ChangedBy signer db := (Db.SameClips.refl db).changedBy signer
  refine Handler.ensures_query_then (fun _ _ _ _ => unchanged) ?_
  intro env _ _
  simp only [Operation.perform, Program.thenEnsures_ok]
  cases found : db.clipByApId objectId with
  | none =>
      have frame : (deleteActor objectId : Handler Url Unit).Calls
          fun op => op.writes ≠ some .clips :=
        calls_deleteActor (Operation.writes_ne_of_writesOnly (by decide))
          (fun _ => by simp [Operation.writes]) objectId
      refine (Handler.ensures_frame frame).mono fun _ final same => ?_
      exact (Db.sameClips_of_sameTable same).changedBy signer
  | some clip =>
      refine (Program.ensures_bind _ _ _ _).mpr ((ensures_ownsClip clip).mono ?_)
      rintro outcome final ⟨rfl, owns⟩
      cases outcome with
      | error error => exact unchanged
      | ok owner =>
          cases owner with
          | false => exact unchanged
          | true =>
              exact ensures_deleteClip (Db.clipByApId_eq_some.mp found).1 (owns rfl)

/-- An update changes only clips of its signer. -/
theorem ensures_applyUpdate (object : Json.Value) :
    Program.Ensures Operation.exec allow (fun _ final => db.ChangedBy signer final)
      (applyUpdate objectId signer object : Handler Url Unit) db := by
  have unchanged : db.ChangedBy signer db := (Db.SameClips.refl db).changedBy signer
  refine Handler.ensures_query_then (fun _ _ _ _ => unchanged) ?_
  intro env _ _
  simp only [Operation.perform, Program.thenEnsures_ok]
  cases found : db.clipByApId objectId with
  | none => exact unchanged
  | some clip =>
      refine (Program.ensures_bind _ _ _ _).mpr ((ensures_ownsClip clip).mono ?_)
      rintro outcome final ⟨rfl, owns⟩
      cases outcome with
      | error error => exact unchanged
      | ok owner =>
          rw [Program.thenEnsures_ok]
          split
          next allowed =>
            rw [Bool.and_eq_true] at allowed
            have authored := owns (congrArg Except.ok allowed.1)
            refine Handler.ensures_query_then (fun _ _ _ _ => unchanged) ?_
            exact fun env _ _ => Db.changedBy_update (ClipRow.updateNoteFields _ _ _)
              (Db.clipByApId_eq_some.mp found).1 authored (fun _ => ⟨rfl, rfl, rfl, rfl⟩) rfl
          next => exact unchanged

end Work

/-! ## Deliveries -/

section Deliveries

variable [UrlCrate Url]

namespace ApActivities

def IsCreate : ApActivities Url → Prop
  | .create _ => True
  | _ => False

def IsUpdateOrDelete : ApActivities Url → Prop
  | .update _ | .delete _ => True
  | _ => False

end ApActivities

/-- A clip that the delivery has added belongs to the signer, who is remote, and
the content of a clip changes by an `Update` or a `Delete` of its author only. -/
structure KeepsAuthorship (activity : ApActivities Url) (before after : Db) : Prop where
  added : ∀ new ∈ after.clips, (∀ old ∈ before.clips, old.id ≠ new.id) →
    activity.IsCreate ∧
      ∃ author ∈ after.actors, author.id = new.actorId ∧
        author.apId = asStr activity.actor ∧ author.domain ≠ none
  changed : ∀ old ∈ before.clips, ∃ new ∈ after.clips, new.id = old.id ∧
    (old.SameContent new ∨
      (activity.IsUpdateOrDelete ∧ before.AuthoredBy old (asStr activity.actor)))

variable [ChronoCrate]

/-- What an activity does to the clips. -/
def ClipsOf (data : FederationData) (activity : ApActivities Url) (before after : Db) : Prop :=
  match activity with
  | .create activity => Ingested data activity.actor activity.object before after
  | .update activity => before.ChangedBy (asStr activity.actor) after
  | .delete activity => before.ChangedBy (asStr activity.actor) after
  | _ => before.SameClips after

theorem clipsOf_of_sameClips
    {data : FederationData} {activity : ApActivities Url} {before after : Db}
    (same : before.SameClips after) : ClipsOf data activity before after := by
  cases activity with
  | create activity => exact .inl same
  | update activity => exact same.changedBy _
  | delete activity => exact same.changedBy _
  | _ => exact same

theorem ignoresLog_clipsOf
    {data : FederationData} {activity : ApActivities Url} {before : Db} :
    Db.IgnoresLog (ClipsOf data activity before) := by
  rintro ⟨⟩ ⟨⟩ ⟨rfl, rfl, rfl, rfl, rfl⟩
  cases activity <;> exact id

theorem ensures_clipsOf_work
    {allow : Env Url → Prop} (faithful : ∀ env, allow env → env.Faithful)
    (data : FederationData) (activity : ApActivities Url) (db : Db) :
    Program.Ensures Operation.exec allow (fun _ final => ClipsOf data activity db final)
      (activity.work data) db := by
  have frame {part : Handler Url Unit} (calls : part.Calls fun op => op.writes ≠ some .clips) :
      Program.Ensures Operation.exec allow (fun _ final => ClipsOf data activity db final)
        part db :=
    (Handler.ensures_frame calls).mono fun _ _ same =>
      clipsOf_of_sameClips (Db.sameClips_of_sameTable same)
  have others {names : List Operation.TableName} (other : .clips ∉ names) :=
    @Operation.writes_ne_of_writesOnly Url names .clips other
  cases activity with
  | follow activity =>
      refine frame (Program.Calls.bind (Handler.calls_query (others List.not_mem_nil _ rfl)) ?_)
      intro gone
      split
      · trivial
      · exact calls_record (others (by decide)) activity
  | accept activity => exact frame (calls_acceptFollow (others (by decide)) _)
  | reject activity => exact frame (calls_rejectFollow (others (by decide)) _)
  | undo activity =>
      refine frame ?_
      simp only [ApActivities.work]
      split
      · trivial
      · exact calls_undoFollow (others (by decide)) _
  | delete activity => exact ensures_applyDelete
  | create activity =>
      simp only [ApActivities.work]
      split
      next => exact frame trivial
      next embedded => exact ensures_ingestNote faithful data activity.actor embedded
  | update activity =>
      simp only [ApActivities.work]
      split
      · exact frame trivial
      · exact ensures_applyUpdate _
  | move activity => exact frame trivial
  | passthrough activity => exact frame trivial

/-- What a delivery does to the clips: nothing, or what a fresh activity does. -/
theorem clipsOf_step
    {config : Config} {activity : ApActivities Url} {envs : Nat → Env Url}
    (faithful : ∀ index, (envs index).Faithful) (db : Db) :
    db.SameClips (step config db ⟨.inbound activity, envs⟩) ∨
      (¬db.Logged (asStr activity.id) ∧ activity.storable = true ∧
        ClipsOf config.federationData activity db
          (step config db ⟨.inbound activity, envs⟩)) := by
  refine step_inbound_of_ensures Env.Faithful
    (fun final => db.SameClips final ∨ (¬db.Logged (asStr activity.id) ∧
      activity.storable = true ∧ ClipsOf config.federationData activity db final))
    faithful ?_
  refine ApActivities.ensures_receive ?_ (.inl (.refl db)) fun fresh storable => ?_
  · intro left right same holds
    rcases holds with unchanged | ⟨fresh, storable, changed⟩
    · refine .inl fun clip => ?_
      rw [← same.clips]
      exact unchanged clip
    · exact .inr ⟨fresh, storable, ignoresLog_clipsOf left right same changed⟩
  · refine (ensures_clipsOf_work (fun _ => id) config.federationData activity
      (db.log activity.logged)).mono fun _ final changed => .inr ⟨fresh, storable, ?_⟩
    cases activity <;> exact changed

omit [ChronoCrate] in
/-- An author to whom a note is attributed is not local. -/
theorem not_local_of_attributedToSigner
    {data : FederationData} {signer : Url} {note : ParsedNote}
    (attributed : attributedToSigner data signer note = true) :
    isLocalUrl signer data.domain = false := by
  unfold attributedToSigner at attributed
  split at attributed
  · cases attributed
  next named =>
    simp only [Bool.not_eq_true', Bool.or_eq_false_iff, bne_eq_false_iff_eq] at attributed
    rw [← asStr_injective attributed.2]
    exact attributed.1

omit [ChronoCrate] in
theorem keepsAuthorship_of_sameClips
    {activity : ApActivities Url} {before after : Db} (same : before.SameClips after) :
    KeepsAuthorship activity before after where
  added new stored fresh := (fresh new ((same new).mp stored) rfl).elim
  changed old stored :=
    ⟨old, (same old).mpr stored, rfl, .inl ⟨rfl, rfl, rfl, rfl⟩⟩

omit [ChronoCrate] in
theorem keepsAuthorship_of_changedBy
    {activity : ApActivities Url} {before after : Db} (kind : activity.IsUpdateOrDelete)
    (changed : before.ChangedBy (asStr activity.actor) after) :
    KeepsAuthorship activity before after where
  added new stored fresh := by
    obtain ⟨old, oldStored, same⟩ := changed.1 new stored
    exact (fresh old oldStored same.id.symm).elim
  changed old stored := by
    obtain ⟨new, newStored, sameId, rfl | authored⟩ := changed.2 old stored
    · exact ⟨new, newStored, sameId, .inl ⟨rfl, rfl, rfl, rfl⟩⟩
    · exact ⟨new, newStored, sameId, .inr ⟨kind, authored⟩⟩

theorem keepsAuthorship_of_ingested
    {config : Config} {activity : Create Url} {before after : Db}
    (localIds : Actors.LocalIds config.BelowBase after.actors)
    (ingested : Ingested config.federationData activity.actor activity.object before after) :
    KeepsAuthorship (.create activity) before after := by
  rcases ingested with
    same | ⟨note, author, -, attributed, -, authorStored, named, now, id, rows, fresh⟩
  · exact keepsAuthorship_of_sameClips same
  constructor
  · intro new stored isNew
    rcases (rows new).mp stored with old | rfl
    · exact (isNew new old rfl).elim
    · refine ⟨trivial, author, authorStored, rfl, named, fun isLocal => ?_⟩
      exact config.not_belowBase_of_not_local named (not_local_of_attributedToSigner attributed)
        (localIds author authorStored isLocal)
  · exact fun old stored =>
      ⟨old, (rows old).mpr (.inl stored), rfl, .inl ⟨rfl, rfl, rfl, rfl⟩⟩

/-- Authorship of remote clips. In every reachable state, a clip that a delivery
adds belongs to the signer, who is not local, and the content of a stored clip
changes by an `Update` or a `Delete` of its author only. -/
theorem authorship_of_remote_clips
    (config : Config) (db : Db) (activity : ApActivities Url) (envs : Nat → Env Url)
    (reachable : Reachable Url config db)
    (faithful : ∀ index, (envs index).Faithful) :
    KeepsAuthorship activity db (step config db ⟨.inbound activity, envs⟩) := by
  have reachableAfter : Reachable Url config (step config db ⟨.inbound activity, envs⟩) := by
    obtain ⟨occurrences, rfl⟩ := reachable
    exact ⟨occurrences ++ [⟨.inbound activity, envs⟩], Runs.after_append _ _ _ _⟩
  have localIds := localIds_of_reachable reachableAfter
  rcases @clipsOf_step _ _ _ config activity envs faithful db with same | ⟨-, -, clips⟩
  · exact keepsAuthorship_of_sameClips same
  cases activity with
  | create activity => exact keepsAuthorship_of_ingested localIds clips
  | update activity => exact keepsAuthorship_of_changedBy trivial clips
  | delete activity => exact keepsAuthorship_of_changedBy trivial clips
  | _ => exact keepsAuthorship_of_sameClips clips

end Deliveries

section Sample

open Sample

/-- Bob's clip belongs to bob. -/
theorem authorship_of_bobs_clip :
    KeepsAuthorship Sample.bobPosts
        (Runs.after (step Sample.config) Db.empty Sample.arrivals)
        (step Sample.config (Runs.after (step Sample.config) Db.empty Sample.arrivals)
          ⟨.inbound Sample.bobPosts, fun _ => Sample.online⟩) ∧
      (step Sample.config (Runs.after (step Sample.config) Db.empty Sample.arrivals)
        ⟨.inbound Sample.bobPosts, fun _ => Sample.online⟩).clips.rows.map
          ClipRow.actorId = [2] :=
  ⟨authorship_of_remote_clips config _ bobPosts _ ⟨arrivals, rfl⟩ fun _ => faithful_online,
    by decide⟩

end Sample

end TootTok
