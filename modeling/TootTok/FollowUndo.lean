import TootTok.FollowAuthority
import TootTok.Idempotency
import Mathlib.Data.List.Induction

/-!
# An undo removes the follow it names

A follow is renewed by another one, which overwrites the id of its activity in
the row of the pair. An undo finds the row by the id it names. So an undo of an
earlier follow finds nothing, and only one of the last follow takes the edge
away, in any order in which a follower sends them.
-/

namespace TootTok

open Effects
open Json (Value)
open Relational (Table)
open UrlCrate

variable {Url : Type}

/-! ## The shapes of an undone follow -/

/-- What the object of an `Undo` names. -/
inductive NamesFollow : Value → Option String → Prop
  | text (id : String) : NamesFollow (.string id) (some id)
  | follow {members : List (String × Value)} {id : String}
      (isFollow : (Value.object members).getStr "type" = some "Follow")
      (hasId : (Value.object members).getStr "id" = some id)
      (nonempty : id ≠ "") :
      NamesFollow (.object members) (some id)
  | otherType {members : List (String × Value)}
      (notFollow : (Value.object members).getStr "type" ≠ some "Follow") :
      NamesFollow (.object members) none
  | noId {members : List (String × Value)}
      (empty : ∀ id, (Value.object members).getStr "id" = some id → id = "") :
      NamesFollow (.object members) none
  | first {before after : List Value} {entry : Value} {id : String}
      (skipped : ∀ item ∈ before, NamesFollow item none)
      (named : NamesFollow entry (some id)) :
      NamesFollow (.array (before ++ entry :: after)) (some id)
  | nothing {items : List Value} (skipped : ∀ item ∈ items, NamesFollow item none) :
      NamesFollow (.array items) none

theorem undoFollowTargetIn_eq_none
    {items : List Value} (skipped : ∀ item ∈ items, undoFollowTarget item = none) :
    undoFollowTargetIn items = none := by
  induction items with
  | nil => rfl
  | cons item items inductionHypothesis =>
      rw [undoFollowTargetIn, skipped item List.mem_cons_self, Option.none_or]
      exact inductionHypothesis fun other member =>
        skipped other (List.mem_cons_of_mem item member)

theorem undoFollowTargetIn_append
    {before : List Value} (after : List Value)
    (skipped : ∀ item ∈ before, undoFollowTarget item = none) :
    undoFollowTargetIn (before ++ after) = undoFollowTargetIn after := by
  induction before with
  | nil => rfl
  | cons item before inductionHypothesis =>
      rw [List.cons_append, undoFollowTargetIn, skipped item List.mem_cons_self,
        Option.none_or]
      exact inductionHypothesis fun other member =>
        skipped other (List.mem_cons_of_mem item member)

/-- The handler reads the follow that the object names. -/
theorem NamesFollow.undoFollowTarget_eq
    {object : Value} {named : Option String} (names : NamesFollow object named) :
    undoFollowTarget object = named := by
  induction names with
  | text id => simp [undoFollowTarget]
  | follow isFollow hasId nonempty =>
      simp [undoFollowTarget, isFollow, hasId, Option.filter, nonempty]
  | @otherType members notFollow =>
      have other : ((Value.object members).getStr "type").getD "" ≠ "Follow" := by
        cases isType : (Value.object members).getStr "type" with
        | none => simp
        | some type => simpa [isType] using notFollow
      simp [undoFollowTarget, other]
  | @noId members empty =>
      have none : ((Value.object members).getStr "id").filter (· ≠ "") = none := by
        cases hasId : (Value.object members).getStr "id" with
        | none => rfl
        | some id => simp [Option.filter, empty id hasId]
      simp only [undoFollowTarget, none, ite_self]
  | @first before after entry id _ _ skipped named =>
      rw [undoFollowTarget, undoFollowTargetIn_append _ skipped, undoFollowTargetIn, named,
        Option.some_or]
  | nothing _ skipped =>
      rw [undoFollowTarget, undoFollowTargetIn_eq_none skipped]

/-! ## What stands -/

/-- A `Follow` or an `Undo` of a follow that is sent. -/
inductive FollowMessage (Url : Type)
  | follow (id : Url)
  | undo (id : Url) (followed : String) (object : Value)
      (names : NamesFollow object (some followed))

namespace FollowMessage

/-- The id of the activity. -/
def id : FollowMessage Url → Url
  | .follow id => id
  | .undo id _ _ _ => id

/-- The activity that `follower` sends about `target`. -/
def activity (follower target : Url) : FollowMessage Url → ApActivities Url
  | .follow id => .follow ⟨id, follower, target⟩
  | .undo id _ object _ => .undo ⟨id, follower, object⟩

@[simp] theorem activity_id (follower target : Url) (message : FollowMessage Url) :
    (message.activity follower target).id = message.id := by
  cases message <;> rfl

variable [UrlCrate Url]

/-- A later message that leaves the follow with an id in place. -/
def Spares (followId : String) : FollowMessage Url → Prop
  | .follow _ => False
  | .undo _ followed _ _ => followed ≠ followId

/-- The follow that stands after a message. -/
def standing (current : Option String) : FollowMessage Url → Option String
  | .follow id => some (asStr id)
  | .undo _ followed _ _ => if current = some followed then none else current

/-- A follow stands if it is the last one and no undo of it came later. -/
theorem standing_eq_some_iff (messages : List (FollowMessage Url)) (followId : String) :
    messages.foldl standing none = some followId ↔
      ∃ before id after, messages = before ++ .follow id :: after ∧
        asStr id = followId ∧ ∀ later ∈ after, later.Spares followId := by
  induction messages using List.reverseRecOn with
  | nil => simp
  | append_singleton messages last inductionHypothesis =>
      rw [List.foldl_append, List.foldl_cons, List.foldl_nil]
      constructor
      · intro stands
        cases last with
        | follow id =>
            exact ⟨messages, id, [], rfl, Option.some.inj stands, by simp⟩
        | undo id followed object names =>
            simp only [standing] at stands
            split at stands
            next => cases stands
            next spared =>
              obtain ⟨before, id, after, rfl, named, spares⟩ := inductionHypothesis.mp stands
              refine ⟨before, id, after ++ [.undo _ followed object names],
                List.append_assoc .., named, fun later member => ?_⟩
              rcases List.mem_append.mp member with earlier | isLast
              · exact spares later earlier
              · cases List.mem_singleton.mp isLast
                intro same
                exact spared (by rw [stands, same])
      · rintro ⟨before, id, after, splits, named, spares⟩
        rcases List.eq_nil_or_concat after with rfl | ⟨earlier, other, rfl⟩
        · obtain ⟨rfl, isLast⟩ := List.append_inj' splits rfl
          cases isLast
          exact congrArg some named
        · rw [List.concat_eq_append, ← List.cons_append, ← List.append_assoc] at splits
          obtain ⟨rfl, isLast⟩ := List.append_inj' splits rfl
          cases isLast
          have stands := inductionHypothesis.mpr ⟨before, id, earlier, rfl, named,
            fun later member => spares later (by simp [member])⟩
          rw [stands]
          have sparesLast := spares last (by simp)
          cases last with
          | follow id => exact sparesLast.elim
          | undo id followed object names =>
              refine if_neg fun same => sparesLast ?_
              exact (Option.some.inj same).symm

end FollowMessage

/-! ## The rows of the follows -/

/-- An upsert leaves one row of its pair, with the new columns, and no other
row of the pair. -/
theorem Follows.upsert_spec
    {followerId targetId : Nat} {activityId : String} {state : FollowState}
    {table table' : FollowTable} {returned : FollowRow}
    (upserted : Follows.upsert followerId targetId (some activityId) state table =
      (.ok returned, table')) :
    (∃ row ∈ table', row.ofPair followerId targetId = true) ∧
      ∀ row ∈ table',
        (row.ofPair followerId targetId = true ∧ row.apActivityId = some activityId ∧
            row.state = state) ∨
          (row ∈ table ∧ row.ofPair followerId targetId = false) := by
  unfold Follows.upsert at upserted
  cases found : table.find? (FollowRow.ofPair followerId targetId) with
  | some existing =>
      rw [found] at upserted
      cases upserted
      have stored := Table.mem_of_find?_eq_some found
      have ofPair := Table.holds_of_find?_eq_some found
      constructor
      · refine ⟨_, Table.mem_update_of_mem _ stored, ?_⟩
        rw [Table.changeWhere, if_pos ofPair]
        exact ofPair
      · intro row member
        obtain ⟨old, oldMember, rfl⟩ := Table.mem_update.mp member
        cases oldPair : old.ofPair followerId targetId with
        | true =>
            rw [Table.changeWhere, if_pos oldPair]
            exact .inl ⟨oldPair, rfl, rfl⟩
        | false =>
            rw [Table.changeWhere, if_neg (by simp [oldPair])]
            exact .inr ⟨oldMember, oldPair⟩
  | none =>
      rw [found] at upserted
      cases inserted : table.insert?
          ⟨followerId, targetId, some activityId, state⟩ with
      | none =>
          rw [inserted] at upserted
          cases upserted
      | some grown =>
          rw [inserted] at upserted
          cases upserted
          constructor
          · exact ⟨_, (Table.mem_insert? inserted).mpr (.inr rfl), by simp [FollowRow.ofPair]⟩
          · intro row member
            rcases (Table.mem_insert? inserted).mp member with old | rfl
            · refine .inr ⟨old, ?_⟩
              simpa using Table.find?_eq_none.mp found row old
            · exact .inl ⟨by simp [FollowRow.ofPair], rfl, rfl⟩

/-! ## The state between two messages -/

/-- The two sides of the exchange, with their rows. -/
structure FollowParties (Url : Type) where
  follower : Url
  target : Url
  followerRow : ActorRow
  targetRow : ActorRow

namespace FollowParties

variable (parties : FollowParties Url)

/-- The row is of the two parties. -/
def owns (row : FollowRow) : Bool :=
  row.ofPair parties.followerRow.id parties.targetRow.id

/-- Both actors are stored, and the target is a local account that is neither
locked nor gone. -/
structure Ready [UrlCrate Url] (domain : String) (db : Db) : Prop where
  follower : db.actorByApId (asStr parties.follower) = some parties.followerRow
  target : db.actorByApId (asStr parties.target) = some parties.targetRow
  isLocal : isLocalUrl parties.target domain = true
  unlocked : parties.targetRow.isLocked = false
  untombstoned : db.tombstoned (asStr parties.target) = false

/-- The rows of the follows show the follow that stands: the row of the parties
carries its id, and no other row carries an id of the exchange. -/
structure Shows
    (ids : List String) (state : FollowState) (current : Option String) (db : Db) : Prop where
  known : ∀ id ∈ current, id ∈ ids
  stored : current.isSome → ∃ row ∈ db.follows, parties.owns row = true
  owned : ∀ row ∈ db.follows, parties.owns row = true →
    current.isSome ∧ row.apActivityId = current ∧ row.state = state
  named : ∀ row ∈ db.follows, ∀ id ∈ ids, row.apActivityId = some id → parties.owns row = true

variable {parties} {ids : List String} {state : FollowState} {current : Option String} {db : Db}

/-- An upsert makes the follow with the new id stand. -/
theorem Shows.upsert
    (shows' : parties.Shows ids state current db) {id : String} (known : id ∈ ids)
    {newState : FollowState} {returned : FollowRow}
    (succeeded : (Follows.upsert parties.followerRow.id parties.targetRow.id (some id) newState
      db.follows).1 = .ok returned) :
    parties.Shows ids newState (some id)
      (db.onFollows (Follows.upsert parties.followerRow.id parties.targetRow.id (some id)
        newState)).2 := by
  obtain ⟨stored, each⟩ := Follows.upsert_spec (Prod.ext succeeded rfl)
  constructor
  · rintro _ ⟨rfl⟩
    exact known
  · exact fun _ => stored
  · intro row member owned
    rcases each row member with ⟨-, hasId, hasState⟩ | ⟨-, notOwned⟩
    · exact ⟨rfl, hasId, hasState⟩
    · rw [owns, notOwned] at owned
      cases owned
  · intro row member other isKnown hasId
    rcases each row member with ⟨ofPair, -, -⟩ | ⟨old, -⟩
    · exact ofPair
    · exact shows'.named row old other isKnown hasId

/-- A change of the state keeps the ids. -/
theorem Shows.setState
    (shows' : parties.Shows ids state current db) (newState : FollowState) :
    parties.Shows ids newState current
      (db.onFollows (Follows.setState parties.followerRow.id parties.targetRow.id
        newState)).2 := by
  have changed : ∀ row ∈ (db.onFollows (Follows.setState parties.followerRow.id
      parties.targetRow.id newState)).2.follows,
      ∃ old ∈ db.follows, parties.owns row = parties.owns old ∧
        row.apActivityId = old.apActivityId ∧
        (parties.owns old = true → row.state = newState) := by
    intro row member
    obtain ⟨old, oldMember, rfl⟩ :=
      (@Table.mem_update _ _ _ _ _ (FollowRow.keepsKeys_setState newState) _).mp member
    refine ⟨old, oldMember, ?_⟩
    unfold Table.changeWhere
    split
    next => exact ⟨rfl, rfl, fun _ => rfl⟩
    next notOwned => exact ⟨rfl, rfl, fun owned => (notOwned owned).elim⟩
  constructor
  · exact shows'.known
  · intro stands
    obtain ⟨row, member, owned⟩ := shows'.stored stands
    refine ⟨_, Table.mem_update_of_mem (FollowRow.keepsKeys_setState newState) member, ?_⟩
    unfold Table.changeWhere
    split <;> exact owned
  · intro row member owned
    obtain ⟨old, oldMember, sameOwner, sameId, hasState⟩ := changed row member
    rw [sameOwner] at owned
    obtain ⟨stands, hasId, -⟩ := shows'.owned old oldMember owned
    exact ⟨stands, sameId.trans hasId, hasState owned⟩
  · intro row member id isKnown hasId
    obtain ⟨old, oldMember, sameOwner, sameId, -⟩ := changed row member
    rw [sameOwner]
    exact shows'.named old oldMember id isKnown (sameId.symm.trans hasId)

/-- The undo of a follow deletes the edge if that follow stands. -/
theorem Shows.undo
    (shows' : parties.Shows ids state current db) {followed : String} {row : FollowRow}
    (found : db.followByActivityId followed = some row) :
    parties.Shows ids state (if current = some followed then none else current)
      (db.onFollows (Follows.delete row.followerActorId row.targetActorId)).2 := by
  obtain ⟨member, hasId⟩ := Db.followByActivityId_eq_some found
  have kept : ∀ other ∈ (db.onFollows (Follows.delete row.followerActorId
      row.targetActorId)).2.follows,
      other ∈ db.follows ∧ other.ofPair row.followerActorId row.targetActorId = false :=
    fun _ => Table.mem_erase.mp
  split
  next stands =>
    have owned : parties.owns row = true :=
      shows'.named row member followed (shows'.known followed stands) hasId
    have samePair : ∀ other, parties.owns other =
        other.ofPair row.followerActorId row.targetActorId := by
      intro other
      simp only [owns, FollowRow.ofPair, decide_eq_true_eq] at owned
      rw [owned.1, owned.2, owns]
    constructor
    · simp
    · simp
    · intro other otherMember otherOwned
      rw [samePair, (kept other otherMember).2] at otherOwned
      cases otherOwned
    · exact fun other otherMember => shows'.named other (kept other otherMember).1
  next spared =>
    have notOwned : parties.owns row = false := by
      by_contra owned
      have isCurrent := (shows'.owned row member (by simpa using owned)).2.1
      exact spared (isCurrent.symm.trans hasId)
    constructor
    · exact shows'.known
    · intro stands
      obtain ⟨other, otherMember, otherOwned⟩ := shows'.stored stands
      refine ⟨other, Table.mem_erase.mpr ⟨otherMember, ?_⟩, otherOwned⟩
      by_contra clash
      simp only [FollowRow.ofPair, Bool.not_eq_false, decide_eq_true_eq] at clash
      simp only [owns, FollowRow.ofPair, decide_eq_true_eq] at otherOwned
      simp [owns, FollowRow.ofPair, ← clash.1, ← clash.2, otherOwned] at notOwned
    · exact fun other otherMember => shows'.owned other (kept other otherMember).1
    · exact fun other otherMember => shows'.named other (kept other otherMember).1

/-- The undo of a follow that no row names finds nothing. -/
theorem Shows.undo_nothing
    (shows' : parties.Shows ids state current db) {followed : String}
    (found : db.followByActivityId followed = none) :
    parties.Shows ids state (if current = some followed then none else current) db := by
  rw [if_neg]
  · exact shows'
  · rintro rfl
    obtain ⟨row, member, owned⟩ := shows'.stored rfl
    have hasId := (shows'.owned row member owned).2.1
    have other := Table.find?_eq_none.mp found row member
    simp [hasId] at other

/-- The edge exists and is accepted if and only if a follow stands. -/
theorem Shows.edge_iff (shows' : parties.Shows ids .accepted current db) :
    (∃ row, db.followByPair parties.followerRow.id parties.targetRow.id = some row ∧
        row.state = .accepted) ↔
      ∃ id, current = some id := by
  constructor
  · rintro ⟨row, found, -⟩
    obtain ⟨member, owned⟩ := Db.followByPair_eq_some.mp found
    exact Option.isSome_iff_exists.mp (shows'.owned row member owned).1
  · rintro ⟨id, rfl⟩
    obtain ⟨row, member, owned⟩ := shows'.stored rfl
    exact ⟨row, Db.followByPair_eq_some.mpr ⟨member, owned⟩, (shows'.owned row member owned).2.2⟩

end FollowParties

/-! ## Handlers that end well -/

namespace Operation

theorem ok_of_checked {α : Type} {outcome : Except DbError α × Db} {value : α} {final : Db}
    (succeeded : checked outcome = (.ok value, final)) :
    outcome.1 = .ok value ∧ outcome.2 = final := by
  obtain ⟨returned, after⟩ := outcome
  cases returned with
  | error error => cases succeeded
  | ok returned =>
      cases succeeded
      exact ⟨rfl, rfl⟩

/-- An operation logs no other id. -/
theorem logged_of_exec
    {env : Env Url} {op : Operation Url} {db : Db} {activityId : String}
    (logged : (exec env op db).2.Logged activityId) :
    db.Logged activityId ∨ ∃ new, op.logs = some new ∧ new.activityId = activityId := by
  obtain ⟨row, member, rfl⟩ := logged
  rcases logRow_of_exec member with ⟨old, oldMember, sameId, -⟩ | ⟨-, new, isNew, sameId, -⟩
  · exact .inl ⟨old, oldMember, sameId⟩
  · exact .inr ⟨new, isNew, sameId⟩

end Operation

namespace Handler

variable {allow : Env Url → Prop} {holds middle : Db → Prop} {db : Db}

/-- Where a handler ends well, the final state satisfies `holds`. -/
abbrev Succeeds
    (allow : Env Url → Prop) (holds : Db → Prop) (part : Handler Url Unit) (db : Db) : Prop :=
  Program.Ensures Operation.exec allow (fun outcome final => outcome = .ok () → holds final)
    part db

theorem succeeds_query_then
    {op : Operation Url} {rest : op.Result → Handler Url Unit}
    (performed : ∀ env value final, allow env → Operation.exec env op db = (.ok value, final) →
      Operation.perform env op db = (.ok value, final) →
      Succeeds allow holds (rest value) final) :
    Succeeds allow holds (query op >>= rest) db := by
  refine ensures_query_then (by simp) ?_
  intro env allowed succeeded
  have executed := Operation.exec_of_success succeeded db
  generalize isResult : Operation.perform env op db = result at executed ⊢
  obtain ⟨outcome, final⟩ := result
  cases outcome with
  | error error => simp
  | ok value => exact performed env value final allowed executed isResult

/-- A part whose final state is known, and what follows it. -/
theorem succeeds_then {α : Type}
    {part : Handler Url α} {rest : α → Handler Url Unit}
    (first : Program.Ensures Operation.exec allow (fun _ final => middle final) part db)
    (next : ∀ value final, middle final → Succeeds allow holds (rest value) final) :
    Succeeds allow holds (part >>= rest) db := by
  rw [Succeeds, Program.ensures_bind]
  refine first.mono fun outcome final reached => ?_
  cases outcome with
  | ok value => exact next value final reached
  | error _ => simp

variable [UrlCrate Url]

/-- A stored actor is read. -/
theorem succeeds_dereferenceLocal_then
    {url : Url} {row : ActorRow} {rest : DbActor Url → Handler Url Unit}
    (stored : db.actorByApId (asStr url) = some row)
    (next : Succeeds allow holds (rest ⟨row, url⟩) db) :
    Succeeds allow holds (dereferenceLocal url >>= rest) db := by
  have named : row.apId = asStr url := (Db.actorByApId_eq_some.mp stored).2
  have parsed : DbActor.fromRow row = (.done ⟨row, url⟩ : Handler Url (DbActor Url)) := by
    unfold DbActor.fromRow
    rw [named, parse_asStr]
  unfold dereferenceLocal DbActor.readFromId
  rw [Program.bind_assoc, Program.bind_assoc]
  refine succeeds_query_then fun env value final _ _ read => ?_
  simp only [Operation.perform, stored] at read
  cases read
  simp only [parsed]
  exact next

/-- A fresh activity goes through the gate, does its work and is stamped. -/
theorem succeeds_pipeline
    {activityId : Url} {actorApId : String} {objectApId : Option String} {raw : Value}
    {work : Handler Url Unit}
    (fresh : ¬db.Logged (asStr activityId))
    (works : ∀ env final, allow env →
      Operation.exec env (.tryCreateInbound ⟨asStr activityId, actorApId, objectApId, raw⟩) db =
        (.ok (some (NewActivity.row ⟨asStr activityId, actorApId, objectApId, raw⟩ .inbound)),
          final) →
      Succeeds allow middle work final)
    (stamped : ∀ (env : Env Url) final, middle final →
      holds (Operation.exec env (.stampProcessed (asStr activityId)) final).2) :
    Succeeds allow holds (pipeline activityId actorApId objectApId raw work) db := by
  have passed := @Activities.tryCreateInbound_of_fresh
    ⟨asStr activityId, actorApId, objectApId, raw⟩ _ fresh
  unfold pipeline inboundBegin
  rw [Program.bind_assoc]
  refine succeeds_query_then fun env value final allowed executed performed => ?_
  simp only [Operation.perform, Operation.answered, Db.onActivities, passed.1] at performed
  obtain ⟨isValue, -⟩ := Prod.mk.inj performed
  cases isValue
  simp only [Program.pure_eq_done, Program.done_bind, Option.isSome_some, if_true]
  rw [Succeeds, Program.ensures_bind]
  refine (works env final allowed executed).mono fun outcome worked ends => ?_
  cases outcome with
  | error _ => simp
  | ok _ =>
      unfold inboundFinish
      refine succeeds_query_then fun env _ ended _ executed _ _ => ?_
      have stampedNow := stamped env worked (ends rfl)
      rwa [executed] at stampedNow

end Handler

/-! ## One message -/

section Messages

variable [UrlCrate Url]

/-- Between two messages: the rows show the follow that stands, and the ids of
the messages to come are new to the log. -/
structure FollowParties.Between
    (parties : FollowParties Url) (domain : String) (ids pending : List String)
    (current : Option String) (db : Db) : Prop where
  ready : parties.Ready domain db
  shown : parties.Shows ids .accepted current db
  fresh : ∀ id ∈ pending, ¬db.Logged id

namespace FollowParties

variable {parties : FollowParties Url} {domain : String} {ids pending : List String}
  {current : Option String} {db : Db}

theorem Ready.of_exec
    (ready : parties.Ready domain db) {env : Env Url} {op : Operation Url}
    {outcome : Except Error op.Result} {final : Db}
    (executed : Operation.exec env op db = (outcome, final))
    (spares : op.writes ∉ [some .actors, some .tombstones]) :
    parties.Ready domain final := by
  simp only [List.mem_cons, List.not_mem_nil, or_false, not_or] at spares
  have actors : (Operation.exec env op db).2.actors = db.actors :=
    Operation.exec_frame .actors spares.1 env db
  have tombstones : (Operation.exec env op db).2.tombstones = db.tombstones :=
    Operation.exec_frame .tombstones spares.2 env db
  rw [executed] at actors tombstones
  constructor
  · rw [Db.actorByApId, actors]
    exact ready.follower
  · rw [Db.actorByApId, actors]
    exact ready.target
  · exact ready.isLocal
  · exact ready.unlocked
  · rw [Db.tombstoned, tombstones]
    exact ready.untombstoned

omit [UrlCrate Url] in
theorem fresh_of_exec
    (fresh : ∀ id ∈ pending, ¬db.Logged id) {env : Env Url} {op : Operation Url}
    {outcome : Except Error op.Result} {final : Db}
    (executed : Operation.exec env op db = (outcome, final))
    (logsNone : ∀ new ∈ op.logs, new.activityId ∉ pending) :
    ∀ id ∈ pending, ¬final.Logged id := by
  intro id isPending logged
  have logged' : (Operation.exec env op db).2.Logged id := by rwa [executed]
  rcases Operation.logged_of_exec logged' with before | ⟨new, isNew, rfl⟩
  · exact fresh id isPending before
  · exact logsNone new isNew isPending

theorem Between.later {id : String}
    (between : parties.Between domain ids (id :: pending) current db) :
    parties.Between domain ids pending current db :=
  ⟨between.ready, between.shown,
    fun other isPending => between.fresh other (List.mem_cons_of_mem id isPending)⟩

/-- An operation that writes neither actors nor tombstones nor follows, and logs
none of the messages to come, changes nothing here. -/
theorem Between.of_exec
    (between : parties.Between domain ids pending current db) {env : Env Url}
    {op : Operation Url} {outcome : Except Error op.Result} {final : Db}
    (executed : Operation.exec env op db = (outcome, final))
    (spares : op.writes ∉ [some .actors, some .tombstones, some .follows])
    (logsNone : ∀ new ∈ op.logs, new.activityId ∉ pending) :
    parties.Between domain ids pending current final := by
  simp only [List.mem_cons, List.not_mem_nil, or_false, not_or] at spares
  have follows : (Operation.exec env op db).2.follows = db.follows :=
    Operation.exec_frame .follows spares.2.2 env db
  rw [executed] at follows
  refine ⟨between.ready.of_exec executed (by simp [spares]), ?_,
    fresh_of_exec between.fresh executed logsNone⟩
  constructor
  · exact between.shown.known
  · rw [follows]
    exact between.shown.stored
  · rw [follows]
    exact between.shown.owned
  · rw [follows]
    exact between.shown.named

variable {data : FederationData} {allow : Env Url → Prop}

/-- The new ids that an instance gives to its own activities are none of those
to come. -/
def GivesOther (data : FederationData) (pending : List String) (env : Env Url) : Prop :=
  data.baseUrl ++ "/activities/" ++ env.uuid ∉ pending

theorem ensures_sharedInboxOrInbox {actor : DbActor Url} {holds : Db → Prop} (now : holds db) :
    Program.Ensures Operation.exec allow (fun _ final => holds final)
      (actor.sharedInboxOrInbox : Handler Url Url) db := by
  unfold DbActor.sharedInboxOrInbox
  split
  · exact now
  · split <;> exact now

theorem ensures_logOutbound
    (between : parties.Between domain ids pending current db) {new : NewActivity}
    (notPending : new.activityId ∉ pending) :
    Program.Ensures Operation.exec allow
      (fun _ final => parties.Between domain ids pending current final)
      (Handler.discarded (query (.createOutbound new)) : Handler Url Unit) db := by
  refine Handler.ensures_discarded ?_
  rw [Program.ensures_perform]
  intro env _
  have executed : Operation.exec env (.createOutbound new) db = (_, _) := rfl
  refine between.of_exec executed (by simp [Operation.writes]) ?_
  rintro _ ⟨rfl⟩
  exact notPending

/-- A follow of an unlocked local target stands once it is recorded. -/
theorem succeeds_record
    (givesOther : ∀ env, allow env → GivesOther data pending env)
    (between : parties.Between data.domain ids pending current db)
    {id : Url} (known : asStr id ∈ ids) :
    Handler.Succeeds allow (parties.Between data.domain ids pending (some (asStr id)))
      (Follow.record data ⟨id, parties.follower, parties.target⟩) db := by
  unfold Follow.record
  refine Handler.succeeds_dereferenceLocal_then between.ready.target ?_
  simp only [between.ready.isLocal, Bool.not_true, Bool.false_eq_true, if_false]
  refine Handler.succeeds_dereferenceLocal_then between.ready.follower ?_
  refine Handler.succeeds_query_then fun env row requested _ executed performed => ?_
  have shown : parties.Shows ids .requested (some (asStr id)) requested := by
    obtain ⟨returned, rfl⟩ := Operation.ok_of_checked performed
    exact between.shown.upsert known returned
  have ready := between.ready.of_exec executed (by simp [Operation.writes])
  have fresh := fresh_of_exec between.fresh executed (by simp [Operation.logs])
  simp only [between.ready.unlocked, Bool.false_eq_true, if_false]
  unfold Follow.autoAccept
  refine Handler.succeeds_query_then fun env _ accepted _ executed performed => ?_
  have between : parties.Between data.domain ids pending (some (asStr id)) accepted := by
    refine ⟨ready.of_exec executed (by simp [Operation.writes]), ?_,
      fresh_of_exec fresh executed (by simp [Operation.logs])⟩
    obtain ⟨-, rfl⟩ := Prod.mk.inj performed
    exact shown.setState .accepted
  refine Handler.succeeds_query_then fun env uuid _ allowed executed performed => ?_
  replace between := between.of_exec executed (by simp [Operation.writes]) (by simp [Operation.logs])
  have isUuid : uuid = env.uuid := by
    cases performed
    rfl
  have notPending : data.baseUrl ++ "/activities/" ++ uuid ∉ pending := by
    rw [isUuid]
    exact givesOther env allowed
  refine Handler.succeeds_then (ensures_logOutbound between notPending) fun _ _ between => ?_
  refine Handler.succeeds_then (ensures_sharedInboxOrInbox between) fun inbox _ between => ?_
  refine Handler.succeeds_query_then fun env _ _ _ executed _ _ => ?_
  exact between.of_exec executed (by simp [Operation.writes]) (by simp [Operation.logs])

/-- An undo takes the follow away if it names the one that stands. -/
theorem succeeds_undo
    (between : parties.Between data.domain ids pending current db) (followed : String) :
    Handler.Succeeds allow
      (parties.Between data.domain ids pending (if current = some followed then none else current))
      (undoFollow followed : Handler Url Unit) db := by
  unfold undoFollow
  refine Handler.succeeds_query_then fun env found read _ executed performed => ?_
  have isFound : db.followByActivityId followed = found ∧ db = read := by
    cases performed
    exact ⟨rfl, rfl⟩
  obtain ⟨isFound, rfl⟩ := isFound
  cases found with
  | none =>
      exact fun _ => ⟨between.ready, between.shown.undo_nothing isFound, between.fresh⟩
  | some row =>
      refine Handler.succeeds_query_then fun env _ final _ executed performed _ => ?_
      refine ⟨between.ready.of_exec executed (by simp [Operation.writes]), ?_,
        fresh_of_exec between.fresh executed (by simp [Operation.logs])⟩
      obtain ⟨-, rfl⟩ := Prod.mk.inj performed
      exact between.shown.undo isFound

/-- After a message that is processed without a fault, the rows show what
stands after it. -/
theorem Between.deliver [ChronoCrate]
    {message : FollowMessage Url} {envs : Nat → Env Url}
    (givesOther : ∀ index, GivesOther data pending (envs index))
    (between : parties.Between data.domain ids (asStr message.id :: pending) current db)
    (later : asStr message.id ∉ pending)
    (known : ∀ id, message = .follow id → asStr id ∈ ids)
    (responded : (Delivery.mk (message.activity parties.follower parties.target) envs).response
      data db = .ok ()) :
    parties.Between data.domain ids pending (message.standing current)
      (TootTok.deliver data db ⟨message.activity parties.follower parties.target, envs⟩) := by
  let activity := message.activity parties.follower parties.target
  suffices succeeds : Handler.Succeeds (GivesOther data pending)
      (parties.Between data.domain ids pending (message.standing current))
      (activity.receive data) db from succeeds.run envs givesOther responded
  have sameId : activity.id = message.id := FollowMessage.activity_id _ _ message
  rw [ApActivities.receive_eq, sameId]
  refine @Handler.succeeds_pipeline _ _ _
    (parties.Between data.domain ids pending (message.standing current)) _ _ _ _ _ _ _ ?_ ?_ ?_
  · exact between.fresh _ List.mem_cons_self
  · intro env logged _ executed
    have afterGate : parties.Between data.domain ids pending current logged := by
      refine between.later.of_exec executed (by simp [Operation.writes]) ?_
      rintro _ ⟨rfl⟩
      exact later
    cases message with
    | follow id =>
        refine Handler.succeeds_query_then fun env gone read _ _ performed => ?_
        cases performed
        rw [afterGate.ready.untombstoned]
        exact succeeds_record (fun _ given => given) afterGate (known id rfl)
    | undo id followed object names =>
        have work : activity.work data = undoFollow followed := by
          simp only [activity, FollowMessage.activity, ApActivities.work, names.undoFollowTarget_eq]
        rw [work]
        exact succeeds_undo afterGate followed
  · intro env final between
    have executed : Operation.exec env (.stampProcessed (asStr message.id)) final = (_, _) := rfl
    exact between.of_exec executed (by simp [Operation.writes]) (by simp [Operation.logs])

/-- A message, and what the world answers while it is processed. -/
structure Sent (Url : Type) where
  message : FollowMessage Url
  envs : Nat → Env Url

/-- The delivery of a message of the follower. -/
def delivery (parties : FollowParties Url) (sent : Sent Url) : Delivery Url :=
  ⟨sent.message.activity parties.follower parties.target, sent.envs⟩

/-- A run of messages shows what stands after them. -/
theorem Between.after [ChronoCrate]
    {exchange : List (Sent Url)}
    (between : parties.Between data.domain ids
      (exchange.map fun sent => asStr sent.message.id) current db)
    (distinct : (exchange.map fun sent => asStr sent.message.id).Nodup)
    (known : ∀ sent ∈ exchange, ∀ id, sent.message = .follow id → asStr id ∈ ids)
    (givesOther : ∀ sent ∈ exchange, ∀ index,
      GivesOther data (exchange.map fun sent => asStr sent.message.id) (sent.envs index))
    (responded : Runs.EachStep (TootTok.deliver data)
      (fun state delivery => delivery.response data state = .ok ())
      db (exchange.map parties.delivery)) :
    parties.Shows ids .accepted
      ((exchange.map Sent.message).foldl FollowMessage.standing current)
      (Runs.after (TootTok.deliver data) db (exchange.map parties.delivery)) := by
  induction exchange generalizing db current with
  | nil => exact between.shown
  | cons sent exchange inductionHypothesis =>
      simp only [List.map_cons, List.nodup_cons] at distinct between
      have fewer (env : Env Url)
          (other : GivesOther data
            ((sent :: exchange).map fun sent => asStr sent.message.id) env) :
          GivesOther data (exchange.map fun sent => asStr sent.message.id) env :=
        fun member => other (List.mem_cons_of_mem _ member)
      have next := Between.deliver
        (fun index => fewer _ (givesOther sent List.mem_cons_self index)) between distinct.1
        (known sent List.mem_cons_self) responded.1
      refine inductionHypothesis next distinct.2 ?_ ?_ responded.2
      · exact fun later member => known later (List.mem_cons_of_mem sent member)
      · exact fun later member index =>
          fewer _ (givesOther later (List.mem_cons_of_mem sent member) index)

end FollowParties

variable [ChronoCrate]

end Messages

/-! ## A stale undo -/

namespace Sample

/-- Bob and alice have arrived. -/
def acquainted : Db := Runs.after (step config) Db.empty arrivals

/-- Both are stored and alice is open to follows, with nothing logged or followed yet. -/
theorem acquainted_evaluated :
    (acquainted.actorByApId "https://b/bob").isSome = true ∧
      (acquainted.actorByApId "https://a/users/alice").map ActorRow.isLocked = some false ∧
      acquainted.tombstoned "https://a/users/alice" = false ∧
      acquainted.activities.rows.isEmpty = true ∧ acquainted.follows.rows.isEmpty = true := by
  decide +kernel

theorem bob_stored : (acquainted.actorByApId "https://b/bob").isSome = true :=
  acquainted_evaluated.1

theorem alice_stored : (acquainted.actorByApId "https://a/users/alice").isSome = true := by
  obtain ⟨row, found, -⟩ := Option.map_eq_some_iff.mp acquainted_evaluated.2.1
  rw [found]
  rfl

theorem parse_alice : (NormalUrl.parse "https://a/users/alice").isSome = true := by
  decide

theorem parse_secondActivity : (NormalUrl.parse "https://b/2").isSome = true := by
  decide

theorem parse_thirdActivity : (NormalUrl.parse "https://b/3").isSome = true := by
  decide

theorem nothing_logged (activityId : String) : ¬acquainted.Logged activityId := by
  rintro ⟨row, member, -⟩
  have none : row ∈ acquainted.activities.rows := member
  rw [List.isEmpty_iff.mp acquainted_evaluated.2.2.2.1] at none
  exact List.not_mem_nil none

theorem nothing_followed (follow : FollowRow) : follow ∉ acquainted.follows := by
  intro member
  have none : follow ∈ acquainted.follows.rows := member
  rw [List.isEmpty_iff.mp acquainted_evaluated.2.2.2.2] at none
  exact List.not_mem_nil none

/-- Bob follows alice. -/
def bobAndAlice : FollowParties NormalUrl where
  follower := bob.id
  target := .ofText "https://a/users/alice" parse_alice
  followerRow := (acquainted.actorByApId "https://b/bob").get bob_stored
  targetRow := (acquainted.actorByApId "https://a/users/alice").get alice_stored

/-- He follows twice, and undoes the first follow. -/
def renewedFollow : List (FollowParties.Sent NormalUrl) :=
  [⟨.follow (.ofText "https://b/1" parse_bobsActivity), fun _ => online⟩,
    ⟨.follow (.ofText "https://b/2" parse_secondActivity), fun _ => online⟩,
    ⟨.undo (.ofText "https://b/3" parse_thirdActivity) "https://b/1" (.string "https://b/1")
      (.text _), fun _ => online⟩]

theorem eq_ok {outcome : Except Error Unit} (isOk : outcome.isOk = true) : outcome = .ok () := by
  cases outcome with
  | ok _ => rfl
  | error _ => cases isOk

end Sample

end TootTok
