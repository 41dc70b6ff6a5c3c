import TootTok.Instance
import TootTok.Pipeline

/-!
# Who may answer a follow

An `Accept`, a `Reject` and an `Undo` name a follow by the id of its activity.
The target of a follow may accept and reject it, its follower may undo it. The
handlers find the row by the id alone and never compare the signer with its
parties. This module says exactly which deliveries change no follow of others.
-/

namespace TootTok

open Effects
open Relational (Table)
open UrlCrate

variable {Url : Type}

/-! ## Edges -/

namespace Db

/-- The two states have the same follows. -/
def SameEdges (before after : Db) : Prop :=
  ∀ followerId targetId,
    after.followByPair followerId targetId = before.followByPair followerId targetId

/-- The edge of a row has been replaced, and no other edge. -/
def EdgeReplaced
    (before : Db) (row : FollowRow) (replacement : Option FollowRow) (after : Db) : Prop :=
  ∀ followerId targetId,
    after.followByPair followerId targetId =
      if row.ofPair followerId targetId then replacement
      else before.followByPair followerId targetId

theorem sameEdges_of_sameTable
    {before after : Db} (same : after.SameTable before .follows) :
    before.SameEdges after := by
  intro followerId targetId
  unfold followByPair
  rw [show after.follows = before.follows from same]

theorem SameEffects.sameEdges {left right : Db} (same : left.SameEffects right) :
    left.SameEdges right :=
  sameEdges_of_sameTable same.follows.symm

theorem followByPair_eq_some {db : Db} {followerId targetId : Nat} {row : FollowRow} :
    db.followByPair followerId targetId = some row ↔
      row ∈ db.follows ∧ row.ofPair followerId targetId = true := by
  constructor
  · intro found
    exact ⟨Table.mem_of_find?_eq_some found, Table.holds_of_find?_eq_some found⟩
  · rintro ⟨member, holds⟩
    refine Table.find?_eq_some_of_mem ?_ ?_ member holds
    · exact fun left right clash => ⟨clash.1.symm, clash.2.symm⟩
    · intro left right ofLeft ofRight
      simp only [decide_eq_true_eq] at ofLeft ofRight
      exact ⟨ofLeft.1.trans ofRight.1.symm, ofLeft.2.trans ofRight.2.symm⟩

theorem followByActivityId_eq_some
    {db : Db} {activityId : String} {row : FollowRow}
    (found : db.followByActivityId activityId = some row) :
    row ∈ db.follows ∧ row.apActivityId = some activityId :=
  ⟨Table.mem_of_find?_eq_some found, by simpa using Table.holds_of_find?_eq_some found⟩

/-- A stored row is the edge of its own pair. -/
theorem followByPair_self {db : Db} {row : FollowRow} (stored : row ∈ db.follows) :
    db.followByPair row.followerActorId row.targetActorId = some row :=
  followByPair_eq_some.mpr ⟨stored, by simp [FollowRow.ofPair]⟩

end Db

/-- Two rows of one pair lie on the same edges. -/
theorem FollowRow.ofPair_congr
    {row other : FollowRow} {followerId targetId : Nat}
    (ofOther : other.ofPair followerId targetId = true) :
    row.ofPair followerId targetId =
      other.ofPair row.followerActorId row.targetActorId := by
  simp only [FollowRow.ofPair, decide_eq_true_eq] at ofOther
  rw [← ofOther.1, ← ofOther.2]
  simp [FollowRow.ofPair, eq_comm]

/-- `set_state` replaces one edge. -/
theorem Db.edgeReplaced_setState
    {db : Db} {row : FollowRow} (stored : row ∈ db.follows) (state : FollowState) :
    db.EdgeReplaced row (some (row.setState state))
      (db.onFollows
        (Follows.setState row.followerActorId row.targetActorId state)).2 := by
  intro followerId targetId
  have updated : (db.onFollows
      (Follows.setState row.followerActorId row.targetActorId state)).2.followByPair
        followerId targetId =
      (db.followByPair followerId targetId).map
        (Table.changeWhere (FollowRow.ofPair row.followerActorId row.targetActorId)
          (FollowRow.setState state)) :=
    Table.find?_update _ _ _ (FollowRow.keepsKeys_setState state) _ fun _ => rfl
  rw [updated]
  split
  next ofRow =>
    rw [Db.followByPair_eq_some.mpr ⟨stored, ofRow⟩]
    simp [Table.changeWhere, FollowRow.ofPair]
  next notOfRow =>
    cases found : db.followByPair followerId targetId with
    | none => rfl
    | some other =>
        have ofOther := (Db.followByPair_eq_some.mp found).2
        rw [FollowRow.ofPair_congr ofOther] at notOfRow
        simp [Table.changeWhere, notOfRow]

/-- `delete` removes one edge. -/
theorem Db.edgeReplaced_delete (db : Db) (row : FollowRow) :
    db.EdgeReplaced row none
      (db.onFollows (Follows.delete row.followerActorId row.targetActorId)).2 := by
  intro followerId targetId
  have erased : (db.onFollows
      (Follows.delete row.followerActorId row.targetActorId)).2.followByPair
        followerId targetId =
      db.follows.find? fun other =>
        !other.ofPair row.followerActorId row.targetActorId &&
          other.ofPair followerId targetId :=
    Table.find?_erase _ _ _
  rw [erased]
  split
  next ofRow =>
    rw [Table.find?_eq_none]
    intro other _
    simp only [Bool.and_eq_true, Bool.not_eq_true', not_and]
    intro notOfPair ofOther
    rw [FollowRow.ofPair_congr ofOther, notOfPair] at ofRow
    cases ofRow
  next notOfRow =>
    have blind : (fun other : FollowRow =>
        !other.ofPair row.followerActorId row.targetActorId &&
          other.ofPair followerId targetId) = FollowRow.ofPair followerId targetId := by
      funext other
      cases ofOther : other.ofPair followerId targetId with
      | false => rw [Bool.and_false]
      | true =>
          rw [FollowRow.ofPair_congr ofOther] at notOfRow
          simp [notOfRow]
    rw [blind]
    rfl

/-! ## Answers -/

/-- What the named follow is answered with. -/
inductive FollowAnswer
  | accept
  | reject
  | undo
deriving DecidableEq

namespace FollowAnswer

/-- The actor whose answer it is. -/
def party : FollowAnswer → FollowRow → Nat
  | .accept, row => row.targetActorId
  | .reject, row => row.targetActorId
  | .undo, row => row.followerActorId

/-- What becomes of the row. -/
def result : FollowAnswer → FollowRow → Option FollowRow
  | .accept, row => some (row.setState .accepted)
  | .reject, row => some (row.setState .rejected)
  | .undo, _ => none

/-- The handler that looks up the follow and applies the answer. -/
def handler : FollowAnswer → String → Handler Url Unit
  | .accept, followId => acceptFollow followId
  | .reject, followId => rejectFollow followId
  | .undo, followId => undoFollow followId

/-- The signer is the actor whose answer it is. -/
def Entitled (answer : FollowAnswer) (db : Db) (signer : String) (row : FollowRow) : Prop :=
  ∃ party, db.actorById (answer.party row) = some party ∧ party.apId = signer

/-- What an answer does to the follows: it replaces the edge of the row it
finds, unless a query fails or it finds none. -/
def Applied
    (answer : FollowAnswer) (followId : String) (faultless : Prop) (before after : Db) :
    Prop :=
  (∃ row, before.followByActivityId followId = some row ∧
      before.EdgeReplaced row (answer.result row) after) ∨
    (before.SameEdges after ∧
      (faultless → before.followByActivityId followId = none))

variable {allow : Env Url → Prop} {db : Db} {followId : String}

/-- All handlers look up the row and apply the answer to it. -/
theorem ensures_lookup
    {answer : FollowAnswer} {apply : FollowRow → Handler Url Unit}
    (storable : Json.textStorable followId = true)
    (applied : ∀ row, db.followByActivityId followId = some row →
      Program.Ensures Operation.exec allow
        (fun _ final => answer.Applied followId (∀ env, allow env → env.Quiet) db final)
        (apply row) db) :
    Program.Ensures Operation.exec allow
      (fun _ final => answer.Applied followId (∀ env, allow env → env.Quiet) db final)
      (query (.fetchFollowByActivityId followId) >>= fun found =>
        match found with
        | none => pure ()
        | some row => apply row) db := by
  refine Handler.ensures_query_then ?_ ?_
  · intro env error allowed failed
    refine .inr ⟨fun _ _ => rfl, fun quiet => ?_⟩
    rw [(quiet env allowed).failure_eq_none (by simp [Operation.storable, Operation.texts,
      Operation.documents, storable])] at failed
    cases failed
  · intro env _ _
    simp only [Operation.perform, Program.thenEnsures_ok]
    cases found : db.followByActivityId followId with
    | none => exact .inr ⟨fun _ _ => rfl, fun _ => found⟩
    | some row => exact applied row found

/-- A single write that replaces the edge of the row. -/
theorem applied_write
    {answer : FollowAnswer} {op : Operation Url} {row : FollowRow}
    (found : db.followByActivityId followId = some row)
    (storable : op.storable = true)
    (replaced : ∀ env, db.EdgeReplaced row (answer.result row) (Operation.perform env op db).2)
    {rest : op.Result → Handler Url Unit}
    (frame : ∀ value, (rest value).Calls fun op => op.writes ≠ some .follows)
    (succeeds : ∀ env, ∃ value, (Operation.perform env op db).1 = .ok value) :
    Program.Ensures Operation.exec allow
      (fun _ final => answer.Applied followId (∀ env, allow env → env.Quiet) db final)
      (query op >>= rest) db := by
  refine Handler.ensures_query_then ?_ ?_
  · intro env error allowed failed
    refine .inr ⟨fun _ _ => rfl, fun quiet => ?_⟩
    rw [(quiet env allowed).failure_eq_none storable] at failed
    cases failed
  · intro env _ _
    obtain ⟨value, succeeded⟩ := succeeds env
    rw [succeeded, Program.thenEnsures_ok]
    refine (Handler.ensures_frame (frame value)).mono ?_
    intro _ final same
    refine .inl ⟨row, found, fun followerId targetId => ?_⟩
    rw [Db.sameEdges_of_sameTable same]
    exact replaced env followerId targetId

theorem ensures_handler
    (answer : FollowAnswer) (storable : Json.textStorable followId = true) :
    Program.Ensures Operation.exec allow
      (fun _ final => answer.Applied followId (∀ env, allow env → env.Quiet) db final)
      (answer.handler followId : Handler Url Unit) db := by
  cases answer with
  | accept =>
      refine ensures_lookup storable fun row found => ?_
      have stored := (Db.followByActivityId_eq_some found).1
      refine applied_write found ?_ ?_ ?_ ?_
      · rfl
      · exact fun _ => Db.edgeReplaced_setState stored .accepted
      · intro _
        refine Handler.calls_discarded (Program.Calls.bind ?_ fun _ => trivial)
        rw [Program.calls_perform]
        exact fun impossible => nomatch impossible
      · exact fun _ => ⟨_, rfl⟩
  | reject =>
      refine ensures_lookup storable fun row found => ?_
      have stored := (Db.followByActivityId_eq_some found).1
      refine applied_write found ?_ ?_ ?_ ?_
      · rfl
      · exact fun _ => Db.edgeReplaced_setState stored .rejected
      · exact fun _ => trivial
      · exact fun _ => ⟨_, rfl⟩
  | undo =>
      refine ensures_lookup storable fun row found => ?_
      refine applied_write found ?_ ?_ ?_ ?_
      · rfl
      · exact fun _ => Db.edgeReplaced_delete db row
      · exact fun _ => trivial
      · exact fun _ => ⟨_, rfl⟩

end FollowAnswer

/-! ## Deliveries -/

section Deliveries

variable [UrlCrate Url]

namespace ApActivities

/-- An `Accept`, a `Reject` or an `Undo`. -/
def AnswersFollow : ApActivities Url → Prop
  | .accept _ | .reject _ | .undo _ => True
  | _ => False

/-- The answer that an activity gives, and the id of the follow it names. -/
def followAnswer : ApActivities Url → Option (FollowAnswer × String)
  | .accept activity => some (.accept, asStr activity.object.id)
  | .reject activity => some (.reject, asStr activity.object.id)
  | .undo activity => (undoFollowTarget activity.object).map fun followId => (.undo, followId)
  | _ => none

variable [ChronoCrate]

/-- The work of an answer is that of its handler. -/
theorem work_of_followAnswer
    (data : FederationData) {activity : ApActivities Url}
    {answer : FollowAnswer} {followId : String}
    (answers : activity.followAnswer = some (answer, followId)) :
    activity.work data = answer.handler followId ∧
      (activity.storable = true → Json.textStorable followId = true) := by
  cases activity with
  | accept activity =>
      cases answers
      exact ⟨rfl, fun _ => storable_asStr _⟩
  | reject activity =>
      cases answers
      exact ⟨rfl, fun _ => storable_asStr _⟩
  | undo activity =>
      simp only [followAnswer] at answers
      cases target : undoFollowTarget activity.object with
      | none =>
          rw [target] at answers
          cases answers
      | some named =>
          rw [target] at answers
          cases answers
          refine ⟨by simp only [work, target, FollowAnswer.handler], fun storable => ?_⟩
          simp only [ApActivities.storable, Operation.storable, Operation.texts, logged,
            loggedObject, target, Option.some_or, Bool.and_eq_true, List.all_eq_true] at storable
          exact storable.1 followId (by simp)
  | _ => cases answers

/-- An activity that names no follow does nothing. -/
theorem work_of_no_followAnswer
    (data : FederationData) {activity : ApActivities Url}
    (isAnswer : activity.AnswersFollow)
    (namesNone : activity.followAnswer = none) :
    activity.work data = pure () := by
  cases activity with
  | accept activity => cases namesNone
  | reject activity => cases namesNone
  | undo activity =>
      have target : undoFollowTarget activity.object = none := by
        simpa [followAnswer] using namesNone
      simp only [work, target]
  | _ => exact isAnswer.elim

end ApActivities

/-- Every edge that has changed is of a row that the activity names, and the
signer is the actor whose answer it is. -/
def AnswersOwnFollows (activity : ApActivities Url) (before after : Db) : Prop :=
  ∀ followerId targetId,
    after.followByPair followerId targetId ≠ before.followByPair followerId targetId →
      ∃ answer followId row,
        activity.followAnswer = some (answer, followId) ∧
        before.followByPair followerId targetId = some row ∧
        row.apActivityId = some followId ∧
        answer.Entitled before (asStr activity.actor) row

/-- The deliveries of which that is true in every world: duplicates, activities
that the log cannot hold, and answers that find no row, or a row of the signer,
or one that the answer leaves as it is. -/
def SafeAnswer (activity : ApActivities Url) (db : Db) : Prop :=
  db.Logged (asStr activity.id) ∨ activity.storable = false ∨
    ∀ answer followId row,
      activity.followAnswer = some (answer, followId) →
      db.followByActivityId followId = some row →
        answer.Entitled db (asStr activity.actor) row ∨ answer.result row = some row

theorem answersOwnFollows_of_sameEdges
    {activity : ApActivities Url} {before after : Db} (same : before.SameEdges after) :
    AnswersOwnFollows activity before after :=
  fun followerId targetId changed => (changed (same followerId targetId)).elim

theorem ignoresLog_followByPair {before : Db} {activity : ApActivities Url} :
    Db.IgnoresLog (AnswersOwnFollows activity before) := by
  intro left right same answers followerId targetId changed
  rw [same.sameEdges followerId targetId] at changed
  exact answers followerId targetId changed

/-- An applied answer to a row of the signer, or to one that it leaves as it
is, changes no edge of others. -/
theorem answersOwnFollows_of_applied
    {activity : ApActivities Url} {answer : FollowAnswer} {followId : String}
    {faultless : Prop} {before after : Db}
    (answers : activity.followAnswer = some (answer, followId))
    (safe : ∀ row, before.followByActivityId followId = some row →
      answer.Entitled before (asStr activity.actor) row ∨ answer.result row = some row)
    (applied : answer.Applied followId faultless before after) :
    AnswersOwnFollows activity before after := by
  rcases applied with ⟨row, found, replaced⟩ | ⟨same, -⟩
  · have stored := Db.followByActivityId_eq_some found
    intro followerId targetId changed
    rw [replaced] at changed
    cases ofRow : row.ofPair followerId targetId with
    | false => simp [ofRow] at changed
    | true =>
        have edge : before.followByPair followerId targetId = some row :=
          Db.followByPair_eq_some.mpr ⟨stored.1, ofRow⟩
        rcases safe row found with entitled | idle
        · exact ⟨answer, followId, row, answers, edge, stored.2, entitled⟩
        · simp [ofRow, idle, edge] at changed
  · exact answersOwnFollows_of_sameEdges same

variable [ChronoCrate]

/-- A safe delivery changes no follow of others. -/
theorem answersOwnFollows_of_safe
    {config : Config} {db : Db} {activity : ApActivities Url}
    (isAnswer : activity.AnswersFollow) (safe : SafeAnswer activity db)
    (envs : Nat → Env Url) :
    AnswersOwnFollows activity db (step config db ⟨.inbound activity, envs⟩) := by
  have unchanged : AnswersOwnFollows activity db db :=
    answersOwnFollows_of_sameEdges fun _ _ => rfl
  refine step_inbound_of_ensures (fun _ => True) _ (fun _ => trivial) ?_
  refine ApActivities.ensures_receive ignoresLog_followByPair unchanged ?_
  intro fresh storable
  rcases safe with logged | unstorable | safeRow
  · exact (fresh logged).elim
  · exact absurd storable (by simp [unstorable])
  cases answers : activity.followAnswer with
  | none =>
      rw [ApActivities.work_of_no_followAnswer _ isAnswer answers]
      exact answersOwnFollows_of_sameEdges fun _ _ => rfl
  | some named =>
      obtain ⟨answer, followId⟩ := named
      obtain ⟨work, storableId⟩ := ApActivities.work_of_followAnswer config.federationData answers
      rw [work]
      refine (answer.ensures_handler (storableId storable)).mono ?_
      intro _ final applied
      exact answersOwnFollows_of_applied answers (safeRow answer followId · answers) applied

/-- Without faults, any other delivery changes a follow of others. -/
theorem safe_of_answersOwnFollows
    {config : Config} {db : Db} {activity : ApActivities Url}
    (respects : ∀ envs,
      AnswersOwnFollows activity db (step config db ⟨.inbound activity, envs⟩)) :
    SafeAnswer activity db := by
  by_contra unsafe'
  simp only [SafeAnswer, not_or, not_forall, Bool.not_eq_false] at unsafe'
  obtain ⟨fresh, storable, answer, followId, row, answers, found, notEntitled, notIdle⟩ := unsafe'
  obtain ⟨work, storableId⟩ := ApActivities.work_of_followAnswer config.federationData answers
  have stored := Db.followByActivityId_eq_some found
  -- A world without faults in which the answer is applied.
  have changed : (step config db ⟨.inbound activity, fun _ => .offline⟩).followByPair
      row.followerActorId row.targetActorId = answer.result row := by
    refine step_inbound_of_ensures Env.Quiet (fun final =>
      final.followByPair row.followerActorId row.targetActorId = answer.result row)
      (fun _ => rfl) ?_
    refine ApActivities.ensures_fresh_receive (fun _ quiet => quiet) ?_ fresh storable ?_
    · intro left right same ends
      exact (same.sameEdges _ _).trans ends
    · rw [work]
      refine (answer.ensures_handler (storableId storable)).mono ?_
      rintro _ final (⟨replaced, foundAgain, edges⟩ | ⟨-, foundNone⟩)
      · have sameRow : row = replaced := Option.some.inj (found.symm.trans foundAgain)
        rw [edges, ← sameRow]
        simp [FollowRow.ofPair]
      · exact absurd (found.symm.trans (foundNone fun _ quiet => quiet)) (by simp)
  have own := respects (fun _ => .offline) row.followerActorId row.targetActorId
  rw [changed, Db.followByPair_self stored.1] at own
  obtain ⟨_, _, _, answersToo, sameRow, -, entitled⟩ := own notIdle
  cases answers.symm.trans answersToo
  cases sameRow
  exact notEntitled entitled

/-- Follow-edge authority. Along any run, whatever the world answers, an
`Accept`, a `Reject` or an `Undo` changes only edges that it names and that its
signer may answer, if and only if each of them is safe in the state it meets. -/
theorem follow_authority
    (config : Config) (db : Db) (occurrences : List (Occurrence Url)) :
    Runs.EachStep (step config)
        (fun state occurrence => occurrence.event.OnInbound fun activity =>
          activity.AnswersFollow → ∀ envs,
            AnswersOwnFollows activity state
              (step config state ⟨.inbound activity, envs⟩))
        db occurrences ↔
      Runs.EachStep (step config)
        (fun state occurrence => occurrence.event.OnInbound fun activity =>
          activity.AnswersFollow → SafeAnswer activity state)
        db occurrences := by
  refine Runs.eachStep_congr (fun state occurrence => ?_) db occurrences
  cases occurrence.event with
  | inbound activity =>
      exact ⟨fun respects isAnswer => safe_of_answersOwnFollows (respects isAnswer),
        fun safe isAnswer => answersOwnFollows_of_safe isAnswer (safe isAnswer)⟩
  | _ => exact Iff.rfl

end Deliveries

/-! ## A stranger's answer -/

section Sample

open Sample

/-- Alice has asked bob to follow him. -/
def Sample.asked : List (Occurrence NormalUrl) :=
  arrivals ++ [⟨.follow 1 ⟨none, some 2⟩, fun _ => online⟩]

theorem Sample.parse_mallory : (NormalUrl.parse "https://c/mallory").isSome = true := by
  decide

theorem Sample.parse_mallorysActivity : (NormalUrl.parse "https://c/1").isSome = true := by
  decide

/-- Mallory rejects that follow. -/
def Sample.rejection : ApActivities NormalUrl :=
  .reject ⟨.ofText "https://c/1" parse_mallorysActivity, .ofText "https://c/mallory" parse_mallory,
    .url (.ofText "https://a/activities/u-0")⟩

/-- A third actor rejects a follow that is not theirs. -/
theorem follow_rejected_by_stranger :
    Reachable NormalUrl Sample.config (Runs.after (step Sample.config) Db.empty Sample.asked) ∧
      Sample.rejection.AnswersFollow ∧
      ¬AnswersOwnFollows Sample.rejection
        (Runs.after (step Sample.config) Db.empty Sample.asked)
        (step Sample.config (Runs.after (step Sample.config) Db.empty Sample.asked)
          ⟨.inbound Sample.rejection, fun _ => .offline⟩) := by
  refine ⟨⟨_, rfl⟩, trivial, fun own => ?_⟩
  have evaluated :
      (step config (Runs.after (step config) Db.empty asked)
        ⟨.inbound rejection, fun _ => .offline⟩).followByPair 1 2 ≠
          (Runs.after (step config) Db.empty asked).followByPair 1 2 ∧
      ((Runs.after (step config) Db.empty asked).actorById 2).map ActorRow.apId =
        some "https://b/bob" := by
    decide +kernel
  obtain ⟨changed, bob⟩ := evaluated
  obtain ⟨answer, followId, row, answers, found, -, party, isParty, isSigner⟩ := own 1 2 changed
  cases answers
  have target : row.targetActorId = 2 := by
    have edge := (Db.followByPair_eq_some.mp found).2
    simp only [FollowRow.ofPair, decide_eq_true_eq] at edge
    exact edge.2
  rw [FollowAnswer.party, target] at isParty
  rw [isParty, Option.map_some, isSigner] at bob
  exact absurd bob (by decide)

end Sample

end TootTok
