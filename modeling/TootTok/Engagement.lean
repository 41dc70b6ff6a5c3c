import TootTok.Effects.Totals
import TootTok.Listings
import TootTok.Relational.Counting
import TootTok.Sessions

/-!
# Likes, announces and comments

What users do with a clip: rows of their own, and counters of them on the clip. A row and
its counter are written by separate statements, between which other requests may come.
-/

namespace TootTok

open Effects
open Relational (Table SerialTable)
open Relational.Table (KeepsKeys)

variable {Url : Type}

/-! ## Tables -/

/-- A row of `likes` or of `announces`. -/
structure EdgeRow where
  clipId : Nat
  actorId : Nat
deriving DecidableEq

/-- The tables of edges. -/
inductive Edge
  | like
  | announce
deriving DecidableEq

/-- The counters of a clip. -/
inductive Counter
  | likes
  | shares
  | comments
deriving DecidableEq

def Edge.counter : Edge → Counter
  | .like => .likes
  | .announce => .shares

namespace ClipRow

def count : Counter → ClipRow → Int
  | .likes, row => row.likeCount
  | .shares, row => row.shareCount
  | .comments, row => row.commentCount

def adjust (change : Int → Int) : Counter → ClipRow → ClipRow
  | .likes, row => { row with likeCount := change row.likeCount }
  | .shares, row => { row with shareCount := change row.shareCount }
  | .comments, row => { row with commentCount := change row.commentCount }

variable {change : Int → Int} {counter other : Counter} {row : ClipRow}

@[simp] theorem adjust_id : (row.adjust change counter).id = row.id := by
  cases counter <;> rfl

@[simp] theorem adjust_deletedAt : (row.adjust change counter).deletedAt = row.deletedAt := by
  cases counter <;> rfl

@[simp] theorem count_adjust :
    (row.adjust change counter).count other =
      if other = counter then change (row.count other) else row.count other := by
  cases counter <;> cases other <;> rfl

theorem keepsKeys_adjust (change : Int → Int) (counter : Counter) :
    KeepsKeys ClipRow.Clash (ClipRow.adjust change counter) := by
  intro row other
  cases counter <;> exact ⟨fun clash => clash, fun clash => clash⟩

end ClipRow

/-- The database with everything that users do with clips. The column `ap_id` of the
comments stands on its own. -/
structure Engagement extends Social where
  likes : Table (@Eq EdgeRow)
  announces : Table (@Eq EdgeRow)
  commentApIds : Nat → String

namespace Engagement

def edges : Edge → Engagement → Table (@Eq EdgeRow)
  | .like, engagement => engagement.likes
  | .announce, engagement => engagement.announces

def setEdges (rows : Table (@Eq EdgeRow)) : Edge → Engagement → Engagement
  | .like, engagement => { engagement with likes := rows }
  | .announce, engagement => { engagement with announces := rows }

/-- Another comment has the id. -/
def apIdTaken (engagement : Engagement) (id : Nat) (apId : String) : Bool :=
  engagement.comments.rows.any fun row =>
    row.id ≠ id && engagement.commentApIds row.id = apId

/-- The condition of an update of a counter. Comments are counted on deleted clips too. -/
def counted (counter : Counter) (clipId : Nat) (row : ClipRow) : Bool :=
  row.id = clipId && (counter = .comments || row.deletedAt = none)

/-- `UPDATE clips SET … RETURNING …` of a counter. -/
def updateCount (change : Int → Int) (counter : Counter) (clipId : Nat)
    (engagement : Engagement) : Option Int × Engagement :=
  let clips := engagement.clips.update (counted counter clipId) (ClipRow.adjust change counter)
    (fun _ => ClipRow.adjust_id) (ClipRow.keepsKeys_adjust change counter)
  ((clips.find? (counted counter clipId)).map (ClipRow.count counter),
    { engagement with clips := clips })

end Engagement

/-- A comment as it is inserted. -/
def Comment.new (clipId actorId : Nat) (bodyHtml : String) (now : DateTime) (id : Nat) :
    Comment :=
  ⟨id, clipId, actorId, bodyHtml, none, now⟩

def Comment.erase (now : DateTime) (row : Comment) : Comment :=
  { row with deletedAt := some now, bodyHtml := "[deleted]" }

/-! ## Operations -/

inductive SocialOp
  | fetchClip (id : Nat)
  | insertEdge (edge : Edge) (clipId actorId : Nat)
  | deleteEdge (edge : Edge) (clipId actorId : Nat)
  | createComment (clipId actorId : Nat) (apId bodyHtml : String)
  | setCommentApId (id : Nat) (apId : String)
  | fetchComment (id : Nat)
  | deleteComment (id : Nat)
  | increment (counter : Counter) (clipId : Nat)
  | decrement (counter : Counter) (clipId : Nat)
  | notify (actorId : Nat) (kind : NotificationKind) (sourceActorId clipId : Nat)
  | newUuid

namespace SocialOp

/-- What an operation returns when it succeeds. -/
@[reducible] def Result : SocialOp → Type
  | .fetchClip _ => Option ClipRow
  | .insertEdge _ _ _ | .deleteEdge _ _ _ | .deleteComment _ => Bool
  | .createComment _ _ _ _ => Comment
  | .setCommentApId _ _ | .notify _ _ _ _ => Unit
  | .fetchComment _ => Option Comment
  | .increment _ _ | .decrement _ _ => Option Int
  | .newUuid => String

/-- The effect of an operation that does not fail for an outside reason. -/
def perform (env : Env Url) :
    (op : SocialOp) → Engagement → Except Error op.Result × Engagement
  | .fetchClip id, engagement => (.ok (engagement.clipById id), engagement)
  | .insertEdge edge clipId actorId, engagement =>
      match (engagement.edges edge).insert? ⟨clipId, actorId⟩ with
      | some rows => (.ok true, engagement.setEdges rows edge)
      | none => (.ok false, engagement)
  | .deleteEdge edge clipId actorId, engagement =>
      (.ok ((engagement.edges edge).rows.any (· = ⟨clipId, actorId⟩)),
        engagement.setEdges ((engagement.edges edge).erase (· = ⟨clipId, actorId⟩)) edge)
  | .createComment clipId actorId apId bodyHtml, engagement =>
      let id := engagement.comments.next
      if engagement.apIdTaken id apId then
        (.error (.db .uniqueViolation), { engagement with comments := engagement.comments.spend })
      else
        (.ok (Comment.new clipId actorId bodyHtml env.now id),
          { engagement with
            comments := (engagement.comments.insert
              (Comment.new clipId actorId bodyHtml env.now) fun _ => rfl).2
            commentApIds := Function.update engagement.commentApIds id apId })
  | .setCommentApId id apId, engagement =>
      if engagement.apIdTaken id apId then (.error (.db .uniqueViolation), engagement)
      else (.ok (),
        { engagement with commentApIds := Function.update engagement.commentApIds id apId })
  | .fetchComment id, engagement =>
      (.ok (engagement.comments.find? fun row => row.id = id), engagement)
  | .deleteComment id, engagement =>
      let live (row : Comment) : Bool := row.id = id && row.deletedAt.isNone
      (.ok (engagement.comments.rows.any live),
        { engagement with
          comments := engagement.comments.update live (Comment.erase env.now) (fun _ => rfl)
            fun _ _ => ⟨fun clash => clash, fun clash => clash⟩ })
  | .increment counter clipId, engagement =>
      let updated := engagement.updateCount (· + 1) counter clipId
      (.ok updated.1, updated.2)
  | .decrement counter clipId, engagement =>
      let updated := engagement.updateCount (fun count => max (count - 1) 0) counter clipId
      (.ok updated.1, updated.2)
  | .notify actorId kind sourceActorId clipId, engagement =>
      (.ok (),
        { engagement with
          notifications := (engagement.notifications.insert
            (fun id => ⟨id, actorId, kind, sourceActorId, some clipId, none, env.now⟩)
            fun _ => rfl).2 })
  | .newUuid, engagement => (.ok env.uuid, engagement)

/-- The error with which an operation fails for an outside reason. -/
def failure (env : Env Url) : SocialOp → Option Error
  | .newUuid => none
  | _ => env.fault

/-- A failed operation has no effect. -/
def exec : Program.Executor SocialOp.Result Error Engagement (Env Url) :=
  fun env op engagement =>
    match failure env op with
    | some error => (.error error, engagement)
    | none => perform env op engagement

theorem exec_cases (env : Env Url) (op : SocialOp) (engagement : Engagement) :
    (∃ error, failure env op = some error ∧ exec env op engagement = (.error error, engagement)) ∨
      exec env op engagement = perform env op engagement := by
  unfold exec
  cases failure env op with
  | some error => exact .inl ⟨error, rfl, rfl⟩
  | none => exact .inr rfl

end SocialOp

/-! ## Requests -/

inductive SocialAnswer
  | counted (present : Bool) (count : Int)
  | created (id : Nat) (bodyHtml : String)
  | deleted (id : Nat)
deriving DecidableEq

/-- A handler of a request about a clip or a comment. -/
abbrev SocialHandler : Type :=
  Program SocialOp.Result Error (Except Response SocialAnswer)

namespace SocialHandler

/-- Call an operation and go on with its value; a failure is answered as an error of the
database. -/
def query (op : SocialOp) (rest : op.Result → SocialHandler) : SocialHandler :=
  .call op fun
    | .error _ => .done (.error databaseError)
    | .ok value => rest value

def answer (response : Except Response SocialAnswer) : SocialHandler := .done response

def clipNotFound : Response := .problem 404 "clip not found"

def fetchLiveClip (id : Nat) (rest : ClipRow → SocialHandler) : SocialHandler :=
  query (.fetchClip id) fun
    | none => answer (.error clipNotFound)
    | some clip =>
        if clip.deletedAt = none then rest clip else answer (.error clipNotFound)

/-- Tell the author of a clip, unless it is the actor. -/
def notifyAuthor (id : Nat) (clip : ClipRow) (kind : NotificationKind) (auth : AuthUser)
    (done : SocialAnswer) : SocialHandler :=
  if clip.actorId ≠ auth.actor.id then
    query (.notify clip.actorId kind auth.actor.id id) fun _ => answer (.ok done)
  else answer (.ok done)

/-- Put an edge to a clip, and count it. -/
def addEdge (edge : Edge) (kind : NotificationKind) (auth : AuthUser) (id : Nat) :
    SocialHandler :=
  fetchLiveClip id fun clip =>
    query (.insertEdge edge id auth.actor.id) fun inserted =>
      if inserted = false then answer (.ok (.counted true (clip.count edge.counter)))
      else
        query (.increment edge.counter id) fun
          | none => answer (.error clipNotFound)
          | some count => notifyAuthor id clip kind auth (.counted true count)

/-- Take an edge back. -/
def removeEdge (edge : Edge) (auth : AuthUser) (id : Nat) : SocialHandler :=
  fetchLiveClip id fun clip =>
    query (.deleteEdge edge id auth.actor.id) fun removed =>
      if removed = true then
        query (.decrement edge.counter id) fun count =>
          answer (.ok (.counted false (count.getD (clip.count edge.counter))))
      else answer (.ok (.counted false (clip.count edge.counter)))

/-- `like_clip`. -/
def likeClip : AuthUser → Nat → SocialHandler := addEdge .like .like

/-- `unlike_clip`. -/
def unlikeClip : AuthUser → Nat → SocialHandler := removeEdge .like

/-- `announce_clip`. -/
def announceClip : AuthUser → Nat → SocialHandler := addEdge .announce .boost

/-- `unannounce_clip`. -/
def unannounceClip : AuthUser → Nat → SocialHandler := removeEdge .announce

def commentMaxChars : Nat := 1000

/-- The comment after its text is accepted. -/
def storeComment (publicBaseUrl : String) (auth : AuthUser) (id : Nat) (clip : ClipRow)
    (text : String) : SocialHandler :=
  query .newUuid fun uuid =>
    query (.createComment id auth.actor.id ("https://toottok.local/comments/" ++ uuid) text)
      fun comment =>
        query (.setCommentApId comment.id
            (publicBaseUrl ++ "/comments/" ++ toString comment.id)) fun _ =>
          query (.increment .comments id) fun _ =>
            notifyAuthor id clip .comment auth (.created comment.id comment.bodyHtml)

/-- The comment once its text is trimmed. -/
def acceptComment (publicBaseUrl : String) (auth : AuthUser) (id : Nat) (clip : ClipRow)
    (text : String) : SocialHandler :=
  if text = "" then answer (.error (.problem 400 "empty comment"))
  else if commentMaxChars < text.length then answer (.error (.problem 400 "comment too long"))
  else storeComment publicBaseUrl auth id clip text

/-- `create_comment`. Whether a clip accepts comments is a column that no statement of these
requests writes. -/
def createComment (publicBaseUrl : String) (commentsDisabled : ClipRow → Bool)
    (auth : AuthUser) (id : Nat) (body : String) : SocialHandler :=
  fetchLiveClip id fun clip =>
    if commentsDisabled clip then answer (.error (.problem 403 "comments disabled"))
    else acceptComment publicBaseUrl auth id clip (trimmed (Sanitize.stripHtmlTags body))

def commentNotFound : Response := .problem 404 "comment not found"

/-- `delete_comment`. -/
def deleteComment (auth : AuthUser) (id : Nat) : SocialHandler :=
  query (.fetchComment id) fun
    | none => answer (.error commentNotFound)
    | some comment =>
        if comment.deletedAt ≠ none then answer (.error commentNotFound)
        else if comment.actorId ≠ auth.actor.id ∧ auth.user.isAdmin = false then
          answer (.error (.problem 403 "forbidden"))
        else
          query (.deleteComment id) fun removed =>
            if removed = true then
              query (.decrement .comments comment.clipId) fun _ => answer (.ok (.deleted id))
            else answer (.ok (.deleted id))

end SocialHandler

/-- The requests about clips and comments. -/
inductive SocialRequest
  | like (auth : AuthUser) (clipId : Nat)
  | unlike (auth : AuthUser) (clipId : Nat)
  | announce (auth : AuthUser) (clipId : Nat)
  | unannounce (auth : AuthUser) (clipId : Nat)
  | createComment (auth : AuthUser) (clipId : Nat) (body : String)
  | deleteComment (auth : AuthUser) (id : Nat)

/-- The handler of a request. -/
def SocialRequest.handler (publicBaseUrl : String) (commentsDisabled : ClipRow → Bool) :
    SocialRequest → SocialHandler
  | .like auth clipId => .likeClip auth clipId
  | .unlike auth clipId => .unlikeClip auth clipId
  | .announce auth clipId => .announceClip auth clipId
  | .unannounce auth clipId => .unannounceClip auth clipId
  | .createComment auth clipId body =>
      .createComment publicBaseUrl commentsDisabled auth clipId body
  | .deleteComment auth id => .deleteComment auth id

/-! ## Debts -/

/-- What a request owes: nothing, though it has read a comment; the count of a comment that
has no canonical id yet; or the change of a counter that is to follow the change of a row. -/
inductive Debt
  | settled
  | read (id : Nat) (comment : Comment)
  | created (id clipId : Nat)
  | owed (counter : Counter) (clipId : Nat) (delta : Int)

namespace Debt

/-- What is owed to one counter of one clip. -/
def amount (counter : Counter) (clipId : Nat) : Debt → Int
  | .owed other id delta => if other = counter ∧ id = clipId then delta else 0
  | .created _ id => if .comments = counter ∧ id = clipId then 1 else 0
  | _ => 0

/-- The comment at hand, with its clip. -/
def comment? : Debt → Option (Nat × Nat)
  | .read id comment => some (id, comment.clipId)
  | .created id clipId => some (id, clipId)
  | _ => none

def Allowed (debt : Debt) : SocialOp → Prop
  | .insertEdge _ _ _ | .deleteEdge _ _ _ | .createComment _ _ _ _ | .fetchComment _ =>
      debt = .settled
  | .deleteComment id => ∃ comment, debt = .read id comment
  | .setCommentApId id _ => ∃ clipId, debt = .created id clipId
  | .increment counter clipId => debt = .owed counter clipId 1
  | .decrement counter clipId => debt = .owed counter clipId (-1)
  | _ => True

/-- A request that has to give up owes nothing any more. -/
def after (debt : Debt) : (op : SocialOp) → Except Error op.Result → Debt
  | .insertEdge edge clipId _, .ok true => .owed edge.counter clipId 1
  | .deleteEdge edge clipId _, .ok true => .owed edge.counter clipId (-1)
  | .createComment clipId _ _ _, .ok comment => .created comment.id clipId
  | .setCommentApId _ _, .error _ => .settled
  | .setCommentApId _ _, .ok _ =>
      match debt with
      | .created _ clipId => .owed .comments clipId 1
      | other => other
  | .fetchComment id, .ok (some comment) => .read id comment
  | .deleteComment _, .ok true =>
      match debt with
      | .read _ comment => .owed .comments comment.clipId (-1)
      | other => other
  | .increment _ _, _ | .decrement _ _, _ => .settled
  | _, _ => debt

end Debt

/-- A request may change a row when it owes nothing, and then changes the counter. -/
def debtProtocol : Protocol SocialOp.Result Error Debt where
  initial := .settled
  Allowed := Debt.Allowed
  after := Debt.after

/-- Nothing is owed to any counter. -/
def Debt.Paid (debt : Debt) : Prop :=
  ∀ counter clipId, debt.amount counter clipId = 0

namespace SocialHandler

/-- Every run of the handler ends without a debt. -/
abbrev Pays (handler : SocialHandler) (debt : Debt) : Prop :=
  handler.Follows debtProtocol (fun _ final => final.Paid) debt

theorem pays_answer {debt : Debt} (paid : debt.Paid) (response : Except Response SocialAnswer) :
    (answer response).Pays debt := paid

theorem paid_settled : Debt.Paid .settled := fun _ _ => rfl

theorem paid_read (id : Nat) (comment : Comment) : Debt.Paid (.read id comment) :=
  fun _ _ => rfl

theorem pays_notifyAuthor (id : Nat) (clip : ClipRow) (kind : NotificationKind)
    (auth : AuthUser) (done : SocialAnswer) :
    (notifyAuthor id clip kind auth done).Pays .settled := by
  unfold notifyAuthor
  split
  · refine ⟨trivial, fun outcome => ?_⟩
    cases outcome <;> exact paid_settled
  · exact paid_settled

theorem pays_fetchLiveClip {id : Nat} {rest : ClipRow → SocialHandler}
    (pays : ∀ clip, (rest clip).Pays .settled) : (fetchLiveClip id rest).Pays .settled := by
  refine ⟨trivial, fun outcome => ?_⟩
  cases outcome with
  | error error => exact paid_settled
  | ok found =>
      cases found with
      | none => exact paid_settled
      | some clip =>
          show (if clip.deletedAt = none then rest clip else answer (.error clipNotFound)).Pays _
          split
          · exact pays clip
          · exact paid_settled

theorem pays_addEdge (edge : Edge) (kind : NotificationKind) (auth : AuthUser) (id : Nat) :
    (addEdge edge kind auth id).Pays .settled := by
  refine pays_fetchLiveClip fun clip => ⟨rfl, fun outcome => ?_⟩
  rcases outcome with error | inserted
  · exact paid_settled
  cases inserted with
  | false => exact paid_settled
  | true =>
      refine ⟨rfl, fun outcome => ?_⟩
      rcases outcome with error | _ | count
      · exact paid_settled
      · exact paid_settled
      · exact pays_notifyAuthor id clip kind auth _

theorem pays_removeEdge (edge : Edge) (auth : AuthUser) (id : Nat) :
    (removeEdge edge auth id).Pays .settled := by
  refine pays_fetchLiveClip fun clip => ⟨rfl, fun outcome => ?_⟩
  rcases outcome with error | removed
  · exact paid_settled
  cases removed with
  | false => exact paid_settled
  | true =>
      refine ⟨rfl, fun outcome => ?_⟩
      cases outcome <;> exact paid_settled

theorem pays_storeComment (publicBaseUrl : String) (auth : AuthUser) (id : Nat)
    (clip : ClipRow) (text : String) :
    (storeComment publicBaseUrl auth id clip text).Pays .settled := by
  refine ⟨trivial, fun drawn => ?_⟩
  rcases drawn with error | uuid
  · exact paid_settled
  refine ⟨rfl, fun created => ?_⟩
  rcases created with error | comment
  · exact paid_settled
  refine ⟨⟨id, rfl⟩, fun renamed => ?_⟩
  rcases renamed with error | _
  · exact paid_settled
  refine ⟨rfl, fun counted => ?_⟩
  rcases counted with error | count
  · exact paid_settled
  · exact pays_notifyAuthor id clip .comment auth _

theorem pays_acceptComment (publicBaseUrl : String) (auth : AuthUser) (id : Nat)
    (clip : ClipRow) (text : String) :
    (acceptComment publicBaseUrl auth id clip text).Pays .settled := by
  unfold acceptComment
  split
  · exact paid_settled
  split
  · exact paid_settled
  · exact pays_storeComment publicBaseUrl auth id clip text

theorem pays_createComment (publicBaseUrl : String) (commentsDisabled : ClipRow → Bool)
    (auth : AuthUser) (id : Nat) (body : String) :
    (createComment publicBaseUrl commentsDisabled auth id body).Pays .settled := by
  unfold createComment
  generalize trimmed (Sanitize.stripHtmlTags body) = text
  refine pays_fetchLiveClip fun clip => ?_
  split
  · exact paid_settled
  · exact pays_acceptComment publicBaseUrl auth id clip text

theorem pays_deleteComment (auth : AuthUser) (id : Nat) :
    (deleteComment auth id).Pays .settled := by
  refine ⟨rfl, fun fetched => ?_⟩
  rcases fetched with error | _ | comment
  · exact paid_settled
  · exact paid_settled
  have read := paid_read id comment
  show (if comment.deletedAt ≠ none then answer (.error commentNotFound)
    else if comment.actorId ≠ auth.actor.id ∧ auth.user.isAdmin = false then
      answer (.error (.problem 403 "forbidden"))
    else _).Pays (.read id comment)
  split
  · exact read
  split
  · exact read
  refine ⟨⟨comment, rfl⟩, fun deleted => ?_⟩
  rcases deleted with error | removed
  · exact read
  cases removed with
  | false => exact read
  | true =>
      refine ⟨rfl, fun counted => ?_⟩
      cases counted <;> exact paid_settled

theorem pays_handler (publicBaseUrl : String) (commentsDisabled : ClipRow → Bool)
    (request : SocialRequest) :
    (request.handler publicBaseUrl commentsDisabled).Pays .settled := by
  cases request with
  | like auth clipId => exact pays_addEdge .like .like auth clipId
  | unlike auth clipId => exact pays_removeEdge .like auth clipId
  | announce auth clipId => exact pays_addEdge .announce .boost auth clipId
  | unannounce auth clipId => exact pays_removeEdge .announce auth clipId
  | createComment auth clipId body =>
      exact pays_createComment publicBaseUrl commentsDisabled auth clipId body
  | deleteComment auth id => exact pays_deleteComment auth id

end SocialHandler

/-! ## Rows and counters -/

namespace Engagement

def edgeCount (clipId : Nat) (rows : List EdgeRow) : Nat :=
  rows.countP fun row => row.clipId = clipId

def isCommentOf (clipId : Nat) (row : Comment) : Bool :=
  row.clipId = clipId && row.deletedAt.isNone

/-- The number of the rows that a counter stands for. -/
def rowCount (clipId : Nat) (engagement : Engagement) : Counter → Nat
  | .likes => edgeCount clipId engagement.likes.rows
  | .shares => edgeCount clipId engagement.announces.rows
  | .comments => engagement.comments.rows.countP (isCommentOf clipId)

def counterOf (clipId : Nat) (engagement : Engagement) (counter : Counter) : Int :=
  ((engagement.clipById clipId).map (ClipRow.count counter)).getD 0

def Live (clipId : Nat) (engagement : Engagement) : Prop :=
  ∃ row, engagement.clipById clipId = some row ∧ row.deletedAt = none

/-- By how much the rows are ahead of their counter. -/
def gap (clipId : Nat) (engagement : Engagement) (counter : Counter) : Int :=
  engagement.rowCount clipId counter - engagement.counterOf clipId counter

variable {clipId : Nat} {engagement : Engagement}

theorem gap_setEdges (rows : Table (@Eq EdgeRow)) (edge : Edge) (counter : Counter) :
    (engagement.setEdges rows edge).gap clipId counter =
      engagement.gap clipId counter +
        if edge.counter = counter then
          (edgeCount clipId rows.rows : Int) - edgeCount clipId (engagement.edges edge).rows
        else 0 := by
  unfold gap rowCount counterOf setEdges edges Edge.counter
  cases edge <;> cases counter <;> simp

theorem edgeCount_insert {table after : Table (@Eq EdgeRow)} {row : EdgeRow}
    (inserted : table.insert? row = some after) :
    edgeCount clipId after.rows =
      edgeCount clipId table.rows + if row.clipId = clipId then 1 else 0 := by
  unfold edgeCount
  rw [Table.insert?_eq_some inserted, List.countP_append]
  simp [List.countP_cons]

theorem edgeCount_erase (table : Table (@Eq EdgeRow)) (row : EdgeRow) :
    edgeCount clipId (table.erase (· = row)).rows +
        (if table.rows.any (· = row) ∧ row.clipId = clipId then 1 else 0) =
      edgeCount clipId table.rows := by
  have split := Relational.countP_filter_add (fun other : EdgeRow => decide (other.clipId = clipId))
    (fun other => decide (other = row)) table.rows
  have alone : table.rows.countP
      (fun other => decide (other.clipId = clipId) && decide (other = row)) =
      if table.rows.any (· = row) ∧ row.clipId = clipId then 1 else 0 := by
    by_cases stored : row ∈ table.rows
    · rw [Relational.countP_of_unique (Table.nodup fun _ => rfl) stored]
      · simp [stored]
      · intro other _ holds
        exact of_decide_eq_true (Bool.and_eq_true_iff.mp holds).2
    · have absent : table.rows.any (· = row) = false := by
        rw [List.any_eq_false]
        intro other member same
        exact stored (of_decide_eq_true same ▸ member)
      rw [absent, List.countP_eq_zero.mpr]
      · simp
      · intro other member holds
        exact stored (of_decide_eq_true (Bool.and_eq_true_iff.mp holds).2 ▸ member)
  unfold edgeCount Table.erase
  rw [← split, alone]

theorem clipById_updateCount (change : Int → Int) (counter : Counter) (id : Nat) :
    (engagement.updateCount change counter id).2.clipById clipId =
      (engagement.clipById clipId).map
        (Table.changeWhere (counted counter id) (ClipRow.adjust change counter)) :=
  Table.find?_update engagement.clips.toTable (counted counter id)
    (ClipRow.adjust change counter)
    (SerialTable.keepsKeys_or_number (fun _ => ClipRow.adjust_id)
      (ClipRow.keepsKeys_adjust change counter)) _ fun row => by rw [ClipRow.adjust_id]

theorem counterOf_updateCount (change : Int → Int) (counter other : Counter) (id : Nat)
    (live : engagement.Live clipId) :
    (engagement.updateCount change counter id).2.counterOf clipId other =
      if other = counter ∧ id = clipId then change (engagement.counterOf clipId other)
      else engagement.counterOf clipId other := by
  obtain ⟨row, found, live⟩ := live
  have sought : engagement.clips.toTable.find? (fun row => row.id = clipId) = some row := found
  have holds := Table.holds_of_find?_eq_some sought
  have named : row.id = clipId := of_decide_eq_true holds
  unfold counterOf
  rw [clipById_updateCount, found]
  simp only [Option.map_some, Option.getD_some, Table.changeWhere, counted, named, live]
  by_cases same : id = clipId
  · subst same
    simp
  · simp [same, Ne.symm same]

theorem gap_updateCount (change : Int → Int) (counter other : Counter) (id : Nat)
    (live : engagement.Live clipId) :
    (engagement.updateCount change counter id).2.gap clipId other =
      engagement.gap clipId other -
        if other = counter ∧ id = clipId then
          change (engagement.counterOf clipId other) - engagement.counterOf clipId other
        else 0 := by
  have sameRows : (engagement.updateCount change counter id).2.rowCount clipId other =
      engagement.rowCount clipId other := by
    cases other <;> rfl
  unfold gap
  rw [sameRows, counterOf_updateCount change counter other id live]
  split <;> omega

theorem commentCount_insert (comments : SerialTable Comment.id fun _ _ => False)
    (clip actor : Nat) (bodyHtml : String) (now : DateTime) :
    (comments.insert (Comment.new clip actor bodyHtml now) fun _ => rfl).2.rows.countP
        (isCommentOf clipId) =
      comments.rows.countP (isCommentOf clipId) + if clip = clipId then 1 else 0 := by
  have appended := (@SerialTable.insert_of_free _ _ _ _ comments
    (Comment.new clip actor bodyHtml now) (fun _ => rfl) fun _ _ clash => clash).2
  rw [appended, List.countP_append]
  simp [List.countP_cons, isCommentOf, Comment.new]

theorem commentCount_erase (comments : SerialTable Comment.id fun _ _ => False) {id : Nat}
    {row : Comment} (stored : row ∈ comments) (named : row.id = id) (now : DateTime)
    (keeps : KeepsKeys (fun _ _ => False) (Comment.erase now)) :
    (comments.update (fun row => row.id = id && row.deletedAt.isNone) (Comment.erase now)
          (fun _ => rfl) keeps).rows.countP (isCommentOf clipId) +
        (if row.deletedAt = none ∧ row.clipId = clipId then 1 else 0) =
      comments.rows.countP (isCommentOf clipId) := by
  have split := @Relational.countP_changeWhere_add _ (isCommentOf clipId)
    (fun row => row.id = id && row.deletedAt.isNone) (Comment.erase now)
    (fun row _ => by simp [isCommentOf, Comment.erase]) comments.rows
  have alone := @Relational.countP_of_unique _ _ SerialTable.nodup
    (fun row => isCommentOf clipId row && (row.id = id && row.deletedAt.isNone)) row stored ?_
  · rw [← split, alone]
    congr 1
    cases deleted : row.deletedAt <;> simp [isCommentOf, named, deleted]
  · intro other member holds
    have sameId : other.id = id := by
      simp only [Bool.and_eq_true, decide_eq_true_iff] at holds
      exact holds.2.1
    exact SerialTable.eq_of_number_eq member stored (sameId.trans named.symm)

theorem gap_setComments (table : SerialTable Comment.id fun _ _ => False)
    (apIds : Nat → String) (counter : Counter) :
    ({ engagement with comments := table, commentApIds := apIds } : Engagement).gap clipId
        counter =
      engagement.gap clipId counter +
        if counter = .comments then
          (table.rows.countP (isCommentOf clipId) : Int) -
            engagement.comments.rows.countP (isCommentOf clipId)
        else 0 := by
  unfold gap rowCount counterOf
  cases counter <;> simp

end Engagement

/-! ## What a call changes -/

namespace SocialOp

/-- No update of a counter of the clip fails or takes from a counter at zero, and neither
fails the update that gives a comment on the clip its canonical id. -/
def Fits (clipId : Nat) (engagement : Engagement) (env : Env Url) : SocialOp → Prop
  | .setCommentApId id apId =>
      (∃ row ∈ engagement.comments.rows, row.id = id ∧ row.clipId = clipId) →
        env.fault = none ∧ engagement.apIdTaken id apId = false
  | .increment _ id => id = clipId → env.fault = none
  | .decrement counter id =>
      id = clipId → env.fault = none ∧ 0 < engagement.counterOf clipId counter
  | _ => True

instance (clipId : Nat) (engagement : Engagement) (env : Env Url) :
    DecidablePred (Fits clipId engagement env) := fun op => by
  cases op <;> unfold Fits <;> infer_instance

section Step

variable {clipId : Nat} {engagement : Engagement} {env : Env Url} {debt : Debt} {op : SocialOp}

theorem amount_of_error {error : Error} (allowed : debt.Allowed op)
    (fits : op.Fits clipId engagement env)
    (known : ∀ id clip, debt.comment? = some (id, clip) →
      ∃ row ∈ engagement.comments, row.id = id ∧ row.clipId = clip)
    (failing : failure env op = some error) (counter : Counter) :
    (debt.after op (.error error)).amount counter clipId = debt.amount counter clipId := by
  have faulty (fault : env.fault = none) (fails : env.fault = some error) : False := by
    rw [fault] at fails
    cases fails
  cases op with
  | setCommentApId id apId =>
      obtain ⟨clip, rfl⟩ := allowed
      by_cases same : clip = clipId
      · exact (faulty (fits (same ▸ known id clip rfl)).1 failing).elim
      · simp [Debt.after, Debt.amount, same]
  | increment other id =>
      cases allowed
      by_cases same : id = clipId
      · exact (faulty (fits same) failing).elim
      · simp [Debt.after, Debt.amount, same]
  | decrement other id =>
      cases allowed
      by_cases same : id = clipId
      · exact (faulty (fits same).1 failing).elim
      · simp [Debt.after, Debt.amount, same]
  | _ => rfl

/-- What is owed after a deletion of a comment that the request has read. -/
theorem gap_deleteComment {id : Nat} {comment : Comment}
    (stored : ∃ row ∈ engagement.comments, row.id = id ∧ row.clipId = comment.clipId)
    (counter : Counter) :
    (perform env (.deleteComment id) engagement).2.gap clipId counter =
      engagement.gap clipId counter +
        (Debt.after (.read id comment) (.deleteComment id)
          (perform env (.deleteComment id) engagement).1).amount counter clipId := by
  obtain ⟨row, stored, named, sameClip⟩ := stored
  have erased := @Engagement.commentCount_erase clipId engagement.comments id row stored named
    env.now fun _ _ => ⟨fun clash => clash, fun clash => clash⟩
  have isLive : engagement.comments.rows.any (fun row => row.id = id && row.deletedAt.isNone) =
      row.deletedAt.isNone := by
    rw [Bool.eq_iff_iff, List.any_eq_true]
    constructor
    · rintro ⟨other, member, holds⟩
      simp only [Bool.and_eq_true, decide_eq_true_iff] at holds
      rw [← SerialTable.eq_of_number_eq member stored (holds.1.trans named.symm)]
      exact holds.2
    · intro isNone
      exact ⟨row, stored, by simp [named, isNone]⟩
  refine (Engagement.gap_setComments _ engagement.commentApIds counter).trans ?_
  simp only [perform, isLive]
  by_cases deleted : row.deletedAt = none <;> by_cases here : comment.clipId = clipId <;>
    cases counter <;>
    simp [-SerialTable.update_rows, deleted, sameClip, here, Debt.after, Debt.amount]
      at erased ⊢ <;>
    omega

/-- Every call changes the gap of a counter as it changes what the request owes. -/
theorem gap_exec (allowed : debt.Allowed op) (fits : op.Fits clipId engagement env)
    (live : engagement.Live clipId)
    (known : ∀ id clip, debt.comment? = some (id, clip) →
      ∃ row ∈ engagement.comments, row.id = id ∧ row.clipId = clip)
    (counter : Counter) :
    (exec env op engagement).2.gap clipId counter =
      engagement.gap clipId counter - debt.amount counter clipId +
        (debt.after op (exec env op engagement).1).amount counter clipId := by
  rcases exec_cases env op engagement with ⟨error, failing, failed⟩ | performed
  · rw [failed, amount_of_error allowed fits known failing counter]
    exact (sub_add_cancel _ _).symm
  rw [performed]
  cases op with
  | fetchClip id => exact (sub_add_cancel _ _).symm
  | newUuid => exact (sub_add_cancel _ _).symm
  | notify actorId kind sourceActorId clip => exact (sub_add_cancel _ _).symm
  | setCommentApId id apId =>
      obtain ⟨clip, rfl⟩ := allowed
      simp only [perform]
      cases taken : engagement.apIdTaken id apId with
      | true =>
          by_cases same : clip = clipId
          · have free := (fits (same ▸ known id clip rfl)).2
            rw [taken] at free
            cases free
          · simp [Debt.after, Debt.amount, same]
      | false => exact (sub_add_cancel _ _).symm
  | fetchComment id =>
      cases allowed
      simp only [perform, Debt.after]
      cases engagement.comments.find? fun row => row.id = id <;> exact (sub_add_cancel _ _).symm
  | insertEdge edge clip actor =>
      cases allowed
      simp only [perform]
      cases inserted : (engagement.edges edge).insert? ⟨clip, actor⟩ with
      | none => exact (sub_add_cancel _ _).symm
      | some rows =>
          simp only [Engagement.gap_setEdges, Engagement.edgeCount_insert inserted, Debt.after,
            Debt.amount]
          by_cases same : edge.counter = counter <;> by_cases here : clip = clipId <;>
            simp [same, here]
  | deleteEdge edge clip actor =>
      cases allowed
      have erased := @Engagement.edgeCount_erase clipId (engagement.edges edge) ⟨clip, actor⟩
      simp only [perform, Engagement.gap_setEdges]
      cases removed : (engagement.edges edge).rows.any (· = ⟨clip, actor⟩) with
      | false =>
          rw [removed] at erased
          simp at erased
          simp [Debt.after, Debt.amount, erased]
      | true =>
          rw [removed] at erased
          by_cases same : edge.counter = counter <;> by_cases here : clip = clipId <;>
            simp [Debt.after, Debt.amount, same, here] at erased ⊢ <;> omega
  | createComment clip actor apId bodyHtml =>
      cases allowed
      simp only [perform]
      split
      · exact (Engagement.gap_setComments engagement.comments.spend engagement.commentApIds
          counter).trans (by simp [Debt.after, Debt.amount])
      · refine (Engagement.gap_setComments _ _ counter).trans ?_
        rw [Engagement.commentCount_insert]
        cases counter <;> by_cases here : clip = clipId <;> simp [Debt.after, Debt.amount, here]
  | deleteComment id =>
      obtain ⟨comment, rfl⟩ := allowed
      have none : (Debt.read id comment).amount counter clipId = 0 := rfl
      rw [gap_deleteComment (known id comment.clipId rfl) counter, none, sub_zero]
  | increment other id =>
      cases allowed
      simp only [perform, Engagement.gap_updateCount _ _ _ _ live, Debt.after, Debt.amount]
      by_cases same : counter = other
      · subst same
        by_cases here : id = clipId
        · simp [here]
        · simp [here]
      · simp [same, Ne.symm same]
  | decrement other id =>
      cases allowed
      simp only [perform, Engagement.gap_updateCount _ _ _ _ live, Debt.after, Debt.amount]
      by_cases same : counter = other
      · subst same
        by_cases here : id = clipId
        · have positive := (fits here).2
          simp [here]
          omega
        · simp [here]
      · simp [same, Ne.symm same]

theorem live_updateCount (change : Int → Int) (counter : Counter) (id : Nat)
    (live : engagement.Live clipId) :
    (engagement.updateCount change counter id).2.Live clipId := by
  obtain ⟨row, found, live⟩ := live
  refine ⟨_, (Engagement.clipById_updateCount change counter id).trans (congrArg _ found), ?_⟩
  unfold Table.changeWhere
  split
  · rw [ClipRow.adjust_deletedAt, live]
  · exact live

/-- No request of these deletes a clip. -/
theorem live_exec (live : engagement.Live clipId) :
    (exec env op engagement).2.Live clipId := by
  rcases exec_cases env op engagement with ⟨error, -, failed⟩ | performed
  · rw [failed]
    exact live
  rw [performed]
  cases op with
  | increment counter id => exact live_updateCount _ counter id live
  | decrement counter id => exact live_updateCount _ counter id live
  | insertEdge edge clip actor =>
      simp only [perform]
      split
      · cases edge <;> exact live
      · exact live
  | deleteEdge edge clip actor => cases edge <;> exact live
  | createComment clip actor apId bodyHtml =>
      simp only [perform]
      split <;> exact live
  | setCommentApId id apId =>
      simp only [perform]
      split <;> exact live
  | _ => exact live

/-- A comment stays, with its clip. -/
theorem comments_exec {row : Comment} (stored : row ∈ engagement.comments) :
    ∃ new ∈ (exec env op engagement).2.comments, new.id = row.id ∧ new.clipId = row.clipId := by
  have same : ∃ new ∈ engagement.comments, new.id = row.id ∧ new.clipId = row.clipId :=
    ⟨row, stored, rfl, rfl⟩
  rcases exec_cases env op engagement with ⟨error, -, failed⟩ | performed
  · rw [failed]
    exact same
  rw [performed]
  cases op with
  | insertEdge edge clip actor =>
      simp only [perform]
      split
      · cases edge <;> exact same
      · exact same
  | deleteEdge edge clip actor => cases edge <;> exact same
  | createComment clip actor apId bodyHtml =>
      simp only [perform]
      split
      · exact same
      · exact ⟨row, SerialTable.mem_insert_of_mem _ _ stored, rfl, rfl⟩
  | setCommentApId id apId =>
      simp only [perform]
      split <;> exact same
  | deleteComment id =>
      refine ⟨_, List.mem_map_of_mem stored, ?_⟩
      unfold Table.changeWhere
      split <;> exact ⟨rfl, rfl⟩
  | _ => exact same

/-- The comment at hand is stored, with its clip. -/
theorem known_exec
    (known : ∀ id clip, debt.comment? = some (id, clip) →
      ∃ row ∈ engagement.comments, row.id = id ∧ row.clipId = clip)
    (id clip : Nat)
    (atHand : (debt.after op (exec env op engagement).1).comment? = some (id, clip)) :
    ∃ row ∈ (exec env op engagement).2.comments, row.id = id ∧ row.clipId = clip := by
  have kept (before : debt.comment? = some (id, clip)) :
      ∃ row ∈ (exec env op engagement).2.comments, row.id = id ∧ row.clipId = clip := by
    obtain ⟨row, stored, named, sameClip⟩ := known id clip before
    obtain ⟨new, newStored, sameId, same⟩ := @comments_exec _ engagement env op row stored
    exact ⟨new, newStored, sameId.trans named, same.trans sameClip⟩
  rcases exec_cases env op engagement with ⟨error, -, failed⟩ | performed
  · rw [failed] at atHand
    cases op <;> first | exact kept atHand | cases atHand
  rw [performed] at atHand
  cases op with
  | fetchComment sought =>
      simp only [perform] at atHand
      cases found : engagement.comments.find? fun row => row.id = sought with
      | none =>
          rw [found] at atHand
          exact kept atHand
      | some row =>
          rw [found] at atHand
          cases atHand
          rw [performed]
          have holds := Table.holds_of_find?_eq_some found
          exact ⟨row, Table.mem_of_find?_eq_some found, of_decide_eq_true holds, rfl⟩
  | insertEdge edge clip actor =>
      simp only [perform] at atHand
      split at atHand
      · cases atHand
      · exact kept atHand
  | deleteEdge edge clip actor =>
      simp only [perform] at atHand
      cases removed : (engagement.edges edge).rows.any (· = ⟨clip, actor⟩) with
      | false =>
          rw [removed] at atHand
          exact kept atHand
      | true =>
          rw [removed] at atHand
          cases atHand
  | createComment clip actor apId bodyHtml =>
      rw [performed]
      simp only [perform] at atHand ⊢
      split at atHand
      next taken =>
        rw [if_pos taken]
        exact known id _ atHand
      next free =>
        rw [if_neg free]
        cases atHand
        have appended := (@SerialTable.insert_of_free _ _ _ _ engagement.comments
          (Comment.new clip actor bodyHtml env.now) (fun _ => rfl) fun _ _ clash => clash).2
        refine ⟨Comment.new clip actor bodyHtml env.now engagement.comments.next, ?_, rfl, rfl⟩
        show _ ∈ (engagement.comments.insert
          (Comment.new clip actor bodyHtml env.now) fun _ => rfl).2.rows
        rw [appended]
        exact List.mem_append_right _ List.mem_cons_self
  | setCommentApId other apId =>
      simp only [perform] at atHand
      split at atHand
      · cases atHand
      · cases debt <;> first | exact kept atHand | cases atHand
  | deleteComment deleted =>
      simp only [perform] at atHand
      cases removed : engagement.comments.rows.any
          (fun row => row.id = deleted && row.deletedAt.isNone) with
      | false =>
          rw [removed] at atHand
          exact kept atHand
      | true =>
          rw [removed] at atHand
          cases debt <;> first | exact kept atHand | cases atHand
  | increment => cases atHand
  | decrement => cases atHand
  | _ => exact kept atHand

end Step

end SocialOp

/-! ## Runs -/

section Run

variable {ι : Type} [DecidableEq ι]

/-- What the requests do, in the order in which they do it. -/
abbrev SocialEvent (ι Url : Type) : Type :=
  Effects.Event ι SocialOp.Result Error (Env Url)

/-- Every request in a thread of its own. -/
def Engagement.requesting (publicBaseUrl : String) (commentsDisabled : ClipRow → Bool)
    (requests : ι → SocialRequest) (engagement : Engagement) :
    Effects.Config ι SocialOp.Result Error (Except Response SocialAnswer) Engagement :=
  ⟨engagement, fun thread => (requests thread).handler publicBaseUrl commentsDisabled⟩

/-- What a request owes after some events. -/
def debtOf (events : List (SocialEvent ι Url)) (thread : ι) : Debt :=
  memories (fun _ => debtProtocol) events thread

/-- The request has not made a call yet, or has made its last one. -/
def Resting (events : List (SocialEvent ι Url))
    (config :
      Effects.Config ι SocialOp.Result Error (Except Response SocialAnswer) Engagement)
    (thread : ι) : Prop :=
  (∀ call, .called call ∈ events → call.thread ≠ thread) ∨ (config.threads thread).Finished

/-- The gap of every counter is what the requests in progress owe to it. -/
structure Balanced (clipId : Nat) (events : List (SocialEvent ι Url))
    (engagement : Engagement) : Prop where
  live : engagement.Live clipId
  known : ∀ thread id clip, (debtOf events thread).comment? = some (id, clip) →
    ∃ row ∈ engagement.comments, row.id = id ∧ row.clipId = clip
  total : ∀ counter,
    Total (fun thread => (debtOf events thread).amount counter clipId)
      (engagement.gap clipId counter)

namespace Balanced

variable {clipId : Nat} {events : List (SocialEvent ι Url)} {engagement : Engagement}

theorem start (live : engagement.Live clipId)
    (equal : ∀ counter, engagement.counterOf clipId counter = engagement.rowCount clipId counter) :
    Balanced clipId ([] : List (SocialEvent ι Url)) engagement where
  live := live
  known := by
    rintro thread id clip ⟨⟩
  total counter := by
    have none : engagement.gap clipId counter = 0 := by
      unfold Engagement.gap
      rw [equal counter, sub_self]
    rw [none]
    exact Total.zero fun _ => rfl

/-- The step lemma: one more call of a request. -/
theorem called (balanced : Balanced clipId events engagement) {thread : ι} {op : SocialOp}
    {env : Env Url} (allowed : (debtOf events thread).Allowed op)
    (fits : op.Fits clipId engagement env) :
    Balanced clipId
      (events ++ [.called ⟨thread, op, env, (SocialOp.exec env op engagement).1⟩])
      (SocialOp.exec env op engagement).2 := by
  have after : debtOf
      (events ++ [.called ⟨thread, op, env, (SocialOp.exec env op engagement).1⟩]) =
      Function.update (debtOf events) thread
        ((debtOf events thread).after op (SocialOp.exec env op engagement).1) :=
    memories_called _ events _
  refine ⟨SocialOp.live_exec balanced.live, ?_, fun counter => ?_⟩
  · intro other id clip atHand
    rw [after] at atHand
    by_cases same : other = thread
    · subst same
      rw [Function.update_self] at atHand
      exact SocialOp.known_exec (balanced.known other) id clip atHand
    · rw [Function.update_of_ne same] at atHand
      obtain ⟨row, stored, named, sameClip⟩ := balanced.known other id clip atHand
      obtain ⟨new, newStored, sameId, kept⟩ := SocialOp.comments_exec stored
      exact ⟨new, newStored, sameId.trans named, kept.trans sameClip⟩
  · have changed := SocialOp.gap_exec allowed fits balanced.live (balanced.known thread) counter
    have total := (balanced.total counter).update thread
      (((debtOf events thread).after op (SocialOp.exec env op engagement).1).amount counter clipId)
    have weights : (fun other => (debtOf
        (events ++ [.called ⟨thread, op, env, (SocialOp.exec env op engagement).1⟩])
          other).amount counter clipId) =
        Function.update (fun other => (debtOf events other).amount counter clipId) thread
          (((debtOf events thread).after op
            (SocialOp.exec env op engagement).1).amount counter clipId) := by
      rw [after]
      exact Function.comp_update (fun debt : Debt => debt.amount counter clipId) _ thread _
    rw [changed, weights]
    exact total

end Balanced

section Served

variable {clipId : Nat} {publicBaseUrl : String} {commentsDisabled : ClipRow → Bool}
  {requests : ι → SocialRequest} {start : Engagement}
  {admits : List (SocialEvent ι Url) → Engagement → ι → SocialOp → Env Url → Prop}
  {events : List (SocialEvent ι Url)}
  {final : Effects.Config ι SocialOp.Result Error (Except Response SocialAnswer) Engagement}

omit [DecidableEq ι] in
theorem requesting_follows (thread : ι) :
    ((start.requesting publicBaseUrl commentsDisabled requests).threads thread).Follows
      debtProtocol (fun _ debt => debt.Paid) debtProtocol.initial :=
  SocialHandler.pays_handler publicBaseUrl commentsDisabled (requests thread)

/-- The run lemma. -/
theorem Balanced.run
    (run : Serves SocialOp.exec (fun _ _ => False)
      (fun _ engagement _ op env => op.Fits clipId engagement env)
      (start.requesting publicBaseUrl commentsDisabled requests) events final)
    (balanced : Balanced clipId ([] : List (SocialEvent ι Url)) start) :
    Balanced clipId events final.state := by
  induction run with
  | start => exact balanced
  | began earlier isTask inductionHypothesis => exact isTask.elim
  | called earlier atCall admitted inductionHypothesis =>
      refine inductionHypothesis.called ?_ admitted
      exact earlier.allowed requesting_follows (fun _ _ isTask => isTask.elim) atCall

theorem debtOf_of_silent
    (run : Serves SocialOp.exec (fun _ _ => False) admits
      (start.requesting publicBaseUrl commentsDisabled requests) events final)
    {thread : ι} (silent : ∀ call, .called call ∈ events → call.thread ≠ thread) :
    debtOf events thread = .settled := by
  induction run with
  | start => rfl
  | began earlier isTask inductionHypothesis => exact isTask.elim
  | @called events config caller op env next earlier atCall admitted inductionHypothesis =>
      have apart : caller ≠ thread := silent _ (List.mem_append_right _ List.mem_cons_self)
      refine Eq.trans ?_ (inductionHypothesis fun call member =>
        silent call (List.mem_append_left _ member))
      unfold debtOf
      rw [memories_called]
      exact Function.update_of_ne apart.symm _ _

/-- A request that is not in progress owes nothing. -/
theorem paid_of_resting
    (run : Serves SocialOp.exec (fun _ _ => False) admits
      (start.requesting publicBaseUrl commentsDisabled requests) events final)
    {thread : ι} (resting : Resting events final thread) : (debtOf events thread).Paid := by
  rcases resting with silent | finished
  · rw [debtOf_of_silent run silent]
    exact SocialHandler.paid_settled
  · have follows := run.follows requesting_follows (fun _ _ isTask => isTask.elim) thread
    cases ended : final.threads thread with
    | done value =>
        rw [ended] at follows
        exact follows
    | fail error =>
        rw [ended] at follows
        exact follows
    | call op next =>
        rw [ended] at finished
        exact finished.elim

/-- Whenever no request is in progress, the counters of the clip are the numbers of its
rows, unless a call did not fit. -/
theorem counters_equal_edges
    (run : Serves SocialOp.exec (fun _ _ => False)
      (fun _ engagement _ op env => op.Fits clipId engagement env)
      (start.requesting publicBaseUrl commentsDisabled requests) events final)
    (live : start.Live clipId)
    (equal : ∀ counter, start.counterOf clipId counter = start.rowCount clipId counter)
    (resting : ∀ thread, Resting events final thread) (counter : Counter) :
    final.state.counterOf clipId counter = final.state.rowCount clipId counter := by
  have balanced := Balanced.run run (.start live equal)
  have noGap := (balanced.total counter).eq_zero fun thread =>
    paid_of_resting run (resting thread) counter clipId
  exact (sub_eq_zero.mp noGap).symm

end Served

end Run

/-! ## Samples -/

namespace Sample

/-- A clip, with which nothing has been done. -/
def unseen : Engagement where
  toDb := (serverWith .ready .probe []).toDb
  comments := .empty
  notifications := .empty
  bookmarks := .empty
  hashtags := .empty
  clipHashtags := .empty
  likes := .empty
  announces := .empty
  commentApIds _ := ""

def viewer : AuthUser := ⟨activeUser 1, uploader, openSession⟩

/-- One thread likes the clip, the other one unlikes it. -/
def likeAndUnlike : Bool → SocialRequest
  | true => .like viewer 1
  | false => .unlike viewer 1

abbrev SocialAction : Type :=
  Effects.Action Bool SocialOp.Result Error (Except Response SocialAnswer) (Env NormalUrl)

/-- Statements of the two requests, but for those that do not fit. -/
def takeStatements (check : Bool) (order : List Bool) :
    List (SocialEvent Bool NormalUrl) ×
      Effects.Config Bool SocialOp.Result Error (Except Response SocialAnswer) Engagement :=
  Config.serve SocialOp.exec
    (fun _ engagement _ op env => !check || decide (op.Fits 1 engagement env)) []
    (unseen.requesting "https://a" (fun _ => false) likeAndUnlike)
    (order.map fun thread => .call thread Env.offline)

theorem takeStatements_run {check : Bool}
    {admits : List (SocialEvent Bool NormalUrl) → Engagement → Bool → SocialOp →
      Env NormalUrl → Prop}
    (sound : ∀ events engagement thread op env,
      (!check || decide (op.Fits 1 engagement env)) = true →
        admits events engagement thread op env)
    (order : List Bool) :
    Serves SocialOp.exec (fun _ _ => False) admits
      (unseen.requesting "https://a" (fun _ => false) likeAndUnlike)
      (takeStatements check order).1 (takeStatements check order).2 := by
  refine Config.serve_serves sound _ (fun thread task member => ?_) .start
  obtain ⟨other, -, same⟩ := List.mem_map.mp member
  cases same

/-- The unlike after the like. -/
def unlikedLater := takeStatements true [true, true, true, false, false, false]

/-- The unlike between the two statements of the like. -/
def unlikedAmid := takeStatements false [true, true, false, false, false, true]

theorem unseen_live : unseen.Live 1 := ⟨uploadedClip .ready, rfl, rfl⟩

theorem unseen_equal (counter : Counter) :
    unseen.counterOf 1 counter = unseen.rowCount 1 counter := by
  cases counter <;> rfl

theorem rests_unlikedLater (thread : Bool) : Resting unlikedLater.1 unlikedLater.2 thread := by
  refine .inr ?_
  have liked : unlikedLater.2.threads true = .done (.ok (.counted true 1)) := rfl
  have unliked : unlikedLater.2.threads false = .done (.ok (.counted false 0)) := rfl
  cases thread with
  | true =>
      rw [liked]
      trivial
  | false =>
      rw [unliked]
      trivial

theorem rests_unlikedAmid (thread : Bool) : Resting unlikedAmid.1 unlikedAmid.2 thread := by
  refine .inr ?_
  have liked : unlikedAmid.2.threads true = .done (.ok (.counted true 1)) := rfl
  have unliked : unlikedAmid.2.threads false = .done (.ok (.counted false 0)) := rfl
  cases thread with
  | true =>
      rw [liked]
      trivial
  | false =>
      rw [unliked]
      trivial

/-- A like that is taken back is not counted any more. -/
theorem like_taken_back :
    unlikedLater.2.state.counterOf 1 .likes = unlikedLater.2.state.rowCount 1 .likes :=
  counters_equal_edges
    (@takeStatements_run true (fun _ engagement _ op env => op.Fits 1 engagement env)
      (fun _ _ _ _ _ fits => of_decide_eq_true fits) _)
    unseen_live unseen_equal rests_unlikedLater .likes

/-- A like without a row stays counted for ever. -/
theorem counted_without_edge :
    Serves SocialOp.exec (fun _ _ => False) (fun _ _ _ _ _ => True)
        (unseen.requesting "https://a" (fun _ => false) likeAndUnlike)
        unlikedAmid.1 unlikedAmid.2 ∧
      unseen.Live 1 ∧
      (∀ counter, unseen.counterOf 1 counter = unseen.rowCount 1 counter) ∧
      (∀ thread, Resting unlikedAmid.1 unlikedAmid.2 thread) ∧
      unlikedAmid.2.state.rowCount 1 .likes = 0 ∧
      unlikedAmid.2.state.counterOf 1 .likes = 1 :=
  ⟨takeStatements_run (fun _ _ _ _ _ _ => trivial) _, unseen_live, unseen_equal,
    rests_unlikedAmid, rfl, rfl⟩

end Sample
end TootTok
