import TootTok.Instance
import TootTok.Worker

/-!
# The background of an instance

The threads of a running server: any number of media workers, the delivery
worker, the maintenance task, and the requests that are served meanwhile. Every
thread takes up one task after the other, and may crash in the middle of one.
-/

namespace TootTok

open Effects

variable {Url : Type}

inductive Thread
  | media (index : Nat)
  | delivery
  | maintenance
  | request (index : Nat)
deriving DecidableEq

/-- The name under which a worker locks its jobs. -/
def Thread.lockName : Thread → Option String
  | .media index => some ("worker-" ++ toString index)
  | .delivery => some "delivery"
  | _ => none

/-- No two threads lock jobs under one name. -/
theorem Thread.lockName_injective {left right : Thread} {name : String}
    (ofLeft : left.lockName = some name) (ofRight : right.lockName = some name) :
    left = right := by
  have media (index : Nat) : "worker-" ++ toString index ≠ "delivery" := by
    intro same
    have first := congrArg (fun text => text.toList.head?) same
    simp at first
  cases left with
  | media leftIndex =>
      cases right with
      | media rightIndex =>
          have same := Option.some.inj (ofLeft.trans ofRight.symm)
          have texts := congrArg String.toList same
          simp only [String.toList_append, List.append_cancel_left_eq] at texts
          exact congrArg Thread.media (toString_injective (String.toList_injective texts))
      | delivery => exact (media leftIndex (Option.some.inj (ofLeft.trans ofRight.symm))).elim
      | maintenance => cases ofRight
      | request _ => cases ofRight
  | delivery =>
      cases right with
      | media rightIndex =>
          exact (media rightIndex (Option.some.inj (ofRight.trans ofLeft.symm))).elim
      | delivery => rfl
      | maintenance => cases ofRight
      | request _ => cases ofRight
  | maintenance => cases ofLeft
  | request _ => cases ofLeft

/-- The event is no job of the workers and no account deletion. -/
def Event.isRequest : Event Url → Bool
  | .backfill _ _ | .announceClip _ | .deleteAccount _ => false
  | _ => true

namespace Background

variable [UrlCrate Url] [ChronoCrate]

/-- The tasks that a thread takes up. -/
def Tasks (workers : WorkerConfig) (requests : Routine Url Unit → Prop) :
    Thread → Routine Url Unit → Prop
  | .media index, task => task = workerTurn workers ("worker-" ++ toString index)
  | .delivery, task => task = deliveryTurn
  | .maintenance, task => task = reapStaleJobs workers.jobTimeoutSecs
  | .request _, task => requests task

/-- What is served besides the queue: account deletions, and every event that is no
job. -/
inductive Requests (config : Config) (workers : WorkerConfig) : Routine Url Unit → Prop
  | deleteAccount (authId : Nat) :
      Requests config workers (TootTok.deleteAccount workers.mediaDir authId)
  | event (event : Event Url) (request : event.isRequest = true) :
      Requests config workers (Routine.ofHandler (event.program config))

variable (Url) in
/-- A condition on the calls of a run: what has happened, the state before the
call, who makes it, and under which environment. -/
abbrev Condition : Type :=
  List (Effects.Event Thread (@WorkerOp.Result Url) Error (WorkerEnv Url)) →
    Server → Thread → WorkerOp Url → WorkerEnv Url → Prop

/-- The runs of a server whose calls satisfy a condition. -/
abbrev Run (workers : WorkerConfig) (requests : Routine Url Unit → Prop)
    (condition : Condition Url) (start : Server)
    (events : List (Effects.Event Thread (@WorkerOp.Result Url) Error (WorkerEnv Url)))
    (final : Effects.Config Thread (@WorkerOp.Result Url) Error Unit Server) : Prop :=
  Serves WorkerOp.exec (Tasks workers requests) condition (Config.idle start ()) events final

end Background

/-! ## Samples -/

namespace Sample

def workers : WorkerConfig where
  baseUrl := "https://a"
  mediaDir := "m"
  jobTimeoutSecs := 300

/-- A world without faults at a second of the epoch. -/
def atSecond (second : Nat) : WorkerEnv NormalUrl where
  toEnv := { Env.offline with now := ⟨second * 1000000⟩ }
  locked _ := false
  late := false
  setting _ := none
  probed := ⟨none, none, none, false⟩
  deliver _ _ _ := .ok .delivered

/-- A local author. -/
def uploader : ActorRow where
  id := 1
  username := "a"
  domain := none
  actorType := .person
  publicKeyPem := ""
  privateKeyPem := none
  inboxUrl := ""
  sharedInboxUrl := none
  outboxUrl := ""
  followersUrl := ""
  displayName := none
  summary := none
  avatarPath := none
  isLocked := false
  suspendedAt := none
  deletedAt := none
  apId := "a"

/-- The clip of the author. -/
def uploadedClip (status : ClipStatus) : ClipRow where
  id := 1
  actorId := 1
  apId := "c"
  origin := .localUpload
  captionHtml := none
  visibility := .everyone
  status := status
  durationS := none
  sha256Hash := none
  width := none
  height := none
  sizeBytes := none
  remoteMediaUrl := none
  isSensitive := false
  cwText := none
  likeCount := 0
  commentCount := 0
  shareCount := 0
  soundId := none
  publishedAt := none
  deletedAt := none
  createdAt := ⟨0⟩

/-- A job about the clip that is queued at the epoch. -/
def clipJob (id : Nat) (kind : JobKind) (members : List (String × Json.Value)) : JobRow :=
  Jobs.queued kind (.object (("clip_id", .number (.ofInt 1)) :: members)) ⟨0⟩ id

theorem clip_numbered (status : ClipStatus) :
    ∀ row ∈ [uploadedClip status], ClipRow.id row < 2 := by
  intro row member
  rw [List.mem_singleton.mp member]
  exact Nat.lt_succ_self 1

theorem job_numbered (kind : JobKind) (members : List (String × Json.Value)) :
    ∀ row ∈ [clipJob 1 kind members], JobRow.id row < 2 := by
  intro row member
  rw [List.mem_singleton.mp member]
  exact Nat.lt_succ_self 1

/-- The clip at some stage, and one job about it. -/
def serverWith (status : ClipStatus) (kind : JobKind) (members : List (String × Json.Value)) :
    Server where
  toDb := { Db.empty with
    actors := ⟨⟨[uploader], List.pairwise_singleton _ _⟩, 2, by decide⟩
    clips := ⟨⟨[uploadedClip status], List.pairwise_singleton _ _⟩, 2, clip_numbered status⟩
    jobs := ⟨⟨[clipJob 1 kind members], List.pairwise_singleton _ _⟩, 2,
      job_numbered kind members⟩ }
  files _ := false

/-- What a schedule of a server consists of. -/
abbrev Action : Type :=
  Effects.Action Thread (@WorkerOp.Result NormalUrl) Error Unit (WorkerEnv NormalUrl)

/-- A thread makes so many calls at a second of the epoch. -/
def calls (thread : Thread) (count second : Nat) : List Action :=
  List.replicate count (.call thread (atSecond second))

@[simp] theorem begin_not_mem_calls
    (thread other : Thread) (task : Routine NormalUrl Unit) (count second : Nat) :
    Effects.Action.begin thread task ∉ calls other count second := by
  intro member
  cases (List.mem_replicate.mp member).2

/-- Carry out a schedule from an idle server, but for the calls that a check
refuses. -/
def serve
    (check : Server → Thread → WorkerOp NormalUrl → WorkerEnv NormalUrl → Bool)
    (start : Server) (schedule : List Action) :
    List (Effects.Event Thread (@WorkerOp.Result NormalUrl) Error (WorkerEnv NormalUrl)) ×
      Effects.Config Thread (@WorkerOp.Result NormalUrl) Error Unit Server :=
  Config.serve WorkerOp.exec (fun _ => check) [] (Config.idle start ()) schedule

theorem serve_run
    {check : Server → Thread → WorkerOp NormalUrl → WorkerEnv NormalUrl → Bool}
    {condition : Background.Condition NormalUrl}
    (sound : ∀ events server thread op env, check server thread op env = true →
      condition events server thread op env)
    {requests : Routine NormalUrl Unit → Prop} (start : Server) (schedule : List Action)
    (areTasks : ∀ thread task, Effects.Action.begin thread task ∈ schedule →
      Background.Tasks workers requests thread task) :
    Background.Run workers requests condition start
      (serve check start schedule).1 (serve check start schedule).2 :=
  Config.serve_serves sound schedule areTasks .start

/-- Carry out a schedule from an idle server. -/
def serveFreely (start : Server) (schedule : List Action) :
    List (Effects.Event Thread (@WorkerOp.Result NormalUrl) Error (WorkerEnv NormalUrl)) ×
      Effects.Config Thread (@WorkerOp.Result NormalUrl) Error Unit Server :=
  serve (fun _ _ _ _ => true) start schedule

theorem serveFreely_run
    {requests : Routine NormalUrl Unit → Prop} (start : Server) (schedule : List Action)
    (areTasks : ∀ thread task, Effects.Action.begin thread task ∈ schedule →
      Background.Tasks workers requests thread task) :
    Background.Run workers requests (fun _ _ _ _ _ => True) start
      (serveFreely start schedule).1 (serveFreely start schedule).2 :=
  serve_run (fun _ _ _ _ _ _ => trivial) start schedule areTasks

end Sample
end TootTok
