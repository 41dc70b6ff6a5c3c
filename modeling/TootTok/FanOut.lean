import TootTok.Effects.Trails
import TootTok.TurnInvariants

/-!
# The fan-out of a clip

How the deliveries of an announcement come into the queue. The deliveries that there are have
been queued one by one, by whichever turns; a fan-out that is done has tried each of the
followers it found, once and in their order. So an inbox gets the announcement as often as
some turn has queued it, whether followers share the inbox or a turn is made again.
-/

namespace TootTok

open Effects
open Json (Value)
open Relational (SerialTable)
open Routine

variable {Url : Type}

/-! ## The deliveries in the queue -/

/-- What a job is to deliver. -/
def JobRow.delivery (row : JobRow) : Option Value :=
  if row.kind = .deliver then some row.payload else none

/-- What has been queued for delivery, in the order of the jobs. -/
def Server.deliveries (server : Server) : List Value :=
  server.jobs.rows.filterMap JobRow.delivery

namespace WorkerOp

/-- What an operation is to queue for delivery. -/
def delivery : WorkerOp Url → Option Value
  | .base (.createJob kind payload) => if kind = .deliver then some payload else none
  | _ => none

/-- What a call has queued for delivery. -/
def queuesDelivery (op : WorkerOp Url) : Except Error op.Result → Option Value
  | .ok _ => op.delivery
  | .error _ => none

theorem queuesDelivery_of_frame {op : WorkerOp Url} (frame : ¬op.Writes .jobs)
    (outcome : Except Error op.Result) : op.queuesDelivery outcome = none := by
  have none : op.delivery = none := by
    cases op with
    | base op =>
        cases op with
        | createJob kind payload => exact (frame rfl).elim
        | _ => rfl
    | _ => rfl
  cases outcome with
  | ok _ => exact none
  | error _ => rfl

end WorkerOp

theorem Jobs.deliveries_update
    {condition : JobRow → Bool} {change : JobRow → JobRow}
    (sameId : ∀ row, (change row).id = row.id)
    (sameDelivery : ∀ row, (change row).delivery = row.delivery) (table : JobTable) :
    (Jobs.update condition change sameId table).rows.filterMap JobRow.delivery =
      table.rows.filterMap JobRow.delivery := by
  show (table.rows.map (Relational.Table.changeWhere condition change)).filterMap _ = _
  rw [List.filterMap_map]
  congr 1
  funext row
  show (Relational.Table.changeWhere condition change row).delivery = row.delivery
  unfold Relational.Table.changeWhere
  split
  · exact sameDelivery row
  · rfl

namespace WorkerOp

/-- The deliveries after a call: those before it, and the one that it has queued. -/
theorem exec_deliveries (env : WorkerEnv Url) (op : WorkerOp Url) (server : Server) :
    (exec env op server).2.deliveries =
      server.deliveries ++ (op.queuesDelivery (exec env op server).1).toList := by
  by_cases writes : op.Writes .jobs
  case neg =>
    have same : (exec env op server).2.jobs = server.jobs := exec_frame .jobs writes env server
    rw [queuesDelivery_of_frame writes, Server.deliveries, same]
    exact (List.append_nil _).symm
  rcases exec_cases env op server with ⟨error, failed⟩ | performed
  · rw [failed]
    exact (List.append_nil _).symm
  rw [performed]
  have updated (condition : JobRow → Bool) (change : JobRow → JobRow)
      (sameId : ∀ row, (change row).id = row.id)
      (sameDelivery : ∀ row, (change row).delivery = row.delivery) :
      (Jobs.update condition change sameId server.jobs).rows.filterMap JobRow.delivery =
        server.deliveries ++ [] :=
    (Jobs.deliveries_update sameId sameDelivery _).trans (List.append_nil _).symm
  cases op with
  | base op =>
      cases op with
      | createJob kind payload =>
          show (Operation.exec env.toEnv (.createJob kind payload)
              server.toDb).2.jobs.rows.filterMap _ =
            server.deliveries ++ (queuesDelivery (.base (.createJob kind payload))
              (Operation.exec env.toEnv (.createJob kind payload) server.toDb).1).toList
          rcases Operation.exec_cases env.toEnv (.createJob kind payload) server.toDb with
            ⟨error, failed⟩ | performed
          · rw [failed]
            exact (List.append_nil _).symm
          · have inserted := @SerialTable.insert_of_free _ _ _ _ server.jobs
              (Jobs.queued kind payload env.now) (fun _ => rfl) fun _ _ impossible => impossible
            rw [performed]
            simp only [Operation.perform, Operation.checked, Db.onJobs, Jobs.create, inserted]
            rw [List.filterMap_append]
            rfl
      | _ => cases writes
  | claimNextDue worker =>
      show (Jobs.claimNextDue worker env.now env.locked server.jobs).2.rows.filterMap _ =
        server.deliveries ++ []
      cases claimed : (Jobs.claimNextDue worker env.now env.locked server.jobs).1 with
      | none =>
          rw [Jobs.claimNextDue_eq_none claimed]
          exact (List.append_nil _).symm
      | some job =>
          obtain ⟨_, -, -, -, table⟩ := Jobs.claimNextDue_eq_some claimed
          rw [table]
          exact updated _ (JobRow.lock worker env.now) (fun _ => rfl) fun _ => rfl
  | markDone id => exact updated (Jobs.byId id) (JobRow.release .done) (fun _ => rfl) fun _ => rfl
  | deadLetter id =>
      exact updated (Jobs.byId id) (JobRow.release .dead) (fun _ => rfl) fun _ => rfl
  | handBack id =>
      exact updated (Jobs.byId id) (JobRow.release .queued) (fun _ => rfl) fun _ => rfl
  | postpone id backoffSecs =>
      exact updated (Jobs.byId id) (JobRow.postpone env.now backoffSecs) (fun _ => rfl) fun _ => rfl
  | bump id lockedBy =>
      exact updated (Jobs.bumpable id lockedBy) JobRow.countFailure (fun _ => rfl) fun _ => rfl
  | reapStale timeoutSecs =>
      exact updated (fun row => row.Stale env.now timeoutSecs) JobRow.countFailure (fun _ => rfl)
        fun _ => rfl
  | _ => exact writes.elim

end WorkerOp

theorem JobRow.countFailure_not_done (row : JobRow) : row.countFailure.state ≠ .done := by
  show (if row.LastAttempt then JobState.dead else .queued) ≠ .done
  split <;> decide

namespace WorkerOp

/-- A job that is done after a call was done before, or the call has marked it. -/
theorem done_after (env : WorkerEnv Url) (op : WorkerOp Url) (server : Server) {new : JobRow}
    (member : new ∈ (exec env op server).2.jobs) (done : new.state = .done) :
    ∃ old ∈ server.jobs, old.id = new.id ∧ old.kind = new.kind ∧ old.payload = new.payload ∧
      (old.state = .done ∨ op = .markDone old.id) := by
  by_cases writes : op.Writes .jobs
  case neg =>
    have same : (exec env op server).2.jobs = server.jobs := exec_frame .jobs writes env server
    exact ⟨new, same ▸ member, rfl, rfl, rfl, .inl done⟩
  rcases exec_cases env op server with ⟨error, failed⟩ | performed
  · rw [failed] at member
    exact ⟨new, member, rfl, rfl, rfl, .inl done⟩
  rw [performed] at member
  cases op with
  | base op =>
      cases op with
      | createJob kind payload =>
          have created : new ∈ (Operation.exec env.toEnv (.createJob kind payload)
            server.toDb).2.jobs := member
          rcases Operation.exec_cases env.toEnv (.createJob kind payload) server.toDb with
            ⟨error, failed⟩ | performed
          · rw [failed] at created
            exact ⟨new, created, rfl, rfl, rfl, .inl done⟩
          · rw [performed] at created
            rcases SerialTable.mem_of_mem_insert created with stored | rfl
            · exact ⟨new, stored, rfl, rfl, rfl, .inl done⟩
            · cases done
      | _ => cases writes
  | claimNextDue worker =>
      rcases Jobs.of_mem_claimNextDue member with ⟨stored, -⟩ | ⟨old, -, -, rfl, -⟩
      · exact ⟨new, stored, rfl, rfl, rfl, .inl done⟩
      · cases done
  | markDone id =>
      rcases Jobs.of_mem_settle member with ⟨stored, -⟩ | ⟨old, stored, rfl, rfl⟩
      · exact ⟨new, stored, rfl, rfl, rfl, .inl done⟩
      · exact ⟨old, stored, rfl, rfl, rfl, .inr rfl⟩
  | deadLetter id =>
      rcases Jobs.of_mem_settle member with ⟨stored, -⟩ | ⟨old, -, -, rfl⟩
      · exact ⟨new, stored, rfl, rfl, rfl, .inl done⟩
      · cases done
  | handBack id =>
      rcases Jobs.of_mem_settle member with ⟨stored, -⟩ | ⟨old, -, -, rfl⟩
      · exact ⟨new, stored, rfl, rfl, rfl, .inl done⟩
      · cases done
  | postpone id backoffSecs =>
      rcases Jobs.of_mem_postpone member with ⟨stored, -⟩ | ⟨old, -, -, rfl⟩
      · exact ⟨new, stored, rfl, rfl, rfl, .inl done⟩
      · cases done
  | bump id lockedBy =>
      rcases Jobs.of_mem_bump member with stored | ⟨old, -, -, -, -, -, rfl⟩
      · exact ⟨new, stored, rfl, rfl, rfl, .inl done⟩
      · exact (old.countFailure_not_done done).elim
  | reapStale timeoutSecs =>
      rcases Jobs.of_mem_reapStale member with ⟨stored, -⟩ | ⟨old, -, -, rfl⟩
      · exact ⟨new, stored, rfl, rfl, rfl, .inl done⟩
      · exact (old.countFailure_not_done done).elim
  | _ => exact writes.elim

end WorkerOp

/-! ## What a turn tries to queue -/

namespace Calls

/-- The deliveries that a turn has tried to queue. -/
def tried (calls : Calls Url) : List Value :=
  calls.filterMap fun call => call.1.delivery

@[simp] theorem tried_append (left right : Calls Url) :
    tried (left ++ right) = tried left ++ tried right :=
  List.filterMap_append ..

/-- The deliveries that a turn has queued. -/
def queued (calls : Calls Url) : List Value :=
  shown WorkerOp.queuesDelivery calls

theorem queued_cons (op : WorkerOp Url) (outcome : Except Error op.Result) (calls : Calls Url) :
    queued (⟨op, outcome⟩ :: calls) = (op.queuesDelivery outcome).toList ++ queued calls := by
  rw [queued, ← List.singleton_append, shown_append, shown_singleton]
  rfl

theorem tried_cons (op : WorkerOp Url) (outcome : Except Error op.Result) (calls : Calls Url) :
    tried (⟨op, outcome⟩ :: calls) = op.delivery.toList ++ tried calls := by
  unfold tried
  cases isDelivery : op.delivery <;> simp [isDelivery]

/-- No delivery that the turn has tried to queue has failed. -/
def Unfailing (calls : Calls Url) : Prop :=
  ∀ call ∈ calls, call.1.delivery ≠ none → ∃ result, call.2 = .ok result

/-- Without failures a turn has queued all that it tried. -/
theorem Unfailing.queued_eq {calls : Calls Url} (unfailing : Unfailing calls) :
    queued calls = tried calls := by
  induction calls with
  | nil => rfl
  | cons call calls inductionHypothesis =>
      obtain ⟨op, outcome⟩ := call
      rw [queued_cons, tried_cons, inductionHypothesis fun other member =>
        unfailing other (List.mem_cons_of_mem _ member)]
      refine congrArg (· ++ tried calls) ?_
      cases isDelivery : op.delivery with
      | none => cases outcome <;> simp [WorkerOp.queuesDelivery, isDelivery]
      | some payload =>
          obtain ⟨result, isOk⟩ := unfailing ⟨op, outcome⟩ List.mem_cons_self (by simp [isDelivery])
          rw [show outcome = .ok result from isOk, WorkerOp.queuesDelivery, isDelivery]

/-- The call claims a job. -/
def Claims : WorkerOp Url → Prop
  | .claimNextDue _ => True
  | _ => False

/-- The turn has claimed the job and no other. -/
structure Only (job : JobRow) (calls : Calls Url) : Prop where
  begun : calls ≠ []
  sole : ∀ other, calls.Claimed other → other = job

/-- The turn has found the announcement of the job and its author, and has tried to queue a
delivery for each of the followers it then found. -/
structure FansOut (job : JobRow) (author : ActorRow) (activity : Value)
    (followers : List ActorRow) (calls : Calls Url) : Prop where
  claimed : calls.Claimed job
  carried : job.payload.get "activity" = some activity
  authored : ∃ (clipId : Nat) (clip : ClipRow), job.clipId = some (clipId : Int) ∧
    calls.Returned (.base (.fetchClipById clipId)) (some clip) ∧
    calls.Returned (.base (.fetchActorById clip.actorId)) (some author)
  listed : calls.Returned (.remoteFollowers author.id) followers
  each : calls.tried = followers.map fun follower =>
    deliveryPayload author.id follower.deliveryInbox activity

variable {calls : Calls Url} {job : JobRow}

theorem JustClaimed.only (claimed : calls.JustClaimed job) : calls.Only job := by
  obtain ⟨worker, rfl⟩ := claimed
  refine ⟨List.cons_ne_nil _ _, ?_⟩
  rintro other ⟨worker', member⟩
  cases List.mem_singleton.mp member
  rfl

theorem JustClaimed.untried (claimed : calls.JustClaimed job) : calls.tried = [] := by
  obtain ⟨worker, rfl⟩ := claimed
  rfl

theorem Only.append {op : WorkerOp Url} (only : calls.Only job)
    (other : ¬Claims op) (outcome : Except Error op.Result) :
    Only job (calls ++ [⟨op, outcome⟩]) where
  begun := by simp
  sole := by
    rintro another ⟨worker, member⟩
    rcases List.mem_append.mp member with earlier | last
    · exact only.sole another ⟨worker, earlier⟩
    · cases List.mem_singleton.mp last
      exact (other trivial).elim

end Calls

/-- A turn marks a fan-out as done once it has tried each follower. -/
def FanOutAllowed (calls : Calls Url) : WorkerOp Url → Prop
  | .markDone _ => ∀ job, calls.Claimed job → job.kind = .deliverCreate →
      ∃ author activity followers, calls.FansOut job author activity followers
  | _ => True

theorem fanOutAllowed_of_unmarked (calls : Calls Url) {op : WorkerOp Url}
    (unmarked : ∀ id, op ≠ .markDone id) : FanOutAllowed calls op := by
  unfold FanOutAllowed
  split
  next id => exact (unmarked id rfl).elim
  next => trivial

section Turns

variable {workers : WorkerConfig} {name : String} {calls : Calls Url} {job : JobRow}

/-! ### Fanning out -/

theorem fansOut_scheduleDeliverRetry :
    (scheduleDeliverRetry job).Keeps FanOutAllowed calls := by
  unfold scheduleDeliverRetry
  split
  · exact keeps_discarded _ rfl trivial
  · exact keeps_discarded _ rfl trivial

theorem fansOut_enqueueDeliveries {authorId : Nat} {activity : Value}
    (followers : List ActorRow) (only : calls.Only job) :
    (enqueueDeliveries authorId activity followers).Reaches FanOutAllowed
      (fun outcome final => outcome = .ok () →
        calls <+: final ∧ Calls.Only job final ∧
          Calls.tried final = Calls.tried calls ++ followers.map fun follower =>
            deliveryPayload authorId follower.deliveryInbox activity) calls := by
  induction followers generalizing calls with
  | nil => exact fun _ => ⟨List.prefix_refl _, only, (List.append_nil _).symm⟩
  | cons follower followers inductionHypothesis =>
      refine @reaches_then _ _ _ _ _ _ _ (fun _ final => ∃ outcome, final = calls ++
        [⟨.base (.createJob .deliver
          (deliveryPayload authorId follower.deliveryInbox activity)), outcome⟩]) _ ?_ ?_ ?_
      · refine reaches_discarded ?_
        unfold enqueueDelivery
        rw [ofHandler_bind, ofHandler_query]
        exact reaches_ask_then _ rfl trivial (fun error => ⟨.error error, rfl⟩)
          fun row => ⟨.ok row, rfl⟩
      · rintro error _ - ⟨⟩
      · rintro _ _ ⟨outcome, rfl⟩
        refine (inductionHypothesis (only.append id outcome)).mono ?_
        rintro _ final ends isOk
        obtain ⟨extended, only, tried⟩ := ends isOk
        refine ⟨(List.prefix_append _ _).trans extended, only, ?_⟩
        rw [tried, Calls.tried_append, List.append_assoc]
        rfl

theorem fansOut_processDeliverCreate (claimed : calls.JustClaimed job) :
    (processDeliverCreate job).Keeps FanOutAllowed calls := by
  have deadLetters {calls : Calls Url} :
      (discarded (ask (.deadLetter job.id))).Keeps FanOutAllowed calls :=
    keeps_discarded _ rfl trivial
  unfold processDeliverCreate
  split
  next clipId activity named carried =>
    cases clipId with
    | negSucc _ => exact deadLetters
    | ofNat clipId =>
        refine keeps_ask_then _ rfl trivial fun found => ?_
        match found with
        | .error _ => exact deadLetters
        | .ok none => exact deadLetters
        | .ok (some clip) =>
            refine keeps_ask_then _ rfl trivial fun found => ?_
            match found with
            | .error _ => exact deadLetters
            | .ok none => exact deadLetters
            | .ok (some author) =>
                refine keeps_ask_then _ rfl trivial fun followers => ?_
                cases followers with
                | error _ => exact fansOut_scheduleDeliverRetry
                | ok followers =>
                    have onlyClip := @claimed.only.append _ _ _ (.base (.fetchClipById clipId)) id
                      (.ok (some clip))
                    have onlyAuthor := @Calls.Only.append _ _ _
                      (.base (.fetchActorById clip.actorId)) onlyClip id (.ok (some author))
                    have only := @Calls.Only.append _ _ _
                      (.remoteFollowers author.id) onlyAuthor id (.ok followers)
                    refine reaches_then (fansOut_enqueueDeliveries followers only)
                      (fun _ _ _ => trivial) fun _ final ends => keeps_discarded _ rfl ?_
                    intro other isClaimed _
                    obtain ⟨extended, only, tried⟩ := ends rfl
                    obtain rfl := only.sole other isClaimed
                    refine ⟨author, activity, followers, isClaimed, carried, ?_, ?_, ?_⟩
                    · exact ⟨clipId, clip, named, extended.mem (by simp), extended.mem (by simp)⟩
                    · exact extended.mem (by simp)
                    · rw [tried, Calls.tried_append, Calls.tried_append, Calls.tried_append,
                        claimed.untried]
                      rfl
  next => exact deadLetters

/-! ### Turns -/

/-- A turn about another job marks no fan-out. -/
theorem fansOut_elsewhere {routine : Routine Url Unit}
    (keeps : routine.Keeps (WorkerAllowed workers name) calls) (only : calls.Only job)
    (other : job.kind ≠ .deliverCreate) : routine.Keeps FanOutAllowed calls := by
  refine keeps.within (Calls.Only job) ?_ ?_ only
  · intro calls op only _
    unfold FanOutAllowed
    split
    next =>
      intro claimed isClaimed fansOut
      rw [only.sole claimed isClaimed] at fansOut
      exact (other fansOut).elim
    next => trivial
  · intro calls op outcome only allowed
    refine only.append (fun claims => ?_) outcome
    cases op with
    | claimNextDue worker => exact only.begun allowed.1
    | _ => exact claims

theorem fansOut_bumpJobAfterFailure (clipId : Option Int) :
    (bumpJobAfterFailure job clipId).Keeps FanOutAllowed calls := by
  refine keeps_ask_then _ rfl trivial fun bumped => ?_
  split
  · split
    · exact keeps_discarded _ rfl trivial
    · trivial
  · trivial

variable [UrlCrate Url]

theorem fansOut_processDeliver (claimed : calls.JustClaimed job) :
    (processDeliver job).Keeps FanOutAllowed calls := by
  by_cases fansOut : job.kind = .deliverCreate
  · rw [processDeliver, if_pos fansOut]
    exact fansOut_processDeliverCreate claimed
  · exact fansOut_elsewhere (@keeps_processDeliver _ ⟨"", "", 0⟩ "" _ _ _ claimed.working)
      claimed.only fansOut

theorem fansOut_deliveryTurn : (deliveryTurn : Routine Url Unit).Keeps FanOutAllowed [] := by
  refine keeps_ask_then _ rfl trivial fun claimed => ?_
  match claimed with
  | .error _ => trivial
  | .ok none => trivial
  | .ok (some job) =>
      dsimp only
      split
      · exact fansOut_processDeliver ⟨"delivery", rfl⟩
      · exact keeps_discarded _ rfl trivial

variable [ChronoCrate]

theorem fansOut_handleJob (claimed : calls.JustClaimed job) :
    (handleJob workers job).Keeps FanOutAllowed calls := by
  by_cases fansOut : job.kind = .deliverCreate
  · have isDeliver : job.kind.isDeliver = true := by
      rw [fansOut]
      rfl
    rw [handleJob, if_pos isDeliver]
    exact fansOut_processDeliver claimed
  · exact fansOut_elsewhere (@keeps_handleJob _ workers "" _ _ _ _ claimed) claimed.only fansOut

theorem fansOut_workerTurn (worker : String) :
    (workerTurn workers worker : Routine Url Unit).Keeps FanOutAllowed [] := by
  refine keeps_ask_then _ rfl trivial fun claimed => ?_
  match claimed with
  | .error _ => trivial
  | .ok none => trivial
  | .ok (some job) =>
      refine Program.follows_withDeadline ?_ (fun _ => True) ?_ ?_ trivial
        (fansOut_handleJob ⟨worker, rfl⟩)
      · exact fun _ => ⟨trivial, fun _ => rfl⟩
      · exact fun _ _ _ _ _ => trivial
      · exact fun _ _ => fansOut_bumpJobAfterFailure job.clipId

theorem turn_fansOut {config : Config} {thread : Thread} {task : Routine Url Unit}
    (isTask : Background.Tasks workers (Background.Requests config workers) thread task) :
    task.Keeps FanOutAllowed [] := by
  cases thread with
  | media index =>
      subst isTask
      exact fansOut_workerTurn _
  | delivery =>
      subst isTask
      exact fansOut_deliveryTurn
  | maintenance =>
      subst isTask
      refine (keeps_reapStaleJobs _).within (fun _ => True) ?_ (fun _ _ _ _ _ => trivial) trivial
      rintro calls op - allowed
      refine fanOutAllowed_of_unmarked calls fun id => ?_
      rintro rfl
      exact allowed
  | request index =>
      refine (keeps_request isTask).within (fun _ => True) ?_ (fun _ _ _ _ _ => trivial) trivial
      rintro calls op - allowed
      refine fanOutAllowed_of_unmarked calls fun id => ?_
      rintro rfl
      exact allowed

end Turns

/-! ## Runs -/

/-- Some turn of the run has fanned out the announcement of the job. -/
def FannedOut
    (events : List (Effects.Event Thread (@WorkerOp.Result Url) Error (WorkerEnv Url)))
    (row : JobRow) : Prop :=
  ∃ turn thread job author activity followers,
    turn <+: events ∧ job.id = row.id ∧ job.payload = row.payload ∧
      Calls.FansOut job author activity followers (callsOfTask WorkerOp.noted turn thread)

/-- A fan-out that has been done in the run has tried its followers. -/
def FanOutsTried (start : Server)
    (events : List (Effects.Event Thread (@WorkerOp.Result Url) Error (WorkerEnv Url)))
    (server : Server) : Prop :=
  ∀ row ∈ server.jobs, row.kind = .deliverCreate → row.state = .done →
    (∃ old ∈ start.jobs, old.id = row.id ∧ old.state = .done) ∨ FannedOut events row

theorem FannedOut.extend
    {events : List (Effects.Event Thread (@WorkerOp.Result Url) Error (WorkerEnv Url))}
    {row : JobRow} (fannedOut : FannedOut events row)
    (event : Effects.Event Thread (@WorkerOp.Result Url) Error (WorkerEnv Url)) :
    FannedOut (events ++ [event]) row := by
  obtain ⟨turn, thread, job, author, activity, followers, earlier, found⟩ := fannedOut
  exact ⟨turn, thread, job, author, activity, followers,
    earlier.trans (List.prefix_append _ _), found⟩

theorem FanOutsTried.began {start server : Server}
    {events : List (Effects.Event Thread (@WorkerOp.Result Url) Error (WorkerEnv Url))}
    (tried : FanOutsTried start events server) (thread : Thread) :
    FanOutsTried start (events ++ [.began thread]) server :=
  fun row member kind done => (tried row member kind done).imp_right fun fannedOut =>
    fannedOut.extend _

/-- A fan-out is marked as done by the turn that has made it. -/
theorem FanOutsTried.called {workers : WorkerConfig} {start server : Server}
    {events : List (Effects.Event Thread (@WorkerOp.Result Url) Error (WorkerEnv Url))}
    {thread : Thread} {op : WorkerOp Url} (tried : FanOutsTried start events server)
    (stored : ClaimsStored events server)
    (allowed : TurnAllowed workers RequestAllowed thread
      (callsOfTask WorkerOp.noted events thread) op)
    (fansOut : FanOutAllowed (callsOfTask WorkerOp.noted events thread) op)
    (env : WorkerEnv Url) :
    FanOutsTried start (events ++ [.called ⟨thread, op, env, (WorkerOp.exec env op server).1⟩])
      (WorkerOp.exec env op server).2 := by
  intro row member kind done
  obtain ⟨old, isOld, sameId, sameKind, samePayload, wasDone | rfl⟩ :=
    WorkerOp.done_after env op server member done
  · rcases tried old isOld (sameKind.trans kind) wasDone with
      ⟨first, isFirst, firstId, firstDone⟩ | fannedOut
    · exact .inl ⟨first, isFirst, firstId.trans sameId, firstDone⟩
    · obtain ⟨turn, maker, job, author, activity, followers, earlier, isJob, payload, found⟩ :=
        fannedOut.extend (.called ⟨thread, op, env, (WorkerOp.exec env op server).1⟩)
      exact .inr ⟨turn, maker, job, author, activity, followers, earlier, isJob.trans sameId,
        payload.trans samePayload, found⟩
  · obtain ⟨job, working, isJob⟩ := working_of_settles allowed rfl
    obtain ⟨held, isHeld, heldId, heldKind, heldPayload⟩ := stored thread job working.claimed
    obtain rfl : held = old := SerialTable.eq_of_number_eq isHeld isOld (heldId.trans isJob)
    obtain ⟨author, activity, followers, found⟩ :=
      fansOut job working.claimed (heldKind.symm.trans (sameKind.trans kind))
    exact .inr ⟨events, thread, job, author, activity, followers, List.prefix_append _ _,
      isJob.trans sameId, heldPayload.symm.trans samePayload, found⟩

section Accounting

variable [UrlCrate Url] [ChronoCrate] {config : Config} {workers : WorkerConfig}
  {condition : Background.Condition Url} {start : Server}
  {events : List (Effects.Event Thread (@WorkerOp.Result Url) Error (WorkerEnv Url))}
  {final : Effects.Config Thread (@WorkerOp.Result Url) Error Unit Server}

theorem fan_outs_tried
    (run : Background.Run workers (Background.Requests config workers) condition start events
      final) : FanOutsTried start events final.state := by
  have starts (thread : Thread) :
      ((Config.idle start () : Effects.Config Thread (@WorkerOp.Result Url) Error Unit
        Server).threads thread).Follows (turnProtocol fun calls op =>
          TurnAllowed workers RequestAllowed thread calls op ∧ FanOutAllowed calls op)
          (fun _ _ => True) [] := trivial
  have keeps (thread : Thread) (task : Routine Url Unit)
      (isTask : Background.Tasks workers (Background.Requests config workers) thread task) :
      task.Keeps (fun calls op => TurnAllowed workers RequestAllowed thread calls op ∧
        FanOutAllowed calls op) [] :=
    (turn_follows (fun _ => keeps_request) isTask).both (turn_fansOut isTask)
  have both : ClaimsStored events final.state ∧ FanOutsTried start events final.state := by
    refine Serves.invariant run starts keeps
      (fun events server => ClaimsStored events server ∧ FanOutsTried start events server)
      ⟨.nil start, fun row member _ done => .inl ⟨row, member, rfl, done⟩⟩ ?_ ?_
    · exact fun _ _ thread holds => ⟨holds.1.began thread, holds.2.began thread⟩
    · intro events server thread op env holds allowed _
      rw [memories_recording] at allowed
      exact ⟨holds.1.called thread op env, holds.2.called holds.1 allowed.1 allowed.2 env⟩
  exact both.2

/-- The followers that a turn has listed are those that there were at that moment. -/
theorem listed_followers
    (run : Background.Run workers (Background.Requests config workers) condition start events
      final)
    {thread : Thread} {authorId : Nat} {followers : List ActorRow}
    (listed : Calls.Returned (.remoteFollowers authorId) followers
      (callsOfTask WorkerOp.noted events thread)) :
    ∃ listing, listing <+: events ∧
      followers = Server.remoteFollowers authorId (replay WorkerOp.exec start listing).toDb := by
  obtain ⟨listing, after, env, rfl, executed⟩ := run.executed listed
  refine ⟨listing, List.prefix_append _ _, ?_⟩
  rcases WorkerOp.exec_cases env (.remoteFollowers authorId)
    (replay WorkerOp.exec start listing) with ⟨error, failed⟩ | performed
  · have refused := (congrArg Prod.fst failed).symm.trans executed
    cases refused
  · exact (Except.ok.inj ((congrArg Prod.fst performed).symm.trans executed)).symm

/-- Accounting for a fan-out. In any run of the workers, the deliveries in the queue are those
that there were and those that a call has queued since, each as often as it was queued. And a
fan-out that has become done was made by a turn that tried one delivery for each remote
follower whom the author then had, in their order: it has queued those that did not fail. -/
theorem fan_out_accounted
    (run : Background.Run workers (Background.Requests config workers) condition start events
      final) :
    final.state.deliveries =
        start.deliveries ++ (trail WorkerOp.queuesDelivery events).map Prod.snd ∧
      ∀ row ∈ final.state.jobs, row.kind = .deliverCreate → row.state = .done →
        (∃ old ∈ start.jobs, old.id = row.id ∧ old.state = .done) ∨
        ∃ turn thread listing job author activity followers,
          listing <+: turn ∧ turn <+: events ∧ job.id = row.id ∧ job.payload = row.payload ∧
          Calls.FansOut job author activity followers
            (callsOfTask WorkerOp.noted turn thread) ∧
          followers =
            Server.remoteFollowers author.id (replay WorkerOp.exec start listing).toDb ∧
          (Calls.queued (callsOfTask WorkerOp.noted turn thread)).Sublist
            ((trail WorkerOp.queuesDelivery events).map Prod.snd) ∧
          (Calls.Unfailing (callsOfTask WorkerOp.noted turn thread) →
            Calls.queued (callsOfTask WorkerOp.noted turn thread) =
              followers.map fun follower =>
                deliveryPayload author.id follower.deliveryInbox activity) := by
  refine ⟨run.grows Server.deliveries WorkerOp.exec_deliveries, ?_⟩
  intro row member kind done
  refine (fan_outs_tried run row member kind done).imp_right ?_
  rintro ⟨turn, thread, job, author, activity, followers, earlier, isJob, payload, found⟩
  obtain ⟨rest, rfl⟩ := earlier
  obtain ⟨reached, ran⟩ := run.moment
  obtain ⟨listing, before, isListing⟩ := listed_followers ran found.listed
  refine ⟨turn, thread, listing, job, author, activity, followers, before,
    List.prefix_append _ _, isJob, payload, found, isListing, ?_, fun unfailing => ?_⟩
  · rw [trail_append, List.map_append]
    exact (shown_callsOfTask_sublist _ turn thread).trans (List.sublist_append_left _ _)
  · exact unfailing.queued_eq.trans found.each

end Accounting

namespace Sample

/-- A remote follower behind the shared inbox of its server. -/
def neighbour (id : Nat) (apId : String) : ActorRow :=
  { uploader with
    id := id, domain := some "b", inboxUrl := apId, sharedInboxUrl := some "s", apId := apId }

/-- A published clip whose author has two followers on one server, and its fan-out. -/
def neighboursServer : Server :=
  { serverWith .ready .deliverCreate [("activity", .null)] with
    actors := ⟨⟨[uploader, neighbour 2 "b2", neighbour 3 "b3"], by decide +kernel⟩, 4,
      by decide +kernel⟩
    follows := ⟨[⟨2, 1, none, .accepted⟩, ⟨3, 1, none, .accepted⟩], by decide +kernel⟩ }

/-- The delivery worker crashes behind its first enqueue, the job is reaped, and the worker
takes it up again. -/
def fanningOutAgain : List Action :=
  .begin .delivery deliveryTurn :: calls .delivery 5 1 ++
    .begin .maintenance (reapStaleJobs workers.jobTimeoutSecs) :: calls .maintenance 1 1000 ++
    .begin .delivery deliveryTurn :: calls .delivery 7 1000

def fannedOutAgain :
    List (Effects.Event Thread (@WorkerOp.Result NormalUrl) Error (WorkerEnv NormalUrl)) ×
      Effects.Config Thread (@WorkerOp.Result NormalUrl) Error Unit Server :=
  serveFreely neighboursServer fanningOutAgain

theorem fannedOutAgain_run :
    Background.Run workers (Background.Requests config workers) (fun _ _ _ _ _ => True)
      neighboursServer fannedOutAgain.1 fannedOutAgain.2 := by
  refine serveFreely_run neighboursServer _ fun thread task begun => ?_
  simp [fanningOutAgain] at begun
  rcases begun with ⟨rfl, rfl⟩ | ⟨rfl, rfl⟩ | ⟨rfl, rfl⟩ <;> rfl

end Sample

open Sample in
/-- Two followers share an inbox, and the first fan-out crashes half way: the inbox gets the
announcement three times. -/
theorem shared_inbox_announced_thrice :
    fannedOutAgain.2.state.deliveries = List.replicate 3 (deliveryPayload 1 "s" .null) :=
  (fan_out_accounted fannedOutAgain_run).1.trans rfl

end TootTok
