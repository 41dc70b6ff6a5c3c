import TootTok.Effects.Interleaving

/-!
# Services

Threads that serve one task after another over a shared state. A thread may
take up a new task at any time: one that had not finished its last task has
crashed in the middle of it. What a thread has done since it took up its task
decides what it may do next; a protocol says so once, and every run of a
service whose tasks follow the protocol keeps to it.
-/

namespace TootTok
namespace Effects

variable {Op : Type} {Result : Op → Type} {ε α β σ Env ι Ghost : Type}

/-! ## Protocols -/

/-- What a thread remembers of its task, and which calls its memory allows. -/
structure Protocol {Op : Type} (Result : Op → Type) (ε Ghost : Type) where
  initial : Ghost
  Allowed : Ghost → Op → Prop
  after : Ghost → (op : Op) → Except ε (Result op) → Ghost

/-- Whatever its calls return, the program makes allowed calls only, and its end
satisfies `post`. -/
def Program.Follows (protocol : Protocol Result ε Ghost)
    (post : Except ε α → Ghost → Prop) : Program Result ε α → Ghost → Prop
  | .done value, ghost => post (.ok value) ghost
  | .fail error, ghost => post (.error error) ghost
  | .call op next, ghost =>
      protocol.Allowed ghost op ∧
        ∀ outcome, Follows protocol post (next outcome) (protocol.after ghost op outcome)

namespace Program

section Follows

variable {protocol : Protocol Result ε Ghost}

@[simp] theorem follows_done
    (post : Except ε α → Ghost → Prop) (value : α) (ghost : Ghost) :
    (Program.done value : Program Result ε α).Follows protocol post ghost ↔
      post (.ok value) ghost := Iff.rfl

@[simp] theorem follows_fail
    (post : Except ε α → Ghost → Prop) (error : ε) (ghost : Ghost) :
    (Program.fail error : Program Result ε α).Follows protocol post ghost ↔
      post (.error error) ghost := Iff.rfl

theorem follows_call
    (post : Except ε α → Ghost → Prop) (op : Op)
    (next : Except ε (Result op) → Program Result ε α) (ghost : Ghost) :
    (Program.call op next).Follows protocol post ghost ↔
      protocol.Allowed ghost op ∧
        ∀ outcome, (next outcome).Follows protocol post (protocol.after ghost op outcome) :=
  Iff.rfl

/-- What the first half of a composition must leave for the second. -/
def thenFollows
    (protocol : Protocol Result ε Ghost) (post : Except ε β → Ghost → Prop)
    (rest : α → Program Result ε β) : Except ε α → Ghost → Prop
  | .ok value, ghost => (rest value).Follows protocol post ghost
  | .error error, ghost => post (.error error) ghost

@[simp] theorem thenFollows_ok
    (post : Except ε β → Ghost → Prop) (rest : α → Program Result ε β)
    (value : α) (ghost : Ghost) :
    thenFollows protocol post rest (.ok value) ghost =
      (rest value).Follows protocol post ghost := rfl

@[simp] theorem thenFollows_error
    (post : Except ε β → Ghost → Prop) (rest : α → Program Result ε β)
    (error : ε) (ghost : Ghost) :
    thenFollows protocol post rest (.error error) ghost = post (.error error) ghost := rfl

/-- The sequencing rule. -/
theorem follows_bind
    (post : Except ε β → Ghost → Prop) (program : Program Result ε α)
    (rest : α → Program Result ε β) (ghost : Ghost) :
    (program >>= rest).Follows protocol post ghost ↔
      program.Follows protocol (thenFollows protocol post rest) ghost := by
  induction program generalizing ghost with
  | done value => rfl
  | fail error => rfl
  | call op next inductionHypothesis =>
      simp only [call_bind, follows_call, inductionHypothesis]

theorem follows_perform
    (post : Except ε (Result op) → Ghost → Prop) (ghost : Ghost) :
    (perform op : Program Result ε (Result op)).Follows protocol post ghost ↔
      protocol.Allowed ghost op ∧
        ∀ outcome, post outcome (protocol.after ghost op outcome) := by
  unfold perform
  rw [follows_call]
  refine and_congr_right fun _ => forall_congr' fun outcome => ?_
  cases outcome <;> simp

theorem follows_attempt
    (post : Except ε (Except ε α) → Ghost → Prop) (program : Program Result ε α)
    (ghost : Ghost) :
    program.attempt.Follows protocol post ghost ↔
      program.Follows protocol (fun outcome => post (.ok outcome)) ghost := by
  induction program generalizing ghost with
  | done value => rfl
  | fail error => rfl
  | call op next inductionHypothesis =>
      simp only [attempt, follows_call, inductionHypothesis]

/-- The consequence rule. -/
theorem Follows.mono
    {post weaker : Except ε α → Ghost → Prop} {program : Program Result ε α} {ghost : Ghost}
    (follows : program.Follows protocol post ghost)
    (weaken : ∀ outcome final, post outcome final → weaker outcome final) :
    program.Follows protocol weaker ghost := by
  induction program generalizing ghost with
  | done value => exact weaken _ _ follows
  | fail error => exact weaken _ _ follows
  | call op next inductionHypothesis =>
      exact ⟨follows.1, fun outcome => inductionHypothesis outcome (follows.2 outcome)⟩

/-- A program of calls that are allowed whatever `keeps` holds of the memory, and
that keep it. -/
theorem Calls.follows
    {allowed : Op → Prop} {program : Program Result ε α} (calls : program.Calls allowed)
    (keeps : Ghost → Prop)
    (allows : ∀ ghost op, keeps ghost → allowed op → protocol.Allowed ghost op)
    (kept : ∀ ghost op outcome, keeps ghost → allowed op →
      keeps (protocol.after ghost op outcome))
    {ghost : Ghost} (holds : keeps ghost) :
    program.Follows protocol (fun _ final => keeps final) ghost := by
  induction program generalizing ghost with
  | done value => exact holds
  | fail error => exact holds
  | call op next inductionHypothesis =>
      exact ⟨allows _ _ holds calls.1, fun outcome =>
        inductionHypothesis outcome (calls.2 outcome) (kept _ _ outcome holds calls.1)⟩

end Follows

/-! ## Programs over part of the operations -/

variable {Part : Type} {PartResult : Part → Type}

/-- A program whose operations are some of the operations of a larger system. -/
def embed
    (inject : Part → Op)
    (back : ∀ op, Except ε (Result (inject op)) → Except ε (PartResult op)) :
    Program PartResult ε α → Program Result ε α
  | .done value => .done value
  | .fail error => .fail error
  | .call op next => .call (inject op) fun outcome => (next (back op outcome)).embed inject back

/-- The calls of an embedded program. -/
theorem calls_embed
    {inject : Part → Op}
    {back : ∀ op, Except ε (Result (inject op)) → Except ε (PartResult op)}
    {allowed : Op → Prop} {program : Program PartResult ε α}
    (calls : program.Calls fun op => allowed (inject op)) :
    (program.embed inject back).Calls allowed := by
  induction program with
  | done value => trivial
  | fail error => trivial
  | call op next inductionHypothesis =>
      exact ⟨calls.1, fun outcome => inductionHypothesis _ (calls.2 _)⟩

theorem embed_bind
    (inject : Part → Op)
    (back : ∀ op, Except ε (Result (inject op)) → Except ε (PartResult op))
    (program : Program PartResult ε α) (rest : α → Program PartResult ε β) :
    (program >>= rest).embed inject back =
      program.embed inject back >>= fun value => (rest value).embed inject back := by
  induction program with
  | done value => rfl
  | fail error => rfl
  | call op next inductionHypothesis =>
      simp only [call_bind, embed, inductionHypothesis]

theorem embed_attempt
    (inject : Part → Op)
    (back : ∀ op, Except ε (Result (inject op)) → Except ε (PartResult op))
    (program : Program PartResult ε α) :
    program.attempt.embed inject back = (program.embed inject back).attempt := by
  induction program with
  | done value => rfl
  | fail error => rfl
  | call op next inductionHypothesis => simp only [attempt, embed, inductionHypothesis]

/-! ## Deadlines -/

/-- Go on with a program unless its deadline has passed. -/
def unlessLate (deadline : Op) (passed : Except ε (Result deadline) → Bool)
    (late program : Program Result ε α) : Program Result ε α :=
  .call deadline fun outcome => if passed outcome then late else program

/-- A program that is dropped for another one when its deadline passes, which may
happen before its first call and after each call. -/
def withDeadline (deadline : Op) (passed : Except ε (Result deadline) → Bool)
    (late : Program Result ε α) : Program Result ε α → Program Result ε α
  | .done value => unlessLate deadline passed late (.done value)
  | .fail error => unlessLate deadline passed late (.fail error)
  | .call op next =>
      unlessLate deadline passed late
        (.call op fun outcome => withDeadline deadline passed late (next outcome))

/-- What is left of a program may be dropped at any point where the other one
could take over. -/
theorem follows_withDeadline
    {protocol : Protocol Result ε Ghost} {deadline : Op}
    {passed : Except ε (Result deadline) → Bool}
    {post : Except ε α → Ghost → Prop} {late program : Program Result ε α}
    (silent : ∀ ghost, protocol.Allowed ghost deadline ∧
      ∀ outcome, protocol.after ghost deadline outcome = ghost)
    (keeps : Ghost → Prop)
    (kept : ∀ ghost op outcome, keeps ghost → protocol.Allowed ghost op →
      keeps (protocol.after ghost op outcome))
    (takesOver : ∀ ghost, keeps ghost → late.Follows protocol post ghost)
    {ghost : Ghost} (holds : keeps ghost) (follows : program.Follows protocol post ghost) :
    (withDeadline deadline passed late program).Follows protocol post ghost := by
  have checked {ghost : Ghost} {rest : Program Result ε α} (holds : keeps ghost)
      (follows : rest.Follows protocol post ghost) :
      (unlessLate deadline passed late rest).Follows protocol post ghost := by
    refine ⟨(silent ghost).1, fun outcome => ?_⟩
    rw [(silent ghost).2]
    show (if passed outcome then late else rest).Follows protocol post ghost
    split
    · exact takesOver ghost holds
    · exact follows
  induction program generalizing ghost with
  | done value => exact checked holds follows
  | fail error => exact checked holds follows
  | call op next inductionHypothesis =>
      refine checked holds ⟨follows.1, fun outcome => ?_⟩
      exact inductionHypothesis outcome (kept _ _ _ holds follows.1) (follows.2 outcome)

end Program

/-! ## Runs -/

/-- What happens in a run: a thread takes up a task, or makes a call. -/
inductive Event (ι : Type) {Op : Type} (Result : Op → Type) (ε Env : Type)
  | began (thread : ι)
  | called (call : Call ι Result ε Env)

variable [DecidableEq ι]

/-- What a thread remembers after an event. -/
def Protocol.observe (protocol : Protocol Result ε Ghost) (thread : ι) (ghost : Ghost) :
    Event ι Result ε Env → Ghost
  | .began other => if other = thread then protocol.initial else ghost
  | .called call =>
      if call.thread = thread then protocol.after ghost call.op call.outcome else ghost

/-- What each thread remembers of its task after some events. -/
def memories (protocol : ι → Protocol Result ε Ghost)
    (events : List (Event ι Result ε Env)) (thread : ι) : Ghost :=
  events.foldl ((protocol thread).observe thread) (protocol thread).initial

section Memories

variable (protocol : ι → Protocol Result ε Ghost) (events : List (Event ι Result ε Env))

@[simp] theorem memories_nil :
    memories protocol ([] : List (Event ι Result ε Env)) =
      fun thread => (protocol thread).initial := rfl

@[simp] theorem memories_began (thread : ι) :
    memories protocol (events ++ [.began thread]) =
      Function.update (memories protocol events) thread (protocol thread).initial := by
  funext other
  by_cases same : other = thread
  · subst same
    simp [memories, Protocol.observe]
  · simp [memories, Protocol.observe, same, Ne.symm same]

@[simp] theorem memories_called (call : Call ι Result ε Env) :
    memories protocol (events ++ [.called call]) =
      Function.update (memories protocol events) call.thread
        ((protocol call.thread).after (memories protocol events call.thread) call.op
          call.outcome) := by
  funext other
  by_cases same : other = call.thread
  · subst same
    simp [memories, Protocol.observe]
  · simp [memories, Protocol.observe, same, Ne.symm same]

end Memories

/-- A protocol whose threads remember the calls of their task that are noted. -/
def Protocol.recording (noted : Op → Bool)
    (Allowed : List (Σ op : Op, Except ε (Result op)) → Op → Prop) :
    Protocol Result ε (List (Σ op : Op, Except ε (Result op))) where
  initial := []
  Allowed := Allowed
  after calls op outcome := if noted op then calls ++ [⟨op, outcome⟩] else calls

/-- The noted calls of a thread since it took up its task. -/
def callsOfTask (noted : Op → Bool) (events : List (Event ι Result ε Env)) (thread : ι) :
    List (Σ op : Op, Except ε (Result op)) :=
  memories (fun _ => Protocol.recording noted fun _ _ => True) events thread

theorem memories_recording
    (noted : Op → Bool)
    (Allowed : ι → List (Σ op : Op, Except ε (Result op)) → Op → Prop)
    (events : List (Event ι Result ε Env)) (thread : ι) :
    memories (fun thread => Protocol.recording noted (Allowed thread)) events thread =
      callsOfTask noted events thread := rfl

section CallsOfTask

variable (noted : Op → Bool) (events : List (Event ι Result ε Env))

@[simp] theorem callsOfTask_nil (thread : ι) :
    callsOfTask noted ([] : List (Event ι Result ε Env)) thread = [] := rfl

@[simp] theorem callsOfTask_began (thread : ι) :
    callsOfTask noted (events ++ [.began thread]) =
      Function.update (callsOfTask noted events) thread [] :=
  memories_began _ events thread

@[simp] theorem callsOfTask_called (call : Call ι Result ε Env) :
    callsOfTask noted (events ++ [.called call]) =
      Function.update (callsOfTask noted events) call.thread
        (if noted call.op then
          callsOfTask noted events call.thread ++ [⟨call.op, call.outcome⟩]
        else callsOfTask noted events call.thread) :=
  memories_called _ events call

variable {noted : Op → Bool} {events : List (Event ι Result ε Env)} {thread other : ι}
  {call : Σ op : Op, Except ε (Result op)}

/-- A thread that takes up a task forgets the last one. -/
theorem callsOfTask_began_cases
    (noted : Op → Bool) (events : List (Event ι Result ε Env)) (thread other : ι) :
    callsOfTask noted (events ++ [.began thread]) other = [] ∨
      callsOfTask noted (events ++ [.began thread]) other = callsOfTask noted events other := by
  rw [callsOfTask_began]
  by_cases same : other = thread
  · subst same
    exact .inl (Function.update_self ..)
  · exact .inr (Function.update_of_ne same ..)

/-- A call is noted by the thread that makes it, or by none. -/
theorem callsOfTask_called_cases
    (noted : Op → Bool) (events : List (Event ι Result ε Env)) (thread other : ι)
    (op : Op) (env : Env) (outcome : Except ε (Result op)) :
    callsOfTask noted (events ++ [.called ⟨thread, op, env, outcome⟩]) other =
        callsOfTask noted events other ∧ (other = thread → noted op = false) ∨
      other = thread ∧
        callsOfTask noted (events ++ [.called ⟨thread, op, env, outcome⟩]) other =
          callsOfTask noted events thread ++ [⟨op, outcome⟩] := by
  rw [callsOfTask_called]
  by_cases same : other = thread
  · subst same
    rw [Function.update_self]
    split
    · exact .inr ⟨rfl, rfl⟩
    next silent => exact .inl ⟨rfl, fun _ => Bool.eq_false_iff.mpr silent⟩
  · rw [Function.update_of_ne same]
    exact .inl ⟨rfl, fun isThread => (same isThread).elim⟩

theorem mem_callsOfTask_began
    (member : call ∈ callsOfTask noted (events ++ [.began thread]) other) :
    call ∈ callsOfTask noted events other := by
  rcases callsOfTask_began_cases noted events thread other with empty | same
  · rw [empty] at member
    cases member
  · rwa [same] at member

/-- What is noted of a task, was noted before or is the call of the thread. -/
theorem mem_callsOfTask_called
    {op : Op} {env : Env} {outcome : Except ε (Result op)}
    (member : call ∈
      callsOfTask noted (events ++ [.called ⟨thread, op, env, outcome⟩]) other) :
    call ∈ callsOfTask noted events other ∨ other = thread ∧ call = ⟨op, outcome⟩ := by
  rcases callsOfTask_called_cases noted events thread other op env outcome with
    ⟨same, -⟩ | ⟨rfl, extended⟩
  · exact .inl (same ▸ member)
  · rw [extended] at member
    rcases List.mem_append.mp member with earlier | last
    · exact .inl earlier
    · exact .inr ⟨rfl, List.mem_singleton.mp last⟩

end CallsOfTask

/-- The runs in which every call is admitted. -/
inductive Serves
    (exec : Program.Executor Result ε σ Env)
    (tasks : ι → Program Result ε α → Prop)
    (admits : List (Event ι Result ε Env) → σ → ι → Op → Env → Prop)
    (start : Config ι Result ε α σ) :
    List (Event ι Result ε Env) → Config ι Result ε α σ → Prop
  | start : Serves exec tasks admits start [] start
  | began
      {events : List (Event ι Result ε Env)} {config : Config ι Result ε α σ}
      {thread : ι} {task : Program Result ε α}
      (earlier : Serves exec tasks admits start events config)
      (isTask : tasks thread task) :
      Serves exec tasks admits start (events ++ [.began thread])
        { config with threads := Function.update config.threads thread task }
  | called
      {events : List (Event ι Result ε Env)} {config : Config ι Result ε α σ}
      {thread : ι} {op : Op} {env : Env}
      {next : Except ε (Result op) → Program Result ε α}
      (earlier : Serves exec tasks admits start events config)
      (atCall : config.threads thread = .call op next)
      (admitted : admits events config.state thread op env) :
      Serves exec tasks admits start
        (events ++ [.called ⟨thread, op, env, (exec env op config.state).1⟩])
        (config.afterCall exec thread op env next)

/-- A state in which no thread has a task. -/
def Config.idle (state : σ) (value : α) : Config ι Result ε α σ :=
  ⟨state, fun _ => .done value⟩

section Rules

variable {exec : Program.Executor Result ε σ Env} {tasks : ι → Program Result ε α → Prop}
  {admits : List (Event ι Result ε Env) → σ → ι → Op → Env → Prop}
  {start : Config ι Result ε α σ}
  {events : List (Event ι Result ε Env)} {config : Config ι Result ε α σ}

/-- Fewer admitted calls make fewer runs. -/
theorem Serves.mono
    {wider : List (Event ι Result ε Env) → σ → ι → Op → Env → Prop}
    (run : Serves exec tasks admits start events config)
    (widen : ∀ events state thread op env, admits events state thread op env →
      wider events state thread op env) :
    Serves exec tasks wider start events config := by
  induction run with
  | start => exact .start
  | began earlier isTask inductionHypothesis => exact .began inductionHypothesis isTask
  | called earlier atCall admitted inductionHypothesis =>
      exact .called inductionHypothesis atCall (widen _ _ _ _ _ admitted)

variable {protocol : ι → Protocol Result ε Ghost}

/-- In a run whose tasks follow the protocol, what is left of every thread
follows it. -/
theorem Serves.follows
    {post : ι → Except ε α → Ghost → Prop}
    (run : Serves exec tasks admits start events config)
    (starts : ∀ thread,
      (start.threads thread).Follows (protocol thread) (post thread) (protocol thread).initial)
    (disciplined : ∀ thread task, tasks thread task →
      task.Follows (protocol thread) (post thread) (protocol thread).initial)
    (thread : ι) :
    (config.threads thread).Follows (protocol thread) (post thread)
      (memories protocol events thread) := by
  induction run generalizing thread with
  | start => exact starts thread
  | @began events config changed task earlier isTask inductionHypothesis =>
      rw [memories_began]
      by_cases same : thread = changed
      · subst same
        simpa using disciplined thread task isTask
      · simpa [same] using inductionHypothesis thread
  | @called events config caller op env next earlier atCall admitted inductionHypothesis =>
      rw [memories_called]
      by_cases same : thread = caller
      · subst same
        have follows := inductionHypothesis thread
        rw [atCall] at follows
        simpa using follows.2 (exec env op config.state).1
      · rw [Config.afterCall_threads_other _ caller op env next same]
        simpa [same] using inductionHypothesis thread

/-- The next call of a thread is allowed by what it remembers. -/
theorem Serves.allowed
    {post : ι → Except ε α → Ghost → Prop}
    (run : Serves exec tasks admits start events config)
    (starts : ∀ thread,
      (start.threads thread).Follows (protocol thread) (post thread) (protocol thread).initial)
    (disciplined : ∀ thread task, tasks thread task →
      task.Follows (protocol thread) (post thread) (protocol thread).initial)
    {thread : ι} {op : Op} {next : Except ε (Result op) → Program Result ε α}
    (atCall : config.threads thread = .call op next) :
    (protocol thread).Allowed (memories protocol events thread) op := by
  have follows := run.follows starts disciplined thread
  rw [atCall] at follows
  exact follows.1

/-- The invariant rule: what relates the events to the state at the start, and is
kept when a thread takes up a task and by every call that is allowed and
admitted, relates them throughout. -/
theorem Serves.invariant
    {post : ι → Except ε α → Ghost → Prop}
    (run : Serves exec tasks admits start events config)
    (starts : ∀ thread,
      (start.threads thread).Follows (protocol thread) (post thread) (protocol thread).initial)
    (disciplined : ∀ thread task, tasks thread task →
      task.Follows (protocol thread) (post thread) (protocol thread).initial)
    (holds : List (Event ι Result ε Env) → σ → Prop)
    (initially : holds [] start.state)
    (begins : ∀ events state thread, holds events state →
      holds (events ++ [.began thread]) state)
    (calls : ∀ events state thread op env,
      holds events state →
      (protocol thread).Allowed (memories protocol events thread) op →
      admits events state thread op env →
      holds (events ++ [.called ⟨thread, op, env, (exec env op state).1⟩])
        (exec env op state).2) :
    holds events config.state := by
  induction run with
  | start => exact initially
  | began earlier isTask inductionHypothesis => exact begins _ _ _ inductionHypothesis
  | called earlier atCall admitted inductionHypothesis =>
      exact calls _ _ _ _ _ inductionHypothesis (earlier.allowed starts disciplined atCall)
        admitted

/-- The invariant rule for what every call keeps, whoever makes it. -/
theorem Serves.kept
    (run : Serves exec tasks admits start events config)
    (holds : σ → Prop) (initially : holds start.state)
    (calls : ∀ events state thread op env, holds state →
      admits events state thread op env → holds (exec env op state).2) :
    holds config.state := by
  induction run with
  | start => exact initially
  | began earlier isTask inductionHypothesis => exact inductionHypothesis
  | called earlier atCall admitted inductionHypothesis =>
      exact calls _ _ _ _ _ inductionHypothesis admitted

end Rules

/-! ## Executable schedules -/

/-- What a schedule asks for next. -/
inductive Action (ι : Type) {Op : Type} (Result : Op → Type) (ε α Env : Type)
  /-- The thread takes up a task. -/
  | begin (thread : ι) (task : Program Result ε α)
  /-- The thread makes its next call. -/
  | call (thread : ι) (env : Env)

/-- Carry out a schedule. A call that the check refuses is passed over, and so is
a call of a thread that has none left. -/
def Config.serve
    (exec : Program.Executor Result ε σ Env)
    (check : List (Event ι Result ε Env) → σ → ι → Op → Env → Bool)
    (events : List (Event ι Result ε Env)) (config : Config ι Result ε α σ) :
    List (Action ι Result ε α Env) → List (Event ι Result ε Env) × Config ι Result ε α σ
  | [] => (events, config)
  | .begin thread task :: rest =>
      Config.serve exec check (events ++ [.began thread])
        { config with threads := Function.update config.threads thread task } rest
  | .call thread env :: rest =>
      match config.threads thread with
      | .call op next =>
          if check events config.state thread op env then
            Config.serve exec check
              (events ++ [.called ⟨thread, op, env, (exec env op config.state).1⟩])
              (config.afterCall exec thread op env next) rest
          else Config.serve exec check events config rest
      | _ => Config.serve exec check events config rest

/-- A schedule is a run. -/
theorem Config.serve_serves
    {exec : Program.Executor Result ε σ Env} {tasks : ι → Program Result ε α → Prop}
    {admits : List (Event ι Result ε Env) → σ → ι → Op → Env → Prop}
    {check : List (Event ι Result ε Env) → σ → ι → Op → Env → Bool}
    (sound : ∀ events state thread op env, check events state thread op env = true →
      admits events state thread op env)
    {start : Config ι Result ε α σ} (schedule : List (Action ι Result ε α Env))
    (areTasks : ∀ thread task, Action.begin thread task ∈ schedule → tasks thread task)
    {events : List (Event ι Result ε Env)} {config : Config ι Result ε α σ}
    (run : Serves exec tasks admits start events config) :
    Serves exec tasks admits start
      (config.serve exec check events schedule).1 (config.serve exec check events schedule).2 := by
  induction schedule generalizing events config with
  | nil => exact run
  | cons action rest inductionHypothesis =>
      have restTasks : ∀ thread task, Action.begin thread task ∈ rest → tasks thread task :=
        fun thread task member => areTasks thread task (List.mem_cons_of_mem _ member)
      cases action with
      | begin thread task =>
          have isTask : tasks thread task := areTasks thread task List.mem_cons_self
          exact inductionHypothesis restTasks (run.began isTask)
      | call thread env =>
          rw [Config.serve]
          split
          next op next atCall =>
            split
            next passed =>
              exact inductionHypothesis restTasks
                (run.called atCall (sound _ _ _ _ _ passed))
            next => exact inductionHypothesis restTasks run
          next => exact inductionHypothesis restTasks run

end Effects
end TootTok
