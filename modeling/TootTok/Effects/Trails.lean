import Mathlib.Data.List.Induction
import Mathlib.Data.List.Perm.Subperm
import TootTok.Effects.Service

/-!
# Trails

What the calls of a run show, in the order in which they were made and with the threads
that made them. Two trails that agree thread by thread differ in their order only.
-/

namespace TootTok
namespace Effects

variable {Op : Type} {Result : Op → Type} {ε σ Env ι α δ : Type}

/-! ## Entries of a thread -/

section OfThread

variable [DecidableEq ι]

/-- What a trail has of one thread. -/
def ofThread (thread : ι) (trail : List (ι × δ)) : List δ :=
  trail.filterMap fun entry => if entry.1 = thread then some entry.2 else none

@[simp] theorem ofThread_nil (thread : ι) : ofThread thread ([] : List (ι × δ)) = [] := rfl

@[simp] theorem ofThread_append (thread : ι) (left right : List (ι × δ)) :
    ofThread thread (left ++ right) = ofThread thread left ++ ofThread thread right :=
  List.filterMap_append ..

theorem count_ofThread [DecidableEq δ] (entry : ι × δ) (trail : List (ι × δ)) :
    (ofThread entry.1 trail).count entry.2 = trail.count entry := by
  induction trail with
  | nil => rfl
  | cons first rest inductionHypothesis =>
      obtain ⟨thread, shown⟩ := first
      obtain ⟨other, wanted⟩ := entry
      unfold ofThread at inductionHypothesis ⊢
      by_cases same : thread = other
      · subst same
        simp [List.count_cons, inductionHypothesis, Prod.ext_iff]
      · simp [same, inductionHypothesis]

/-- A trail of which every thread has no more than of another is part of it. -/
theorem subperm_of_ofThread {left right : List (ι × δ)}
    (parts : ∀ thread, (ofThread thread left).Sublist (ofThread thread right)) :
    left.Subperm right := by
  classical
  refine List.subperm_ext_iff.mpr fun entry _ => ?_
  rw [← count_ofThread, ← count_ofThread]
  exact (parts entry.1).count_le entry.2

/-- Trails of which every thread has the same differ in their order only. -/
theorem perm_of_ofThread {left right : List (ι × δ)}
    (same : ∀ thread, ofThread thread left = ofThread thread right) : left.Perm right := by
  classical
  rw [List.perm_iff_count]
  intro entry
  rw [← count_ofThread, ← count_ofThread, same entry.1]

end OfThread

/-! ## The trail of a run -/

variable (shows : (op : Op) → Except ε (Result op) → Option δ)

/-- What an event shows. -/
def Event.entry : Event ι Result ε Env → Option (ι × δ)
  | .began _ => none
  | .called call => (shows call.op call.outcome).map fun shown => (call.thread, shown)

/-- What the calls of a run show. -/
def trail (events : List (Event ι Result ε Env)) : List (ι × δ) :=
  events.filterMap (Event.entry shows)

@[simp] theorem trail_nil : trail shows ([] : List (Event ι Result ε Env)) = [] := rfl

@[simp] theorem trail_append (left right : List (Event ι Result ε Env)) :
    trail shows (left ++ right) = trail shows left ++ trail shows right :=
  List.filterMap_append ..

/-- What noted calls show. -/
def shown (calls : List (Σ op : Op, Except ε (Result op))) : List δ :=
  calls.filterMap fun call => shows call.1 call.2

@[simp] theorem shown_nil : shown shows [] = [] := rfl

@[simp] theorem shown_append (left right : List (Σ op : Op, Except ε (Result op))) :
    shown shows (left ++ right) = shown shows left ++ shown shows right :=
  List.filterMap_append ..

theorem shown_singleton (op : Op) (outcome : Except ε (Result op)) :
    shown shows [⟨op, outcome⟩] = (shows op outcome).toList := by
  unfold shown
  cases isShown : shows op outcome <;> simp [isShown]

variable {shows}

/-- In a run in which every thread has one task, what a thread shows is what its noted calls
show. -/
theorem Serves.ofThread_trail [DecidableEq ι]
    {exec : Program.Executor Result ε σ Env}
    {admits : List (Event ι Result ε Env) → σ → ι → Op → Env → Prop}
    {start config : Config ι Result ε α σ} {events : List (Event ι Result ε Env)}
    (run : Serves exec (fun _ _ => False) admits start events config)
    {noted : Op → Bool} (notes : ∀ op outcome shown, shows op outcome = some shown →
      noted op = true)
    (thread : ι) :
    ofThread thread (trail shows events) = shown shows (callsOfTask noted events thread) := by
  induction run with
  | start => rfl
  | began _ isTask => exact isTask.elim
  | @called events config caller op env next earlier atCall admitted inductionHypothesis =>
      generalize (exec env op config.state).1 = outcome
      rw [trail_append, ofThread_append, inductionHypothesis]
      rcases callsOfTask_called_cases noted events caller thread op env outcome with
        ⟨same, silent⟩ | ⟨rfl, extended⟩
      · rw [same]
        cases isShown : shows op outcome with
        | none => simp [trail, Event.entry, isShown]
        | some entry =>
            have other : caller ≠ thread := by
              rintro rfl
              rw [notes op outcome entry isShown] at silent
              cases silent rfl
            simp [trail, Event.entry, isShown, ofThread, other]
      · rw [extended, shown_append, shown_singleton]
        cases isShown : shows op outcome <;> simp [trail, Event.entry, isShown, ofThread]

/-- What a task has shown is part of the trail. -/
theorem shown_callsOfTask_sublist [DecidableEq ι] (noted : Op → Bool)
    (events : List (Event ι Result ε Env)) (thread : ι) :
    (shown shows (callsOfTask noted events thread)).Sublist
      ((trail shows events).map Prod.snd) := by
  induction events using List.reverseRecOn with
  | nil => exact List.Sublist.refl _
  | append_singleton events event inductionHypothesis =>
      rw [trail_append, List.map_append]
      cases event with
      | began other =>
          rcases callsOfTask_began_cases noted events other thread with empty | same
          · rw [empty]
            exact List.nil_sublist _
          · rw [same]
            exact inductionHypothesis.trans (List.sublist_append_left _ _)
      | called call =>
          obtain ⟨caller, op, env, outcome⟩ := call
          rcases callsOfTask_called_cases noted events caller thread op env outcome with
            ⟨same, -⟩ | ⟨rfl, extended⟩
          · rw [same]
            exact inductionHypothesis.trans (List.sublist_append_left _ _)
          · rw [extended, shown_append, shown_singleton]
            have entry : (trail shows [.called ⟨thread, op, env, outcome⟩]).map Prod.snd =
                (shows op outcome).toList := by
              cases isShown : shows op outcome <;> simp [trail, Event.entry, isShown]
            rw [entry]
            exact inductionHypothesis.append (List.Sublist.refl _)

/-- What grows by what a call shows, grows by the trail. -/
theorem Serves.grows [DecidableEq ι] {exec : Program.Executor Result ε σ Env}
    {tasks : ι → Program Result ε α → Prop}
    {admits : List (Event ι Result ε Env) → σ → ι → Op → Env → Prop}
    {start config : Config ι Result ε α σ} {events : List (Event ι Result ε Env)}
    (run : Serves exec tasks admits start events config) (holdings : σ → List δ)
    (adds : ∀ env op state, holdings (exec env op state).2 =
      holdings state ++ (shows op (exec env op state).1).toList) :
    holdings config.state = holdings start.state ++ (trail shows events).map Prod.snd := by
  induction run with
  | start => exact (List.append_nil _).symm
  | @began events config thread task earlier isTask inductionHypothesis =>
      rw [trail_append, List.map_append, ← List.append_assoc]
      exact inductionHypothesis.trans (List.append_nil _).symm
  | @called events config thread op env next earlier atCall admitted inductionHypothesis =>
      rw [trail_append, List.map_append, ← List.append_assoc, ← inductionHypothesis]
      refine (adds env op config.state).trans (congrArg _ ?_)
      generalize (exec env op config.state).1 = outcome
      cases isShown : shows op outcome <;> simp [trail, Event.entry, isShown]

/-! ## The state of a run -/

/-- What an event does to the state. -/
def Event.apply (exec : Program.Executor Result ε σ Env) (state : σ) :
    Event ι Result ε Env → σ
  | .began _ => state
  | .called call => (exec call.env call.op state).2

/-- The state after some events. -/
def replay (exec : Program.Executor Result ε σ Env) (state : σ)
    (events : List (Event ι Result ε Env)) : σ :=
  events.foldl (Event.apply exec) state

theorem replay_append (exec : Program.Executor Result ε σ Env) (state : σ)
    (first second : List (Event ι Result ε Env)) :
    replay exec state (first ++ second) = replay exec (replay exec state first) second :=
  List.foldl_append ..

/-- What every call keeps is kept by a run. -/
theorem replay_keeps {exec : Program.Executor Result ε σ Env} (holds : σ → Prop)
    (kept : ∀ env op state, holds state → holds (exec env op state).2)
    (events : List (Event ι Result ε Env)) {state : σ} (initially : holds state) :
    holds (replay exec state events) := by
  induction events generalizing state with
  | nil => exact initially
  | cons event events inductionHypothesis =>
      cases event with
      | began thread => exact inductionHypothesis initially
      | called call => exact inductionHypothesis (kept call.env call.op state initially)

section Executed

variable [DecidableEq ι] {exec : Program.Executor Result ε σ Env}
  {tasks : ι → Program Result ε α → Prop}
  {admits : List (Event ι Result ε Env) → σ → ι → Op → Env → Prop}
  {start config : Config ι Result ε α σ} {events : List (Event ι Result ε Env)}

/-- The state that a run reaches is determined by its events. -/
theorem Serves.state_eq (run : Serves exec tasks admits start events config) :
    config.state = replay exec start.state events := by
  induction run with
  | start => rfl
  | began earlier isTask inductionHypothesis =>
      rw [replay_append, ← inductionHypothesis]
      rfl
  | called earlier atCall admitted inductionHypothesis =>
      rw [replay_append, ← inductionHypothesis]
      rfl

/-- A run up to some moment. -/
theorem Serves.moment {before after : List (Event ι Result ε Env)}
    (run : Serves exec tasks admits start (before ++ after) config) :
    ∃ earlier, Serves exec tasks admits start before earlier := by
  induction after using List.reverseRecOn generalizing config with
  | nil => exact ⟨config, by simpa using run⟩
  | append_singleton after event inductionHypothesis =>
      rw [← List.append_assoc] at run
      generalize isAll : before ++ after ++ [event] = all at run
      cases run with
      | start => simp at isAll
      | began earlier _ =>
          obtain ⟨same, -⟩ := List.append_inj' isAll rfl
          exact inductionHypothesis (same ▸ earlier)
      | called earlier _ _ =>
          obtain ⟨same, -⟩ := List.append_inj' isAll rfl
          exact inductionHypothesis (same ▸ earlier)

/-- A call that a task remembers, and did not at an earlier moment, has been executed since
then. -/
theorem Serves.executed_since {before after : List (Event ι Result ε Env)}
    (run : Serves exec tasks admits start (before ++ after) config)
    {noted : Op → Bool} {thread : ι} (none : callsOfTask noted before thread = []) {op : Op}
    {outcome : Except ε (Result op)}
    (member : ⟨op, outcome⟩ ∈ callsOfTask noted (before ++ after) thread) :
    ∃ middle rest env, after = middle ++ .called ⟨thread, op, env, outcome⟩ :: rest ∧
      (exec env op (replay exec start.state (before ++ middle))).1 = outcome := by
  induction after using List.reverseRecOn generalizing config with
  | nil =>
      rw [List.append_nil, none] at member
      cases member
  | append_singleton after event inductionHypothesis =>
      rw [← List.append_assoc] at run member
      generalize isAll : before ++ after ++ [event] = all at run member
      cases run with
      | start => cases member
      | began earlier _ =>
          obtain ⟨rfl, -⟩ := List.append_inj' isAll rfl
          obtain ⟨middle, rest, env, rfl, executed⟩ :=
            inductionHypothesis earlier (mem_callsOfTask_began member)
          exact ⟨middle, _, env, by rw [List.append_assoc, List.cons_append], executed⟩
      | @called _ config caller called env next earlier _ _ =>
          obtain ⟨rfl, same⟩ := List.append_inj' isAll rfl
          cases same
          rcases mem_callsOfTask_called member with remembered | ⟨rfl, same⟩
          · obtain ⟨middle, rest, env, rfl, executed⟩ := inductionHypothesis earlier remembered
            exact ⟨middle, _, env, by rw [List.append_assoc, List.cons_append], executed⟩
          · cases same
            exact ⟨after, [], env, by rw [earlier.state_eq], by rw [earlier.state_eq]⟩

/-- A call that a task remembers has been executed. -/
theorem Serves.executed (run : Serves exec tasks admits start events config)
    {noted : Op → Bool} {thread : ι} {op : Op} {outcome : Except ε (Result op)}
    (member : ⟨op, outcome⟩ ∈ callsOfTask noted events thread) :
    ∃ before after env, events = before ++ .called ⟨thread, op, env, outcome⟩ :: after ∧
      (exec env op (replay exec start.state before)).1 = outcome := by
  have ran : Serves exec tasks admits start ([] ++ events) config := run
  exact ran.executed_since rfl member

/-- The moment of a call. -/
theorem Serves.called_at {before after : List (Event ι Result ε Env)}
    {call : Call ι Result ε Env}
    (run : Serves exec tasks admits start (before ++ .called call :: after) config) :
    ∃ earlier next, Serves exec tasks admits start before earlier ∧
      earlier.threads call.thread = .call call.op next ∧
      call.outcome = (exec call.env call.op (replay exec start.state before)).1 := by
  rw [← List.singleton_append, ← List.append_assoc] at run
  obtain ⟨reached, ran⟩ := run.moment
  generalize isAll : before ++ [.called call] = all at ran
  cases ran with
  | start => simp at isAll
  | began earlier _ =>
      obtain ⟨-, same⟩ := List.append_inj' isAll rfl
      cases same
  | called earlier atCall _ =>
      obtain ⟨rfl, same⟩ := List.append_inj' isAll rfl
      cases same
      exact ⟨_, _, earlier, atCall, by rw [earlier.state_eq]⟩

/-- Every call of a run was allowed when it was made. -/
theorem Serves.allowed_of_called {Ghost : Type} {protocol : ι → Protocol Result ε Ghost}
    {post : ι → Except ε α → Ghost → Prop} {before after : List (Event ι Result ε Env)}
    {call : Call ι Result ε Env}
    (run : Serves exec tasks admits start (before ++ .called call :: after) config)
    (starts : ∀ thread,
      (start.threads thread).Follows (protocol thread) (post thread) (protocol thread).initial)
    (disciplined : ∀ thread task, tasks thread task →
      task.Follows (protocol thread) (post thread) (protocol thread).initial) :
    (protocol call.thread).Allowed (memories protocol before call.thread) call.op := by
  obtain ⟨earlier, next, reached, atCall, -⟩ := run.called_at
  exact reached.allowed starts disciplined atCall

end Executed

/-! ## Protocols about the same calls -/

section Recording

variable {noted : Op → Bool} {Allowed Other : List (Σ op : Op, Except ε (Result op)) → Op → Prop}
  {post : Except ε α → List (Σ op : Op, Except ε (Result op)) → Prop}
  {program : Program Result ε α} {calls : List (Σ op : Op, Except ε (Result op))}

/-- What keeps to two protocols about its calls keeps to both at once. -/
theorem Program.Follows.both
    (first : program.Follows (.recording noted Allowed) post calls)
    (second : program.Follows (.recording noted Other) (fun _ _ => True) calls) :
    program.Follows (.recording noted fun calls op => Allowed calls op ∧ Other calls op) post
      calls := by
  induction program generalizing calls with
  | done value => exact first
  | fail error => exact first
  | call op next inductionHypothesis =>
      exact ⟨⟨first.1, second.1⟩, fun outcome =>
        inductionHypothesis outcome (first.2 outcome) (second.2 outcome)⟩

/-- From one protocol about the calls to another, along what the calls keep. -/
theorem Program.Follows.within
    (follows : program.Follows (.recording noted Allowed) post calls)
    (keeps : List (Σ op : Op, Except ε (Result op)) → Prop)
    (allows : ∀ calls op, keeps calls → Allowed calls op → Other calls op)
    (kept : ∀ calls op outcome, keeps calls → Allowed calls op → keeps (calls ++ [⟨op, outcome⟩]))
    (holds : keeps calls) :
    program.Follows (.recording noted Other) post calls := by
  induction program generalizing calls with
  | done value => exact follows
  | fail error => exact follows
  | call op next inductionHypothesis =>
      refine ⟨allows calls op holds follows.1, fun outcome =>
        inductionHypothesis outcome (follows.2 outcome) ?_⟩
      show keeps (if noted op then calls ++ [⟨op, outcome⟩] else calls)
      split
      · exact kept calls op outcome holds follows.1
      · exact holds

end Recording

end Effects
end TootTok
