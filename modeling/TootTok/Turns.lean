import TootTok.Worker

/-!
# Rules for routines

The calls of a turn, and the rules for programs that keep to a protocol about
them: what must hold before a part, when its routine goes on with the outcome of
the part whatever it is. No rule says anything of how a routine ends.
-/

namespace TootTok

open Effects

variable {Url α β : Type}

/-- The calls that a thread has made in its turn. -/
abbrev Calls (Url : Type) : Type :=
  List (Σ op : WorkerOp Url, Except Error op.Result)

/-- The turn has claimed the job, and done nothing else. -/
def Calls.JustClaimed (job : JobRow) (calls : Calls Url) : Prop :=
  ∃ worker, calls = [⟨.claimNextDue worker, .ok (some job)⟩]

/-- Looking at the clock leaves no trace. -/
def WorkerOp.noted : WorkerOp Url → Bool
  | .deadlinePassed => false
  | _ => true

/-- The protocol of threads that remember their turn. -/
abbrev turnProtocol (Allowed : Calls Url → WorkerOp Url → Prop) :
    Protocol (@WorkerOp.Result Url) Error (Calls Url) :=
  Protocol.recording WorkerOp.noted Allowed

namespace Routine

variable {Allowed : Calls Url → WorkerOp Url → Prop} {calls : Calls Url}

/-- The routine keeps to the protocol up to an end that satisfies `post`. -/
abbrev Reaches (Allowed : Calls Url → WorkerOp Url → Prop)
    (post : Except Error α → Calls Url → Prop) (routine : Routine Url α) (calls : Calls Url) :
    Prop :=
  routine.Follows (turnProtocol Allowed) post calls

/-- The routine keeps to the protocol, however it ends. -/
abbrev Keeps (Allowed : Calls Url → WorkerOp Url → Prop) (routine : Routine Url α)
    (calls : Calls Url) : Prop :=
  routine.Reaches Allowed (fun _ _ => True) calls

theorem Reaches.keeps {post : Except Error α → Calls Url → Prop} {routine : Routine Url α}
    (reaches : routine.Reaches Allowed post calls) : routine.Keeps Allowed calls :=
  reaches.mono fun _ _ _ => trivial

/-- No call of a turn is forgotten. -/
theorem Reaches.extends_from
    {post : Except Error α → Calls Url → Prop} {routine : Routine Url α} {now : Calls Url}
    (extended : calls <+: now) (reaches : routine.Reaches Allowed post now) :
    routine.Reaches Allowed (fun outcome final => post outcome final ∧ calls <+: final)
      now := by
  induction routine generalizing now with
  | done value => exact ⟨reaches, extended⟩
  | fail error => exact ⟨reaches, extended⟩
  | call op next inductionHypothesis =>
      refine ⟨reaches.1, fun outcome => inductionHypothesis outcome ?_ (reaches.2 outcome)⟩
      show calls <+: if op.noted then now ++ [⟨op, outcome⟩] else now
      split
      · exact extended.trans (List.prefix_append _ _)
      · exact extended

theorem Reaches.extends {post : Except Error α → Calls Url → Prop} {routine : Routine Url α}
    (reaches : routine.Reaches Allowed post calls) :
    routine.Reaches Allowed (fun outcome final => post outcome final ∧ calls <+: final)
      calls :=
  reaches.extends_from (List.prefix_refl _)

theorem Reaches.widen
    {Wider : Calls Url → WorkerOp Url → Prop} {post : Except Error α → Calls Url → Prop}
    {routine : Routine Url α} (reaches : routine.Reaches Allowed post calls)
    (widen : ∀ calls op, Allowed calls op → Wider calls op) :
    routine.Reaches Wider post calls := by
  induction routine generalizing calls with
  | done value => exact reaches
  | fail error => exact reaches
  | call op next inductionHypothesis =>
      exact ⟨widen calls op reaches.1, fun outcome =>
        inductionHypothesis outcome (reaches.2 outcome)⟩

/-! ### Operations -/

theorem reaches_ask
    (op : WorkerOp Url) (noted : op.noted = true)
    {post : Except Error op.Result → Calls Url → Prop} (allowed : Allowed calls op)
    (ends : ∀ outcome, post outcome (calls ++ [⟨op, outcome⟩])) :
    (ask op).Reaches Allowed post calls := by
  refine (Program.follows_perform post calls).mpr ⟨allowed, fun outcome => ?_⟩
  have after : (turnProtocol Allowed).after calls op outcome = calls ++ [⟨op, outcome⟩] :=
    if_pos noted
  rw [after]
  exact ends outcome

/-- An operation, and what follows its success. -/
theorem reaches_ask_then
    (op : WorkerOp Url) (noted : op.noted = true) {rest : op.Result → Routine Url β}
    {post : Except Error β → Calls Url → Prop} (allowed : Allowed calls op)
    (onError : ∀ error, post (.error error) (calls ++ [⟨op, .error error⟩]))
    (onSuccess : ∀ value, (rest value).Reaches Allowed post (calls ++ [⟨op, .ok value⟩])) :
    (ask op >>= rest).Reaches Allowed post calls := by
  refine (Program.follows_bind post _ rest calls).mpr ?_
  refine reaches_ask op noted allowed fun outcome => ?_
  cases outcome with
  | ok value => exact onSuccess value
  | error error => exact onError error

/-- A part, and what follows its success. -/
theorem reaches_then
    {part : Routine Url α} {rest : α → Routine Url β}
    {middle : Except Error α → Calls Url → Prop} {post : Except Error β → Calls Url → Prop}
    (reaches : part.Reaches Allowed middle calls)
    (onError : ∀ error final, middle (.error error) final → post (.error error) final)
    (onSuccess : ∀ value final, middle (.ok value) final →
      (rest value).Reaches Allowed post final) :
    (part >>= rest).Reaches Allowed post calls := by
  refine (Program.follows_bind post _ rest calls).mpr (reaches.mono fun outcome final ends => ?_)
  cases outcome with
  | ok value => exact onSuccess value final ends
  | error error => exact onError error final ends

/-! ### Caught parts -/

/-- A part whose outcome is caught, and what follows it unless it panicked. -/
theorem reaches_caught_then
    {part : Routine Url α} {rest : Except Error α → Routine Url β}
    {middle : Except Error α → Calls Url → Prop} {post : Except Error β → Calls Url → Prop}
    (reaches : part.Reaches Allowed middle calls)
    (panics : ∀ panic final, middle (.error (.panicked panic)) final →
      post (.error (.panicked panic)) final)
    (goes : ∀ outcome final, middle outcome final → (rest outcome).Reaches Allowed post final) :
    (part.caught >>= rest).Reaches Allowed post calls := by
  unfold caught
  refine (Program.follows_bind post _ rest calls).mpr ?_
  refine (Program.follows_bind _ _ _ calls).mpr ?_
  refine (Program.follows_attempt _ part calls).mpr (reaches.mono fun outcome final holds => ?_)
  rw [Program.thenFollows_ok]
  cases panicked : Handler.panicOf outcome with
  | some panic =>
      have same : outcome = .error (.panicked panic) := by
        unfold Handler.panicOf at panicked
        split at panicked
        · cases panicked
          rfl
        · cases panicked
      subst same
      exact panics panic final holds
  | none => exact goes outcome final holds

theorem keeps_caught_then
    {part : Routine Url α} {rest : Except Error α → Routine Url β}
    {middle : Except Error α → Calls Url → Prop}
    (reaches : part.Reaches Allowed middle calls)
    (goes : ∀ outcome final, middle outcome final → (rest outcome).Keeps Allowed final) :
    (part.caught >>= rest).Keeps Allowed calls :=
  reaches_caught_then reaches (fun _ _ _ => trivial) goes

/-- A part whose failure is passed over. -/
theorem reaches_discarded
    {part : Routine Url α} {holds : Calls Url → Prop}
    (reaches : part.Reaches Allowed (fun _ final => holds final) calls) :
    part.discarded.Reaches Allowed (fun _ final => holds final) calls :=
  reaches_caught_then reaches (fun _ _ ends => ends) fun _ _ ends => ends

/-- A part whose failure is passed over, and what follows it. -/
theorem keeps_discarded_then
    {part : Routine Url α} {rest : Unit → Routine Url β} {holds : Calls Url → Prop}
    (reaches : part.Reaches Allowed (fun _ final => holds final) calls)
    (goes : ∀ final, holds final → (rest ()).Keeps Allowed final) :
    (part.discarded >>= rest).Keeps Allowed calls :=
  reaches_then (reaches_discarded reaches) (fun _ _ _ => trivial) fun _ final ends =>
    goes final ends

/-- An operation whose outcome is caught, and what follows it. -/
theorem keeps_ask_then
    (op : WorkerOp Url) (noted : op.noted = true)
    {rest : Except Error op.Result → Routine Url β} (allowed : Allowed calls op)
    (goes : ∀ outcome, (rest outcome).Keeps Allowed (calls ++ [⟨op, outcome⟩])) :
    ((ask op).caught >>= rest).Keeps Allowed calls := by
  refine @keeps_caught_then _ _ _ _ calls (ask op) rest
    (fun outcome final => final = calls ++ [⟨op, outcome⟩]) ?_ ?_
  · exact reaches_ask op noted allowed fun _ => rfl
  · rintro outcome final rfl
    exact goes outcome

/-- An operation whose failure is passed over, and what follows it. -/
theorem keeps_discarded_ask_then
    (op : WorkerOp Url) (noted : op.noted = true) {rest : Unit → Routine Url β}
    (allowed : Allowed calls op)
    (goes : ∀ outcome, (rest ()).Keeps Allowed (calls ++ [⟨op, outcome⟩])) :
    ((ask op).discarded >>= rest).Keeps Allowed calls := by
  refine @keeps_discarded_then _ _ _ _ calls (ask op) rest
    (fun final => ∃ outcome, final = calls ++ [⟨op, outcome⟩]) ?_ ?_
  · exact reaches_ask op noted allowed fun outcome => ⟨outcome, rfl⟩
  · rintro final ⟨outcome, rfl⟩
    exact goes outcome

/-- A last operation whose failure is passed over. -/
theorem keeps_discarded (op : WorkerOp Url) (noted : op.noted = true)
    (allowed : Allowed calls op) : (ask op).discarded.Keeps Allowed calls :=
  keeps_ask_then op noted allowed fun _ => trivial

/-! ### Parts that make allowed calls only -/

theorem calls_caught
    {allowed : WorkerOp Url → Prop} {part : Routine Url α} (calls : part.Calls allowed) :
    part.caught.Calls allowed := by
  unfold caught
  refine calls.attempt.bind fun outcome => ?_
  cases Handler.panicOf outcome <;> trivial

theorem calls_discarded
    {allowed : WorkerOp Url → Prop} {part : Routine Url α} (calls : part.Calls allowed) :
    part.discarded.Calls allowed :=
  (calls_caught calls).bind fun _ => trivial

theorem calls_onKey
    {allowed : WorkerOp Url → Prop} {mediaDir key : String} {op : String → Routine Url Unit}
    (calls : ∀ path, (op path).Calls allowed) : (onKey mediaDir key op).Calls allowed := by
  unfold onKey
  split
  · exact calls _
  · trivial

/-! ### Handlers -/

@[simp] theorem ofHandler_query (op : Operation Url) :
    ofHandler (query op) = ask (.base op) := by
  unfold ofHandler query ask Program.perform
  rw [Program.embed]
  congr 1
  funext outcome
  cases outcome <;> rfl

@[simp] theorem ofHandler_bind (handler : Handler Url α) (rest : α → Handler Url β) :
    ofHandler (handler >>= rest) = ofHandler handler >>= fun value => ofHandler (rest value) :=
  Program.embed_bind _ _ handler rest

@[simp] theorem ofHandler_caught (part : Handler Url α) :
    ofHandler (Handler.caught part) = (ofHandler part).caught := by
  unfold Handler.caught ofHandler caught
  rw [Program.embed_bind, Program.embed_attempt]
  congr 1
  funext outcome
  unfold Handler.unlessPanicked
  cases Handler.panicOf outcome <;> rfl

@[simp] theorem ofHandler_discarded (part : Handler Url α) :
    ofHandler (Handler.discarded part) = (ofHandler part).discarded := by
  unfold Handler.discarded
  rw [ofHandler_bind, ofHandler_caught]
  rfl

/-- A handler whose queries are allowed whatever `holds` of the turn, and keep it. -/
theorem reaches_ofHandler
    {allowed : Operation Url → Prop} {handler : Handler Url α} (handlerCalls : handler.Calls allowed)
    (holds : Calls Url → Prop)
    (allows : ∀ calls op, holds calls → allowed op → Allowed calls (.base op))
    (kept : ∀ calls op outcome, holds calls → holds (calls ++ [⟨.base op, outcome⟩]))
    (now : holds calls) :
    (ofHandler handler).Reaches Allowed (fun _ final => holds final) calls := by
  have embedded : (ofHandler handler).Calls fun op => ∃ base, op = .base base ∧ allowed base :=
    Program.calls_embed (handlerCalls.mono fun op allows => ⟨op, rfl, allows⟩)
  refine Program.Calls.follows embedded holds ?_ ?_ now
  · rintro calls _ holdsNow ⟨op, rfl, allowedOp⟩
    exact allows calls op holdsNow allowedOp
  · rintro calls _ outcome holdsNow ⟨op, rfl, -⟩
    exact kept calls op outcome holdsNow

end Routine
end TootTok
