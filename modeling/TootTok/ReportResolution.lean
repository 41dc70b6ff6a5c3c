import TootTok.AuditTrail

/-!
# Reports

A report is open until an administrator resolves it. Two administrators who resolve the same
report at the same time do not both succeed.
-/

namespace TootTok

open Effects
open Relational (Table SerialTable)

variable {Url : Type}

/-- The deed is the resolution of this report. -/
def Deed.resolves (reportId : Int) : Deed → Bool
  | .resolved id => id = reportId
  | _ => false

/-- How often a report has been resolved. -/
def resolutions {ι : Type} (reportId : Int) (events : List (ServerEvent ι Url)) : Nat :=
  (deedsOf events).countP (Deed.resolves reportId)

/-- What a call adds to the resolutions of a report. -/
def AdminOp.resolutions (reportId : Int) (op : AdminOp Url) (outcome : Except Error op.Result) :
    Nat :=
  (op.deed outcome).toList.countP (Deed.resolves reportId)

namespace Reports

/-- The reports of this number are open while none was resolved, and resolved after one was. -/
structure Lifecycle (reportId : Int) (count : Nat) (table : ReportTable) : Prop where
  state : ∀ row ∈ table, (row.id : Int) = reportId →
    count = 0 ∧ row.state = .opened ∨ count = 1 ∧ row.state = .resolved
  exists_of_resolved : count ≠ 0 → ∃ row ∈ table, (row.id : Int) = reportId

variable {reportId : Int} {count : Nat} {table : ReportTable}

theorem Lifecycle.le_one (lifecycle : Lifecycle reportId count table) : count ≤ 1 := by
  by_cases none : count = 0
  · omega
  obtain ⟨row, stored, named⟩ := lifecycle.exists_of_resolved none
  rcases lifecycle.state row stored named with ⟨isCount, -⟩ | ⟨isCount, -⟩ <;> omega

/-- A new report has a new number and is open. -/
theorem Lifecycle.insert (lifecycle : Lifecycle reportId count table) (new : NewReport) :
    Lifecycle reportId count (table.insert new.row fun _ => rfl).2 where
  state row stored named := by
    rcases SerialTable.mem_of_mem_insert stored with old | rfl
    · exact lifecycle.state row old named
    refine .inl ⟨?_, rfl⟩
    by_contra resolved
    obtain ⟨other, isOther, sameName⟩ := lifecycle.exists_of_resolved resolved
    have fresh : other.id < table.next := table.bounded other isOther
    have same : ((new.row table.next).id : Int) = other.id := named.trans sameName.symm
    have isNext : (new.row table.next).id = table.next := rfl
    omega
  exists_of_resolved resolved := by
    obtain ⟨row, stored, named⟩ := lifecycle.exists_of_resolved resolved
    exact ⟨row, SerialTable.mem_insert_of_mem _ _ stored, named⟩

/-- A change that leaves the numbers and the states. -/
theorem Lifecycle.update (lifecycle : Lifecycle reportId count table)
    (condition : ReportRow → Bool) (change : ReportRow → ReportRow) (sameId : ∀ row, (change row).id = row.id)
    (keeps : Table.KeepsKeys ReportRow.Clash change)
    (sameState : ∀ row ∈ table, (row.id : Int) = reportId → condition row = true →
      (change row).state = row.state) :
    Lifecycle reportId count (table.update condition change sameId keeps) where
  state row stored named := by
    obtain ⟨old, isOld, rfl⟩ := SerialTable.mem_update.mp stored
    unfold Table.changeWhere at named ⊢
    split at named
    next holds =>
      rw [if_pos holds]
      rw [sameId] at named
      rw [sameState old isOld named holds]
      exact lifecycle.state old isOld named
    next holds =>
      rw [if_neg holds]
      exact lifecycle.state old isOld named
  exists_of_resolved resolved := by
    obtain ⟨row, stored, named⟩ := lifecycle.exists_of_resolved resolved
    obtain ⟨new, isNew, same⟩ := SerialTable.survives_update condition change sameId keeps stored
    exact ⟨new, isNew, by rw [same]; exact named⟩

theorem mem_resolve {id : Int} {note : String} {now : DateTime} {row : ReportRow} :
    row ∈ (Reports.resolve id note now table).2 ↔ ∃ old ∈ table,
      Table.changeWhere (ReportRow.isOpen id) (ReportRow.resolve note now) old = row :=
  List.mem_map

/-- The statement that resolves a report finds it open. -/
theorem Lifecycle.resolve (lifecycle : Lifecycle reportId count table) (id : Int) (note : String)
    (now : DateTime) :
    Lifecycle reportId
      (count + if id = reportId ∧ (Reports.resolve id note now table).1.isSome then 1 else 0)
      (Reports.resolve id note now table).2 := by
  have isOpen_iff (row : ReportRow) :
      ReportRow.isOpen id row = true ↔ (row.id : Int) = id ∧ row.state = .opened := by
    simp [ReportRow.isOpen]
  -- Another report, or none that is open, is left as it is.
  have unmoved (other : ∀ row ∈ table, (row.id : Int) = reportId →
      ReportRow.isOpen id row = false) :
      Lifecycle reportId count (Reports.resolve id note now table).2 :=
    lifecycle.update (ReportRow.isOpen id) (ReportRow.resolve note now) (fun _ => rfl)
      (ReportRow.keepsKeys_resolve note now) fun row stored named isOpen => by
        rw [other row stored named] at isOpen
        cases isOpen
  by_cases named : id = reportId
  case neg =>
    rw [if_neg fun resolves => named resolves.1]
    refine unmoved fun row _ isReport => ?_
    rw [← Bool.not_eq_true, isOpen_iff]
    exact fun isOpen => named (isOpen.1.symm.trans isReport)
  subst named
  have outcome : (Reports.resolve id note now table).1.isSome =
      (table.find? (ReportRow.isOpen id)).isSome := Option.isSome_map
  rw [outcome]
  cases found : table.find? (ReportRow.isOpen id) with
  | none =>
      rw [if_neg (by simp)]
      exact unmoved fun row stored _ =>
        Bool.eq_false_iff.mpr (Table.find?_eq_none.mp found row stored)
  | some row =>
      rw [if_pos (by simp)]
      have stored : row ∈ table := Table.mem_of_find?_eq_some found
      have isOpen := (isOpen_iff row).mp (Table.holds_of_find?_eq_some found)
      have isFirst : count = 0 := by
        rcases lifecycle.state row stored isOpen.1 with ⟨isZero, -⟩ | ⟨-, resolved⟩
        · exact isZero
        · rw [isOpen.2] at resolved
          cases resolved
      subst isFirst
      constructor
      · intro new isNew isId
        obtain ⟨old, isOld, rfl⟩ := mem_resolve.mp isNew
        unfold Table.changeWhere at isId ⊢
        split at isId
        next holds =>
          rw [if_pos holds]
          exact .inr ⟨rfl, rfl⟩
        next closed =>
          rcases lifecycle.state old isOld isId with ⟨-, opened⟩ | ⟨⟨⟩, -⟩
          exact (closed ((isOpen_iff old).mpr ⟨isId, opened⟩)).elim
      · intro _
        refine ⟨_, mem_resolve.mpr ⟨row, stored, rfl⟩, ?_⟩
        rw [Table.changeWhere, if_pos (Table.holds_of_find?_eq_some found)]
        exact isOpen.1

end Reports

/-- What a call does to a report. -/
theorem AdminOp.lifecycle_exec {reportId : Int} {count : Nat} (env : RegisterEnv Url)
    (op : AdminOp Url) {admin : Administration}
    (lifecycle : Reports.Lifecycle reportId count admin.reports) :
    Reports.Lifecycle reportId (count + op.resolutions reportId (exec env op admin).1)
      (exec env op admin).2.reports := by
  rcases exec_cases env op admin with ⟨error, failed⟩ | performed
  · rw [failed]
    cases op <;> exact lifecycle
  rw [performed]
  cases op with
  | base op =>
      show Reports.Lifecycle reportId count (cascade op _ _).reports
      unfold cascade
      split
      · split
        · exact lifecycle.update _ ReportRow.forget (fun _ => rfl) ReportRow.keepsKeys_forget
            fun _ _ _ _ => rfl
        · exact lifecycle
      · exact lifecycle
  | createReport new =>
      show Reports.Lifecycle reportId count (admin.createReport new).2.reports
      unfold Administration.createReport
      dsimp only
      split
      · exact ⟨lifecycle.state, lifecycle.exists_of_resolved⟩
      · exact lifecycle.insert new
  | resolveReport id note =>
      have resolved := lifecycle.resolve id note env.now
      show Reports.Lifecycle reportId
        (count + resolutions reportId (.resolveReport id note : AdminOp Url)
          (.ok (Reports.resolve id note env.now admin.reports).1))
        (Reports.resolve id note env.now admin.reports).2
      cases found : (Reports.resolve id note env.now admin.reports).1 with
      | none => simpa [found, resolutions, deed] using resolved
      | some now => simpa [found, resolutions, deed, Deed.resolves] using resolved
  | logAudit adminActorId entry =>
      show Reports.Lifecycle reportId count (admin.logAudit adminActorId entry).2.reports
      unfold Administration.logAudit
      split <;> exact lifecycle
  | setStatus id status =>
      show Reports.Lifecycle reportId (count + resolutions reportId
        (.setStatus id status : AdminOp Url) (.ok (Users.setStatus id status admin.users).1)) _
      cases (Users.setStatus id status admin.users).1 <;> exact lifecycle
  | suspend actorId =>
      show Reports.Lifecycle reportId (count + resolutions reportId
        (.suspend actorId : AdminOp Url) (.ok (Actors.suspend actorId env.now admin.actors).1)) _
      cases (Actors.suspend actorId env.now admin.actors).1 <;> exact lifecycle
  | _ => exact lifecycle

section Runs

variable [HashCrate] [TextStd] {ι : Type} [DecidableEq ι]

/-- However many administrators try to resolve a report, and however their requests
interleave: a report is resolved once at most, and it is in the state `resolved` exactly if it
was. A report that is filed later is like one that was open from the start. -/
theorem resolved_once (tasks : ι → ServerTask Url) {start : Administration} {reportId : Int}
    (isOpen : ∀ row ∈ start.reports, (row.id : Int) = reportId → row.state = .opened)
    {events : List (ServerEvent ι Url)}
    {config : Effects.Config ι (@AdminOp.Result Url) Error ServerAnswer Administration}
    (run : ServerRun tasks start events config) :
    resolutions reportId events ≤ 1 ∧
      ∀ row ∈ config.state.reports, (row.id : Int) = reportId →
        (row.state = .resolved ↔ resolutions reportId events = 1) := by
  have lifecycle : Reports.Lifecycle reportId (resolutions reportId events)
      config.state.reports := by
    refine run.invariant (fun events admin =>
      Reports.Lifecycle reportId (resolutions reportId events) admin.reports) ?_ ?_ ?_
    · exact ⟨fun row stored named => .inl ⟨rfl, isOpen row stored named⟩, fun none => absurd rfl none⟩
    · intro events admin thread lifecycle
      have same : resolutions reportId (events ++ [.began thread]) =
          resolutions reportId events := by
        simp [resolutions, deedsOf, trail, Event.entry]
      rw [same]
      exact lifecycle
    · intro events admin thread op env lifecycle _
      have counted : resolutions reportId
          (events ++ [.called ⟨thread, op, env, (AdminOp.exec env op admin).1⟩]) =
            resolutions reportId events +
              op.resolutions reportId (AdminOp.exec env op admin).1 := by
        unfold resolutions deedsOf AdminOp.resolutions
        rw [trail_append, List.map_append, List.countP_append]
        cases isDeed : op.deed (AdminOp.exec env op admin).1 <;>
          simp [trail, Event.entry, isDeed]
      rw [counted]
      exact op.lifecycle_exec env lifecycle
  refine ⟨lifecycle.le_one, fun row stored named => ?_⟩
  rcases lifecycle.state row stored named with ⟨isCount, state⟩ | ⟨isCount, state⟩
  · simp [isCount, state]
  · simp [isCount, state]

end Runs

namespace Sample

/-- Two administrators resolve the report at the same time. -/
theorem resolved_once_at_once :
    resolutions 1 threeAtOnce.1 ≤ 1 ∧
      ∀ row ∈ threeAtOnce.2.state.reports, (row.id : Int) = 1 →
        (row.state = .resolved ↔ resolutions 1 threeAtOnce.1 = 1) := by
  refine resolved_once adminTasks ?_ (takeOn_run adminTasks administration _)
  rintro row stored -
  obtain rfl := List.mem_singleton.mp stored
  rfl

end Sample

end TootTok
