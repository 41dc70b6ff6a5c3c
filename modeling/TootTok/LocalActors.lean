import TootTok.Frames

/-!
# Local actors

The rows of local actors have ids below the public base of the instance, and
no document of another instance is stored under such an id, so that federation
leaves the local rows alone. The one exception is the search: it stores
whatever a WebFinger answer points at.
-/

namespace TootTok

open Effects
open Relational (Table SerialTable)
open UrlCrate

variable {Url : Type}

/-! ## Local rows -/

/-- The columns of a local row that federation has to keep. -/
structure ActorRow.SameLocal (row kept : ActorRow) : Prop where
  id : kept.id = row.id
  apId : kept.apId = row.apId
  isLocal : kept.domain = none
  publicKeyPem : kept.publicKeyPem = row.publicKeyPem
  privateKeyPem : kept.privateKeyPem = row.privateKeyPem
  inboxUrl : kept.inboxUrl = row.inboxUrl
  outboxUrl : kept.outboxUrl = row.outboxUrl

theorem ActorRow.SameLocal.refl {row : ActorRow} (isLocal : row.domain = none) :
    row.SameLocal row :=
  ⟨rfl, rfl, isLocal, rfl, rfl, rfl, rfl⟩

theorem ActorRow.SameLocal.trans {first second third : ActorRow}
    (left : first.SameLocal second) (right : second.SameLocal third) :
    first.SameLocal third :=
  ⟨right.id.trans left.id, right.apId.trans left.apId, right.isLocal,
    right.publicKeyPem.trans left.publicKeyPem,
    right.privateKeyPem.trans left.privateKeyPem,
    right.inboxUrl.trans left.inboxUrl, right.outboxUrl.trans left.outboxUrl⟩

namespace Actors

/-- The ids of the local rows are among the given ones. -/
def LocalIds (isLocal : String → Prop) (table : ActorTable) : Prop :=
  ∀ row ∈ table, row.domain = none → isLocal row.apId

/-- Every local row is still there. -/
def KeepsLocal (before after : ActorTable) : Prop :=
  ∀ row ∈ before, row.domain = none → ∃ kept ∈ after, row.SameLocal kept

theorem KeepsLocal.refl (table : ActorTable) : KeepsLocal table table :=
  fun row stored isLocal => ⟨row, stored, .refl isLocal⟩

theorem KeepsLocal.trans {first second third : ActorTable}
    (left : KeepsLocal first second) (right : KeepsLocal second third) :
    KeepsLocal first third := by
  intro row stored isLocal
  obtain ⟨middle, middleStored, middleKept⟩ := left row stored isLocal
  obtain ⟨last, lastStored, lastKept⟩ := right middle middleStored middleKept.isLocal
  exact ⟨last, lastStored, middleKept.trans lastKept⟩

/-- A write that keeps the local rows, as long as their ids are the given ones. -/
def Preserves (isLocal : String → Prop) (before after : ActorTable) : Prop :=
  LocalIds isLocal before → LocalIds isLocal after ∧ KeepsLocal before after

theorem Preserves.refl (isLocal : String → Prop) (table : ActorTable) :
    Preserves isLocal table table :=
  fun localIds => ⟨localIds, .refl table⟩

theorem Preserves.trans {isLocal : String → Prop} {first second third : ActorTable}
    (left : Preserves isLocal first second) (right : Preserves isLocal second third) :
    Preserves isLocal first third := by
  intro localIds
  obtain ⟨middleIds, leftKeeps⟩ := left localIds
  obtain ⟨lastIds, rightKeeps⟩ := right middleIds
  exact ⟨lastIds, leftKeeps.trans rightKeeps⟩

variable {isLocal : String → Prop}

theorem preserves_create
    {new : NewActor} (newIsLocal : isLocal new.apId) (table : ActorTable) :
    Preserves isLocal table (create new table).2 := by
  intro localIds
  constructor
  · intro row stored rowIsLocal
    rcases SerialTable.mem_of_mem_insert stored with old | rfl
    · exact localIds row old rowIsLocal
    · exact newIsLocal
  · intro row stored rowIsLocal
    exact ⟨row, SerialTable.mem_insert_of_mem new.row (fun _ => rfl) stored, .refl rowIsLocal⟩

theorem preserves_insertInstanceActor
    {new : NewActor} (newIsLocal : isLocal new.apId) (table : ActorTable) :
    Preserves isLocal table (insertInstanceActor new table).2 := by
  unfold insertInstanceActor
  split
  · exact Preserves.refl isLocal table
  · exact preserves_create newIsLocal table

/-- A stored document makes no row local. -/
theorem localIds_upsertRemote
    {table : ActorTable} (localIds : LocalIds isLocal table) (parts : RemoteActorParts) :
    LocalIds isLocal (upsertRemote parts table).2 := by
  obtain ⟨-, -, -, -, -, mem⟩ := upsertRemote_spec parts table
  intro row stored rowIsLocal
  rcases (mem row).mp stored with ⟨old, oldStored, rfl⟩ | ⟨-, rfl⟩
  · unfold Table.changeWhere at rowIsLocal ⊢
    split at rowIsLocal
    next => cases rowIsLocal
    next other =>
      rw [if_neg other]
      exact localIds old oldStored rowIsLocal
  · cases rowIsLocal

/-- A row stored under an id that is not local leaves the local rows alone. -/
theorem preserves_upsertRemote
    {parts : RemoteActorParts} (notLocal : ¬isLocal parts.id) (table : ActorTable) :
    Preserves isLocal table (upsertRemote parts table).2 := by
  intro localIds
  obtain ⟨-, -, -, -, -, mem⟩ := upsertRemote_spec parts table
  refine ⟨localIds_upsertRemote localIds parts, ?_⟩
  · intro row stored rowIsLocal
    have other : row.apId ≠ parts.id :=
      fun same => notLocal (same ▸ localIds row stored rowIsLocal)
    refine ⟨row, (mem row).mpr (.inl ⟨row, stored, ?_⟩), .refl rowIsLocal⟩
    simp [Table.changeWhere, other]

theorem preserves_delete
    (condition : ActorRow → Bool) (now : DateTime) (table : ActorTable) :
    Preserves isLocal table (delete condition now table).2 := by
  have unmarked (row : ActorRow) :
      (Table.changeWhere condition (ActorRow.delete now) row).domain = row.domain ∧
        (Table.changeWhere condition (ActorRow.delete now) row).apId = row.apId := by
    unfold Table.changeWhere
    split <;> exact ⟨rfl, rfl⟩
  intro localIds
  constructor
  · intro row stored rowIsLocal
    obtain ⟨old, oldStored, rfl⟩ := mem_delete.mp stored
    rw [(unmarked old).1] at rowIsLocal
    rw [(unmarked old).2]
    exact localIds old oldStored rowIsLocal
  · intro row stored rowIsLocal
    refine ⟨_, mem_delete.mpr ⟨row, stored, rfl⟩, ?_⟩
    unfold Table.changeWhere
    split
    · exact ⟨rfl, rfl, rowIsLocal, rfl, rfl, rfl, rfl⟩
    · exact .refl rowIsLocal

end Actors

/-! ## Operations -/

namespace Operation

variable {isLocal : String → Prop}

/-- The operation creates rows under local ids only and stores documents under
other ids only. -/
def Spares (isLocal : String → Prop) : Operation Url → Prop
  | .createActor new | .insertInstanceActor new => isLocal new.apId
  | .upsertRemote parts => ¬isLocal parts.id
  | _ => True

theorem spares_of_writesOnly
    {names : List TableName} (others : .actors ∉ names)
    (op : Operation Url) (only : op.writesOnly names = true) : op.Spares isLocal := by
  have frame := writes_ne_of_writesOnly others op only
  cases op <;> trivial

theorem exec_preserves
    (env : Env Url) {op : Operation Url} (spares : op.Spares isLocal) (db : Db) :
    Actors.Preserves isLocal db.actors (exec env op db).2.actors := by
  rcases exec_cases env op db with ⟨error, failed⟩ | performed
  · rw [failed]
    exact .refl isLocal _
  · rw [performed]
    cases op with
    | createActor new => exact Actors.preserves_create spares _
    | insertInstanceActor new => exact Actors.preserves_insertInstanceActor spares _
    | upsertRemote parts => exact Actors.preserves_upsertRemote spares _
    | markActorDeleted id => exact Actors.preserves_delete _ _ _
    | markRemoteDeletedByApId apId => exact Actors.preserves_delete _ _ _
    | _ => exact .refl isLocal _

/-- The operation creates rows under local ids only. -/
def CreatesUnder (isLocal : String → Prop) : Operation Url → Prop
  | .createActor new | .insertInstanceActor new => isLocal new.apId
  | _ => True

theorem Spares.createsUnder {op : Operation Url} (spares : op.Spares isLocal) :
    op.CreatesUnder isLocal := by
  cases op <;> first | exact spares | trivial

theorem localIds_exec
    (env : Env Url) {op : Operation Url} (creates : op.CreatesUnder isLocal) {db : Db}
    (localIds : Actors.LocalIds isLocal db.actors) :
    Actors.LocalIds isLocal (exec env op db).2.actors := by
  by_cases spares : op.Spares isLocal
  · exact (exec_preserves env spares db localIds).1
  · rcases exec_cases env op db with ⟨error, failed⟩ | performed
    · rw [failed]
      exact localIds
    · rw [performed]
      cases op with
      | upsertRemote parts => exact Actors.localIds_upsertRemote localIds parts
      | createActor new => exact (spares creates).elim
      | insertInstanceActor new => exact (spares creates).elim
      | _ => exact (spares trivial).elim

end Operation

/-- A program of such operations keeps the local rows. -/
theorem Handler.ensures_preserves {α : Type}
    {allow : Env Url → Prop} {isLocal : String → Prop} {part : Handler Url α}
    (calls : part.Calls (Operation.Spares isLocal)) (db : Db) :
    Program.Ensures Operation.exec allow
      (fun _ final => Actors.Preserves isLocal db.actors final.actors) part db := by
  refine calls.ensures (fun before after => Actors.Preserves isLocal before.actors after.actors)
    ?_ ?_ ?_ db
  · exact fun state => .refl isLocal _
  · exact fun _ _ _ => .trans
  · exact fun env op state _ spares => Operation.exec_preserves env spares state

/-! ## Events -/

/-- The ids of the instance itself. -/
def Config.BelowBase (config : Config) (id : String) : Prop :=
  ∃ rest, id = config.publicBaseUrl ++ "/" ++ rest

section Events

variable [UrlCrate Url]

theorem Config.not_belowBase_of_not_local
    (config : Config) {url : Url} {id : String} (isUrl : id = asStr url)
    (notLocal : isLocalUrl url config.federationDomain = false) :
    ¬config.BelowBase id := by
  rintro ⟨rest, below⟩
  rw [isUrl] at below
  rw [config.isLocalUrl_below_base below] at notLocal
  cases notLocal

omit [UrlCrate Url] in
theorem spares_initFederation (config : Config) (publicKeyPem privateKeyPem : String) :
    (initFederation config publicKeyPem privateKeyPem : Handler Url ActorRow).Calls
      (Operation.Spares config.BelowBase) := by
  have below (new : NewActor) (isInstance : new.apId = config.publicBaseUrl ++ "/ap/actor") :
      config.BelowBase new.apId := by
    refine ⟨"ap/actor", ?_⟩
    rw [isInstance, String.append_assoc]
    rfl
  refine Handler.calls_caught_then (Handler.calls_query trivial) fun stored => ?_
  refine Handler.calls_query_then (below _ ?_) fun inserted => ?_
  · split <;> rfl
  · cases inserted with
    | some actor => trivial
    | none =>
        refine Handler.calls_query_then trivial fun found => ?_
        cases found <;> trivial

theorem Config.belowBase_userActor
    (config : Config) (username publicKeyPem privateKeyPem : String) :
    config.BelowBase (userActor config username publicKeyPem privateKeyPem).apId := by
  refine ⟨"users/" ++ username, ?_⟩
  have slash : "/" ++ ("users/" ++ username) = "/users/" ++ username := by
    rw [← String.append_assoc]
    rfl
  rw [String.append_assoc, slash, ← String.append_assoc]
  rfl

variable [ChronoCrate]

/-- Every event but a search leaves the local rows alone. -/
theorem spares_program
    (config : Config) {event : Event Url} (notSearch : ∀ text, event ≠ .search text) :
    (event.program config).Calls (Operation.Spares config.BelowBase) := by
  have spares {names : List Operation.TableName} (others : .actors ∉ names) :=
    @Operation.spares_of_writesOnly Url config.BelowBase names others
  have caches (parts : RemoteActorParts) (id : Url) (isId : parts.id = asStr id)
      (notLocal : isLocalUrl id config.federationDomain = false) :
      (Operation.upsertRemote parts : Operation Url).Spares config.BelowBase :=
    config.not_belowBase_of_not_local isId notLocal
  cases event with
  | boot publicKeyPem privateKeyPem =>
      exact (spares_initFederation config _ _).bind fun _ => trivial
  | registration username publicKeyPem privateKeyPem =>
      refine Program.Calls.bind (Handler.calls_query ?_) fun _ => trivial
      exact config.belowBase_userActor username publicKeyPem privateKeyPem
  | inbound activity =>
      rw [Event.program, ApActivities.receive_eq]
      refine calls_pipeline (spares (by decide)) _ _ _ _ ?_
      exact calls_work (spares (by decide)) (fun _ => trivial) caches activity
  | resolution url =>
      exact (calls_dereference (spares (by decide)) caches url).bind fun _ => trivial
  | backfill actorId max =>
      refine (calls_backfillActorPosts (fun op stores => ?_) actorId max).bind fun _ => trivial
      exact spares (by decide) op (Operation.writesOnly_of_storesRemote stores)
  | follow authId request =>
      refine calls_authenticated (spares (by decide)) authId fun auth => ?_
      exact calls_apiFollow (spares (by decide)) caches auth request
  | unfollow authId targetId =>
      refine calls_authenticated (spares (by decide)) authId fun auth => ?_
      exact calls_apiUnfollow (spares (by decide)) auth targetId
  | search text => exact (notSearch text rfl).elim
  | upload authId sha256Hash sizeBytes caption =>
      refine calls_authenticated (spares (by decide)) authId fun auth => ?_
      exact calls_storeUpload (spares (by decide)) auth _ _ _
  | announceClip clipId => exact calls_enqueueClipCreate (spares (by decide)) _ _
  | deleteAccount authId =>
      refine calls_authenticated (spares (by decide)) authId fun auth => ?_
      exact calls_deleteMe (spares (by decide)) (fun _ => trivial) auth

/-! ## The search -/

omit [UrlCrate Url] [ChronoCrate] in
/-- A caught query is one call, whose outcome the program goes on with. -/
theorem Handler.caught_query_then {β : Type}
    (op : Operation Url) (rest : Except Error op.Result → Handler Url β) :
    (query op).caught >>= rest =
      Program.call op fun outcome => Handler.unlessPanicked outcome >>= rest := by
  change Program.call op _ = Program.call op _
  congr 1
  funext outcome
  cases outcome <;> rfl

omit [UrlCrate Url] [ChronoCrate] in
theorem Handler.caught_call_then {α β : Type}
    (op : Operation Url) (next : Except Error op.Result → Handler Url α)
    (rest : Except Error α → Handler Url β) :
    Handler.caught (Program.call op next) >>= rest =
      Program.call op fun outcome => (next outcome).caught >>= rest := rfl

omit [ChronoCrate] in
/-- The profile that a WebFinger answer names for a handle. -/
def resolvedProfile (handle : String) (env : Env Url) : Option Url := do
  let (name, domain) ← parseRemoteHandle handle
  let url ← webfingerUrl name domain
  let body ← (env.getJson url).toOption
  match Json.Value.get "links" body with
  | some (.array links) => links.findSome? (selfLink url)
  | _ => none

omit [ChronoCrate] in
/-- Resolving a handle keeps the local rows if the profile is no local id. The
WebFinger answer is what its first operation sees. -/
theorem preserves_resolveRemoteActorByHandle {α : Type}
    {isLocal : String → Prop} {handle : String} {envs : Nat → Env Url}
    (spared : ∀ profile, resolvedProfile handle (envs 0) = some profile →
      ¬isLocal (asStr profile))
    {rest : Except Error (Option ActorRow) → Handler Url α}
    (restCalls : ∀ outcome, (rest outcome).Calls (Operation.Spares isLocal)) (db : Db) :
    Actors.Preserves isLocal db.actors
      (((resolveRemoteActorByHandle handle).caught >>= rest).run
        Operation.exec envs db).2.actors := by
  have quietly {part : Handler Url α} (calls : part.Calls (Operation.Spares isLocal))
      (envs : Nat → Env Url) :
      Actors.Preserves isLocal db.actors (part.run Operation.exec envs db).2.actors :=
    (@Handler.ensures_preserves _ _ (fun _ => True) _ _ calls db).run envs fun _ => trivial
  have givesUp : (((pure none : Handler Url (Option ActorRow)).caught >>= rest)).Calls
      (Operation.Spares isLocal) :=
    Handler.calls_caught_then trivial restCalls
  unfold resolveRemoteActorByHandle
  cases parsed : parseRemoteHandle handle with
  | none => exact quietly givesUp envs
  | some named =>
      obtain ⟨name, domain⟩ := named
      dsimp only
      cases asked : (webfingerUrl name domain : Option Url) with
      | none => exact quietly givesUp envs
      | some url =>
          dsimp only
          rw [Handler.caught_query_then, Handler.caught_call_then, Program.run]
          rcases Operation.exec_cases (envs 0) (.getJson url) db with
            ⟨error, failed⟩ | performed
          · rw [failed]
            refine quietly (Handler.calls_caught_then ?_ restCalls) _
            unfold Handler.unlessPanicked
            split <;> trivial
          · rw [performed]
            simp only [Operation.perform, Operation.requested]
            cases answer : (envs 0).getJson url with
            | error error => exact quietly givesUp _
            | ok body =>
                refine quietly (Handler.calls_caught_then ?_ restCalls) _
                simp only [Except.mapError, Handler.unlessPanicked, Handler.panicOf_ok,
                  Program.done_bind]
                split
                next links found =>
                  refine calls_followSelfLink
                    (Operation.spares_of_writesOnly List.not_mem_nil) ?_
                  intro profile parts named isProfile isLocalId
                  refine spared profile ?_ (isProfile ▸ isLocalId)
                  simp [resolvedProfile, parsed, asked, answer, Except.toOption, found, named]
                next => trivial

omit [ChronoCrate] in
/-- The profile that a search goes on to fetch, for a handle that no stored
actor matches. -/
def searchedProfile (db : Db) (text : String) (env : Env Url) : Option Url :=
  let q := trimmed text
  if q.length < 2 ∨ Actors.search (q ++ "%") db.actors ≠ [] ∨ '@' ∉ q.toList then none
  else resolvedProfile (String.ofList (q.toList.dropWhile (· = '@'))) env

/-- A search whose profile is not the id of a local row. The WebFinger answer
is what its second operation sees. -/
def SparesLocal (db : Db) (occurrence : Occurrence Url) : Prop :=
  ∀ text profile,
    occurrence.event = .search text →
    searchedProfile db text (occurrence.envs 1) = some profile →
    ∀ row ∈ db.actors, row.domain = none → row.apId ≠ asStr profile

omit [ChronoCrate] in
theorem preserves_searchActors
    {isLocal : String → Prop} {db : Db} {text : String} {envs : Nat → Env Url}
    (spared : ∀ profile, searchedProfile db text (envs 1) = some profile →
      ¬isLocal (asStr profile)) :
    Actors.Preserves isLocal db.actors
      ((searchActors text : Handler Url Response).run Operation.exec envs db).2.actors := by
  unfold searchActors
  dsimp only
  split
  · exact .refl isLocal _
  next long =>
    rw [Handler.caught_query_then, Program.run]
    rcases Operation.exec_cases (envs 0) (.searchActors (trimmed text ++ "%")) db with
      ⟨error, failed⟩ | performed
    · rw [failed]
      unfold Handler.unlessPanicked
      split <;> exact .refl isLocal _
    · rw [performed]
      simp only [Operation.perform, Handler.unlessPanicked, Handler.panicOf_ok,
        Program.done_bind]
      cases found : Actors.search (trimmed text ++ "%") db.actors with
      | cons row rows => exact .refl isLocal _
      | nil =>
          dsimp only
          split
          next isHandle =>
            refine preserves_resolveRemoteActorByHandle ?_ ?_ db
            · intro profile named
              refine spared profile ?_
              simpa [searchedProfile, long, found, isHandle] using named
            · intro outcome
              split <;> trivial
          next => exact .refl isLocal _

/-! ## Runs -/

/-- An event that spares the local rows keeps them. -/
theorem preserves_step
    {config : Config} {db : Db} {occurrence : Occurrence Url}
    (spares : SparesLocal db occurrence) :
    Actors.Preserves config.BelowBase db.actors (step config db occurrence).actors := by
  obtain ⟨event, envs⟩ := occurrence
  by_cases search : ∃ text, event = .search text
  · obtain ⟨text, rfl⟩ := search
    -- The ids that are local now remain the only local ones.
    have kept : Actors.Preserves
        (fun id => ∃ row ∈ db.actors, row.domain = none ∧ row.apId = id) db.actors
        (step config db ⟨.search text, envs⟩).actors := by
      unfold step Event.program
      simp only [Program.pure_eq_done]
      rw [Program.run_then_done]
      refine preserves_searchActors fun profile named => ?_
      rintro ⟨row, stored, isLocal, isProfile⟩
      exact spares text profile rfl named row stored isLocal isProfile
    intro localIds
    obtain ⟨stillLocal, keeps⟩ := kept fun row stored isLocal => ⟨row, stored, isLocal, rfl⟩
    refine ⟨fun row stored isLocal => ?_, keeps⟩
    obtain ⟨old, oldStored, oldIsLocal, sameId⟩ := stillLocal row stored isLocal
    exact sameId ▸ localIds old oldStored oldIsLocal
  · refine step_of_ensures (fun _ => True) (fun final =>
      Actors.Preserves config.BelowBase db.actors final.actors) (fun _ => trivial) ?_
    refine Handler.ensures_preserves (spares_program config ?_) db
    exact fun text isSearch => search ⟨text, isSearch⟩

-- Lest a search be run on an unknown text.
attribute [local irreducible] searchActors

/-- In every reachable state, the local rows have ids below the public base. -/
theorem localIds_of_reachable
    {config : Config} {db : Db} (reachable : Reachable Url config db) :
    Actors.LocalIds config.BelowBase db.actors := by
  have initially : Actors.LocalIds config.BelowBase Db.empty.actors :=
    fun row stored => (Table.not_mem_empty row stored).elim
  refine @Reachable.invariant _ _ _ _
    (fun state => Actors.LocalIds config.BelowBase state.actors) initially ?_ _ reachable
  rintro state ⟨event, envs⟩ localIds
  have creates : (event.program config).Calls (Operation.CreatesUnder config.BelowBase) := by
    by_cases search : ∃ text, event = .search text
    · obtain ⟨text, rfl⟩ := search
      refine Program.Calls.bind (calls_searchActors ?_ (fun _ => trivial) text) fun _ => trivial
      exact fun op only =>
        (Operation.spares_of_writesOnly List.not_mem_nil op only).createsUnder
    · refine (spares_program config fun text isSearch => search ⟨text, isSearch⟩).mono ?_
      exact fun _ => Operation.Spares.createsUnder
  refine step_of_ensures (fun _ => True) (fun final =>
    Actors.LocalIds config.BelowBase final.actors) (fun _ => trivial) ?_
  refine (creates.ensures (fun before after =>
    Actors.LocalIds config.BelowBase before.actors →
      Actors.LocalIds config.BelowBase after.actors)
    ?_ ?_ ?_ state).mono ?_
  · exact fun _ ids => ids
  · intro first second third left right ids
    exact right (left ids)
  · exact fun env op _ _ creates ids => Operation.localIds_exec env creates ids
  · exact fun _ _ kept => kept localIds

/-- Local actors are never overwritten. Along a run whose searches spare the
local rows, every row that is local at some point keeps its id, its keys, its
inbox and its outbox, and stays local. -/
theorem local_actors_kept
    (config : Config) (earlier later : List (Occurrence Url))
    (spared : Runs.EachStep (step config) SparesLocal Db.empty (earlier ++ later)) :
    Actors.KeepsLocal (Runs.after (step config) Db.empty earlier).actors
      (Runs.after (step config) Db.empty (earlier ++ later)).actors := by
  rw [Runs.eachStep_append] at spared
  have preserved {state : Db} {occurrences : List (Occurrence Url)}
      (each : Runs.EachStep (step config) SparesLocal state occurrences) :
      Actors.Preserves config.BelowBase state.actors
        (Runs.after (step config) state occurrences).actors :=
    Runs.related_after
      (fun before after => Actors.Preserves config.BelowBase before.actors after.actors)
      (fun _ => .refl _ _) (fun _ _ _ => .trans) (fun _ _ => preserves_step) each
  have belowBase : Actors.LocalIds config.BelowBase
      (Runs.after (step config) Db.empty earlier).actors :=
    (preserved spared.1 fun row stored => (Table.not_mem_empty row stored).elim).1
  rw [Runs.after_append]
  exact (preserved spared.2 belowBase).2

end Events

/-! ## A search that is answered with a local profile -/

section Sample

open Sample
open Json (Value)

/-- A WebFinger answer with one profile. -/
def Sample.webfinger (profile : String) : Value :=
  .object [("links", .array [.object [("rel", .string "self"), ("href", .string profile)]])]

/-- An actor document with nothing but the required members. -/
def Sample.profile (id : String) : Value :=
  .object [("id", .string id), ("inbox", .string id),
    ("publicKey", .object [("publicKeyPem", .string "key")])]

/-- A world in which every WebFinger answer names one profile, which exists. -/
def Sample.serving (id : String) : Env NormalUrl :=
  { Env.offline with
    getJson := fun url =>
      .ok (if asStr url = id then profile id else webfinger id) }

def Sample.registerAl : Occurrence NormalUrl :=
  ⟨.registration "al" "key" "secret", fun _ => .offline⟩

/-- Alice is kept while bob is searched for and found. -/
theorem al_kept_while_searching_bob :
    Actors.KeepsLocal (Runs.after (step Sample.config) Db.empty [Sample.registerAl]).actors
      (Runs.after (step Sample.config) Db.empty
        ([Sample.registerAl] ++
          [⟨.search "b@b", fun _ => Sample.serving "https://b/b"⟩])).actors := by
  refine local_actors_kept Sample.config [registerAl] [⟨.search "b@b", fun _ => serving "https://b/b"⟩]
    ⟨?_, ?_, trivial⟩
  · intro text profile isSearch
    cases isSearch
  · intro text profile isSearch named row stored isLocal
    cases isSearch
    have answer : (searchedProfile (step config Db.empty registerAl) "b@b"
        (serving "https://b/b")).map asStr = some "https://b/b" := by
      decide
    have ids : (step config Db.empty registerAl).actors.rows.map ActorRow.apId =
        ["https://a/users/al"] := by
      decide
    have isAl : row.apId ∈ ["https://a/users/al"] := ids ▸ List.mem_map_of_mem stored
    rw [List.mem_singleton.mp isAl]
    intro same
    rw [show searchedProfile _ _ _ = some profile from named, Option.map_some, ← same] at answer
    exact absurd answer (by decide)

/-- Alice's own instance answers for her handle. -/
def Sample.searchAl : Occurrence NormalUrl :=
  ⟨.search "al@a", fun _ => serving "https://a/users/al"⟩

/-- A search for a local handle turns the local actor into a remote one. -/
theorem al_overwritten_by_search :
    (Runs.after (step Sample.config) Db.empty [Sample.registerAl]).actors.rows.map
        (fun row => (row.id, row.domain)) = [(1, none)] ∧
      (Runs.after (step Sample.config) Db.empty
          ([Sample.registerAl] ++ [Sample.searchAl])).actors.rows.map
        (fun row => (row.id, row.domain)) = [(1, some "a")] ∧
      ¬Actors.KeepsLocal (Runs.after (step Sample.config) Db.empty [Sample.registerAl]).actors
        (Runs.after (step Sample.config) Db.empty
          ([Sample.registerAl] ++ [Sample.searchAl])).actors := by
  have before : (Runs.after (step config) Db.empty [registerAl]).actors.rows.map
      (fun row => (row.id, row.domain)) = [(1, none)] := by
    decide
  have after : (Runs.after (step config) Db.empty ([registerAl] ++ [searchAl])).actors.rows.map
      (fun row => (row.id, row.domain)) = [(1, some "a")] := by
    decide
  refine ⟨before, after, fun keeps => ?_⟩
  have stored : (1, none) ∈ (Runs.after (step config) Db.empty
      [registerAl]).actors.rows.map (fun row => (row.id, row.domain)) := by
    rw [before]
    exact List.mem_singleton_self _
  obtain ⟨row, rowStored, isAl⟩ := List.mem_map.mp stored
  obtain ⟨kept, keptStored, same⟩ := keeps row rowStored (congrArg Prod.snd isAl)
  have isRemote : (kept.id, kept.domain) ∈ [(1, some "a")] :=
    after ▸ List.mem_map_of_mem keptStored
  rw [same.isLocal, List.mem_singleton] at isRemote
  cases congrArg Prod.snd isRemote

end Sample

end TootTok
