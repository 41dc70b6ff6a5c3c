import TootTok.Api
import TootTok.Backfill
import TootTok.Effects.Runs
import TootTok.LocalObjects

/-!
# A running instance

Everything that happens to the database of an instance, one event after the
other: boots and registrations, deliveries to the inbox, actors resolved on the
way, and what local users and background jobs do.
-/

namespace TootTok

open Effects
open UrlCrate

variable {Url : Type}

inductive Event (Url : Type)
  | boot (publicKeyPem privateKeyPem : String)
  | registration (username publicKeyPem privateKeyPem : String)
  /-- An activity whose signature has been verified. -/
  | inbound (activity : ApActivities Url)
  /-- An actor that the federation crate resolves by itself, for a signature. -/
  | resolution (url : Url)
  | backfill (actorId max : Nat)
  | follow (authId : Nat) (request : FollowRequest)
  | unfollow (authId targetId : Nat)
  | search (text : String)
  | upload
      (authId : Nat) (sha256Hash : String) (sizeBytes : Int) (caption : Option String)
  | announceClip (clipId : Nat)
  | deleteAccount (authId : Nat)

/-- A condition on the activity of an inbound event. -/
def Event.OnInbound (holds : ApActivities Url → Prop) : Event Url → Prop
  | .inbound activity => holds activity
  | _ => True

/-- Run a handler for the actor of a session. -/
def authenticated {α : Type} (authId : Nat) (body : ActorRow → Handler Url α) :
    Handler Url Unit := do
  match ← query (.fetchActorById authId) with
  | none => pure ()
  | some auth => do
      let _ ← body auth
      pure ()

variable [UrlCrate Url] [ChronoCrate]

/-- What an event runs. -/
def Event.program (config : Config) : Event Url → Handler Url Unit
  | .boot publicKeyPem privateKeyPem => do
      let _ ← initFederation config publicKeyPem privateKeyPem
      pure ()
  | .registration username publicKeyPem privateKeyPem => do
      let _ ← register config username publicKeyPem privateKeyPem
      pure ()
  | .inbound activity => activity.receive config.federationData
  | .resolution url => do
      let _ ← dereference config.federationDomain url
      pure ()
  | .backfill actorId max => do
      let _ ← backfillActorPosts actorId max
      pure ()
  | .follow authId request =>
      authenticated authId fun auth => apiFollow config.federationData auth request
  | .unfollow authId targetId =>
      authenticated authId fun auth => apiUnfollow config.federationData auth targetId
  | .search text => do
      let _ ← searchActors text
      pure ()
  | .upload authId sha256Hash sizeBytes caption =>
      authenticated authId fun auth => storeUpload auth sha256Hash sizeBytes caption
  | .announceClip clipId => enqueueClipCreate config.publicBaseUrl clipId
  | .deleteAccount authId => authenticated authId deleteMe

/-- An event and what the world answers to its operations. -/
structure Occurrence (Url : Type) where
  event : Event Url
  envs : Nat → Env Url

/-- The state after an event. -/
def step (config : Config) (db : Db) (occurrence : Occurrence Url) : Db :=
  ((occurrence.event.program config).run Operation.exec occurrence.envs db).2

variable (Url) in
/-- The states a new instance can get into. -/
def Reachable (config : Config) (db : Db) : Prop :=
  ∃ occurrences : List (Occurrence Url), Runs.after (step config) Db.empty occurrences = db

/-- An invariant of the empty database that every operation of an event keeps
holds in every reachable state. -/
theorem Reachable.invariant
    {config : Config} {invariant : Db → Prop}
    (initially : invariant Db.empty)
    (kept : ∀ db (occurrence : Occurrence Url), invariant db →
      invariant (step config db occurrence))
    {db : Db} (reachable : Reachable Url config db) : invariant db := by
  obtain ⟨occurrences, rfl⟩ := reachable
  refine Runs.invariant_after ?_ initially (Runs.EachStep.true _ _)
  exact fun state occurrence holds _ => kept state occurrence holds

/-- What a program ensures of an event holds of its step. -/
theorem step_of_ensures
    {config : Config} {db : Db} {occurrence : Occurrence Url}
    (allow : Env Url → Prop) (holds : Db → Prop)
    (allowed : ∀ index, allow (occurrence.envs index))
    (ensured : Program.Ensures Operation.exec allow (fun _ final => holds final)
      (occurrence.event.program config) db) :
    holds (step config db occurrence) :=
  ensured.run occurrence.envs allowed

/-- What a handler ensures holds after the delivery of its activity. -/
theorem step_inbound_of_ensures
    {config : Config} {db : Db} {activity : ApActivities Url} {envs : Nat → Env Url}
    (allow : Env Url → Prop) (holds : Db → Prop)
    (allowed : ∀ index, allow (envs index))
    (ensured : Program.Ensures Operation.exec allow (fun _ final => holds final)
      (activity.receive config.federationData) db) :
    holds (step config db ⟨.inbound activity, envs⟩) :=
  ensured.run envs allowed

namespace Sample

/-- An instance at `https://a`. -/
def config : Config where
  domain := "a"
  publicPort := none
  behindTls := true
  allowLoopback := false
  plainDomain := by
    have plain : ("a".toList.all fun char =>
        decide (char ∉ ['/', '?', '#', '@', '\\'])) = true := by decide +kernel
    exact fun char member => of_decide_eq_true (List.all_eq_true.mp plain char member)

/-- The document of an actor with nothing but a name. -/
def document (id username : String)
    (normal : (NormalUrl.parse id).isSome = true := by decide +kernel) :
    ApActor NormalUrl where
  kind := .person
  id := .ofText id normal
  preferredUsername := username
  name := none
  summary := none
  inbox := .ofText id normal
  outbox := none
  followers := none
  sharedInbox := none
  publicKeyPem := "key"

omit [ChronoCrate] in
theorem parse_bob : (NormalUrl.parse "https://b/bob").isSome = true := by decide

omit [ChronoCrate] in
theorem parse_bobsActivity : (NormalUrl.parse "https://b/1").isSome = true := by decide

def bob : ApActor NormalUrl := document "https://b/bob" "bob" parse_bob

/-- A world in which bob's server answers for bob. -/
def online : Env NormalUrl :=
  { Env.offline with
    fetchActor := fun url =>
      if asStr url = asStr bob.id then .ok bob else .error .failed }

/-- Alice registers, and bob is resolved. -/
def arrivals : List (Occurrence NormalUrl) :=
  [⟨.registration "alice" "key" "secret", fun _ => online⟩,
    ⟨.resolution bob.id, fun _ => online⟩]

end Sample

end TootTok
