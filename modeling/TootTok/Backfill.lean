import TootTok.Inbox

/-!
# Backfill

Fetching the recent posts of a remote actor and ingesting them, on its own copy
of the path that an inbound `Create` takes.
-/

namespace TootTok

open Effects
open Json (Value)
open UrlCrate

variable {Url : Type} [UrlCrate Url] [ChronoCrate]

/-! ## The feed -/

def isCodeChar (char : Char) : Bool :=
  char.isAlphanum || char == '_' || char == '-' || char == '~'

/-- The code after each `/v/`, without duplicates. What an earlier code has
taken is skipped. -/
def videoLinksFrom : (skip : Nat) → List String → List Char → List String
  | _, found, [] => found
  | skip + 1, found, _ :: rest => videoLinksFrom skip found rest
  | 0, found, '/' :: 'v' :: '/' :: rest =>
      let code := rest.takeWhile isCodeChar
      let found :=
        if code.isEmpty ∨ String.ofList code ∈ found then found
        else found ++ [String.ofList code]
      videoLinksFrom (2 + code.length) found ('v' :: '/' :: rest)
  | 0, found, _ :: rest => videoLinksFrom 0 found rest

def extractVideoLinks (atomXml : String) : List String :=
  videoLinksFrom 0 [] atomXml.toList

/-- The feed of an actor with a numeric id below `users`. -/
def atomFeedUrl (actor : ActorRow) : Except Error (Option Url) :=
  match (parse actor.apId : Option Url) with
  | none => .error (.other "backfill: bad ap_id")
  | some ap =>
      if scheme ap ≠ "https" then .ok none
      else
        let segments := (pathSegments ap).getD []
        let id := segments.getLast?.getD ""
        if "users" ∉ segments ∨ id = "" ∨ !id.toList.all Sanitize.isAsciiDigit then
          .ok none
        else
          match (parse ("https://" ++ (hostStr ap).getD "" ++ "/feeds/" ++ id ++ ".atom") :
              Option Url) with
          | some feed => .ok (some feed)
          | none => .error (.other "backfill: bad feed url")

/-! ## Notes -/

/-- Ingest a fetched note for an actor. False when it is already known or is no
video note. -/
def ingestFetched (actor : ActorRow) (note : Value) : Handler Url Bool := do
  match ← Handler.ofPanicking (Note.parseInboundNote note) with
  | .error _ => pure false
  | .ok parsed =>
      if parsed.attributedTo ≠ actor.apId then
        .fail (.other "backfill: note attributedTo does not match actor")
      else
        storeClip parsed actor.id

/-- Resolve a code to its note and ingest it. -/
def fetchAndIngestOne (actor : ActorRow) (code : String) : Handler Url Bool := do
  let url ← Handler.ofOption (.other "backfill: bad shortcode url")
    (parse ("https://loops.video/v/" ++ code) : Option Url)
  let note ← query (.getJson url)
  ingestFetched actor note

/-- Ingest one code after the other; a failed one is skipped. Counts the new
clips. -/
def ingestAll (actor : ActorRow) : List String → Handler Url Nat
  | [] => pure 0
  | code :: codes => do
      let outcome ← Handler.caught (fetchAndIngestOne actor code)
      let created ← ingestAll actor codes
      match outcome with
      | .ok true => pure (created + 1)
      | _ => pure created

/-- Backfill up to `max` recent posts of a remote actor. -/
def backfillActorPosts (actorId max : Nat) : Handler Url Nat := do
  match ← query (.fetchActorById actorId) with
  | none => .fail (.other "backfill: actor not found")
  | some actor =>
      if actor.domain = none then
        .fail (.other "backfill: actor is local")
      else
        match (atomFeedUrl actor : Except Error (Option Url)) with
        | .error error => .fail error
        | .ok none => pure 0
        | .ok (some feed) => do
            let body ← query (.getText feed)
            ingestAll actor ((extractVideoLinks body).take max)

example :
    extractVideoLinks "<a href=\"/v/hAz\"/><a href=\"/v/hAz\"/><a href=\"/v/xY9_-z\"/>" =
      ["hAz", "xY9_-z"] := by
  decide +kernel

end TootTok
