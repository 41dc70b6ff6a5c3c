import TootTok.Effects.Service
import TootTok.Egress
import Mathlib.Data.List.Sort

/-!
# The egress guard

Outgoing requests connect to an address that was validated and pinned before. The pins
and the clients built with them are kept for later requests, which may run at the same
time, while the answers of the name servers change. Every address that is handed out or
kept is one that the policy permits.
-/

namespace TootTok
namespace Egress

open Effects
open UrlCrate

/-! ## Preferred addresses -/

/-- Globally routable, at best effort. -/
def isGlobal : IpAddr → Bool
  | .v4 ip =>
      !(ip.isUnspecified || ip.isLoopback || ip.isPrivate || ip.isLinkLocal ||
        ip.isMulticast || ip.isBroadcast ||
        (ip.a == 100 && ip.b &&& 0b11000000 == 0b01000000) || 224 ≤ ip.a)
  | .v6 ip => ip.isGlobalUnicast && !ip.isUnicastLinkLocal && !ip.isUniqueLocal

def IpAddr.isIpv4 : IpAddr → Bool
  | .v4 _ => true
  | .v6 _ => false

/-- The sort key `(!is_global, !is_ipv4)` as a number. -/
def sortKey (ip : IpAddr) : Nat :=
  2 * (!isGlobal ip).toNat + (!ip.isIpv4).toNat

/-- Global addresses first, then IPv4 before IPv6; otherwise the order of the answer. -/
def preferred (resolved : List IpAddr) : List IpAddr :=
  resolved.mergeSort fun left right => sortKey left ≤ sortKey right

theorem mem_preferred {resolved : List IpAddr} {ip : IpAddr} :
    ip ∈ preferred resolved ↔ ip ∈ resolved :=
  List.mem_mergeSort

/-! ## The guard -/

structure SocketAddr where
  ip : IpAddr
  port : UInt16
deriving DecidableEq

/-- A host and a port. -/
abbrev Key : Type := String × UInt16

/-- A client whose connections to a host go to one address. -/
structure Client where
  host : String
  addr : SocketAddr
deriving DecidableEq

inductive EgressError
  | noHost
  | resolutionFailed (host : String)
  | blockedAddress (ip : Option IpAddr) (host : String)
  | schemeNotAllowed (scheme : String)
  | clientBuild
  | lookup
deriving DecidableEq

/-- What the guard was configured with. -/
structure EgressGuard where
  allowLoopback : Bool
  allowHttp : Bool

/-- `EgressGuard::new`. Plain http is for loopback peers. -/
def EgressGuard.new (allowLoopback : Bool) : EgressGuard where
  allowLoopback := allowLoopback
  allowHttp := allowLoopback

/-- The two maps of a guard. -/
structure Caches where
  pinned : Key → Option SocketAddr
  clients : Key → Option Client

def Caches.empty : Caches where
  pinned _ := none
  clients _ := none

/-- The `url` crate as far as the guard uses it: also whether a host is an address
literal. -/
class HostCrate (Url : Type) extends UrlCrate Url where
  literal : Url → Option IpAddr

variable {Url : Type} [HostCrate Url]

def EgressGuard.Allows (guard : EgressGuard) (url : Url) : Prop :=
  scheme url = "https" ∨ (scheme url = "http" ∧ guard.allowHttp = true)

instance (guard : EgressGuard) (url : Url) : Decidable (guard.Allows url) := by
  unfold EgressGuard.Allows
  infer_instance

/-- The port of the URL, or the default one of its scheme. -/
def effectivePort (url : Url) : UInt16 :=
  (port url).getD (if scheme url = "https" then 443 else 80)

/-! ## Operations -/

/-- One access to the maps, the name servers or the client builder. -/
inductive EgressOp
  | getPinned (key : Key)
  | lookupHost (key : Key)
  | insertPinned (key : Key) (addr : SocketAddr)
  | getClient (key : Key)
  | buildClient (host : String) (addr : SocketAddr)
  | insertClient (key : Key) (client : Client)

/-- What the outside world answers to one operation. -/
structure EgressEnv where
  /-- `none` is a failed lookup. -/
  answer : Option (List IpAddr)
  /-- The client builder succeeds. -/
  builds : Bool

namespace EgressOp

@[reducible] def Result : EgressOp → Type
  | .getPinned _ => Option SocketAddr
  | .lookupHost _ => List IpAddr
  | .insertPinned _ _ => Unit
  | .getClient _ => Option Client
  | .buildClient _ _ => Client
  | .insertClient _ _ => Unit

def exec : Program.Executor Result EgressError Caches EgressEnv
  | _, .getPinned key, caches => (.ok (caches.pinned key), caches)
  | env, .lookupHost _, caches =>
      match env.answer with
      | some addresses => (.ok addresses, caches)
      | none => (.error .lookup, caches)
  | _, .insertPinned key addr, caches =>
      (.ok (), { caches with pinned := Function.update caches.pinned key (some addr) })
  | _, .getClient key, caches => (.ok (caches.clients key), caches)
  | env, .buildClient host addr, caches =>
      if env.builds then (.ok ⟨host, addr⟩, caches) else (.error .clientBuild, caches)
  | _, .insertClient key client, caches =>
      (.ok (), { caches with clients := Function.update caches.clients key (some client) })

end EgressOp

abbrev Guarded (α : Type) : Type := Program EgressOp.Result EgressError α

/-- One operation, whose failure is passed on. -/
abbrev Guarded.ask (op : EgressOp) : Guarded op.Result := Program.perform op

open Guarded (ask)

/-- The addresses of a host: the literal itself, or what the name servers answer. -/
def resolve (url : Url) (key : Key) : Guarded (List IpAddr) :=
  match HostCrate.literal url with
  | some ip => .done [ip]
  | none => ask (.lookupHost key)

/-- Pin the best address that is not blocked. -/
def pinFirst (guard : EgressGuard) (key : Key) (resolved : List IpAddr) :
    Guarded SocketAddr := do
  if resolved.isEmpty then .fail (.resolutionFailed key.1)
  else
    match (preferred resolved).find? fun ip => !ipIsBlocked ip guard.allowLoopback with
    | some ip => do
        ask (.insertPinned key ⟨ip, key.2⟩)
        return ⟨ip, key.2⟩
    | none => .fail (.blockedAddress (preferred resolved).head? key.1)

/-- `EgressGuard::validate_and_pin`. -/
def validateAndPin (guard : EgressGuard) (url : Url) : Guarded SocketAddr :=
  if guard.Allows url then
    match hostStr url with
    | none => .fail .noHost
    | some host => do
        let key := (host, effectivePort url)
        match ← ask (.getPinned key) with
        | some pinned => return pinned
        | none => pinFirst guard key (← resolve url key)
  else .fail (.schemeNotAllowed (scheme url))

/-- `EgressGuard::client_for`. -/
def clientFor (guard : EgressGuard) (url : Url) : Guarded Client := do
  let addr ← validateAndPin guard url
  match hostStr url with
  | none => .fail .noHost
  | some host => do
      let key := (host, effectivePort url)
      match ← ask (.getClient key) with
      | some client => return client
      | none => do
          let client : Client ← ask (.buildClient host addr)
          ask (.insertClient key client)
          return client

/-! ## Runs -/

/-- A call of the guard. -/
inductive EgressCall (Url : Type)
  | validateAndPin (url : Url)
  | clientFor (url : Url)

/-- What a call hands out. -/
inductive EgressResult
  | address (addr : SocketAddr)
  | client (client : Client)

namespace EgressCall

def url : EgressCall Url → Url
  | .validateAndPin url | .clientFor url => url

def program (guard : EgressGuard) : EgressCall Url → Guarded EgressResult
  | .validateAndPin url => Egress.validateAndPin guard url >>= fun addr => return .address addr
  | .clientFor url => Egress.clientFor guard url >>= fun client => return .client client

end EgressCall

/-- The address of a result. -/
def EgressResult.addr : EgressResult → SocketAddr
  | .address addr => addr
  | .client built => built.addr

/-- What the policy of a guard permits on a port. -/
def EgressGuard.Permits (guard : EgressGuard) (port : UInt16) (addr : SocketAddr) : Prop :=
  ipIsBlocked addr.ip guard.allowLoopback = false ∧ addr.port = port

/-- A call asks about its own host, for an allowed scheme, and keeps permitted
addresses only. -/
def OpAllowed (guard : EgressGuard) (url : Url) (op : EgressOp) : Prop :=
  guard.Allows url ∧
    match op with
    | .getPinned key | .lookupHost key | .getClient key => key.2 = effectivePort url
    | .insertPinned key addr => key.2 = effectivePort url ∧ guard.Permits key.2 addr
    | .insertClient key client => key.2 = effectivePort url ∧ guard.Permits key.2 client.addr
    | .buildClient _ addr => guard.Permits (effectivePort url) addr

/-- What the maps return is permitted, and a client is built as it is asked for. -/
def OutcomeAllowed (guard : EgressGuard) :
    (op : EgressOp) → Except EgressError op.Result → Prop
  | .getPinned key, .ok (some addr) => guard.Permits key.2 addr
  | .getClient key, .ok (some client) => guard.Permits key.2 client.addr
  | .buildClient _ addr, .ok client => client.addr = addr
  | _, _ => True

/-- A call relies on the maps: as long as these have returned permitted addresses only,
so does the call. -/
def egressProtocol (guard : EgressGuard) (url : Url) :
    Protocol EgressOp.Result EgressError Prop where
  initial := True
  Allowed relied op := relied → OpAllowed guard url op
  after relied op outcome := relied ∧ OutcomeAllowed guard op outcome

/-- A permitted address, of a URL whose scheme is allowed. -/
def ResultAllowed (guard : EgressGuard) (url : Url) (addr : SocketAddr) : Prop :=
  guard.Allows url ∧ guard.Permits (effectivePort url) addr

section Calls

variable {guard : EgressGuard} {url : Url} {relied : Prop}

theorem pinFirst_follows {key : Key} {resolved : List IpAddr}
    (allowed : relied → guard.Allows url) (port : key.2 = effectivePort url) :
    (pinFirst guard key resolved).Follows (egressProtocol guard url)
      (fun outcome relied => relied → ∀ addr, outcome = .ok addr →
        ResultAllowed guard url addr) relied := by
  unfold pinFirst
  split
  · rintro _ _ ⟨⟩
  cases found : (preferred resolved).find? fun ip => !ipIsBlocked ip guard.allowLoopback with
  | none => rintro _ _ ⟨⟩
  | some ip =>
      have open_ : ipIsBlocked ip guard.allowLoopback = false := by
        have unblocked := List.find?_some found
        exact Bool.not_eq_true' _ |>.mp unblocked
      refine ⟨fun holds => ⟨allowed holds, port, open_, rfl⟩, ?_⟩
      rintro (error | _)
      · rintro _ _ ⟨⟩
      · rintro ⟨holds, -⟩ _ ⟨⟩
        exact ⟨allowed holds, open_, port⟩

theorem validateAndPin_follows :
    (validateAndPin guard url).Follows (egressProtocol guard url)
      (fun outcome relied => relied → ∀ addr, outcome = .ok addr →
        ResultAllowed guard url addr) relied := by
  unfold validateAndPin
  split
  case isFalse => rintro _ _ ⟨⟩
  next allowed =>
    cases hostStr url with
    | none => rintro _ _ ⟨⟩
    | some host =>
        refine ⟨fun _ => ⟨allowed, rfl⟩, ?_⟩
        rintro (error | _ | pinned)
        · rintro _ _ ⟨⟩
        · dsimp only
          unfold resolve
          cases HostCrate.literal url with
          | some ip =>
              change (pinFirst guard (host, effectivePort url) [ip]).Follows _ _ _
              exact pinFirst_follows (fun _ => allowed) rfl
          | none =>
              refine ⟨fun _ => ⟨allowed, rfl⟩, ?_⟩
              rintro (error | resolved)
              · rintro _ _ ⟨⟩
              · change (pinFirst guard (host, effectivePort url) resolved).Follows _ _ _
                exact pinFirst_follows (fun _ => allowed) rfl
        · rintro ⟨-, permitted⟩ _ ⟨⟩
          exact ⟨allowed, permitted⟩

theorem clientFor_follows :
    (clientFor guard url).Follows (egressProtocol guard url)
      (fun outcome relied => relied → ∀ client, outcome = .ok client →
        ResultAllowed guard url client.addr) relied := by
  unfold clientFor
  rw [Program.follows_bind]
  refine validateAndPin_follows.mono ?_
  rintro (error | addr) relied pinned
  · rintro _ _ ⟨⟩
  dsimp only [Program.thenFollows_ok]
  cases hostStr url with
  | none => rintro _ _ ⟨⟩
  | some host =>
      refine ⟨fun holds => ⟨(pinned holds addr rfl).1, rfl⟩, ?_⟩
      rintro (error | _ | client)
      · rintro _ _ ⟨⟩
      · refine ⟨fun holds => pinned holds.1 addr rfl, ?_⟩
        rintro (error | client)
        · rintro _ _ ⟨⟩
        · have permitted (holds : (relied ∧ True) ∧ client.addr = addr) :
              ResultAllowed guard url client.addr :=
            holds.2 ▸ pinned holds.1.1 addr rfl
          refine ⟨fun holds => ⟨(permitted holds).1, rfl, (permitted holds).2⟩, ?_⟩
          rintro (error | _)
          · rintro _ _ ⟨⟩
          · rintro ⟨holds, -⟩ _ ⟨⟩
            exact permitted holds
      · rintro ⟨holds, permitted⟩ _ ⟨⟩
        exact ⟨(pinned holds addr rfl).1, permitted⟩

theorem EgressCall.follows (call : EgressCall Url) :
    (call.program guard).Follows (egressProtocol guard call.url)
      (fun outcome relied => relied → ∀ result, outcome = .ok result →
        ResultAllowed guard call.url result.addr)
      True := by
  cases call with
  | validateAndPin url =>
      refine (Program.follows_bind _ _ _ _).mpr (validateAndPin_follows.mono ?_)
      rintro (error | addr) relied pinned
      · rintro _ _ ⟨⟩
      · rintro holds _ ⟨⟩
        exact pinned holds addr rfl
  | clientFor url =>
      refine (Program.follows_bind _ _ _ _).mpr (clientFor_follows.mono ?_)
      rintro (error | client) relied built
      · rintro _ _ ⟨⟩
      · rintro holds _ ⟨⟩
        exact built holds client rfl

end Calls

section Runs

variable {ι : Type} [DecidableEq ι] {guard : EgressGuard} {requests : ι → EgressCall Url}

/-- What happens in a run. -/
abbrev EgressEvent (ι : Type) : Type :=
  Effects.Event ι EgressOp.Result EgressError EgressEnv

/-- The calls of a guard before their first operation, and its maps. -/
def EgressGuard.calls (guard : EgressGuard) (requests : ι → EgressCall Url) (caches : Caches) :
    Config ι EgressOp.Result EgressError EgressResult Caches where
  state := caches
  threads index := (requests index).program guard

/-- The interleaved runs of any number of calls, whatever the name servers answer. -/
abbrev EgressRun (guard : EgressGuard) (requests : ι → EgressCall Url) (caches : Caches)
    (events : List (EgressEvent ι))
    (config : Config ι EgressOp.Result EgressError EgressResult Caches) : Prop :=
  Serves EgressOp.exec (fun _ _ => False) (fun _ _ _ _ _ => True)
    (guard.calls requests caches) events config

/-- Every address that is kept is permitted on the port it is kept for. -/
structure Caches.Permitted (guard : EgressGuard) (caches : Caches) : Prop where
  pinned : ∀ key addr, caches.pinned key = some addr → guard.Permits key.2 addr
  clients : ∀ key client, caches.clients key = some client → guard.Permits key.2 client.addr

theorem Caches.permitted_empty : Caches.empty.Permitted guard where
  pinned := by rintro _ _ ⟨⟩
  clients := by rintro _ _ ⟨⟩

variable {caches : Caches} {op : EgressOp} {env : EgressEnv} {url : Url}

/-- An allowed operation returns permitted addresses and keeps no others. -/
theorem Caches.Permitted.exec (permitted : caches.Permitted guard)
    (allowed : OpAllowed guard url op) :
    OutcomeAllowed guard op (EgressOp.exec env op caches).1 ∧
      (EgressOp.exec env op caches).2.Permitted guard := by
  cases op with
  | getPinned key =>
      refine ⟨?_, permitted⟩
      change OutcomeAllowed guard (.getPinned key) (.ok (caches.pinned key))
      cases kept : caches.pinned key with
      | none => trivial
      | some addr => exact permitted.pinned key addr kept
  | getClient key =>
      refine ⟨?_, permitted⟩
      change OutcomeAllowed guard (.getClient key) (.ok (caches.clients key))
      cases kept : caches.clients key with
      | none => trivial
      | some client => exact permitted.clients key client kept
  | lookupHost key =>
      unfold EgressOp.exec
      dsimp only
      split
      · exact ⟨trivial, permitted⟩
      · exact ⟨trivial, permitted⟩
  | buildClient host addr =>
      unfold EgressOp.exec
      dsimp only
      split
      · exact ⟨rfl, permitted⟩
      · exact ⟨trivial, permitted⟩
  | insertPinned key addr =>
      refine ⟨trivial, ?_, permitted.clients⟩
      intro other kept isKept
      change Function.update caches.pinned key (some addr) other = some kept at isKept
      by_cases same : other = key
      · subst same
        rw [Function.update_self] at isKept
        cases isKept
        exact allowed.2.2
      · rw [Function.update_of_ne same] at isKept
        exact permitted.pinned other kept isKept
  | insertClient key client =>
      refine ⟨trivial, permitted.pinned, ?_⟩
      intro other kept isKept
      change Function.update caches.clients key (some client) other = some kept at isKept
      by_cases same : other = key
      · subst same
        rw [Function.update_self] at isKept
        cases isKept
        exact allowed.2.2
      · rw [Function.update_of_ne same] at isKept
        exact permitted.clients other kept isKept

/-- The maps are permitted, the calls have relied on permitted addresses only, and only
calls with an allowed scheme have done anything. -/
structure GuardSound (guard : EgressGuard) (requests : ι → EgressCall Url)
    (events : List (EgressEvent ι)) (caches : Caches) : Prop where
  permitted : caches.Permitted guard
  relied : ∀ index,
    memories (fun index => egressProtocol guard (requests index).url) events index
  allowed : ∀ index op env outcome, .called ⟨index, op, env, outcome⟩ ∈ events →
    OpAllowed guard (requests index).url op

variable {events : List (EgressEvent ι)}
  {config : Config ι EgressOp.Result EgressError EgressResult Caches}

theorem EgressRun.sound (run : EgressRun guard requests caches events config)
    (permitted : caches.Permitted guard) :
    GuardSound guard requests events config.state := by
  refine Serves.invariant run (fun index => (requests index).follows)
    (fun _ _ none => none.elim) (GuardSound guard requests) ?_ ?_ ?_
  · exact ⟨permitted, fun _ => trivial, by rintro _ _ _ _ ⟨⟩⟩
  · intro events caches thread sound
    refine ⟨sound.permitted, ?_, ?_⟩
    · intro index
      rw [memories_began]
      by_cases same : index = thread
      · subst same
        rw [Function.update_self]
        trivial
      · rw [Function.update_of_ne same]
        exact sound.relied index
    · intro index op env outcome member
      rcases List.mem_append.mp member with earlier | began
      · exact sound.allowed index op env outcome earlier
      · cases List.mem_singleton.mp began
  · intro events caches thread op env sound allowed _
    have allowed := allowed (sound.relied thread)
    obtain ⟨outcome, kept⟩ := sound.permitted.exec allowed
    refine ⟨kept, ?_, ?_⟩
    · intro index
      rw [memories_called]
      by_cases same : index = thread
      · subst same
        rw [Function.update_self]
        exact ⟨sound.relied index, outcome⟩
      · rw [Function.update_of_ne same]
        exact sound.relied index
    · intro index other env' outcome' member
      rcases List.mem_append.mp member with earlier | last
      · exact sound.allowed index other env' outcome' earlier
      · cases List.mem_singleton.mp last
        exact allowed

end Runs

/-! ## When pinning succeeds -/

/-- What the world answers to one operation, and what other calls did before it. -/
structure EgressAmid where
  env : EgressEnv
  meanwhile : Caches → Caches

def EgressOp.execAmid : Program.Executor Result EgressError Caches EgressAmid :=
  fun amid op caches => exec amid.env op (amid.meanwhile caches)

/-- The addresses that a call gets for the host: the literal, or the answer. -/
def answered (url : Url) (amid : EgressAmid) : List IpAddr :=
  match HostCrate.literal url with
  | some ip => [ip]
  | none => amid.env.answer.getD []

theorem pinFirst_succeeds_iff {guard : EgressGuard} {key : Key} {resolved : List IpAddr}
    {envs : Nat → EgressAmid} {caches : Caches} :
    (∃ addr, ((pinFirst guard key resolved).run EgressOp.execAmid envs caches).1 = .ok addr) ↔
      ∃ ip ∈ resolved, ipIsBlocked ip guard.allowLoopback = false := by
  unfold pinFirst
  cases resolved with
  | nil =>
      constructor
      · rintro ⟨_, ⟨⟩⟩
      · rintro ⟨_, ⟨⟩, -⟩
  | cons first rest =>
      rw [if_neg (by rintro ⟨⟩)]
      cases found : (preferred (first :: rest)).find?
          fun ip => !ipIsBlocked ip guard.allowLoopback with
      | none =>
          constructor
          · rintro ⟨_, ⟨⟩⟩
          · rintro ⟨ip, member, unblocked⟩
            have blocked := List.find?_eq_none.mp found ip (mem_preferred.mpr member)
            rw [unblocked] at blocked
            exact absurd rfl blocked
      | some ip =>
          refine ⟨fun _ => ⟨ip, ?_, ?_⟩, fun _ => ⟨⟨ip, key.2⟩, rfl⟩⟩
          · exact mem_preferred.mp (List.mem_of_find?_eq_some found)
          · have unblocked := List.find?_some found
            exact Bool.not_eq_true' _ |>.mp unblocked

section Lookup

variable {α : Type} {key : Key} {rest : List IpAddr → Guarded α}
  {envs : Nat → EgressAmid} {caches : Caches}

theorem run_getPinned (rest : Option SocketAddr → Guarded α) :
    (ask (.getPinned key) >>= rest).run EgressOp.execAmid envs caches =
      (rest (((envs 0).meanwhile caches).pinned key)).run EgressOp.execAmid
        (fun index => envs (index + 1)) ((envs 0).meanwhile caches) := rfl

theorem run_lookupHost_answered {addresses : List IpAddr}
    (answer : (envs 0).env.answer = some addresses) :
    (ask (.lookupHost key) >>= rest).run EgressOp.execAmid envs caches =
      (rest addresses).run EgressOp.execAmid (fun index => envs (index + 1))
        ((envs 0).meanwhile caches) := by
  have executed : EgressOp.execAmid (envs 0) (.lookupHost key) caches =
      (.ok addresses, (envs 0).meanwhile caches) := by
    unfold EgressOp.execAmid EgressOp.exec
    dsimp only
    rw [answer]
  change (Program.run EgressOp.execAmid (.call (.lookupHost key) _) envs caches) = _
  rw [Program.run, executed]
  rfl

theorem run_lookupHost_failed (failed : (envs 0).env.answer = none) :
    (ask (.lookupHost key) >>= rest).run EgressOp.execAmid envs caches =
      (.error .lookup, (envs 0).meanwhile caches) := by
  have executed : EgressOp.execAmid (envs 0) (.lookupHost key) caches =
      (.error .lookup, (envs 0).meanwhile caches) := by
    unfold EgressOp.execAmid EgressOp.exec
    dsimp only
    rw [failed]
  change (Program.run EgressOp.execAmid (.call (.lookupHost key) _) envs caches) = _
  rw [Program.run, executed]
  rfl

end Lookup

/-- A call with an allowed scheme and a host succeeds if the host is pinned when it
looks, or if one of the addresses it gets is not blocked. -/
theorem validateAndPin_succeeds_iff {guard : EgressGuard} {url : Url} {host : String}
    (allowed : guard.Allows url) (isHost : hostStr url = some host)
    {envs : Nat → EgressAmid} {caches : Caches} :
    (∃ addr, ((validateAndPin guard url).run EgressOp.execAmid envs caches).1 = .ok addr) ↔
      (((envs 0).meanwhile caches).pinned (host, effectivePort url)).isSome = true ∨
        ∃ ip ∈ answered url (envs 1), ipIsBlocked ip guard.allowLoopback = false := by
  unfold validateAndPin
  rw [if_pos allowed, isHost]
  dsimp only
  rw [run_getPinned]
  cases ((envs 0).meanwhile caches).pinned (host, effectivePort url) with
  | some addr => exact ⟨fun _ => .inl rfl, fun _ => ⟨addr, rfl⟩⟩
  | none =>
      rw [or_iff_right (by rintro ⟨⟩)]
      dsimp only
      unfold resolve answered
      cases HostCrate.literal url with
      | some ip =>
          dsimp only [Program.done_bind]
          exact pinFirst_succeeds_iff
      | none =>
          cases answer : (envs 1).env.answer with
          | none =>
              dsimp only
              rw [run_lookupHost_failed answer]
              constructor
              · rintro ⟨_, ⟨⟩⟩
              · rintro ⟨_, ⟨⟩, -⟩
          | some addresses =>
              dsimp only
              rw [run_lookupHost_answered answer]
              exact pinFirst_succeeds_iff

/-! ## Soundness -/

/-- In every interleaved run of the calls of a new guard, whatever the name servers
answer, every address that is pinned, built into a client or handed out is one that the
policy of the guard permits, on the effective port of the URL, and only URLs with an
allowed scheme get that far. Conversely, a call with an allowed scheme and a host
succeeds exactly if the host is pinned or one of its addresses is not blocked. -/
theorem egress_guard_sound (allowLoopback : Bool) :
    (∀ (ι : Type) [DecidableEq ι] (requests : ι → EgressCall Url) events config,
      EgressRun (.new allowLoopback) requests .empty events config →
      (∀ key addr, config.state.pinned key = some addr →
        ipIsBlocked addr.ip allowLoopback = false ∧ addr.port = key.2) ∧
      (∀ key client, config.state.clients key = some client →
        ipIsBlocked client.addr.ip allowLoopback = false ∧ client.addr.port = key.2) ∧
      (∀ index result, config.threads index = .done result →
        (EgressGuard.new allowLoopback).Allows (requests index).url ∧
          ipIsBlocked result.addr.ip allowLoopback = false ∧
          result.addr.port = effectivePort (requests index).url) ∧
      (∀ index op env outcome, .called ⟨index, op, env, outcome⟩ ∈ events →
        OpAllowed (.new allowLoopback) (requests index).url op)) ∧
    (∀ (url : Url) host envs caches,
      (EgressGuard.new allowLoopback).Allows url → hostStr url = some host →
      ((∃ addr, ((validateAndPin (.new allowLoopback) url).run
          EgressOp.execAmid envs caches).1 = .ok addr) ↔
        (((envs 0).meanwhile caches).pinned (host, effectivePort url)).isSome = true ∨
          ∃ ip ∈ answered url (envs 1), ipIsBlocked ip allowLoopback = false)) := by
  constructor
  · intro ι _ requests events config run
    have sound := run.sound Caches.permitted_empty
    refine ⟨sound.permitted.pinned, sound.permitted.clients, ?_, sound.allowed⟩
    intro index result finished
    have returned := run.follows (fun index => (requests index).follows)
      (fun _ _ none => none.elim) index
    rw [finished] at returned
    exact returned (sound.relied index) result rfl
  · intro url host envs caches allowed isHost
    exact validateAndPin_succeeds_iff allowed isHost

end Egress
end TootTok
