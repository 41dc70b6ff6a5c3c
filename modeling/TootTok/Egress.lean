import TootTok.Crates
import TootTok.Sanitize

/-!
# Egress policy

Which addresses the server refuses to talk to, and the check of a media URL
that applies this policy before the URL is stored.
-/

namespace TootTok
namespace Egress

open UrlCrate
open Sanitize (hexDigit? digit?)

structure Ipv4Addr where
  a : UInt8
  b : UInt8
  c : UInt8
  d : UInt8
deriving DecidableEq

structure Ipv6Addr where
  segments : Vector UInt16 8
deriving DecidableEq

inductive IpAddr
  | v4 (address : Ipv4Addr)
  | v6 (address : Ipv6Addr)
deriving DecidableEq

/-! ## Blocked ranges -/

namespace Ipv4Addr

def isUnspecified (ip : Ipv4Addr) : Bool :=
  ip.a == 0 && ip.b == 0 && ip.c == 0 && ip.d == 0

def isLoopback (ip : Ipv4Addr) : Bool := ip.a == 127

def isPrivate (ip : Ipv4Addr) : Bool :=
  ip.a == 10 || (ip.a == 172 && 16 ≤ ip.b && ip.b ≤ 31) ||
    (ip.a == 192 && ip.b == 168)

def isLinkLocal (ip : Ipv4Addr) : Bool := ip.a == 169 && ip.b == 254

def isBroadcast (ip : Ipv4Addr) : Bool :=
  ip.a == 255 && ip.b == 255 && ip.c == 255 && ip.d == 255

def isDocumentation (ip : Ipv4Addr) : Bool :=
  (ip.a == 192 && ip.b == 0 && ip.c == 2) ||
    (ip.a == 198 && ip.b == 51 && ip.c == 100) ||
    (ip.a == 203 && ip.b == 0 && ip.c == 113)

def isMulticast (ip : Ipv4Addr) : Bool := 224 ≤ ip.a && ip.a ≤ 239

end Ipv4Addr

def v4IsBlocked (ip : Ipv4Addr) (allowLoopback : Bool) : Bool :=
  if allowLoopback && ip.isLoopback then false
  -- 100.64.0.0/10, carrier-grade NAT
  else if ip.a == 100 && ip.b &&& 0b11000000 == 0b01000000 then true
  else
    ip.isUnspecified || ip.isLoopback || ip.isPrivate || ip.isLinkLocal ||
      ip.isBroadcast || ip.isDocumentation || ip.isMulticast ||
      -- 192.0.0.0/24, protocol assignments
      (ip.a == 192 && ip.b == 0 && ip.c == 0) ||
      -- 198.18.0.0/15, benchmarking
      (ip.a == 198 && (ip.b == 18 || ip.b == 19)) ||
      240 ≤ ip.a

namespace Ipv6Addr

def isUnspecified (ip : Ipv6Addr) : Bool :=
  ip.segments.toList == [0, 0, 0, 0, 0, 0, 0, 0]

def isLoopback (ip : Ipv6Addr) : Bool :=
  ip.segments.toList == [0, 0, 0, 0, 0, 0, 0, 1]

def isUniqueLocal (ip : Ipv6Addr) : Bool := ip.segments[0] &&& 0xfe00 == 0xfc00

def isUnicastLinkLocal (ip : Ipv6Addr) : Bool := ip.segments[0] &&& 0xffc0 == 0xfe80

def isMulticast (ip : Ipv6Addr) : Bool := ip.segments[0] &&& 0xff00 == 0xff00

/-- `2000::/3`. -/
def isGlobalUnicast (ip : Ipv6Addr) : Bool := ip.segments[0] &&& 0xe000 == 0x2000

/-- The address `a.b.c.d` of `::ffff:a.b.c.d`. -/
def toIpv4Mapped (ip : Ipv6Addr) : Option Ipv4Addr :=
  match ip.segments.toList with
  | [0, 0, 0, 0, 0, 0xffff, high, low] =>
      some ⟨(high >>> 8).toUInt8, high.toUInt8, (low >>> 8).toUInt8, low.toUInt8⟩
  | _ => none

end Ipv6Addr

def v6IsBlocked (ip : Ipv6Addr) (allowLoopback : Bool) : Bool :=
  if allowLoopback && ip.isLoopback then false
  else
    match ip.toIpv4Mapped with
    | some mapped => v4IsBlocked mapped allowLoopback
    | none =>
        ip.isUnspecified || ip.isLoopback || ip.isUniqueLocal ||
          ip.isUnicastLinkLocal || ip.isMulticast ||
          -- documentation, 2001:db8::/32 and 3fff::/20
          (ip.segments[0] == 0x2001 && ip.segments[1] == 0xdb8) ||
          (ip.segments[0] == 0x3fff && ip.segments[1] ≤ 0x0fff)

def ipIsBlocked (ip : IpAddr) (allowLoopback : Bool) : Bool :=
  match ip with
  | .v4 address => v4IsBlocked address allowLoopback
  | .v6 address => v6IsBlocked address allowLoopback

/-! ## Address literals -/

/-- Read a number of at most `maxDigits` digits below `limit`, without leading
zeros unless allowed. -/
def readNumber
    (digit : Char → Option Nat) (base maxDigits limit : Nat) (zeroPrefix : Bool)
    (text : List Char) : Option (Nat × List Char) :=
  let digits := text.takeWhile fun char => (digit char).isSome
  if digits.isEmpty || maxDigits < digits.length ||
      (!zeroPrefix && digits.head? == some '0' && 1 < digits.length) then
    none
  else do
    let value ← Sanitize.digits? digit base digits
    if value < limit then
      some (value, text.dropWhile fun char => (digit char).isSome)
    else none

def readOctet (text : List Char) : Option (UInt8 × List Char) :=
  (readNumber digit? 10 3 256 false text).map fun (value, rest) => (.ofNat value, rest)

def readChar (char : Char) : List Char → Option (List Char)
  | [] => none
  | next :: rest => if next = char then some rest else none

def readIpv4 (text : List Char) : Option (Ipv4Addr × List Char) := do
  let (a, text) ← readOctet text
  let (b, text) ← readChar '.' text >>= readOctet
  let (c, text) ← readChar '.' text >>= readOctet
  let (d, text) ← readChar '.' text >>= readOctet
  pure (⟨a, b, c, d⟩, text)

/-- Read up to `limit` groups, the last two of which may be written as an IPv4
address. Says whether they were. `first` is false after the first group. -/
def readGroups : (limit : Nat) → (first : Bool) → List Char →
    List UInt16 × Bool × List Char
  | 0, _, text => ([], false, text)
  | limit + 1, first, text =>
      let separated := if first then some text else readChar ':' text
      match (if 1 ≤ limit then separated >>= readIpv4 else none) with
      | some (ip, rest) =>
          ([ip.a.toUInt16 <<< 8 ||| ip.b.toUInt16, ip.c.toUInt16 <<< 8 ||| ip.d.toUInt16],
            true, rest)
      | none =>
          match separated >>= readNumber hexDigit? 16 4 65536 true with
          | some (value, rest) =>
              let (groups, embedded, rest) := readGroups limit false rest
              (.ofNat value :: groups, embedded, rest)
          | none => ([], false, text)

/-- Eight groups. -/
def ofGroups (groups : List UInt16) : Option Ipv6Addr :=
  if eight : groups.length = 8 then some ⟨⟨groups.toArray, eight⟩⟩ else none

def readIpv6 (text : List Char) : Option (Ipv6Addr × List Char) :=
  let (head, embedded, rest) := readGroups 8 true text
  if head.length = 8 then (ofGroups head).map (·, rest)
  else if embedded then none
  else do
    let rest ← readChar ':' rest >>= readChar ':'
    let (tail, _, rest) := readGroups (7 - head.length) true rest
    let zeros := List.replicate (8 - head.length - tail.length) 0
    (ofGroups (head ++ zeros ++ tail)).map (·, rest)

/-- `str::parse::<IpAddr>`: the whole text is an address. -/
def parseIpAddr (text : List Char) : Option IpAddr :=
  match readIpv4 text with
  | some (ip, []) => some (.v4 ip)
  | _ =>
      match readIpv6 text with
      | some (ip, []) => some (.v6 ip)
      | _ => none

def trimBrackets (text : List Char) : List Char :=
  let bracket (char : Char) : Bool := char = '[' ∨ char = ']'
  ((text.dropWhile bracket).reverse.dropWhile bracket).reverse

/-! ## Media URLs -/

/-- Why a media URL is refused. -/
inductive MediaUrlError
  | unparseable
  | schemeNotAllowed (scheme : String)
  | noHost
  | blockedAddress (ip : IpAddr)
  | didNotResolve (host : String)
  | resolvesToBlocked (host : String) (ip : IpAddr)
deriving DecidableEq

/-- What a DNS lookup of a host and a port answers; `none` is a failed lookup. -/
abbrev Dns : Type := String → UInt16 → Option (List IpAddr)

variable (Url : Type) [UrlCrate Url]

/-- The check of the host: a literal is checked as it is, a name through all
its addresses. -/
def validateHost (dns : Dns) (host : String) (port : UInt16) (allowLoopback : Bool) :
    Except MediaUrlError Unit :=
  match parseIpAddr (trimBrackets host.toList) with
  | some ip =>
      if ipIsBlocked ip allowLoopback then .error (.blockedAddress ip) else .ok ()
  | none =>
      match dns host port with
      | none => .error (.didNotResolve host)
      | some [] => .error (.didNotResolve host)
      | some addresses =>
          match addresses.find? (ipIsBlocked · allowLoopback) with
          | some ip => .error (.resolvesToBlocked host ip)
          | none => .ok ()

/-- Validate a remote media URL before it is stored. -/
def validateMediaIngestUrl (dns : Dns) (raw : String) (allowLoopback : Bool) :
    Except MediaUrlError Unit :=
  match (parse raw : Option Url) with
  | none => .error .unparseable
  | some url =>
      if scheme url = "https" ∨ (scheme url = "http" ∧ allowLoopback) then
        match (hostStr url).filter (· ≠ "") with
        | none => .error .noHost
        | some host =>
            let port :=
              (port url).getD (if scheme url = "https" then 443 else 80)
            validateHost dns host port allowLoopback
      else
        .error (.schemeNotAllowed (scheme url))

end Egress
end TootTok
