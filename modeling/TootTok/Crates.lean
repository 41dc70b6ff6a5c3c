import TootTok.Json

/-!
# Third-party crates

What the program uses of the `url` and `chrono` crates, as classes: the
functions it calls and the documented behaviour it relies on.
-/

namespace TootTok

open Json (textStorable)

/-- The `url` crate. -/
class UrlCrate (Url : Type) where
  parse : String → Option Url
  asStr : Url → String
  scheme : Url → String
  hostStr : Url → Option String
  port : Url → Option UInt16
  path : Url → String
  pathSegments : Url → Option (List String)
  /-- A serialised URL parses to itself. -/
  parse_asStr : ∀ url, parse (asStr url) = some url
  /-- Control characters are percent-encoded. -/
  storable_asStr : ∀ url, textStorable (asStr url) = true
  /-- So are those of a host, or it is refused. -/
  storable_hostStr : ∀ url host, hostStr url = some host → textStorable host = true
  /-- In a serialised http URL without credentials, what stands between the
  slashes is the host, followed by the port unless it is the default one. -/
  authority_of_asStr : ∀ url scheme authority rest,
    scheme = "http" ∨ scheme = "https" →
    (∀ char ∈ authority.toList, char ∉ ['/', '?', '#', '@', '\\']) →
    asStr url = scheme ++ "://" ++ authority ++ "/" ++ rest →
    (hostStr url).map (fun host =>
      match port url with
      | some port => host ++ ":" ++ toString port
      | none => host) = some authority

namespace UrlCrate

variable {Url : Type} [UrlCrate Url]

theorem asStr_injective {left right : Url}
    (same : asStr left = asStr right) : left = right := by
  have parsed := parse_asStr left
  rw [same, parse_asStr] at parsed
  exact (Option.some.inj parsed).symm

theorem asStr_eq_iff {left right : Url} :
    asStr left = asStr right ↔ left = right :=
  ⟨asStr_injective, congrArg asStr⟩

end UrlCrate

open UrlCrate

/-- A URL is local when `host[:port]` is the federation domain. -/
def isLocalUrl {Url : Type} [UrlCrate Url] (url : Url) (domain : String) : Bool :=
  match hostStr url with
  | none => false
  | some host =>
      let withPort :=
        match port url with
        | some port => host ++ ":" ++ toString port
        | none => host
      withPort == domain

/-- A URL under a base made of a scheme and the federation domain is local. -/
theorem isLocalUrl_of_base {Url : Type} [UrlCrate Url]
    {url : Url} {scheme domain rest : String}
    (isHttp : scheme = "http" ∨ scheme = "https")
    (plain : ∀ char ∈ domain.toList, char ∉ ['/', '?', '#', '@', '\\'])
    (under : asStr url = scheme ++ "://" ++ domain ++ "/" ++ rest) :
    isLocalUrl url domain = true := by
  have authority := authority_of_asStr url scheme domain rest isHttp plain under
  unfold isLocalUrl
  cases host : hostStr url with
  | none =>
      rw [host] at authority
      cases authority
  | some name =>
      rw [host] at authority
      simpa using authority

/-- A point in time: microseconds since the epoch, the resolution of
`TIMESTAMPTZ`. -/
structure DateTime where
  micros : Int
deriving DecidableEq

/-- The `chrono` crate. -/
class ChronoCrate where
  parseFromRfc3339 : String → Option DateTime
  toRfc3339 : DateTime → String

/-! ## URLs in normal form

An implementation that accepts only what the `url` crate would leave as it is:
an http or https URL with a lower-case host, the default port, no credentials
and no fragment. -/

/-- The characters of a host name. -/
def isHostChar (char : Char) : Bool :=
  char.isLower || char.isDigit || char == '-' || char == '.'

/-- The characters of a path or a query. -/
def isRestChar (char : Char) : Bool :=
  char.isAlphanum || ['-', '.', '_', '~', '/', '@', ':', '?', '=', '&'].contains char

/-- An http or https URL already in normal form. -/
structure NormalUrl where
  secure : Bool
  host : List Char
  rest : List Char
  hostNormal : !host.isEmpty && host.all isHostChar
  restNormal : rest.all isRestChar

namespace NormalUrl

def schemeName (url : NormalUrl) : String :=
  if url.secure then "https" else "http"

/-- The path without its leading slash. -/
def path (url : NormalUrl) : List Char :=
  url.rest.takeWhile (· ≠ '?')

def serialize (url : NormalUrl) : String :=
  String.ofList (url.schemeName.toList ++ "://".toList ++ url.host ++ '/' :: url.rest)

/-- Split what follows the scheme at its first slash. -/
def ofAuthority (secure : Bool) (text : List Char) : Option NormalUrl :=
  match text.dropWhile (· ≠ '/') with
  | '/' :: rest =>
      if normal :
          (!(text.takeWhile (· ≠ '/')).isEmpty &&
            (text.takeWhile (· ≠ '/')).all isHostChar) ∧ rest.all isRestChar then
        some ⟨secure, text.takeWhile (· ≠ '/'), rest, normal.1, normal.2⟩
      else
        none
  | _ => none

def parse (text : String) : Option NormalUrl :=
  match text.toList with
  | 'h' :: 't' :: 't' :: 'p' :: ':' :: '/' :: '/' :: after => ofAuthority false after
  | 'h' :: 't' :: 't' :: 'p' :: 's' :: ':' :: '/' :: '/' :: after => ofAuthority true after
  | _ => none

theorem isHostChar_of_mem {url : NormalUrl} {char : Char} (member : char ∈ url.host) :
    isHostChar char = true := by
  have normal := url.hostNormal
  rw [Bool.and_eq_true, List.all_eq_true] at normal
  exact normal.2 char member

theorem isRestChar_of_mem {url : NormalUrl} {char : Char} (member : char ∈ url.rest) :
    isRestChar char = true :=
  List.all_eq_true.mp url.restNormal char member

theorem slash_not_mem_host (url : NormalUrl) : '/' ∉ url.host :=
  fun member => absurd (isHostChar_of_mem member) (by decide)

/-- Text without a slash, cut at the slash that follows it. -/
theorem cut_at_slash
    {before : List Char} (noSlash : '/' ∉ before) (after : List Char) :
    (before ++ '/' :: after).takeWhile (· ≠ '/') = before ∧
      (before ++ '/' :: after).dropWhile (· ≠ '/') = '/' :: after := by
  have apart : ∀ char ∈ before, decide (char ≠ '/') = true := by
    intro char member
    simpa using fun same : char = '/' => noSlash (same ▸ member)
  rw [List.takeWhile_append_of_pos apart, List.dropWhile_append_of_pos apart]
  simp

theorem ofAuthority_host_rest (url : NormalUrl) :
    ofAuthority url.secure (url.host ++ '/' :: url.rest) = some url := by
  obtain ⟨host, rest⟩ := cut_at_slash url.slash_not_mem_host url.rest
  unfold ofAuthority
  simp only [host, rest]
  rw [dif_pos ⟨url.hostNormal, url.restNormal⟩]

theorem parse_serialize (url : NormalUrl) : parse url.serialize = some url := by
  have split := ofAuthority_host_rest url
  unfold parse serialize schemeName
  cases scheme : url.secure with
  | false =>
      rw [scheme] at split
      simpa [String.toList_ofList] using split
  | true =>
      rw [scheme] at split
      simpa [String.toList_ofList] using split

theorem storable_serialize (url : NormalUrl) :
    textStorable url.serialize = true := by
  have notInHost : '\x00' ∉ url.host :=
    fun member => absurd (isHostChar_of_mem member) (by decide)
  have notInRest : '\x00' ∉ url.rest :=
    fun member => absurd (isRestChar_of_mem member) (by decide)
  unfold textStorable serialize schemeName
  cases url.secure <;> simp [notInHost, notInRest]

theorem storable_host (url : NormalUrl) : textStorable (String.ofList url.host) = true := by
  have notInHost : '\x00' ∉ url.host :=
    fun member => absurd (isHostChar_of_mem member) (by decide)
  simp [textStorable, notInHost]

theorem host_of_serialize
    (url : NormalUrl) (scheme authority rest : String)
    (isHttp : scheme = "http" ∨ scheme = "https")
    (plain : ∀ char ∈ authority.toList, char ∉ ['/', '?', '#', '@', '\\'])
    (under : url.serialize = scheme ++ "://" ++ authority ++ "/" ++ rest) :
    String.ofList url.host = authority := by
  have noSlash : '/' ∉ authority.toList := by
    intro member
    simpa using plain '/' member
  have sameText : url.host ++ '/' :: url.rest =
      authority.toList ++ '/' :: rest.toList := by
    have texts := congrArg String.toList under
    unfold serialize schemeName at texts
    rcases isHttp with rfl | rfl <;> cases secure : url.secure <;>
      simp [secure, String.toList_append] at texts <;> exact texts
  have host := (cut_at_slash url.slash_not_mem_host url.rest).1
  rw [sameText, (cut_at_slash noSlash rest.toList).1] at host
  rw [← host, String.ofList_toList]

instance : UrlCrate NormalUrl where
  parse := parse
  asStr := serialize
  scheme := schemeName
  hostStr url := some (String.ofList url.host)
  port _ := none
  path url := String.ofList ('/' :: url.path)
  pathSegments url := some ((url.path.splitOn '/').map String.ofList)
  parse_asStr := parse_serialize
  storable_asStr := storable_serialize
  storable_hostStr url _ isHost := Option.some.inj isHost ▸ storable_host url
  authority_of_asStr url scheme authority rest isHttp plain under :=
    congrArg some (host_of_serialize url scheme authority rest isHttp plain under)

/-- A URL literal in normal form. -/
def ofText (text : String) (normal : (parse text).isSome = true := by decide +kernel) : NormalUrl :=
  (parse text).get normal

end NormalUrl

namespace Sample

/-- Dates for runs in which no document carries one. -/
scoped instance : ChronoCrate where
  parseFromRfc3339 _ := none
  toRfc3339 _ := "1970-01-01T00:00:00+00:00"

end Sample
end TootTok
