import TootTok.Handler

/-!
# URLs of the instance

Whether the URLs that an instance builds from its configuration are local to it. The
configuration is used as it is written, while the crate normalises what it parses.
-/

namespace TootTok

open UrlCrate

namespace Config

/-- The port of a URL that names none. -/
def defaultPort (config : Config) : UInt16 :=
  if config.behindTls then 443 else 80

/-- The configuration is written as the crate writes URLs. -/
def IsNormal (config : Config) : Prop :=
  config.domain.toLower = config.domain ∧ config.publicPort ≠ some config.defaultPort

end Config

/-- What the crate makes of a path under the base URL: the host in lower case, and a port
unless it is the default one. -/
structure ParsesBase {Url : Type} [UrlCrate Url] (config : Config) (path : String) (url : Url) :
    Prop where
  parsed : (parse (config.publicBaseUrl ++ path) : Option Url) = some url
  host : hostStr url = some config.domain.toLower
  port : port url = config.publicPort.filter (· ≠ config.defaultPort)

section Locality

variable {Url : Type} [UrlCrate Url] {config : Config} {path : String} {url : Url}

theorem length_toLower (text : String) : text.toLower.length = text.length := by
  change (text.map Char.toLower).length = text.length
  rw [String.length_map]

/-- What is added to a domain is missing from its lower case. -/
theorem toLower_ne_append (text : String) (added : String) :
    text.toLower ≠ text ++ ":" ++ added := by
  intro same
  have lengths := congrArg String.length same
  rw [length_toLower, String.length_append, String.length_append] at lengths
  have colon : ":".length = 1 := rfl
  omega

/-- The URLs that an instance builds are local to it just if its configuration is in normal
form. -/
theorem base_isLocal_iff (base : ParsesBase config path url) :
    isLocalUrl url config.federationDomain = true ↔ config.IsNormal := by
  unfold isLocalUrl Config.federationDomain Config.IsNormal
  rw [base.host, base.port]
  cases config.publicPort with
  | none => simp
  | some port =>
      by_cases isDefault : port = config.defaultPort
      · subst isDefault
        simpa [Option.filter] using toLower_ne_append config.domain _
      · simp [Option.filter, isDefault]

end Locality

/-! ## Samples -/

namespace Sample

/-- A URL in normal form that is parsed from any case of its host. -/
structure CasedUrl where
  normal : NormalUrl

namespace CasedUrl

/-- The text with its host in lower case. -/
def lowerHost (text : String) : String :=
  let lowered (after : List Char) : List Char :=
    (after.takeWhile (· ≠ '/')).map Char.toLower ++ after.dropWhile (· ≠ '/')
  match text.toList with
  | 'h' :: 't' :: 't' :: 'p' :: ':' :: '/' :: '/' :: after =>
      String.ofList ("http://".toList ++ lowered after)
  | 'h' :: 't' :: 't' :: 'p' :: 's' :: ':' :: '/' :: '/' :: after =>
      String.ofList ("https://".toList ++ lowered after)
  | _ => text

instance : UrlCrate CasedUrl where
  parse text := ((parse text).or (parse (lowerHost text))).map CasedUrl.mk
  asStr url := asStr url.normal
  scheme url := scheme url.normal
  hostStr url := hostStr url.normal
  port url := port url.normal
  path url := UrlCrate.path url.normal
  pathSegments url := pathSegments url.normal
  parse_asStr url := by rw [parse_asStr url.normal]; rfl
  storable_asStr url := storable_asStr url.normal
  storable_hostStr url := storable_hostStr url.normal
  authority_of_asStr url := authority_of_asStr url.normal

end CasedUrl

/-- An instance behind TLS. -/
def secureConfig (domain : String)
    (plain : ∀ char ∈ domain.toList, char ∉ ['/', '?', '#', '@', '\\']) : Config where
  domain := domain
  publicPort := none
  behindTls := true
  allowLoopback := false
  plainDomain := plain

theorem plain_lower : ∀ char ∈ "a.b".toList, char ∉ ['/', '?', '#', '@', '\\'] := by
  have plain : ("a.b".toList.all fun char =>
      decide (char ∉ ['/', '?', '#', '@', '\\'])) = true := by decide
  exact fun char member => of_decide_eq_true (List.all_eq_true.mp plain char member)

theorem plain_upper : ∀ char ∈ "A.b".toList, char ∉ ['/', '?', '#', '@', '\\'] := by
  have plain : ("A.b".toList.all fun char =>
      decide (char ∉ ['/', '?', '#', '@', '\\'])) = true := by decide
  exact fun char member => of_decide_eq_true (List.all_eq_true.mp plain char member)

def homePage : CasedUrl := ⟨.ofText "https://a.b/c"⟩

/-- A domain in lower case is recognised. -/
theorem local_lower :
    isLocalUrl homePage (secureConfig "a.b" plain_lower).federationDomain = true :=
  (@base_isLocal_iff _ _ (secureConfig "a.b" plain_lower) "/c" homePage
    ⟨rfl, by with_unfolding_all decide, by decide⟩).mpr
      ⟨by with_unfolding_all decide, by decide⟩

/-- A domain with a capital letter is not. -/
theorem foreign_upper :
    ParsesBase (secureConfig "A.b" plain_upper) "/c" homePage ∧
      isLocalUrl homePage (secureConfig "A.b" plain_upper).federationDomain = false :=
  ⟨⟨rfl, by with_unfolding_all decide, by decide⟩, by decide⟩

end Sample
end TootTok
