import TootTok.RemoteActors
import TootTok.Web.UrlParts

/-!
# The request for a handle

The name and the domain of a handle are pasted into a URL as they are, and the crate cuts the
URL into its parts. What is asked about is the handle, exactly if neither of both has a
character that ends its part, or that is read as another one.
-/

namespace TootTok

open Effects
open UrlCrate
open Web

/-! ## The crate as a parser -/

/-- The parts of a URL that the `url` crate gives back, and its parser of hosts. -/
class UrlAccessors (Url : Type) extends UrlCrate Url where
  username : Url → String
  password : Url → Option String
  query : Url → Option String
  fragment : Url → Option String
  parseHost : String → Option String

open UrlAccessors

section Parts

variable {Url : Type} [UrlAccessors Url]

variable (Url) in
/-- The host of a text, as the crate writes it, and the port unless it is that of https. -/
def authorityOf (text : String) : Option (String × Option UInt16) :=
  hostPort (parseHost Url) 443 text.toList

/-- A URL that was parsed from these parts under https. -/
structure ReadsAs (url : Url) (parts : Parts) : Prop where
  scheme : scheme url = "https"
  authority : ∃ host, hostStr url = some host ∧
    authorityOf Url (String.ofList parts.hostPort) = some (host, port url)
  credentials : parts.userInfo = none → username url = "" ∧ password url = none
  path : isPlainPath parts.path = true → path url = String.ofList parts.path
  query : UrlAccessors.query url = parts.query.map fun query => String.ofList (encodeQuery query)
  fragment : (fragment url).isSome = parts.fragment.isSome

end Parts

/-- The documented behaviour of the parser for URLs under https. -/
class UrlStandard (Url : Type) extends UrlAccessors Url where
  parseHost_forbids : ∀ text host, parseHost text = some host →
    ∀ char ∈ text.toList, isForbidden char = false
  parse_https : ∀ text url after, parse text = some url →
    clean text.toList = "https://".toList ++ after →
      ReadsAs url (splitParts (skipSlashes after))

/-! ## What is asked -/

section Request

variable {Url : Type}

/-- The URL asks the server of a domain about a name. -/
structure AsksAbout [UrlAccessors Url] (name domain : String) (url : Url) : Prop where
  authority : ∃ host, hostStr url = some host ∧
    authorityOf Url domain = some (host, port url)
  username : username url = ""
  password : password url = none
  path : path url = "/.well-known/webfinger"
  fragment : fragment url = none
  resource : ∃ text, UrlAccessors.query url = some text ∧ formPairs text.toList =
    [(utf8 "resource".toList, utf8 ("acct:" ++ name ++ "@" ++ domain).toList)]

/-- The text stays in its parameter, and is read from there as it is. -/
def IsVerbatim (text : List Char) : Prop :=
  (∀ char ∈ text, char ∉ ['#', '&', '\t', '\n', '\r']) ∧ IsPlain text

/-- The text ends no authority, and is no credentials. -/
def IsAuthority (text : List Char) : Prop :=
  ∀ char ∈ text, char ∉ ['/', '\\', '?', '@']

/-- What is asked for, as a list of characters. -/
def webfingerText (name domain : List Char) : List Char :=
  "https://".toList ++ domain ++ "/.well-known/webfinger?resource=acct:".toList ++ name ++
    '@' :: domain

/-- The query, after the line breaks of the name were dropped. -/
def resourceQuery (name domain : List Char) : List Char :=
  "resource".toList ++ '=' :: ("acct:".toList ++
    name.filter (fun char => !isRemoved char) ++ '@' :: domain)

theorem filter_eq_self_of {text : List Char} (stays : ∀ char ∈ text, isRemoved char = false) :
    text.filter (fun char => !isRemoved char) = text :=
  List.filter_eq_self.mpr fun char member => congrArg not (stays char member)

/-- The text that is parsed, when the line breaks and the space at the end are dropped. -/
theorem clean_webfingerText {name domain : List Char}
    (stays : ∀ char ∈ domain, isRemoved char = false) :
    clean (webfingerText name domain) = "https://".toList ++ (domain ++
      ('/' :: ".well-known/webfinger".toList ++ '?' ::
        ("resource".toList ++ '=' :: ("acct:".toList ++
          name.filter (fun char => !isRemoved char) ++
            '@' :: (domain.rdropWhile isStripped).filter fun char => !isRemoved char)))) := by
  have scheme : "https://".toList.filter (fun char => !isRemoved char) = "https://".toList := by
    decide
  have target : "/.well-known/webfinger?resource=acct:".toList.filter
      (fun char => !isRemoved char) = "/.well-known/webfinger?resource=acct:".toList := by
    decide
  have cleaned := @clean_append_cons 'h' '@' ("ttps://".toList ++ domain ++
    "/.well-known/webfinger?resource=acct:".toList ++ name) domain (by decide) (by decide)
  have begins : 'h' :: ("ttps://".toList ++ domain ++
      "/.well-known/webfinger?resource=acct:".toList ++ name) =
      "https://".toList ++ domain ++ "/.well-known/webfinger?resource=acct:".toList ++ name := rfl
  rw [begins, List.filter_append, List.filter_append, List.filter_append, scheme, target,
    filter_eq_self_of stays] at cleaned
  unfold webfingerText
  rw [cleaned]
  simp

theorem isVerbatim_iff {text : List Char} :
    IsVerbatim text ↔ '#' ∉ text ∧ '&' ∉ text ∧ (∀ char ∈ text, isRemoved char = false) ∧
      IsPlain text := by
  have listed (char : Char) : char ∈ ['#', '&', '\t', '\n', '\r'] ↔
      char = '#' ∨ char = '&' ∨ isRemoved char = true := by
    rw [isRemoved, List.contains_iff_mem, List.mem_cons, List.mem_cons]
  unfold IsVerbatim
  constructor
  · rintro ⟨stays, plain⟩
    refine ⟨fun member => stays '#' member (by decide), fun member => stays '&' member (by decide),
      fun char member => ?_, plain⟩
    rw [Bool.eq_false_iff]
    exact fun removed => stays char member ((listed char).mpr (.inr (.inr removed)))
  · rintro ⟨noHash, noAmpersand, stays, plain⟩
    refine ⟨fun char member isListed => ?_, plain⟩
    rcases (listed char).mp isListed with rfl | rfl | removed
    · exact noHash member
    · exact noAmpersand member
    · rw [stays char member] at removed
      cases removed

/-- The text that is asked about is plain exactly if name and domain are. -/
theorem isPlain_resource {name domain : List Char} :
    IsPlain ("acct:".toList ++ name ++ '@' :: domain) ↔ IsPlain name ∧ IsPlain domain := by
  have plainScheme : IsPlain "acct".toList := by
    rw [← formDecode_eq_utf8_iff]
    decide
  have cut : "acct:".toList ++ name = "acct".toList ++ ':' :: name := rfl
  rw [isPlain_append_cons (by decide) (by decide) (by decide), cut,
    isPlain_append_cons (by decide) (by decide) (by decide)]
  exact and_congr_left fun _ => and_iff_right plainScheme

theorem not_mem_resource {name domain : List Char} {char : Char}
    (notHere : char ∉ "acct:".toList) (notAt : char ≠ '@') :
    char ∉ "acct:".toList ++ name ++ '@' :: domain ↔ char ∉ name ∧ char ∉ domain := by
  rw [List.mem_append, List.mem_append, List.mem_cons]
  simp only [notHere, notAt, false_or, not_or]

/-- What a query has no trace of is in neither side of the handle. -/
theorem not_mem_resourceQuery {name domain : List Char} {char : Char}
    (notHere : char ∉ "resource=acct:@".toList) (stays : isRemoved char = false) :
    char ∉ resourceQuery name domain ↔ char ∉ name ∧ char ∉ domain := by
  have sides : "resource=acct:@".toList = "resource".toList ++ '=' :: ("acct:".toList ++ ['@']) :=
    rfl
  rw [sides, List.mem_append, List.mem_cons, List.mem_append, List.mem_singleton] at notHere
  simp only [not_or] at notHere
  obtain ⟨notKey, notEquals, notScheme, notAt⟩ := notHere
  unfold resourceQuery
  rw [List.mem_append, List.mem_cons, List.mem_append, List.mem_append, List.mem_cons,
    List.mem_filter]
  simp only [notKey, notEquals, notScheme, notAt, stays, false_or, Bool.not_false, and_true,
    not_or]

/-- A query without a fragment names the resource, exactly if both sides of it are verbatim. -/
theorem formPairs_resourceQuery {name domain : List Char} :
    formPairs (resourceQuery name domain) =
        [(utf8 "resource".toList, utf8 ("acct:".toList ++ name ++ '@' :: domain))] ↔
      (∀ char ∈ name, isRemoved char = false) ∧ ('&' ∉ name ∧ '&' ∉ domain) ∧
        IsPlain name ∧ IsPlain domain := by
  have plainKey : IsPlain "resource".toList := by
    rw [← formDecode_eq_utf8_iff]
    decide
  have isPart : ("acct:".toList ++ name.filter (fun char => !isRemoved char) ++
      '@' :: domain).Sublist ("acct:".toList ++ name ++ '@' :: domain) :=
    ((List.Sublist.refl _).append List.filter_sublist).append (List.Sublist.refl _)
  have kept : "acct:".toList ++ name.filter (fun char => !isRemoved char) ++ '@' :: domain =
      "acct:".toList ++ name ++ '@' :: domain ↔ ∀ char ∈ name, isRemoved char = false := by
    rw [List.append_cancel_right_eq, List.append_cancel_left_eq, List.filter_eq_self]
    simp
  unfold resourceQuery
  rw [formPairs_eq_singleton_iff plainKey (by decide) (by decide) isPart, kept, isPlain_resource,
    not_mem_resource (by decide) (by decide)]

section Parts

variable [UrlStandard Url] {url : Url} {name domain : List Char}

/-- A text that the crate reads as a host and a port has no character that no host has. -/
theorem not_isForbidden_of_authorityOf {text : List Char} {host : String} {port : Option UInt16}
    (isAuthority : authorityOf Url (String.ofList text) = some (host, port)) :
    ∀ char ∈ text, isForbidden char = false := by
  rw [authorityOf, String.toList_ofList] at isAuthority
  exact not_isForbidden_of_hostPort UrlStandard.parseHost_forbids isAuthority

/-- The parts of the URL about a name at a domain without delimiters. -/
theorem readsAs_of_parse
    (parsed : parse (String.ofList (webfingerText name domain)) = some url)
    (nonempty : domain ≠ []) (plain : ∀ char ∈ domain, endsAuthority char = false)
    (noAt : '@' ∉ domain) (stays : ∀ char ∈ domain, isRemoved char = false) :
    ReadsAs url ⟨none, domain, "/.well-known/webfinger".toList,
      some (cutAt '#' (resourceQuery name domain)).1,
      (cutAt '#' (resourceQuery name domain)).2⟩ := by
  have reads := UrlStandard.parse_https _ url _ parsed
    ((congrArg clean String.toList_ofList).trans (clean_webfingerText stays))
  rw [skipSlashes_append nonempty plain, splitParts_append plain noAt (by decide)
    (by decide)] at reads
  -- The host is read from the domain, so that nothing was stripped from the end of the query.
  obtain ⟨host, -, isAuthority⟩ := reads.authority
  have plainHost := not_isForbidden_of_authorityOf isAuthority
  have unstripped : domain.rdropWhile isStripped = domain :=
    rdropWhile_eq_self_of fun char member => (Bool.or_eq_false_iff.mp (plainHost char member)).1
  rw [unstripped, filter_eq_self_of stays] at reads
  exact reads

/-- The URL asks about the handle, exactly if name and domain are verbatim. -/
theorem asksAbout_iff_of_readsAs {name domain : String}
    (reads : ReadsAs url ⟨none, domain.toList, "/.well-known/webfinger".toList,
      some (cutAt '#' (resourceQuery name.toList domain.toList)).1,
      (cutAt '#' (resourceQuery name.toList domain.toList)).2⟩)
    (noHash : '#' ∉ domain.toList) :
    AsksAbout name domain url ↔ IsVerbatim name.toList ∧ '&' ∉ domain.toList ∧
      IsPlain domain.toList := by
  have wanted : ("acct:" ++ name ++ "@" ++ domain).toList =
      "acct:".toList ++ name.toList ++ '@' :: domain.toList := by
    simp
  rw [isVerbatim_iff]
  constructor
  · intro asks
    have noHashInName : '#' ∉ name.toList := by
      rcases cut_cases '#' (resourceQuery name.toList domain.toList) with
        absent | ⟨front, back, isCut, absent⟩
      · exact ((not_mem_resourceQuery (by decide) (by decide)).mp absent).1
      · have isFragment := reads.fragment
        rw [isCut, cutAt_append absent, asks.fragment] at isFragment
        cases isFragment
    rw [cutAt_of_not_mem ((not_mem_resourceQuery (by decide) (by decide)).mpr
      ⟨noHashInName, noHash⟩)] at reads
    obtain ⟨text, isQuery, resource⟩ := asks.resource
    rw [reads.query] at isQuery
    obtain rfl := Option.some.inj isQuery
    rw [String.toList_ofList, formPairs_encodeQuery, wanted, formPairs_resourceQuery] at resource
    obtain ⟨stays, ⟨noCut, noCutInDomain⟩, plain, plainDomain⟩ := resource
    exact ⟨⟨noHashInName, noCut, stays, plain⟩, noCutInDomain, plainDomain⟩
  · rintro ⟨⟨noHashInName, noCut, stays, plain⟩, noCutInDomain, plainDomain⟩
    rw [cutAt_of_not_mem ((not_mem_resourceQuery (by decide) (by decide)).mpr
      ⟨noHashInName, noHash⟩)] at reads
    obtain ⟨host, isHost, isAuthority⟩ := reads.authority
    rw [String.ofList_toList] at isAuthority
    obtain ⟨noUser, noPassword⟩ := reads.credentials rfl
    have plainPath : isPlainPath "/.well-known/webfinger".toList = true := by decide
    refine ⟨⟨host, isHost, isAuthority⟩, noUser, noPassword, reads.path plainPath, ?_, _,
      reads.query, ?_⟩
    · exact Option.isSome_eq_false_iff.mp reads.fragment |> Option.isNone_iff_eq_none.mp
    · rw [String.toList_ofList, formPairs_encodeQuery, wanted]
      exact formPairs_resourceQuery.mpr ⟨stays, ⟨noCut, noCutInDomain⟩, plain, plainDomain⟩

/-! ## The request -/

/-- The domain of a handle is not empty. -/
theorem domain_ne_nil {handle name domain : String}
    (isHandle : parseRemoteHandle handle = some (name, domain)) : domain.toList ≠ [] := by
  unfold parseRemoteHandle at isHandle
  dsimp only at isHandle
  split at isHandle
  next rest _ =>
    split at isHandle
    next => cases isHandle
    next nonempty =>
      obtain ⟨-, rfl⟩ := Prod.mk.inj (Option.some.inj isHandle)
      rw [String.toList_ofList]
      intro empty
      exact nonempty (by rw [empty]; simp)
  next => cases isHandle

omit [UrlStandard Url] in
theorem toList_handleUrl (scheme path name domain : String) :
    (scheme ++ domain ++ path ++ name ++ "@" ++ domain).toList =
      scheme.toList ++ domain.toList ++ path.toList ++ name.toList ++ '@' :: domain.toList := by
  simp

omit [UrlStandard Url] in
/-- The first call of a query whose outcome is caught. -/
theorem Handler.head?_trace_caught_then {β : Type} (op : Operation Url)
    (rest : Except Error op.Result → Handler Url β) (envs : Nat → Env Url) (db : Db) :
    ((Handler.caught (query op) >>= rest).trace Operation.exec envs db).head? =
      some (op, envs 0) := by
  simp only [Handler.caught, query, Program.perform, Program.attempt, Program.call_bind,
    Program.trace, List.head?_cons]

omit [UrlStandard Url] in
/-- What is requested first is the URL made of the parts of the handle. -/
theorem parse_of_requested [UrlCrate Url] {handle name domain : String}
    (isHandle : parseRemoteHandle handle = some (name, domain)) {envs : Nat → Env Url} {db : Db}
    {env : Env Url}
    (requested : ((resolveRemoteActorByHandle handle : Handler Url (Option ActorRow)).trace
      Operation.exec envs db).head? = some (.getJson url, env)) :
    parse (String.ofList (webfingerText name.toList domain.toList)) = some url := by
  have text := toList_handleUrl "https://" "/.well-known/webfinger?resource=acct:" name domain
  change _ = webfingerText name.toList domain.toList at text
  rw [← text, String.ofList_toList]
  unfold resolveRemoteActorByHandle at requested
  rw [isHandle] at requested
  dsimp only at requested
  cases isUrl : (webfingerUrl name domain : Option Url) with
  | none =>
      rw [isUrl] at requested
      cases requested
  | some target =>
      rw [isUrl] at requested
      dsimp only at requested
      rw [Handler.head?_trace_caught_then] at requested
      simp only [Option.some.injEq, Prod.mk.injEq, Operation.getJson.injEq] at requested
      obtain ⟨rfl, -⟩ := requested
      rw [webfingerUrl, Option.filter_eq_some_iff] at isUrl
      exact isUrl.1

/-- The URL that is requested for a handle asks its domain about its name, exactly if both are
verbatim and the domain has no delimiter of an authority. -/
theorem asksAbout_iff {handle name domain : String}
    (isHandle : parseRemoteHandle handle = some (name, domain)) {envs : Nat → Env Url} {db : Db}
    {env : Env Url}
    (requested : ((resolveRemoteActorByHandle handle : Handler Url (Option ActorRow)).trace
      Operation.exec envs db).head? = some (.getJson url, env)) :
    AsksAbout name domain url ↔
      IsVerbatim name.toList ∧ IsVerbatim domain.toList ∧ IsAuthority domain.toList := by
  have reads (plain : ∀ char ∈ domain.toList, endsAuthority char = false)
      (noAt : '@' ∉ domain.toList) (stays : ∀ char ∈ domain.toList, isRemoved char = false) :=
    asksAbout_iff_of_readsAs (readsAs_of_parse (parse_of_requested isHandle requested)
      (domain_ne_nil isHandle) plain noAt stays) fun hash => by
        cases plain '#' hash
  constructor
  · intro asks
    obtain ⟨host, -, isHost⟩ := asks.authority
    have plainHost : ∀ char ∈ domain.toList, isForbidden char = false := by
      refine @not_isForbidden_of_authorityOf Url _ domain.toList host (port url) ?_
      rwa [String.ofList_toList]
    have plain : ∀ char ∈ domain.toList, endsAuthority char = false := fun char member =>
      Bool.eq_false_iff.mpr fun ends =>
        absurd ((isForbidden_of_endsAuthority ends).symm.trans (plainHost char member)) (by decide)
    have stays : ∀ char ∈ domain.toList, isRemoved char = false := fun char member =>
      Bool.eq_false_iff.mpr fun removed =>
        absurd ((isForbidden_of_isRemoved removed).symm.trans (plainHost char member)) (by decide)
    have noAt : '@' ∉ domain.toList := fun member => by cases plainHost '@' member
    obtain ⟨verbatimName, noAmpersand, plainDomain⟩ := (reads plain noAt stays).mp asks
    have noHash : '#' ∉ domain.toList := fun member => by cases plainHost '#' member
    refine ⟨verbatimName, isVerbatim_iff.mpr ⟨noHash, noAmpersand, stays, plainDomain⟩,
      fun char member listed => ?_⟩
    have forbidden : isForbidden char = true := holds_of_mem (by decide) listed
    exact absurd (forbidden.symm.trans (plainHost char member)) (by decide)
  · rintro ⟨verbatimName, verbatimDomain, isAuthority⟩
    obtain ⟨noHash, noAmpersand, stays, plainDomain⟩ := isVerbatim_iff.mp verbatimDomain
    have plain : ∀ char ∈ domain.toList, endsAuthority char = false := by
      intro char member
      rw [Bool.eq_false_iff]
      intro ends
      rw [endsAuthority, List.contains_iff_mem] at ends
      simp only [List.mem_cons, List.not_mem_nil, or_false] at ends
      rcases ends with rfl | rfl | rfl | rfl
      · exact isAuthority '/' member (by simp)
      · exact isAuthority '\\' member (by simp)
      · exact isAuthority '?' member (by simp)
      · exact noHash member
    exact (reads plain (fun at' => isAuthority '@' at' (by decide)) stays).mpr
      ⟨verbatimName, noAmpersand, plainDomain⟩

end Parts

end Request

/-! ## Samples -/

namespace Sample

/-- An https URL in normal form, with a user name unless it is empty. -/
structure UserUrl where
  user : List Char
  host : List Char
  rest : List Char
  normal : user.all isHostChar ∧ (!host.isEmpty && host.all isHostChar) ∧ rest.all isRestChar

namespace UserUrl

def authority (url : UserUrl) : List Char :=
  if url.user = [] then url.host else url.user ++ '@' :: url.host

def text (url : UserUrl) : List Char :=
  "https://".toList ++ (url.authority ++ '/' :: url.rest)

/-- The URL with these parts, if they are in normal form. -/
def ofParts (user host rest : List Char) : Option UserUrl :=
  if normal : user.all isHostChar ∧ (!host.isEmpty && host.all isHostChar) ∧
      rest.all isRestChar then
    some ⟨user, host, rest, normal⟩
  else none

/-- What a text could be the URL of. -/
def candidate (text : List Char) : Option UserUrl :=
  let after := text.drop "https://".length
  let rest := (after.dropWhile (· ≠ '/')).drop 1
  let cut := cutAt '@' (after.takeWhile (· ≠ '/'))
  match cut.2 with
  | none => ofParts [] cut.1 rest
  | some host => ofParts cut.1 host rest

def parse (text : String) : Option UserUrl :=
  (candidate text.toList).filter fun url => url.text = text.toList

theorem text_of_parse {text : String} {url : UserUrl} (parsed : parse text = some url) :
    text.toList = url.text := by
  rw [parse, Option.filter_eq_some_iff] at parsed
  exact (of_decide_eq_true parsed.2).symm

theorem user_isHostChar (url : UserUrl) : ∀ char ∈ url.user, isHostChar char = true :=
  List.all_eq_true.mp url.normal.1

theorem host_isHostChar (url : UserUrl) : ∀ char ∈ url.host, isHostChar char = true :=
  List.all_eq_true.mp (Bool.and_eq_true_iff.mp url.normal.2.1).2

theorem rest_isRestChar (url : UserUrl) : ∀ char ∈ url.rest, isRestChar char = true :=
  List.all_eq_true.mp url.normal.2.2

theorem at_not_mem_host (url : UserUrl) : '@' ∉ url.host :=
  fun member => absurd (url.host_isHostChar '@' member) (by decide)

theorem at_not_mem_user (url : UserUrl) : '@' ∉ url.user :=
  fun member => absurd (url.user_isHostChar '@' member) (by decide)

theorem authority_cases (url : UserUrl) :
    (url.user = [] ∧ url.authority = url.host) ∨
      url.user ≠ [] ∧ url.authority = url.user ++ '@' :: url.host := by
  unfold authority
  by_cases noUser : url.user = []
  · exact .inl ⟨noUser, if_pos noUser⟩
  · exact .inr ⟨noUser, if_neg noUser⟩

theorem mem_authority {url : UserUrl} {char : Char} (member : char ∈ url.authority) :
    isHostChar char = true ∨ char = '@' := by
  rcases url.authority_cases with ⟨-, isHost⟩ | ⟨-, withUser⟩
  · rw [isHost] at member
    exact .inl (url.host_isHostChar char member)
  · rw [withUser, List.mem_append, List.mem_cons] at member
    rcases member with inUser | isAt | inHost
    · exact .inl (url.user_isHostChar char inUser)
    · exact .inr isAt
    · exact .inl (url.host_isHostChar char inHost)

theorem slash_not_mem_authority (url : UserUrl) : '/' ∉ url.authority := by
  intro member
  rcases mem_authority member with isHost | isAt
  · exact absurd isHost (by decide)
  · exact absurd isAt (by decide)

theorem authority_ne_nil (url : UserUrl) : url.authority ≠ [] := by
  rcases url.authority_cases with ⟨-, isHost⟩ | ⟨-, withUser⟩
  · rw [isHost]
    intro empty
    have nonempty := (Bool.and_eq_true_iff.mp url.normal.2.1).1
    rw [empty] at nonempty
    cases nonempty
  · rw [withUser]
    exact List.append_ne_nil_of_right_ne_nil _ (List.cons_ne_nil _ _)

theorem ofParts_self (url : UserUrl) : ofParts url.user url.host url.rest = some url :=
  dif_pos url.normal

theorem candidate_text (url : UserUrl) : candidate url.text = some url := by
  have after : url.text.drop "https://".length = url.authority ++ '/' :: url.rest := rfl
  obtain ⟨before, behind⟩ := NormalUrl.cut_at_slash url.slash_not_mem_authority url.rest
  unfold candidate
  dsimp only
  rw [after, before, behind]
  rcases url.authority_cases with ⟨noUser, isHost⟩ | ⟨-, withUser⟩
  · rw [isHost, cutAt_of_not_mem url.at_not_mem_host]
    have self := url.ofParts_self
    rwa [noUser] at self
  · rw [withUser, cutAt_append url.at_not_mem_user]
    exact url.ofParts_self

theorem parse_text (url : UserUrl) : parse (String.ofList url.text) = some url := by
  rw [parse, String.toList_ofList, candidate_text, Option.filter_some, if_pos (by simp)]

theorem isRestChar_of_isHostChar {char : Char} (isHost : isHostChar char = true) :
    isRestChar char = true := by
  unfold isHostChar at isHost
  unfold isRestChar Char.isAlphanum Char.isAlpha
  simp only [Bool.or_eq_true, beq_iff_eq] at isHost
  rcases isHost with ((isLower | isDigit) | rfl) | rfl
  · simp [isLower]
  · simp [isDigit]
  · decide
  · decide

/-- The characters of a path are among the printable ones. -/
theorem range_of_isRestChar {char : Char} (isRest : isRestChar char = true) :
    '!' ≤ char ∧ char ≤ '~' := by
  have range : 33 ≤ char.toNat ∧ char.toNat ≤ 126 := by
    unfold isRestChar Char.isAlphanum Char.isAlpha Char.isUpper Char.isLower Char.isDigit at isRest
    simp only [Bool.or_eq_true, Bool.and_eq_true, decide_eq_true_eq, ge_iff_le,
      UInt32.le_iff_toNat_le] at isRest
    have code : char.val.toNat = char.toNat := rfl
    rcases isRest with ((upper | lower) | digit) | listed
    · rw [code] at upper
      exact ⟨Nat.le_trans (by decide) upper.1, Nat.le_trans upper.2 (by decide)⟩
    · rw [code] at lower
      exact ⟨Nat.le_trans (by decide) lower.1, Nat.le_trans lower.2 (by decide)⟩
    · rw [code] at digit
      exact ⟨Nat.le_trans (by decide) digit.1, Nat.le_trans digit.2 (by decide)⟩
    · have within := @holds_of_mem _ (fun other => decide (33 ≤ other.toNat ∧ other.toNat ≤ 126))
        (by decide) char (List.contains_iff_mem.mp listed)
      exact of_decide_eq_true within
  exact range

theorem isStripped_of_isRestChar {char : Char} (isRest : isRestChar char = true) :
    isStripped char = false := by
  rw [isStripped, decide_eq_false_iff_not]
  intro low
  exact absurd (Char.le_trans (range_of_isRestChar isRest).1 low) (by decide)

/-- The characters of a query are kept as they are. -/
theorem isQueryChar_of_isRestChar {char : Char} (isRest : isRestChar char = true) :
    isQueryChar char = true := by
  have range := range_of_isRestChar isRest
  have notListed : ['"', '#', '<', '>', '\''].contains char = false :=
    contains_eq_false (by decide) isRest
  unfold isQueryChar
  rw [notListed, decide_eq_true range.1, decide_eq_true range.2]
  rfl

theorem isForbidden_of_isHostChar {char : Char} (isHost : isHostChar char = true) :
    isForbidden char = false := by
  have notListed : ['#', '/', '?', '@', '\\'].contains char = false :=
    contains_eq_false (by decide) isHost
  rw [isForbidden, isStripped_of_isRestChar (isRestChar_of_isHostChar isHost), notListed]
  rfl

/-- No character of the text is dropped. -/
theorem stays_text (url : UserUrl) : ∀ char ∈ url.text, isStripped char = false := by
  intro char member
  unfold text at member
  rw [List.mem_append, List.mem_append, List.mem_cons] at member
  rcases member with inScheme | inAuthority | isSlash | inRest
  · have kept := @holds_of_mem _ (fun other => !isStripped other) (by decide) char inScheme
    simpa using kept
  · rcases mem_authority inAuthority with isHost | rfl
    · exact isStripped_of_isRestChar (isRestChar_of_isHostChar isHost)
    · decide
  · rw [isSlash]
    decide
  · exact isStripped_of_isRestChar (url.rest_isRestChar char inRest)

theorem storable_text (url : UserUrl) : Json.textStorable (String.ofList url.text) = true := by
  have noNull : '\x00' ∉ url.text := fun member => absurd (url.stays_text _ member) (by decide)
  simp [Json.textStorable, noNull]

theorem storable_host (url : UserUrl) : Json.textStorable (String.ofList url.host) = true := by
  have noNull : '\x00' ∉ url.host :=
    fun member => absurd (url.host_isHostChar _ member) (by decide)
  simp [Json.textStorable, noNull]

/-- An authority without an `@` is the host. -/
theorem host_of_text (url : UserUrl) (scheme authority rest : String)
    (isHttp : scheme = "http" ∨ scheme = "https")
    (plain : ∀ char ∈ authority.toList, char ∉ ['/', '?', '#', '@', '\\'])
    (under : String.ofList url.text = scheme ++ "://" ++ authority ++ "/" ++ rest) :
    String.ofList url.host = authority := by
  have noSlash : '/' ∉ authority.toList := fun member => plain '/' member (by decide)
  have sameText : url.authority ++ '/' :: url.rest = authority.toList ++ '/' :: rest.toList := by
    have texts := congrArg String.toList under
    unfold text at texts
    rcases isHttp with rfl | rfl
    · simp [String.toList_append] at texts
    · simpa [String.toList_append] using texts
  have before := (NormalUrl.cut_at_slash url.slash_not_mem_authority url.rest).1
  rw [sameText, (NormalUrl.cut_at_slash noSlash rest.toList).1] at before
  rcases url.authority_cases with ⟨-, isHost⟩ | ⟨-, withUser⟩
  · rw [← isHost, ← before, String.ofList_toList]
  · have hasAt : '@' ∈ authority.toList := by
      rw [before, withUser]
      exact List.mem_append_right _ List.mem_cons_self
    exact absurd (by decide) (plain '@' hasAt)

instance : UrlAccessors UserUrl where
  parse := parse
  asStr url := String.ofList url.text
  scheme _ := "https"
  hostStr url := some (String.ofList url.host)
  port _ := none
  path url := String.ofList (cutAt '?' ('/' :: url.rest)).1
  pathSegments url := some (((cutAt '?' ('/' :: url.rest)).1.tail.splitOn '/').map String.ofList)
  parse_asStr := parse_text
  storable_asStr := storable_text
  storable_hostStr url _ isHost := Option.some.inj isHost ▸ storable_host url
  authority_of_asStr url scheme authority rest isHttp plain under :=
    congrArg some (host_of_text url scheme authority rest isHttp plain under)
  username url := String.ofList url.user
  password _ := none
  query url := (cutAt '?' ('/' :: url.rest)).2.map String.ofList
  fragment _ := none
  parseHost text :=
    if !text.toList.isEmpty && text.toList.all isHostChar then some text else none

/-- The URL is read from its parts. -/
theorem readsAs_text (url : UserUrl) :
    ReadsAs url (splitParts (skipSlashes (url.authority ++ '/' :: url.rest))) := by
  have plain : ∀ char ∈ url.authority, endsAuthority char = false := by
    intro char member
    rw [Bool.eq_false_iff]
    intro ends
    rcases mem_authority member with isHost | rfl
    · exact absurd ((isForbidden_of_endsAuthority ends).symm.trans
        (isForbidden_of_isHostChar isHost)) (by decide)
    · exact absurd ends (by decide)
  have noHash : '#' ∉ '/' :: url.rest := by
    intro member
    rcases List.mem_cons.mp member with isSlash | inRest
    · exact absurd isSlash (by decide)
    · exact absurd (url.rest_isRestChar '#' inRest) (by decide)
  have noColon : ':' ∉ url.host := fun member => absurd (url.host_isHostChar ':' member) (by decide)
  have isAuthority : authorityOf UserUrl (String.ofList url.host) =
      some (String.ofList url.host, none) := by
    have isHost : UrlAccessors.parseHost UserUrl (String.ofList url.host) =
        some (String.ofList url.host) := by
      refine if_pos ?_
      rw [String.toList_ofList]
      exact url.normal.2.1
    rw [authorityOf, String.toList_ofList, hostPort, cutPort_of_not_mem noColon]
    dsimp only
    rw [isHost]
  have keptQuery : ∀ text, (cutAt '?' ('/' :: url.rest)).2 = some text →
      encodeQuery text = text := by
    intro text isQuery
    refine encodeQuery_of_isQueryChar fun char member => ?_
    rcases List.mem_cons.mp (subset_of_cutAt isQuery member) with rfl | inRest
    · decide
    · exact isQueryChar_of_isRestChar (url.rest_isRestChar char inRest)
  rw [skipSlashes_append url.authority_ne_nil plain, splitParts_authority plain,
    cutAt_of_not_mem noHash]
  have credentials : url.authority.rtakeWhile (· ≠ '@') = url.host ∧
      (('@' ∈ url.authority) → url.user ≠ []) ∧ ('@' ∉ url.authority → url.user = []) := by
    rcases url.authority_cases with ⟨noUser, isHost⟩ | ⟨hasUser, withUser⟩
    · rw [isHost]
      exact ⟨rtakeWhile_of_not_mem url.at_not_mem_host,
        fun member => absurd member url.at_not_mem_host, fun _ => noUser⟩
    · rw [withUser]
      exact ⟨(authority_append url.at_not_mem_host url.user).1, fun _ => hasUser,
        fun absent => absurd (List.mem_append_right _ List.mem_cons_self) absent⟩
  refine ⟨rfl, ⟨_, rfl, ?_⟩, fun noUser => ?_, fun _ => rfl, ?_, rfl⟩
  · dsimp only
    rw [credentials.1]
    exact isAuthority
  · have absent : '@' ∉ url.authority := by
      intro member
      rw [if_pos member] at noUser
      cases noUser
    exact ⟨congrArg String.ofList (credentials.2.2 absent), rfl⟩
  · show (cutAt '?' ('/' :: url.rest)).2.map String.ofList = _
    cases isQuery : (cutAt '?' ('/' :: url.rest)).2 with
    | none => rfl
    | some text => rw [Option.map_some, Option.map_some, keptQuery text isQuery]

instance : UrlStandard UserUrl where
  parseHost_forbids text host parsed char member := by
    change (if _ then _ else _) = _ at parsed
    split at parsed
    next valid =>
      have isHost := List.all_eq_true.mp (Bool.and_eq_true_iff.mp valid).2 char member
      exact isForbidden_of_isHostChar isHost
    next => cases parsed
  parse_https text url after parsed cleaned := by
    rw [text_of_parse parsed, clean_eq_self url.stays_text] at cleaned
    rw [← List.append_cancel_left cleaned]
    exact url.readsAs_text

end UserUrl

/-- What is asked for a handle, as characters of a URL. -/
theorem requests {handle name domain : String} {url : UserUrl}
    (isHandle : parseRemoteHandle handle = some (name, domain))
    (isUrl : (webfingerUrl name domain : Option UserUrl) = some url) :
    ((resolveRemoteActorByHandle handle : Handler UserUrl (Option ActorRow)).trace
      Operation.exec (fun _ => .offline) Db.empty).head? = some (.getJson url, .offline) := by
  unfold resolveRemoteActorByHandle
  rw [isHandle]
  dsimp only
  rw [isUrl]
  dsimp only
  rw [Handler.head?_trace_caught_then]

theorem loops_isHandle :
    parseRemoteHandle "@dansup@loops.video" = some ("dansup", "loops.video") := by
  decide

theorem loops_isUrl :
    (webfingerUrl "dansup" "loops.video" : Option UserUrl).isSome = true := by
  decide

/-- A handle of a name and a domain is asked about. -/
theorem loops_asked :
    AsksAbout "dansup" "loops.video"
      ((webfingerUrl "dansup" "loops.video" : Option UserUrl).get loops_isUrl) :=
  (asksAbout_iff loops_isHandle (requests loops_isHandle (Option.some_get loops_isUrl).symm)).mpr
    ⟨⟨not_mem_of_all (by decide), (formDecode_eq_utf8_iff _).mp (by decide)⟩,
      ⟨not_mem_of_all (by decide), (formDecode_eq_utf8_iff _).mp (by decide)⟩,
      not_mem_of_all (by decide)⟩

theorem injected_isHandle :
    parseRemoteHandle "user@good.example@evil.example" =
      some ("user", "good.example@evil.example") := by
  decide

theorem injected_isUrl :
    (webfingerUrl "user" "good.example@evil.example" : Option UserUrl).isSome = true := by
  decide

/-- A second `@` sends the request for a handle to what follows it. -/
theorem injected_not_asked :
    ∃ url : UserUrl,
      ((resolveRemoteActorByHandle "user@good.example@evil.example" :
        Handler UserUrl (Option ActorRow)).trace Operation.exec (fun _ => .offline)
        Db.empty).head? = some (.getJson url, .offline) ∧
      hostStr url = some "evil.example" ∧
      ¬AsksAbout "user" "good.example@evil.example" url := by
  refine ⟨_, requests injected_isHandle (Option.some_get injected_isUrl).symm,
    by decide, fun asks => ?_⟩
  exact absurd asks.username (by decide)

end Sample
end TootTok
