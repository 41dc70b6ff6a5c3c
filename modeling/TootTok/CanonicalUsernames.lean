import TootTok.LocalUrls
import TootTok.Numerals
import TootTok.Signups

/-!
# Canonical usernames

The username of an accepted registration is valid without the white space around it, and is
stored with it. The stored username and the id of the actor are canonical only if there was
none.
-/

namespace TootTok

open Effects
open Sanitize (isWhitespace trim)
open UrlCrate

variable {Url : Type}

/-! ## Usernames -/

/-- `[a-z0-9_]` -/
def IsUsernameChar (char : Char) : Prop :=
  ('a'.toNat ≤ char.toNat ∧ char.toNat ≤ 'z'.toNat) ∨
    ('0'.toNat ≤ char.toNat ∧ char.toNat ≤ '9'.toNat) ∨ char = '_'

instance : DecidablePred IsUsernameChar := fun char => by
  unfold IsUsernameChar
  infer_instance

/-- `^[a-z0-9_]{3,30}$` -/
structure MatchesUsername (text : List Char) : Prop where
  atLeast : 3 ≤ text.length
  atMost : text.length ≤ 30
  chars : ∀ char ∈ text, IsUsernameChar char

/-- No white space surrounds the username. -/
def RegisterRequest.Unpadded (request : RegisterRequest) : Prop :=
  trim request.username.toList = request.username.toList

theorem IsUsernameChar.not_whitespace {char : Char} (isUsername : IsUsernameChar char) :
    isWhitespace char = false := by
  unfold isWhitespace
  rcases isUsername with ⟨least, most⟩ | ⟨least, most⟩ | rfl
  · simp at least most ⊢
    omega
  · simp at least most ⊢
    omega
  · decide

/-- A character of which every byte is one of a username. -/
theorem isUsernameChar_of_bytes {char : Char}
    (bytes : ∀ byte ∈ String.utf8EncodeChar char, isUsernameByte byte = true) :
    IsUsernameChar char ∧ char.utf8Size = 1 := by
  rcases Bytes.utf8EncodeChar_cases char with ⟨ascii, size, encoded⟩ |
    ⟨lead, others, encoded, -, -, wide⟩
  · refine ⟨?_, size⟩
    have own : (UInt8.ofNat char.toNat).toNat = char.toNat := by
      rw [UInt8.toNat_ofNat']
      omega
    have isByte := bytes (UInt8.ofNat char.toNat) (by rw [encoded]; exact List.mem_singleton_self _)
    rw [isUsernameByte, own] at isByte
    simp only [Bool.or_eq_true, Bool.and_eq_true, decide_eq_true_eq, beq_iff_eq] at isByte
    rcases isByte with (letter | digit) | underscore
    · exact .inl letter
    · exact .inr (.inl digit)
    · exact .inr (.inr (Char.toNat_inj.mp underscore))
  · have isByte := bytes lead (by rw [encoded]; exact List.mem_cons_self)
    rw [isUsernameByte] at isByte
    simp only [Bool.or_eq_true, Bool.and_eq_true, decide_eq_true_eq, beq_iff_eq] at isByte
    have low : lead.toNat < 0xC0 := by
      rcases isByte with (⟨-, most⟩ | ⟨-, most⟩) | same
      · exact Nat.lt_of_le_of_lt most (by decide)
      · exact Nat.lt_of_le_of_lt most (by decide)
      · rw [same]
        decide
    omega

/-- The check of the bytes is the pattern. -/
theorem matchesUsername_of_bytes {text : List Char} (atLeast : 3 ≤ Duration.byteLength text)
    (atMost : Duration.byteLength text ≤ 30)
    (bytes : (Bytes.utf8Bytes text).all isUsernameByte = true) : MatchesUsername text := by
  have each : ∀ char ∈ text, IsUsernameChar char ∧ char.utf8Size = 1 := by
    intro char member
    refine isUsernameChar_of_bytes fun byte isByte => ?_
    exact List.all_eq_true.mp bytes byte (List.mem_flatMap.mpr ⟨char, member, isByte⟩)
  have length : Duration.byteLength text = text.length := by
    clear atLeast atMost bytes
    induction text with
    | nil => rfl
    | cons char text inductionHypothesis =>
        rw [Duration.byteLength_cons, List.length_cons, (each char List.mem_cons_self).2,
          inductionHypothesis fun other member => each other (List.mem_cons_of_mem _ member)]
        omega
  exact ⟨length ▸ atLeast, length ▸ atMost, fun char member => (each char member).1⟩

theorem matchesUsername_of_valid {request : RegisterRequest}
    (valid : validateRegister request = .ok ()) :
    MatchesUsername (trim request.username.toList) := by
  unfold validateRegister at valid
  dsimp only at valid
  split at valid
  · cases valid
  next named =>
    obtain ⟨atLeast, atMost, bytes⟩ := not_not.mp named
    exact matchesUsername_of_bytes atLeast atMost bytes

/-- The stored username matches the pattern just if it is stored as it was validated. -/
theorem matchesUsername_iff {request : RegisterRequest}
    (valid : validateRegister request = .ok ()) :
    MatchesUsername request.username.toList ↔ request.Unpadded := by
  constructor
  · intro canonical
    exact Sanitize.trim_of_no_whitespace fun char member =>
      (canonical.chars char member).not_whitespace
  · intro unpadded
    rw [← unpadded]
    exact matchesUsername_of_valid valid

/-! ## Ids of actors -/

section Ids

variable (Url) [UrlCrate Url]

/-- Letters, digits and underscores between slashes are a path that the crate leaves as it
is. -/
def KeepsPlainPaths : Prop :=
  ∀ (url : Url) (scheme authority path : String),
    scheme = "http" ∨ scheme = "https" →
    (∀ char ∈ authority.toList, char ∉ ['/', '?', '#', '@', '\\']) →
    asStr url = scheme ++ "://" ++ authority ++ "/" →
    (∀ char ∈ path.toList, IsUsernameChar char ∨ char = '/') →
    ∃ joined : Url, parse (scheme ++ "://" ++ authority ++ "/" ++ path) = some joined ∧
      asStr joined = scheme ++ "://" ++ authority ++ "/" ++ path

/-- The crate prints the base URL as it is, with its slash. -/
def Config.NormalBase (config : Config) : Prop :=
  ∃ url : Url, asStr url = config.publicBaseUrl ++ "/"

/-- The row of an actor as the instance writes it, if it is the one that the crate reads. -/
structure Canonical (config : Config) (row : ActorRow) : Prop where
  username : MatchesUsername row.username.toList
  apId : row.apId = config.publicBaseUrl ++ "/users/" ++ row.username
  parsed : ∃ url : Url, parse row.apId = some url ∧ asStr url = row.apId

variable {Url} {config : Config} {row : ActorRow}

omit [UrlCrate Url] in
theorem plain_users : ∀ char ∈ "users/".toList, IsUsernameChar char ∨ char = '/' := by
  have plain : ("users/".toList.all fun char =>
      decide (IsUsernameChar char ∨ char = '/')) = true := by decide
  exact fun char member => of_decide_eq_true (List.all_eq_true.mp plain char member)

theorem canonical_of_matches (keeps : KeepsPlainPaths Url) (base : config.NormalBase Url)
    (username : MatchesUsername row.username.toList)
    (apId : row.apId = config.publicBaseUrl ++ "/users/" ++ row.username) :
    Canonical Url config row := by
  refine ⟨username, apId, ?_⟩
  obtain ⟨url, printed⟩ := base
  rw [config.publicBaseUrl_eq] at printed apId
  have joined : row.apId =
      config.scheme ++ "://" ++ config.federationDomain ++ "/" ++ ("users/" ++ row.username) := by
    have slash : "/users/" = "/" ++ "users/" := rfl
    rw [apId, slash]
    simp only [String.append_assoc]
  rw [joined]
  refine keeps url _ _ _ config.scheme_http config.plain_federationDomain printed ?_
  intro char member
  rw [String.toList_append, List.mem_append] at member
  rcases member with inPath | inName
  · exact plain_users char inPath
  · exact .inl (username.chars char inName)

/-- Two canonical ids that parse to one URL are equal. -/
theorem Canonical.apId_eq {other : ActorRow} (left : Canonical Url config row)
    (right : Canonical Url config other) {url : Url} (parsed : parse row.apId = some url)
    (also : parse other.apId = some url) : row.apId = other.apId := by
  obtain ⟨leftUrl, leftParsed, leftPrinted⟩ := left.parsed
  obtain ⟨rightUrl, rightParsed, rightPrinted⟩ := right.parsed
  rw [parsed] at leftParsed
  rw [also] at rightParsed
  rw [← leftPrinted, ← rightPrinted, ← Option.some.inj leftParsed, ← Option.some.inj rightParsed]

end Ids

/-! ## Runs -/

section Runs

variable {ι κ : Type} [UrlCrate Url]

/-- Every accepted registration has left a canonical actor, and no two of them actors whose ids
parse to one URL. -/
structure RegistersCanonically (config : Config)
    (events : List (RegisterEvent ι κ Url))
    (final : Effects.Config (ι ⊕ κ) (@RegisterOp.Result Url) Error RegisterAnswer Accounts) :
    Prop where
  canonical : ∀ index registered, Accepted final index registered →
    ∃ row, Creates events index row ∧ row.id = registered.actorId ∧
      (∃ kept ∈ final.state.actors, kept.id = row.id ∧ kept.apId = row.apId) ∧
      Canonical Url config row
  apart : ∀ left right, left ≠ right → ∀ leftAnswer rightAnswer,
    Accepted final left leftAnswer → Accepted final right rightAnswer →
    ∀ leftRow rightRow, Creates events left leftRow → Creates events right rightRow →
    ∀ url : Url, parse leftRow.apId = some url → parse rightRow.apId ≠ some url

variable [HashCrate] [DecidableEq ι] [DecidableEq κ] {config : Config}
  {requests : ι → RegisterRequest} {others : κ → Registration Url RegisterAnswer}
  {accounts : Accounts} {events : List (RegisterEvent ι κ Url)}
  {final : Effects.Config (ι ⊕ κ) (@RegisterOp.Result Url) Error RegisterAnswer Accounts}

/-- The actors of the accepted registrations are canonical, under ids that parse to different
URLs, just if no accepted username was sent with white space around it. -/
theorem usernames_canonical_iff (plainPaths : KeepsPlainPaths Url)
    (base : config.NormalBase Url)
    (accountsOnly : ∀ other, (others other).Calls RegisterOp.IsBase)
    (run : RegisterRun config requests others accounts events final) :
    RegistersCanonically config events final ↔
      ∀ index registered, Accepted final index registered → (requests index).Unpadded := by
  have holds := run.holds accountsOnly
  have matches_iff (index : ι) (registered : Registered)
      (accepted : Accepted final index registered) (row : ActorRow)
      (created : Creates events index row) :
      MatchesUsername row.username.toList ↔ (requests index).Unpadded := by
    rw [(holds.named index row created).1]
    exact matchesUsername_iff (run.accepted accountsOnly accepted).1
  constructor
  · intro canonical index registered accepted
    obtain ⟨row, created, -, -, isCanonical⟩ := canonical.canonical index registered accepted
    exact (matches_iff index registered accepted row created).mp isCanonical.username
  · intro unpadded
    have isCanonical (index : ι) (registered : Registered)
        (accepted : Accepted final index registered) (row : ActorRow)
        (created : Creates events index row) : Canonical Url config row := by
      refine canonical_of_matches plainPaths base ?_ ?_
      · exact (matches_iff index registered accepted row created).mpr
          (unpadded index registered accepted)
      · rw [(holds.named index row created).1]
        exact (holds.named index row created).2
    constructor
    · intro index registered accepted
      obtain ⟨-, row, isCreated, sameId⟩ := run.accepted accountsOnly accepted
      have created := (holds.noted index row).mpr (by rw [isCreated]; rfl)
      exact ⟨row, created, sameId.symm, holds.standing.stored _ row isCreated,
        isCanonical index registered accepted row created⟩
    · intro left right different leftAnswer rightAnswer leftAccepted rightAccepted leftRow
        rightRow leftCreates rightCreates url leftParsed rightParsed
      have ownRow (index : ι) (registered : Registered)
          (accepted : Accepted final index registered) (row : ActorRow)
          (created : Creates events index row) :
          signupsOf config requests events (.inl index) = .created row := by
        obtain ⟨-, kept, isCreated, -⟩ := run.accepted accountsOnly accepted
        have noted := (holds.noted index row).mp created
        rw [isCreated] at noted ⊢
        rw [Option.some.inj noted]
      refine holds.standing.apart (.inl left) (.inl right)
        (fun same => different (Sum.inl.inj same)) leftRow rightRow
        (ownRow left leftAnswer leftAccepted leftRow leftCreates)
        (ownRow right rightAnswer rightAccepted rightRow rightCreates) ?_
      exact (isCanonical left leftAnswer leftAccepted leftRow leftCreates).apId_eq
        (isCanonical right rightAnswer rightAccepted rightRow rightCreates) leftParsed rightParsed

end Runs

/-! ## Samples -/

namespace Sample

/-- A URL in normal form that is parsed also between spaces and control characters. -/
structure SpacedUrl where
  normal : NormalUrl

namespace SpacedUrl

/-- A control character or the space. -/
def isBlank (char : Char) : Bool := char.toNat ≤ 0x20

def stripped (text : String) : String :=
  String.ofList (((text.toList.dropWhile isBlank).reverse.dropWhile isBlank).reverse)

instance : UrlCrate SpacedUrl where
  parse text := ((parse text).or (parse (stripped text))).map SpacedUrl.mk
  asStr url := asStr url.normal
  scheme url := scheme url.normal
  hostStr url := hostStr url.normal
  port url := port url.normal
  path url := UrlCrate.path url.normal
  pathSegments url := pathSegments url.normal
  parse_asStr url := by rw [parse_asStr url.normal]; rfl
  storable_asStr url := storable_asStr url.normal
  storable_hostStr url := storable_hostStr url.normal
  authority_of_asStr url := authority_of_asStr url.normal

end SpacedUrl

/-- A character of a username may stand in a path. -/
theorem isRestChar_of_username {char : Char} (isUsername : IsUsernameChar char) :
    isRestChar char = true := by
  unfold isRestChar
  rw [Bool.or_eq_true]
  rcases isUsername with ⟨least, most⟩ | ⟨least, most⟩ | rfl
  · left
    have lower : char.isLower = true := by
      unfold Char.isLower
      rw [Bool.and_eq_true, decide_eq_true_eq, decide_eq_true_eq]
      exact ⟨least, most⟩
    unfold Char.isAlphanum Char.isAlpha
    simp [lower]
  · left
    have digit : char.isDigit = true := by
      unfold Char.isDigit
      rw [Bool.and_eq_true, decide_eq_true_eq, decide_eq_true_eq]
      exact ⟨least, most⟩
    unfold Char.isAlphanum
    simp [digit]
  · right
    decide

theorem keepsPlainPaths_spaced : KeepsPlainPaths SpacedUrl := by
  intro url scheme authority path _ _ printed plain
  have restNormal : (url.normal.rest ++ path.toList).all isRestChar = true := by
    rw [List.all_append, Bool.and_eq_true]
    refine ⟨url.normal.restNormal, List.all_eq_true.mpr fun char member => ?_⟩
    rcases plain char member with isUsername | rfl
    · exact isRestChar_of_username isUsername
    · decide
  let joined : SpacedUrl :=
    ⟨{ url.normal with rest := url.normal.rest ++ path.toList, restNormal := restNormal }⟩
  have longer : asStr joined = asStr url ++ path := by
    change NormalUrl.serialize _ = NormalUrl.serialize _ ++ path
    rw [← String.toList_inj]
    simp [NormalUrl.serialize, NormalUrl.schemeName, joined]
  refine ⟨joined, ?_, ?_⟩
  · rw [← printed, ← longer]
    exact parse_asStr joined
  · rw [longer, printed]

def bareConfig : Config := secureConfig "a.b" plain_lower

theorem normalBase_bare : bareConfig.NormalBase SpacedUrl :=
  ⟨⟨.ofText "https://a.b/"⟩, by decide⟩

/-- Two registrations. -/
def signups (first second : String) (index : Bool) : RegisterRequest where
  username := if index then second else first
  email := none
  password := "0123456789"

def noAccounts : Accounts where
  toDb := .empty
  files _ := false
  users := .empty
  sessions := .empty
  emailTokens := .empty

def registerEnv : RegisterEnv SpacedUrl where
  toAccountEnv := .quiet SpacedUrl ⟨0⟩
  keypair := .ok ("public", "private")

def callsOf (index : Bool) : List (Effects.Action (Bool ⊕ Empty) (@RegisterOp.Result SpacedUrl)
    Error RegisterAnswer (RegisterEnv SpacedUrl)) :=
  List.replicate 5 (.call (.inl index) registerEnv)

/-- One registration after the other. -/
def signedUp (first second : String) :
    List (RegisterEvent Bool Empty SpacedUrl) ×
      Effects.Config (Bool ⊕ Empty) (@RegisterOp.Result SpacedUrl) Error RegisterAnswer Accounts :=
  Config.serve RegisterOp.exec (fun _ _ _ _ _ => true) []
    (registering bareConfig (signups first second) Empty.elim noAccounts)
    (callsOf false ++ callsOf true)

theorem signedUp_run (first second : String) :
    RegisterRun bareConfig (signups first second) Empty.elim noAccounts
      (signedUp first second).1 (signedUp first second).2 := by
  refine Config.serve_serves (fun _ _ _ _ _ _ => trivial) _ ?_ .start
  intro thread task member
  rcases List.mem_append.mp member with member | member
  · cases (List.mem_replicate.mp member).2
  · cases (List.mem_replicate.mp member).2

/-- Two names without white space around them. -/
theorem canonical_names :
    RegistersCanonically bareConfig (signedUp "bob" "eve").1
      (signedUp "bob" "eve").2 := by
  refine (usernames_canonical_iff keepsPlainPaths_spaced normalBase_bare (fun other => other.elim)
    (signedUp_run "bob" "eve")).mpr ?_
  intro index registered _
  cases index
  · change Sanitize.trim "bob".toList = "bob".toList
    decide
  · change Sanitize.trim "eve".toList = "eve".toList
    decide

/-- The actor of a name. -/
def newActor (username : String) : NewActor := userActor bareConfig username "public" "private"

/-- A name is accepted again with a space behind it, and the crate reads the ids of the two
actors as one. -/
theorem spaced_name_accepted :
    KeepsPlainPaths SpacedUrl ∧ bareConfig.NormalBase SpacedUrl ∧
      RegisterRun bareConfig (signups "bob" "bob ") Empty.elim noAccounts
        (signedUp "bob" "bob ").1 (signedUp "bob" "bob ").2 ∧
      Accepted (signedUp "bob" "bob ").2 false ⟨1, "bob", "active"⟩ ∧
      Accepted (signedUp "bob" "bob ").2 true ⟨2, "bob ", "active"⟩ ∧
      (∃ left right, Creates (signedUp "bob" "bob ").1 false left ∧
        Creates (signedUp "bob" "bob ").1 true right ∧ ¬MatchesUsername right.username.toList ∧
        ∃ url : SpacedUrl, parse left.apId = some url ∧ parse right.apId = some url) ∧
      ¬RegistersCanonically bareConfig (signedUp "bob" "bob ").1
        (signedUp "bob" "bob ").2 := by
  have fourth : (signedUp "bob" "bob ").1[3]? = some (.called ⟨.inl false,
      .createActor (newActor "bob"), registerEnv, .ok ((newActor "bob").row 1)⟩) := rfl
  have ninth : (signedUp "bob" "bob ").1[8]? = some (.called ⟨.inl true,
      .createActor (newActor "bob "), registerEnv, .ok ((newActor "bob ").row 2)⟩) := rfl
  have first : Creates (signedUp "bob" "bob ").1 false ((newActor "bob").row 1) :=
    ⟨_, _, List.mem_of_getElem? fourth⟩
  have second : Creates (signedUp "bob" "bob ").1 true ((newActor "bob ").row 2) :=
    ⟨_, _, List.mem_of_getElem? ninth⟩
  have leftParsed : parse ((newActor "bob").row 1).apId =
      some (⟨.ofText "https://a.b/users/bob"⟩ : SpacedUrl) := rfl
  have rightParsed : parse ((newActor "bob ").row 2).apId =
      some (⟨.ofText "https://a.b/users/bob"⟩ : SpacedUrl) := rfl
  refine ⟨keepsPlainPaths_spaced, normalBase_bare, signedUp_run _ _, rfl, rfl,
    ⟨_, _, first, second, fun isName => ?_, _, leftParsed, rightParsed⟩, fun canonical => ?_⟩
  · have space : IsUsernameChar ' ' := isName.chars ' ' (by decide)
    exact absurd space (by decide)
  · exact canonical.apart false true (by decide) ⟨1, "bob", "active"⟩ ⟨2, "bob ", "active"⟩ rfl rfl
      _ _ first second _ leftParsed rightParsed

end Sample
end TootTok
