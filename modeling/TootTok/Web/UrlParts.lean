import TootTok.Web.QueryStrings
import Mathlib.Data.List.DropRight

/-!
# Parts of a URL

Where a parser of URLs cuts an absolute URL of a web scheme: it drops the space around the
text and the line breaks in it, ends the authority at the first delimiter, takes what stands
before the last `@` of the authority for credentials, and reads a host and a port from the
rest of the authority.
-/

namespace TootTok
namespace Web

/-! ## The text that is parsed -/

/-- Dropped at both ends of the text. -/
def isStripped (char : Char) : Bool := char ≤ ' '

/-- Dropped wherever it stands. -/
def isRemoved (char : Char) : Bool := ['\t', '\n', '\r'].contains char

def clean (text : List Char) : List Char :=
  ((text.dropWhile isStripped).rdropWhile isStripped).filter fun char => !isRemoved char

theorem isStripped_of_isRemoved {char : Char} (removed : isRemoved char = true) :
    isStripped char = true :=
  holds_of_mem (by decide) (List.contains_iff_mem.mp removed)

/-- Only what follows the last character that is kept can be dropped at the end. -/
theorem rdropWhile_append_cons {drop : Char → Bool} {kept : Char} (isKept : drop kept = false)
    (front back : List Char) :
    (front ++ kept :: back).rdropWhile drop = front ++ kept :: back.rdropWhile drop := by
  have stops : (kept :: front.reverse).dropWhile drop = kept :: front.reverse := by
    rw [List.dropWhile_cons, isKept]
    rfl
  have nonempty : front ++ kept :: back = front ++ [kept] ++ back := by simp
  unfold List.rdropWhile
  rw [nonempty, List.reverse_append, List.reverse_append, List.reverse_singleton,
    List.singleton_append, List.dropWhile_append, stops]
  split
  next none =>
    rw [List.isEmpty_iff.mp none]
    simp
  next => simp

/-- A text whose characters are not stripped keeps its end. -/
theorem rdropWhile_eq_self_of {text : List Char}
    (stays : ∀ char ∈ text, isStripped char = false) : text.rdropWhile isStripped = text := by
  rw [List.rdropWhile_eq_self_iff]
  intro nonempty
  rw [stays _ (List.getLast_mem nonempty)]
  exact Bool.false_ne_true

/-- A text is cleaned behind a part that begins and ends with characters that stay. -/
theorem clean_append_cons {first kept : Char} {front back : List Char}
    (begins : isStripped first = false) (isKept : isStripped kept = false) :
    clean (first :: front ++ kept :: back) =
      (first :: front).filter (fun char => !isRemoved char) ++
        kept :: (back.rdropWhile isStripped).filter fun char => !isRemoved char := by
  have staysKept : isRemoved kept = false := by
    cases removed : isRemoved kept with
    | false => rfl
    | true => exact (isStripped_of_isRemoved removed).symm.trans isKept
  have keptFirst (rest : List Char) : (kept :: rest).filter (fun char => !isRemoved char) =
      kept :: rest.filter fun char => !isRemoved char :=
    List.filter_cons_of_pos (by rw [staysKept]; rfl)
  unfold clean
  rw [List.cons_append, List.dropWhile_cons, begins, if_neg (by decide), ← List.cons_append,
    rdropWhile_append_cons isKept, List.filter_append, keptFirst]

/-! ## Host and port -/

/-- Among the characters of no host. -/
def isForbidden (char : Char) : Bool :=
  isStripped char || ['#', '/', '?', '@', '\\'].contains char

/-- The text up to the colon of a port, and the port; a bracketed host has colons of its own. -/
def cutPort (bracketed : Bool) : List Char → List Char × Option (List Char)
  | [] => ([], none)
  | char :: rest =>
      if char = ':' ∧ bracketed = false then ([], some rest)
      else
        let inside := if char = '[' then true else if char = ']' then false else bracketed
        let cut := cutPort inside rest
        (char :: cut.1, cut.2)

theorem cutPort_spec (bracketed : Bool) (text : List Char) :
    text = (cutPort bracketed text).1 ++ ((cutPort bracketed text).2.map (':' :: ·)).getD [] := by
  induction text generalizing bracketed with
  | nil => rfl
  | cons char rest inductionHypothesis =>
      rw [cutPort]
      split
      next isColon =>
        rw [isColon.1]
        rfl
      next =>
        dsimp only
        rw [List.cons_append, ← inductionHypothesis]

def isDigit (char : Char) : Bool := '0' ≤ char && char ≤ '9'

/-- The port that the digits write, unless it is the default one. -/
def readPort (default : Nat) (digits : List Char) : Option (Option UInt16) :=
  let value := digits.foldl (fun value digit => 10 * value + (digit.toNat - '0'.toNat)) 0
  if digits.all isDigit ∧ value < 65536 then
    some (if digits = [] ∨ value = default then none else some (UInt16.ofNat value))
  else none

/-- A host, normalised by a parser of hosts, and a port that is not the default one. -/
def hostPort (parseHost : String → Option String) (default : Nat) (text : List Char) :
    Option (String × Option UInt16) :=
  let (host, digits) := cutPort false text
  match parseHost (String.ofList host) with
  | none => none
  | some host =>
      match digits with
      | none => some (host, none)
      | some digits => (readPort default digits).map fun port => (host, port)

theorem isDigit_of_readPort {default : Nat} {digits : List Char} {port : Option UInt16}
    (isPort : readPort default digits = some port) : ∀ char ∈ digits, isDigit char = true := by
  unfold readPort at isPort
  dsimp only at isPort
  split at isPort
  next valid => exact List.all_eq_true.mp valid.1
  next => cases isPort

theorem not_isForbidden_of_isDigit {char : Char} (digit : isDigit char = true) :
    isForbidden char = false := by
  unfold isForbidden
  rw [Bool.or_eq_false_iff]
  constructor
  · rw [isStripped, decide_eq_false_iff_not]
    intro low
    have zero : '0' ≤ char := of_decide_eq_true (Bool.and_eq_true_iff.mp digit).1
    exact absurd (Char.le_trans zero low) (by decide)
  · exact contains_eq_false (by decide) digit

/-- A host with a port has no character that a host cannot have. -/
theorem not_isForbidden_of_hostPort {parseHost : String → Option String} {default : Nat}
    (forbids : ∀ text host, parseHost text = some host →
      ∀ char ∈ text.toList, isForbidden char = false)
    {text : List Char} {host : String} {port : Option UInt16}
    (parsed : hostPort parseHost default text = some (host, port)) :
    ∀ char ∈ text, isForbidden char = false := by
  intro char member
  have joined := cutPort_spec false text
  unfold hostPort at parsed
  dsimp only at parsed
  cases isHost : parseHost (String.ofList (cutPort false text).1) with
  | none =>
      rw [isHost] at parsed
      cases parsed
  | some name =>
      have hostPlain := forbids _ _ isHost
      rw [String.toList_ofList] at hostPlain
      rw [isHost] at parsed
      cases hasPort : (cutPort false text).2 with
      | none =>
          rw [hasPort, Option.map_none, Option.getD_none, List.append_nil] at joined
          rw [joined] at member
          exact hostPlain char member
      | some digits =>
          rw [hasPort] at parsed joined
          rw [joined, Option.map_some, Option.getD_some] at member
          obtain ⟨_, isPort, -⟩ := Option.map_eq_some_iff.mp parsed
          rcases List.mem_append.mp member with inHost | inPort
          · exact hostPlain char inHost
          · rcases List.mem_cons.mp inPort with rfl | inDigits
            · decide
            · exact not_isForbidden_of_isDigit (isDigit_of_readPort isPort char inDigits)

/-! ## Parts -/

/-- The parts of what follows the slashes after the scheme. -/
structure Parts where
  userInfo : Option (List Char)
  hostPort : List Char
  path : List Char
  query : Option (List Char)
  fragment : Option (List Char)
deriving DecidableEq

/-- The character ends the authority. -/
def endsAuthority (char : Char) : Bool := ['/', '\\', '?', '#'].contains char

def splitParts (after : List Char) : Parts :=
  let authority := after.takeWhile fun char => !endsAuthority char
  let rest := cutAt '#' (after.dropWhile fun char => !endsAuthority char)
  { userInfo := if '@' ∈ authority then some (authority.rdropWhile (· ≠ '@')).dropLast else none
    hostPort := authority.rtakeWhile (· ≠ '@')
    path := (cutAt '?' rest.1).1
    query := (cutAt '?' rest.1).2
    fragment := rest.2 }

theorem isForbidden_of_endsAuthority {char : Char} (ends : endsAuthority char = true) :
    isForbidden char = true :=
  holds_of_mem (by decide) (List.contains_iff_mem.mp ends)

theorem isForbidden_of_isRemoved {char : Char} (removed : isRemoved char = true) :
    isForbidden char = true := by
  rw [isForbidden, isStripped_of_isRemoved removed, Bool.true_or]

/-- The path begins with a slash, needs no escapes, and has no segment that is skipped. -/
def isPlainPath (path : List Char) : Bool :=
  path.head? == some '/' &&
    path.all (fun char => char.isAlphanum || ['-', '.', '_', '~', '/'].contains char) &&
      (path.splitOn '/').all fun segment => segment != ['.'] && segment != ['.', '.']

/-- The slashes that a parser skips before the authority. -/
def skipSlashes (after : List Char) : List Char :=
  after.dropWhile fun char => ['/', '\\'].contains char

/-- No slash is skipped before an authority that is not empty. -/
theorem skipSlashes_append {authority : List Char} (nonempty : authority ≠ [])
    (plain : ∀ char ∈ authority, endsAuthority char = false) (rest : List Char) :
    skipSlashes (authority ++ rest) = authority ++ rest := by
  obtain ⟨first, others, rfl⟩ := List.exists_cons_of_ne_nil nonempty
  have notFirst := plain first List.mem_cons_self
  unfold skipSlashes
  rw [List.cons_append, List.dropWhile_cons_of_neg]
  intro isSlash
  have ends : endsAuthority first = true :=
    holds_of_mem (by decide) (List.contains_iff_mem.mp isSlash)
  rw [ends] at notFirst
  cases notFirst

/-- The authority ends at the slash. -/
theorem splitParts_authority {authority : List Char}
    (plain : ∀ char ∈ authority, endsAuthority char = false) (rest : List Char) :
    splitParts (authority ++ '/' :: rest) =
      { userInfo :=
          if '@' ∈ authority then some (authority.rdropWhile (· ≠ '@')).dropLast else none
        hostPort := authority.rtakeWhile (· ≠ '@')
        path := (cutAt '?' (cutAt '#' ('/' :: rest)).1).1
        query := (cutAt '?' (cutAt '#' ('/' :: rest)).1).2
        fragment := (cutAt '#' ('/' :: rest)).2 } := by
  have continues : ∀ char ∈ authority, (!endsAuthority char) = true :=
    fun char member => congrArg not (plain char member)
  have taken : ('/' :: rest).takeWhile (fun char => !endsAuthority char) = [] := rfl
  have left : ('/' :: rest).dropWhile (fun char => !endsAuthority char) = '/' :: rest := rfl
  unfold splitParts
  rw [List.takeWhile_append_of_pos continues, List.dropWhile_append_of_pos continues, taken, left,
    List.append_nil]

/-- An authority without an `@` is a host and a port. -/
theorem rtakeWhile_of_not_mem {authority : List Char} (noAt : '@' ∉ authority) :
    authority.rtakeWhile (· ≠ '@') = authority :=
  List.rtakeWhile_eq_self_iff.mpr fun _ member =>
    decide_eq_true (ne_of_mem_of_not_mem member noAt)

/-- What stands before the last `@` is taken for credentials. -/
theorem authority_append {host : List Char} (noAt : '@' ∉ host) (user : List Char) :
    (user ++ '@' :: host).rtakeWhile (· ≠ '@') = host ∧
      ((user ++ '@' :: host).rdropWhile (· ≠ '@')).dropLast = user := by
  have passes : ∀ char ∈ host.reverse, decide (char ≠ '@') = true := fun char member =>
    decide_eq_true (ne_of_mem_of_not_mem (List.mem_reverse.mp member) noAt)
  have reversed : (user ++ '@' :: host).reverse = host.reverse ++ '@' :: user.reverse := by simp
  unfold List.rtakeWhile List.rdropWhile
  rw [reversed, List.takeWhile_append_of_pos passes, List.dropWhile_append_of_pos passes]
  simp

/-- The parts behind a host without delimiters and a path. -/
theorem splitParts_append {host path query : List Char}
    (plainHost : ∀ char ∈ host, endsAuthority char = false) (noAt : '@' ∉ host)
    (noMark : '?' ∉ path) (noHash : '#' ∉ path) :
    splitParts (host ++ ('/' :: path ++ '?' :: query)) =
      ⟨none, host, '/' :: path, some (cutAt '#' query).1, (cutAt '#' query).2⟩ := by
  have noMark' : '?' ∉ '/' :: path := by simpa using noMark
  have cutHash : cutAt '#' ('/' :: (path ++ '?' :: query)) =
      ('/' :: path ++ '?' :: (cutAt '#' query).1, (cutAt '#' query).2) := by
    rcases cut_cases '#' query with absent | ⟨front, back, rfl, absent⟩
    · have noHashAtAll : '#' ∉ '/' :: (path ++ '?' :: query) := by simp [noHash, absent]
      rw [cutAt_of_not_mem noHashAtAll, cutAt_of_not_mem absent]
      rfl
    · have joined : '/' :: (path ++ '?' :: (front ++ '#' :: back)) =
          ('/' :: path ++ '?' :: front) ++ '#' :: back := by simp
      have noHashBefore : '#' ∉ '/' :: path ++ '?' :: front := by simp [noHash, absent]
      rw [joined, cutAt_append noHashBefore, cutAt_append absent]
  rw [List.cons_append, splitParts_authority plainHost, cutHash, if_neg noAt,
    rtakeWhile_of_not_mem noAt]
  dsimp only
  rw [cutAt_append noMark']

/-- A host without a colon has no port. -/
theorem cutPort_of_not_mem {text : List Char} (noColon : ':' ∉ text) (bracketed : Bool) :
    cutPort bracketed text = (text, none) := by
  induction text generalizing bracketed with
  | nil => rfl
  | cons char text inductionHypothesis =>
      rw [List.mem_cons, not_or] at noColon
      obtain ⟨notThis, notLater⟩ := noColon
      rw [cutPort, if_neg fun both => notThis both.1.symm]
      dsimp only
      rw [inductionHypothesis notLater]

/-- A text whose characters all stay is clean. -/
theorem clean_eq_self {text : List Char} (stays : ∀ char ∈ text, isStripped char = false) :
    clean text = text := by
  have unremoved : ∀ char ∈ text, (!isRemoved char) = true := by
    intro char member
    cases removed : isRemoved char with
    | false => rfl
    | true =>
        have stripped := isStripped_of_isRemoved removed
        rw [stays char member] at stripped
        cases stripped
  have begins : text.dropWhile isStripped = text := by
    rw [List.dropWhile_eq_self_iff]
    intro nonempty first
    rw [stays _ (List.getElem_mem nonempty)] at first
    cases first
  rw [clean, begins, rdropWhile_eq_self_of stays, List.filter_eq_self.mpr unremoved]

end Web
end TootTok
