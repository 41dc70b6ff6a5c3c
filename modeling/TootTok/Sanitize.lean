import Mathlib.Data.List.Basic

/-!
# Caption sanitiser

Remote captions and local uploads are stored as plain text: entities are
decoded and tags stripped until nothing changes, at most eight times, and what
remains is escaped.
-/

namespace TootTok
namespace Sanitize

/-- The `White_Space` property of Unicode. -/
def isWhitespace (char : Char) : Bool :=
  let code := char.toNat
  (9 ≤ code && code ≤ 13) || code == 0x20 || code == 0x85 || code == 0xA0 ||
    code == 0x1680 || (0x2000 ≤ code && code ≤ 0x200A) || code == 0x2028 ||
    code == 0x2029 || code == 0x202F || code == 0x205F || code == 0x3000

def trim (text : List Char) : List Char :=
  ((text.dropWhile isWhitespace).reverse.dropWhile isWhitespace).reverse

/-- The text outside `<…>`. A `<` without its `>` swallows the rest. -/
def stripTagsFrom : Nat → List Char → List Char
  | _, [] => []
  | depth, '<' :: rest => stripTagsFrom (depth + 1) rest
  | depth + 1, '>' :: rest => stripTagsFrom depth rest
  | 0, char :: rest => char :: stripTagsFrom 0 rest
  | depth + 1, _ :: rest => stripTagsFrom (depth + 1) rest

def stripTags (text : List Char) : List Char :=
  trim (stripTagsFrom 0 text)

/-- The named entities and what they stand for. -/
def named : List (String × Char) :=
  [("amp", '&'), ("lt", '<'), ("gt", '>'), ("quot", '"'), ("apos", '\''),
    ("nbsp", Char.ofNat 0xA0), ("hellip", '…')]

def isAsciiDigit (char : Char) : Bool :=
  '0'.toNat ≤ char.toNat && char.toNat ≤ '9'.toNat

def hexDigit? (char : Char) : Option Nat :=
  if isAsciiDigit char then some (char.toNat - '0'.toNat)
  else if 'a'.toNat ≤ char.toNat && char.toNat ≤ 'f'.toNat then
    some (char.toNat - 'a'.toNat + 10)
  else if 'A'.toNat ≤ char.toNat && char.toNat ≤ 'F'.toNat then
    some (char.toNat - 'A'.toNat + 10)
  else none

def digit? (char : Char) : Option Nat :=
  if isAsciiDigit char then some (char.toNat - '0'.toNat) else none

/-- The number written by a text of digits only; `none` at any other character. -/
def digits? (digit : Char → Option Nat) (base : Nat) (text : List Char) : Option Nat :=
  text.foldlM (fun value char => (digit char).map (value * base + ·)) 0

/-- `u32` to character: in range and not a surrogate. -/
def charFromU32 (code : Nat) : Option Char :=
  if code.isValidChar then some (Char.ofNat code) else none

/-- A numeric reference whose digits start the text. The length counts the
digits and the semicolon. -/
def numericEntity
    (digit : Char → Option Nat) (base : Nat) (text : List Char) :
    Option (Char × Nat) :=
  if ';' ∈ text then
    let body := text.takeWhile (· ≠ ';')
    if body.isEmpty then none
    else do
      let code ← digits? digit base body
      let char ← if code < 0x100000000 then charFromU32 code else none
      pure (char, body.length + 1)
  else none

/-- Decode one entity, given what follows its ampersand. Returns the character
and how many characters it took after the ampersand. -/
def decodeOneEntity (after : List Char) : Option (Char × Nat) :=
  match named.find? fun entity => (entity.1.toList ++ [';']).isPrefixOf after with
  | some (name, decoded) => some (decoded, name.length + 1)
  | none =>
      match after with
      | '#' :: 'x' :: hex =>
          (numericEntity hexDigit? 16 hex).map fun (char, length) => (char, length + 2)
      | '#' :: 'X' :: hex =>
          (numericEntity hexDigit? 16 hex).map fun (char, length) => (char, length + 2)
      | '#' :: decimal =>
          (numericEntity digit? 10 decimal).map fun (char, length) => (char, length + 1)
      | _ => none

/-- Decode the text after skipping what an entity has taken. -/
def decodeFrom : Nat → List Char → List Char
  | _, [] => []
  | skip + 1, _ :: rest => decodeFrom skip rest
  | 0, '&' :: rest =>
      match decodeOneEntity rest with
      | some (decoded, taken) => decoded :: decodeFrom taken rest
      | none => '&' :: decodeFrom 0 rest
  | 0, char :: rest => char :: decodeFrom 0 rest

def decodeHtmlEntities (text : List Char) : List Char :=
  if '&' ∈ text then decodeFrom 0 text else text

def escapeChar : Char → List Char
  | '&' => "&amp;".toList
  | '<' => "&lt;".toList
  | '>' => "&gt;".toList
  | '"' => "&quot;".toList
  | '\'' => "&#x27;".toList
  | other => [other]

def escapeHtml (text : List Char) : List Char :=
  text.flatMap escapeChar

/-- Decode and strip until nothing changes, at most `passes` times. -/
def stripPasses : Nat → List Char → List Char
  | 0, current => current
  | passes + 1, current =>
      let stripped := stripTags (decodeHtmlEntities current)
      if stripped = current then current else stripPasses passes stripped

/-- The stored form of a caption. -/
def stripHtmlTags (input : String) : String :=
  String.ofList (escapeHtml (stripPasses 8 input.toList))

example : stripHtmlTags "&amp;lt;script&amp;gt;evil&amp;lt;/script&amp;gt;" = "evil" := by
  decide +kernel

end Sanitize

open Sanitize in
/-- What the ingest paths store as the caption: nothing instead of an empty
text. -/
def cleanCaption (contentHtml : Option String) : Option String :=
  (contentHtml.map stripHtmlTags).filter (· ≠ "")

end TootTok
