import Mathlib.Data.Rat.Defs

/-!
# JSON values

The untyped documents that the inbox, the backfill and the remote fetches work
on, with the accessors of `serde_json::Value`.
-/

namespace TootTok

/-- A double-precision number. Finite values are exact: rounding is not
modelled, overflow and the special values are. -/
inductive F64
  | finite (value : ℚ)
  | infinite (negative : Bool)
  | nan
deriving DecidableEq

namespace F64

/-- `self >= 0.0`, false of a NaN. -/
def isNonnegative : F64 → Bool
  | .finite value => 0 ≤ value
  | .infinite negative => !negative
  | .nan => false

def zero : F64 := .finite 0

/-- The largest finite double is below this bound, and from it on rounding
gives infinity. -/
def overflowBound : ℚ := 2 ^ 1024 - 2 ^ 970

/-- A rational as a double. -/
def ofRational (value : ℚ) : F64 :=
  if overflowBound ≤ value then .infinite false
  else if value ≤ -overflowBound then .infinite true
  else .finite value

def add : F64 → F64 → F64
  | .finite left, .finite right => ofRational (left + right)
  | .nan, _ => .nan
  | _, .nan => .nan
  | .infinite left, .infinite right => if left = right then .infinite left else .nan
  | .infinite negative, .finite _ => .infinite negative
  | .finite _, .infinite negative => .infinite negative

def neg : F64 → F64
  | .finite value => .finite (-value)
  | .infinite negative => .infinite (!negative)
  | .nan => .nan

/-- Multiplication by a positive constant. -/
def scale (factor : ℚ) : F64 → F64
  | .finite value => ofRational (value * factor)
  | other => other

end F64

namespace Json

/-- A JSON number as `serde_json` stores it. -/
inductive Number
  | posInt (value : UInt64)
  | negInt (value : Int64)
  | float (value : ℚ)
deriving DecidableEq

namespace Number

/-- `None` for a fraction and for an integer above the signed range. -/
def asI64 : Number → Option Int
  | .posInt value => if value.toNat < 0x8000000000000000 then some value.toNat else none
  | .negInt value => some value.toInt
  | .float _ => none

/-- The number a JSON serialiser writes for an integer of the signed range. -/
def ofInt (value : Int) : Number :=
  if 0 ≤ value then .posInt (.ofNat value.toNat) else .negInt (.ofInt value)

theorem asI64_posInt (value : UInt64) :
    (posInt value).asI64 =
      if value.toNat < 0x8000000000000000 then some (value.toNat : Int) else none := rfl

/-- What is read as an integer is in the signed range. -/
theorem asI64_bounds {number : Number} {value : Int} (read : number.asI64 = some value) :
    -0x8000000000000000 ≤ value ∧ value < 0x8000000000000000 := by
  cases number with
  | posInt natural =>
      rw [asI64_posInt] at read
      split at read
      next small =>
        cases read
        omega
      next => cases read
  | negInt negative =>
      cases read
      exact ⟨Int64.le_toInt negative, Int64.toInt_lt negative⟩
  | float _ => cases read

/-- An integer of the signed range is read as it was written. -/
theorem asI64_ofInt {value : Int} (least : -0x8000000000000000 ≤ value)
    (most : value < 0x8000000000000000) : (ofInt value).asI64 = some value := by
  unfold ofInt
  split
  next natural =>
    have small : value.toNat < 0x8000000000000000 := by omega
    have fits : value.toNat < UInt64.size := by
      show value.toNat < 0x10000000000000000
      omega
    have same : (UInt64.ofNat value.toNat).toNat = value.toNat :=
      UInt64.toNat_ofNat_of_lt fits
    rw [asI64_posInt, same, if_pos small]
    exact congrArg some (Int.toNat_of_nonneg natural)
  next => exact congrArg some (Int64.toInt_ofInt_of_le least most)
def asF64 : Number → Option F64
  | .posInt value => some (.finite value.toNat)
  | .negInt value => some (.finite value.toInt)
  | .float value => some (.finite value)

end Number

/-- A JSON document. -/
inductive Value
  | null
  | bool (value : Bool)
  | number (value : Number)
  | string (text : String)
  | array (items : List Value)
  | object (members : List (String × Value))

namespace Value

/-- Member of an object; `none` on every other shape. -/
def get (key : String) : Value → Option Value
  | .object members => (members.find? fun member => member.1 = key).map Prod.snd
  | _ => none

def asStr : Value → Option String
  | .string text => some text
  | _ => none

def asBool : Value → Option Bool
  | .bool value => some value
  | _ => none

def asI64 : Value → Option Int
  | .number value => value.asI64
  | _ => none

/-- A string member of an object. -/
def getStr (key : String) (value : Value) : Option String :=
  (value.get key).bind asStr

@[simp] theorem get_object_nil (key : String) : (object []).get key = none := rfl

theorem get_object_cons (key name : String) (value : Value)
    (members : List (String × Value)) :
    (object ((name, value) :: members)).get key =
      if name = key then some value else (object members).get key := by
  simp only [get, List.find?_cons]
  by_cases same : name = key <;> simp [same]

end Value

/-- A text that the database can store: Postgres takes no U+0000, neither in
`TEXT` nor in `JSONB`. -/
def textStorable (text : String) : Bool :=
  !text.toList.contains '\x00'

mutual

/-- Every string and every key of the document can be stored. -/
def Value.storable : Value → Bool
  | .string text => textStorable text
  | .array items => storableItems items
  | .object members => storableMembers members
  | _ => true

def storableItems : List Value → Bool
  | [] => true
  | item :: items => item.storable && storableItems items

def storableMembers : List (String × Value) → Bool
  | [] => true
  | (key, value) :: members =>
      textStorable key && value.storable && storableMembers members

end

end Json
end TootTok
