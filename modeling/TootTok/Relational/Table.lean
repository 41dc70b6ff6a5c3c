import Mathlib.Data.List.Basic
import Mathlib.Data.List.Pairwise

/-!
# Tables with uniqueness constraints

A table is a list of rows no two of which clash, so that a violation of a
uniqueness constraint cannot be represented. Writes that could introduce a
clash are partial; writes that leave the constrained columns alone are total.
A serial table also numbers its rows from a counter that never goes back.
-/

namespace TootTok
namespace Relational

/-- Rows in storage order, no two of which clash. -/
structure Table {Row : Type} (Clash : Row → Row → Prop) where
  rows : List Row
  distinct : rows.Pairwise fun earlier later => ¬Clash earlier later

namespace Table

variable {Row : Type} {Clash : Row → Row → Prop}

instance : Membership Row (Table Clash) where
  mem table row := row ∈ table.rows

theorem mem_rows {table : Table Clash} {row : Row} :
    row ∈ table.rows ↔ row ∈ table := Iff.rfl

@[ext] theorem ext
    {left right : Table Clash}
    (rows : left.rows = right.rows) : left = right := by
  cases left
  cases right
  cases rows
  rfl

/-- The table without rows. -/
def empty : Table Clash where
  rows := []
  distinct := .nil

@[simp] theorem not_mem_empty (row : Row) : row ∉ (empty : Table Clash) :=
  List.not_mem_nil

/-- The first row in storage order that satisfies a condition. -/
def find? (table : Table Clash) (condition : Row → Bool) : Option Row :=
  table.rows.find? condition

theorem mem_of_find?_eq_some
    {table : Table Clash} {condition : Row → Bool} {row : Row}
    (found : table.find? condition = some row) : row ∈ table :=
  List.mem_of_find?_eq_some found

theorem holds_of_find?_eq_some
    {table : Table Clash} {condition : Row → Bool} {row : Row}
    (found : table.find? condition = some row) : condition row = true :=
  List.find?_some found

theorem find?_eq_none
    {table : Table Clash} {condition : Row → Bool} :
    table.find? condition = none ↔ ∀ row ∈ table, ¬condition row = true :=
  List.find?_eq_none

theorem find?_isSome
    {table : Table Clash} {condition : Row → Bool} :
    (table.find? condition).isSome = true ↔
      ∃ row ∈ table, condition row = true :=
  List.find?_isSome

/-- Two rows of a table that clash are the same row. -/
theorem eq_of_clash
    (symmetric : ∀ left right, Clash left right → Clash right left)
    {table : Table Clash} {left right : Row}
    (leftMember : left ∈ table) (rightMember : right ∈ table)
    (clash : Clash left right) : left = right := by
  have apart : Std.Symm fun row other : Row => ¬Clash row other :=
    ⟨fun row other notClash clash => notClash (symmetric other row clash)⟩
  by_contra different
  exact table.distinct.forall leftMember rightMember different clash

/-- A condition that at most one row can satisfy finds the row that does. -/
theorem find?_eq_some_of_mem
    (symmetric : ∀ left right, Clash left right → Clash right left)
    {table : Table Clash} {condition : Row → Bool} {row : Row}
    (unique : ∀ left right, condition left = true → condition right = true →
      Clash left right)
    (member : row ∈ table)
    (holds : condition row = true) :
    table.find? condition = some row := by
  have exists' : (table.find? condition).isSome = true :=
    find?_isSome.mpr ⟨row, member, holds⟩
  obtain ⟨found, foundEq⟩ := Option.isSome_iff_exists.mp exists'
  have same : found = row :=
    eq_of_clash symmetric (mem_of_find?_eq_some foundEq) member
      (unique _ _ (holds_of_find?_eq_some foundEq) holds)
  rw [foundEq, same]

/-! ## Insertion -/

/-- Append a row unless it clashes with a stored one. -/
def insert? [DecidableRel Clash]
    (table : Table Clash) (row : Row) : Option (Table Clash) :=
  if free : ∀ stored ∈ table.rows, ¬Clash stored row then
    some {
      rows := table.rows ++ [row]
      distinct := by
        refine List.pairwise_append.mpr
          ⟨table.distinct, List.pairwise_singleton _ _, ?_⟩
        intro stored present new isNew
        rw [List.mem_singleton.mp isNew]
        exact free stored present }
  else
    none

section Insert

variable [DecidableRel Clash]

theorem insert?_eq_some
    {table table' : Table Clash} {row : Row}
    (inserted : table.insert? row = some table') :
    table'.rows = table.rows ++ [row] := by
  unfold insert? at inserted
  split at inserted
  · cases inserted
    rfl
  · cases inserted

theorem insert?_eq_none {table : Table Clash} {row : Row} :
    table.insert? row = none ↔ ∃ stored ∈ table, Clash stored row := by
  unfold insert?
  split
  next free =>
    constructor
    · intro impossible
      cases impossible
    · rintro ⟨stored, present, clash⟩
      exact (free stored present clash).elim
  next taken =>
    refine ⟨fun _ => ?_, fun _ => rfl⟩
    push Not at taken
    exact taken

theorem mem_insert?
    {table table' : Table Clash} {row other : Row}
    (inserted : table.insert? row = some table') :
    other ∈ table' ↔ other ∈ table ∨ other = row := by
  rw [← mem_rows, insert?_eq_some inserted]
  simp [mem_rows]

end Insert

/-! ## Updates -/

/-- A change of a row that introduces no clash. -/
def KeepsKeys (Clash : Row → Row → Prop) (change : Row → Row) : Prop :=
  ∀ row other,
    (Clash (change row) other → Clash row other) ∧
      (Clash other (change row) → Clash other row)

/-- Change the rows that satisfy a condition. -/
def changeWhere (condition : Row → Bool) (change : Row → Row) (row : Row) : Row :=
  if condition row then change row else row

theorem keepsKeys_changeWhere
    {condition : Row → Bool} {change : Row → Row}
    (keeps : KeepsKeys Clash change) :
    KeepsKeys Clash (changeWhere condition change) := by
  intro row other
  unfold changeWhere
  split
  · exact keeps row other
  · exact ⟨id, id⟩

/-- `UPDATE … WHERE condition`, for a change that keeps the keys. -/
def update
    (table : Table Clash) (condition : Row → Bool) (change : Row → Row)
    (keeps : KeepsKeys Clash change) : Table Clash where
  rows := table.rows.map (changeWhere condition change)
  distinct := by
    rw [List.pairwise_map]
    refine table.distinct.imp ?_
    intro earlier later notClash clash
    have keeps' : KeepsKeys Clash (changeWhere condition change) :=
      keepsKeys_changeWhere keeps
    exact notClash ((keeps' earlier later).1 ((keeps' later _).2 clash))

@[simp] theorem update_rows
    (table : Table Clash) (condition : Row → Bool) (change : Row → Row)
    (keeps : KeepsKeys Clash change) :
    (table.update condition change keeps).rows =
      table.rows.map (changeWhere condition change) := rfl

theorem mem_update
    {table : Table Clash} {condition : Row → Bool} {change : Row → Row}
    {keeps : KeepsKeys Clash change} {row : Row} :
    row ∈ table.update condition change keeps ↔
      ∃ old ∈ table, changeWhere condition change old = row :=
  List.mem_map

theorem mem_update_of_mem
    {table : Table Clash} {condition : Row → Bool} {change : Row → Row}
    (keeps : KeepsKeys Clash change) {row : Row}
    (member : row ∈ table) :
    changeWhere condition change row ∈ table.update condition change keeps :=
  List.mem_map_of_mem member

/-- An update that leaves every row it meets as it is. -/
theorem update_rows_of_idle
    {table : Table Clash} {condition : Row → Bool} {change : Row → Row}
    (keeps : KeepsKeys Clash change)
    (idle : ∀ row ∈ table, condition row = true → change row = row) :
    (table.update condition change keeps).rows = table.rows := by
  rw [update_rows]
  refine (List.map_congr_left fun row member => ?_).trans (List.map_id _)
  unfold changeWhere
  split
  next holds => exact idle row member holds
  next => rfl

/-- A lookup that the change cannot influence finds the changed row. -/
theorem find?_update
    (table : Table Clash) (condition : Row → Bool) (change : Row → Row)
    (keeps : KeepsKeys Clash change)
    (sought : Row → Bool)
    (blind : ∀ row, sought (change row) = sought row) :
    (table.update condition change keeps).find? sought =
      (table.find? sought).map (changeWhere condition change) := by
  have blind' : sought ∘ changeWhere condition change = sought := by
    funext row
    unfold changeWhere
    simp only [Function.comp_apply]
    split
    · exact blind row
    · rfl
  unfold find?
  rw [update_rows, List.find?_map, blind']

/-- `UPDATE … WHERE condition` for a change that may violate a constraint. -/
def update? [DecidableRel Clash]
    (table : Table Clash) (condition : Row → Bool) (change : Row → Row) :
    Option (Table Clash) :=
  if distinct : (table.rows.map (changeWhere condition change)).Pairwise
      fun earlier later => ¬Clash earlier later then
    some ⟨table.rows.map (changeWhere condition change), distinct⟩
  else
    none

theorem update?_eq_some [DecidableRel Clash]
    {table table' : Table Clash} {condition : Row → Bool} {change : Row → Row}
    (updated : table.update? condition change = some table') :
    table'.rows = table.rows.map (changeWhere condition change) := by
  unfold update? at updated
  split at updated
  · cases updated
    rfl
  · cases updated

/-! ## Deletion -/

/-- `DELETE … WHERE condition`. -/
def erase (table : Table Clash) (condition : Row → Bool) : Table Clash where
  rows := table.rows.filter fun row => !condition row
  distinct := table.distinct.filter _

theorem mem_erase
    {table : Table Clash} {condition : Row → Bool} {row : Row} :
    row ∈ table.erase condition ↔ row ∈ table ∧ condition row = false := by
  change row ∈ table.rows.filter _ ↔ _
  simp [mem_rows]

theorem find?_erase
    (table : Table Clash) (condition sought : Row → Bool) :
    (table.erase condition).find? sought =
      table.find? fun row => !condition row && sought row := by
  unfold find? erase
  rw [List.find?_filter]
  congr 1
  funext row
  cases condition row <;> cases sought row <;> rfl

/-! ## Insert or update -/

/-- `INSERT … ON CONFLICT (key) DO UPDATE`: change the row that already holds
the key, or append the new row. -/
def upsert [DecidableRel Clash]
    (table : Table Clash) (row : Row) (sameKey : Row → Bool)
    (change : Row → Row) (keeps : KeepsKeys Clash change) :
    Option (Table Clash) :=
  if (table.find? sameKey).isSome then
    some (table.update sameKey change keeps)
  else
    table.insert? row

end Table

/-! ## Serial tables -/

/-- A table whose rows carry a number from a counter. -/
structure SerialTable {Row : Type} (number : Row → Nat) (Clash : Row → Row → Prop)
    extends Table fun left right => number left = number right ∨ Clash left right where
  /-- The number of the next row. -/
  next : Nat
  bounded : ∀ row ∈ rows, number row < next

namespace SerialTable

variable {Row : Type} {number : Row → Nat} {Clash : Row → Row → Prop}

instance : Membership Row (SerialTable number Clash) where
  mem table row := row ∈ table.rows

theorem mem_rows {table : SerialTable number Clash} {row : Row} :
    row ∈ table.rows ↔ row ∈ table := Iff.rfl

/-- The table without rows, numbering from one. -/
def empty : SerialTable number Clash where
  toTable := Table.empty
  next := 1
  bounded := by simp [Table.empty]

@[simp] theorem empty_rows :
    (empty : SerialTable number Clash).rows = [] := rfl

variable [DecidableRel Clash]

omit [DecidableRel Clash] in
/-- Draw the next number without using it, as a refused insert does. -/
def spend (table : SerialTable number Clash) : SerialTable number Clash where
  toTable := table.toTable
  next := table.next + 1
  bounded := fun row present => Nat.lt_succ_of_lt (table.bounded row present)

omit [DecidableRel Clash] in
@[simp] theorem spend_rows (table : SerialTable number Clash) :
    table.spend.rows = table.rows := rfl

omit [DecidableRel Clash] in
@[simp] theorem mem_spend {table : SerialTable number Clash} {row : Row} :
    row ∈ table.spend ↔ row ∈ table := Iff.rfl

/-- Draw the next number and append the row made with it. The number is spent
even when the row clashes with a stored one. -/
def insert
    (table : SerialTable number Clash) (make : Nat → Row)
    (numbered : ∀ index, number (make index) = index) :
    Option Row × SerialTable number Clash :=
  if free : ∀ stored ∈ table.rows, ¬Clash stored (make table.next) then
    (some (make table.next), {
      rows := table.rows ++ [make table.next]
      next := table.next + 1
      distinct := by
        refine List.pairwise_append.mpr
          ⟨table.distinct, List.pairwise_singleton _ _, ?_⟩
        intro stored present new isNew
        rw [List.mem_singleton.mp isNew]
        rintro (sameNumber | clash)
        · have below := table.bounded stored present
          rw [sameNumber, numbered] at below
          exact Nat.lt_irrefl _ below
        · exact free stored present clash
      bounded := by
        intro row present
        rcases List.mem_append.mp present with stored | isNew
        · exact Nat.lt_succ_of_lt (table.bounded row stored)
        · rw [List.mem_singleton.mp isNew, numbered]
          exact Nat.lt_succ_self _ })
  else
    (none, table.spend)

theorem insert_of_free
    {table : SerialTable number Clash} {make : Nat → Row}
    {numbered : ∀ index, number (make index) = index}
    (free : ∀ stored ∈ table, ¬Clash stored (make table.next)) :
    (table.insert make numbered).1 = some (make table.next) ∧
      (table.insert make numbered).2.rows = table.rows ++ [make table.next] := by
  have free' : ∀ stored ∈ table.rows, ¬Clash stored (make table.next) := free
  unfold insert
  rw [dif_pos free']
  exact ⟨rfl, rfl⟩

theorem insert_of_clash
    {table : SerialTable number Clash} {make : Nat → Row}
    {numbered : ∀ index, number (make index) = index}
    (taken : ∃ stored ∈ table, Clash stored (make table.next)) :
    table.insert make numbered = (none, table.spend) := by
  have notFree : ¬∀ stored ∈ table.rows, ¬Clash stored (make table.next) := by
    obtain ⟨stored, present, clash⟩ := taken
    exact fun free => free stored present clash
  unfold insert
  rw [dif_neg notFree]

/-- An insert either appends the row or leaves the rows alone. -/
theorem insert_cases
    (table : SerialTable number Clash) (make : Nat → Row)
    (numbered : ∀ index, number (make index) = index) :
    ((∀ stored ∈ table, ¬Clash stored (make table.next)) ∧
        (table.insert make numbered).1 = some (make table.next) ∧
        (table.insert make numbered).2.rows = table.rows ++ [make table.next]) ∨
      ((∃ stored ∈ table, Clash stored (make table.next)) ∧
        table.insert make numbered = (none, table.spend)) := by
  by_cases free : ∀ stored ∈ table, ¬Clash stored (make table.next)
  · exact .inl ⟨free, insert_of_free free⟩
  · push Not at free
    exact .inr ⟨free, insert_of_clash free⟩

/-- An insert adds at most the new row. -/
theorem mem_of_mem_insert
    {table : SerialTable number Clash} {make : Nat → Row}
    {numbered : ∀ index, number (make index) = index} {row : Row}
    (stored : row ∈ (table.insert make numbered).2) :
    row ∈ table ∨ row = make table.next := by
  rcases table.insert_cases make numbered with ⟨-, -, rows⟩ | ⟨-, refused⟩
  · rw [← mem_rows, rows] at stored
    simpa [mem_rows] using stored
  · rw [refused] at stored
    exact .inl stored

theorem mem_insert_of_mem
    {table : SerialTable number Clash} (make : Nat → Row)
    (numbered : ∀ index, number (make index) = index) {row : Row}
    (stored : row ∈ table) : row ∈ (table.insert make numbered).2 := by
  rcases table.insert_cases make numbered with ⟨-, -, rows⟩ | ⟨-, refused⟩
  · rw [← mem_rows, rows]
    exact List.mem_append_left _ stored
  · rw [refused]
    exact stored

omit [DecidableRel Clash] in
/-- The number of a new row is that of no stored one. -/
theorem number_ne_next
    {table : SerialTable number Clash} {row : Row} (stored : row ∈ table) :
    number row ≠ table.next :=
  Nat.ne_of_lt (table.bounded row stored)

omit [DecidableRel Clash] in
theorem keepsKeys_or_number
    {change : Row → Row}
    (sameNumber : ∀ row, number (change row) = number row)
    (keeps : Table.KeepsKeys Clash change) :
    Table.KeepsKeys (fun left right => number left = number right ∨ Clash left right)
      change := by
  intro row other
  simp only [sameNumber]
  exact ⟨Or.imp_right (keeps row other).1, Or.imp_right (keeps row other).2⟩

omit [DecidableRel Clash] in
/-- `UPDATE … WHERE condition`, for a change that keeps the number and the
other keys. -/
def update
    (table : SerialTable number Clash) (condition : Row → Bool)
    (change : Row → Row)
    (sameNumber : ∀ row, number (change row) = number row)
    (keeps : Table.KeepsKeys Clash change) : SerialTable number Clash where
  toTable := table.toTable.update condition change (keepsKeys_or_number sameNumber keeps)
  next := table.next
  bounded := by
    intro row present
    obtain ⟨old, stored, rfl⟩ := List.mem_map.mp present
    unfold Table.changeWhere
    split
    · rw [sameNumber]
      exact table.bounded old stored
    · exact table.bounded old stored

omit [DecidableRel Clash] in
@[simp] theorem update_rows
    (table : SerialTable number Clash) (condition : Row → Bool)
    (change : Row → Row)
    (sameNumber : ∀ row, number (change row) = number row)
    (keeps : Table.KeepsKeys Clash change) :
    (table.update condition change sameNumber keeps).rows =
      table.rows.map (Table.changeWhere condition change) := rfl

omit [DecidableRel Clash] in
theorem mem_update
    {table : SerialTable number Clash} {condition : Row → Bool}
    {change : Row → Row}
    {sameNumber : ∀ row, number (change row) = number row}
    {keeps : Table.KeepsKeys Clash change} {row : Row} :
    row ∈ table.update condition change sameNumber keeps ↔
      ∃ old ∈ table, Table.changeWhere condition change old = row :=
  List.mem_map

omit [DecidableRel Clash] in
/-- An update deletes no row. -/
theorem survives_update
    {table : SerialTable number Clash} (condition : Row → Bool) (change : Row → Row)
    (sameNumber : ∀ row, number (change row) = number row)
    (keeps : Table.KeepsKeys Clash change) {row : Row} (stored : row ∈ table) :
    ∃ new ∈ table.update condition change sameNumber keeps, number new = number row := by
  refine ⟨_, mem_update.mpr ⟨row, stored, rfl⟩, ?_⟩
  unfold Table.changeWhere
  split
  · exact sameNumber row
  · rfl

omit [DecidableRel Clash] in
/-- An update whose condition no row satisfies changes no row. -/
theorem update_rows_of_none
    {table : SerialTable number Clash} {condition : Row → Bool}
    {change : Row → Row}
    (sameNumber : ∀ row, number (change row) = number row)
    (keeps : Table.KeepsKeys Clash change)
    (none : table.find? condition = none) :
    (table.update condition change sameNumber keeps).rows = table.rows :=
  Table.update_rows_of_idle (keepsKeys_or_number sameNumber keeps) fun row member holds =>
    absurd holds (Table.find?_eq_none.mp none row member)

omit [DecidableRel Clash] in
/-- `DELETE … WHERE condition`. The numbers of the rows are not given out again. -/
def erase (table : SerialTable number Clash) (condition : Row → Bool) :
    SerialTable number Clash where
  toTable := table.toTable.erase condition
  next := table.next
  bounded := fun row stored => table.bounded row (List.mem_of_mem_filter stored)

omit [DecidableRel Clash] in
theorem mem_erase
    {table : SerialTable number Clash} {condition : Row → Bool} {row : Row} :
    row ∈ table.erase condition ↔ row ∈ table ∧ condition row = false :=
  Table.mem_erase

/-- `UPDATE … WHERE condition` for a change of a constrained column. -/
def update?
    (table : SerialTable number Clash) (condition : Row → Bool)
    (change : Row → Row)
    (sameNumber : ∀ row, number (change row) = number row) :
    Option (SerialTable number Clash) :=
  if distinct : (table.rows.map (Table.changeWhere condition change)).Pairwise
      fun earlier later =>
        ¬(number earlier = number later ∨ Clash earlier later) then
    some {
      rows := table.rows.map (Table.changeWhere condition change)
      distinct := distinct
      next := table.next
      bounded := by
        intro row present
        obtain ⟨old, stored, rfl⟩ := List.mem_map.mp present
        unfold Table.changeWhere
        split
        · rw [sameNumber]
          exact table.bounded old stored
        · exact table.bounded old stored }
  else
    none

theorem update?_eq_some
    {table table' : SerialTable number Clash} {condition : Row → Bool}
    {change : Row → Row} {sameNumber : ∀ row, number (change row) = number row}
    (updated : table.update? condition change sameNumber = some table') :
    table'.rows = table.rows.map (Table.changeWhere condition change) := by
  unfold update? at updated
  split at updated
  · cases updated
    rfl
  · cases updated

/-- Neither does an update that is checked. -/
theorem survives_update?
    {table table' : SerialTable number Clash} {condition : Row → Bool}
    {change : Row → Row} {sameNumber : ∀ row, number (change row) = number row}
    (updated : table.update? condition change sameNumber = some table')
    {row : Row} (stored : row ∈ table) : ∃ new ∈ table', number new = number row := by
  refine ⟨Table.changeWhere condition change row, ?_, ?_⟩
  · rw [← mem_rows, update?_eq_some updated]
    exact List.mem_map_of_mem stored
  · unfold Table.changeWhere
    split
    · exact sameNumber row
    · rfl

/-- An update succeeds when it makes no two rows clash. -/
theorem update?_ne_none
    {table : SerialTable number Clash} {condition : Row → Bool} {change : Row → Row}
    (sameNumber : ∀ row, number (change row) = number row)
    (apart : ∀ left ∈ table, ∀ right ∈ table,
      number left ≠ number right → ¬Clash left right →
        ¬Clash (Table.changeWhere condition change left)
          (Table.changeWhere condition change right)) :
    table.update? condition change sameNumber ≠ none := by
  have sameNumber' (row : Row) :
      number (Table.changeWhere condition change row) = number row := by
    unfold Table.changeWhere
    split
    · exact sameNumber row
    · rfl
  have distinct : (table.rows.map (Table.changeWhere condition change)).Pairwise
      fun earlier later => ¬(number earlier = number later ∨ Clash earlier later) := by
    rw [List.pairwise_map]
    refine List.Pairwise.imp_of_mem ?_ table.distinct
    rintro left right leftStored rightStored notClash (sameNow | clash)
    · rw [sameNumber', sameNumber'] at sameNow
      exact notClash (.inl sameNow)
    · refine apart left leftStored right rightStored ?_ ?_ clash
      · exact fun same => notClash (.inl same)
      · exact fun clashed => notClash (.inr clashed)
  unfold update?
  rw [dif_pos distinct]
  exact Option.some_ne_none _

omit [DecidableRel Clash] in
/-- Two rows with one number are the same row. -/
theorem eq_of_number_eq
    {table : SerialTable number Clash} {left right : Row}
    (leftMember : left ∈ table) (rightMember : right ∈ table)
    (same : number left = number right) : left = right := by
  have apart : Std.Symm fun row other : Row => number row ≠ number other :=
    ⟨fun _ _ => Ne.symm⟩
  have numbers : table.rows.Pairwise fun row other => number row ≠ number other :=
    table.distinct.imp fun notClash equal => notClash (.inl equal)
  by_contra different
  exact numbers.forall leftMember rightMember different same

omit [DecidableRel Clash] in
/-- Two rows that clash are the same row. -/
theorem eq_of_clash
    (symmetric : ∀ left right, Clash left right → Clash right left)
    {table : SerialTable number Clash} {left right : Row}
    (leftMember : left ∈ table) (rightMember : right ∈ table)
    (clash : Clash left right) : left = right :=
  have leftStored : left ∈ table.toTable := leftMember
  Table.eq_of_clash (fun _ _ => Or.imp Eq.symm (symmetric _ _))
    leftStored rightMember (.inr clash)

omit [DecidableRel Clash] in
/-- A condition that at most one row can satisfy finds the row that does. -/
theorem find?_eq_some_of_mem
    (symmetric : ∀ left right, Clash left right → Clash right left)
    {table : SerialTable number Clash} {condition : Row → Bool} {row : Row}
    (unique : ∀ left right, condition left = true → condition right = true →
      number left = number right ∨ Clash left right)
    (member : row ∈ table)
    (holds : condition row = true) :
    table.find? condition = some row :=
  have stored : row ∈ table.toTable := member
  Table.find?_eq_some_of_mem (fun _ _ => Or.imp Eq.symm (symmetric _ _))
    unique stored holds

end SerialTable

end Relational
end TootTok
