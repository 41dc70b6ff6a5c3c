import Mathlib.Data.List.Infix

/-!
# Paths of Unix

A path is a text of bytes. It stands for its components, what is left of the texts between its
separators: repeated and trailing separators do not count, nor does a dot other than at the
start of a relative path. Two paths are equal if their components are.
-/

namespace TootTok
namespace Paths

abbrev Path : Type := List UInt8

def separator : UInt8 := 0x2F

def dot : UInt8 := 0x2E

/-- A component of a path. -/
inductive Component
  | rootDir
  | curDir
  | parentDir
  | normal (name : List UInt8)
deriving DecidableEq

/-- The texts between the separators. -/
def segments (path : Path) : List (List UInt8) := path.splitOn separator

/-- The component that a text between separators stands for, if any. -/
def component? (segment : List UInt8) : Option Component :=
  if segment = [] ∨ segment = [dot] then none
  else if segment = [dot, dot] then some .parentDir
  else some (.normal segment)

/-- The component that a path starts with on account of its first bytes. -/
def start (path : Path) : List Component :=
  if path.head? = some separator then [.rootDir]
  else if (segments path).head? = some [dot] then [.curDir]
  else []

/-- `Path::components` -/
def components (path : Path) : List Component :=
  start path ++ (segments path).filterMap component?

example : components "/srv//media/./a.mp4/".toUTF8.toList =
    [.rootDir, .normal "srv".toUTF8.toList, .normal "media".toUTF8.toList,
      .normal "a.mp4".toUTF8.toList] := by
  decide +kernel

/-- `Path::join` -/
def join (root path : Path) : Path :=
  if path.head? = some separator then path
  else if root = [] ∨ root.getLast? = some separator then root ++ path
  else root ++ separator :: path

/-- `Path::starts_with` -/
def startsWith (path root : Path) : Bool :=
  (components root).isPrefixOf (components path)

/-- `Path::parent`, of a path given by its components. -/
def parent (path : List Component) : Option (List Component) :=
  match path.getLast? with
  | none | some .rootDir => none
  | some _ => some path.dropLast

/-- A path, given by its components, lies at another one or below it. -/
def Within (root path : List Component) : Prop := root <+: path

instance (root path : List Component) : Decidable (Within root path) := by
  unfold Within
  infer_instance

/-! ## Segments -/

theorem segments_append (front back : Path) :
    segments (front ++ separator :: back) = segments front ++ segments back :=
  List.splitOn_append_cons_self front back

@[simp] theorem segments_nil : segments [] = [[]] := rfl

theorem segments_ne_nil (path : Path) : segments path ≠ [] :=
  List.splitOn_ne_nil separator path

theorem infix_of_mem_segments {path : Path} {segment : List UInt8}
    (member : segment ∈ segments path) : segment <:+: path := by
  induction size : path.length using Nat.strongRecOn generalizing path with
  | _ length inductionHypothesis =>
      subst size
      by_cases separated : separator ∈ path
      · obtain ⟨front, back, rfl⟩ := List.append_of_mem separated
        rw [segments_append, List.mem_append] at member
        rcases member with inFront | inBack
        · have within := inductionHypothesis _ (by simp) inFront rfl
          exact within.trans (List.prefix_append _ _).isInfix
        · have shorter : back.length < (front ++ separator :: back).length := by
            rw [List.length_append, List.length_cons]
            omega
          have within := inductionHypothesis _ shorter inBack rfl
          refine within.trans (List.IsSuffix.isInfix ⟨front ++ [separator], ?_⟩)
          rw [List.append_assoc, List.singleton_append]
      · rw [segments, List.splitOn_eq_singleton separated, List.mem_singleton] at member
        rw [member]

/-! ## Joined paths -/

theorem start_append (front back : Path) :
    start (front ++ separator :: back) = start (front ++ [separator]) := by
  cases front with
  | nil => rfl
  | cons first front =>
      unfold start
      rw [segments_append, segments_append, List.cons_append, List.cons_append, List.head?_cons,
        List.head?_cons, List.head?_append_of_ne_nil _ (segments_ne_nil _),
        List.head?_append_of_ne_nil _ (segments_ne_nil _)]

theorem components_append (front back : Path) :
    components (front ++ separator :: back) =
      components (front ++ [separator]) ++ (segments back).filterMap component? := by
  unfold components
  rw [start_append, segments_append, segments_append, List.filterMap_append, List.filterMap_append]
  simp [component?]

/-- A trailing separator does not count. -/
theorem components_trailing {path : Path} (nonempty : path ≠ []) :
    components (path ++ [separator]) = components path := by
  unfold components
  cases path with
  | nil => exact absurd rfl nonempty
  | cons first path =>
      have same : start ((first :: path) ++ [separator]) = start (first :: path) := by
        unfold start
        rw [segments_append, List.cons_append, List.head?_cons, List.head?_cons,
          List.head?_append_of_ne_nil _ (segments_ne_nil _)]
      rw [same, segments_append, List.filterMap_append]
      simp [component?]

/-- What is joined to a path adds its segments. -/
theorem components_join {root path : Path} (nonempty : root ≠ [])
    (relative : path.head? ≠ some separator) :
    components (join root path) = components root ++ (segments path).filterMap component? := by
  unfold join
  rw [if_neg relative]
  split
  next ends =>
    obtain ⟨front, rfl⟩ := List.getLast?_eq_some_iff.mp (ends.resolve_left nonempty)
    rw [List.append_assoc, List.singleton_append, components_append]
  next => rw [components_append, components_trailing nonempty]

end Paths
end TootTok
