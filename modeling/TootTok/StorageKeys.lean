import Mathlib.Logic.Function.Basic
import TootTok.Bytes
import TootTok.Effects.Recording
import TootTok.Media
import TootTok.Paths

/-!
# Storage keys

A key names a file below the root of the store. The directories on the way to it are made when
it is saved, from the first that is missing.
-/

namespace TootTok

open Effects
open Paths

/-! ## The store -/

/-- The kinds of failure that the store tells apart. -/
inductive ErrorKind
  | notFound
  | alreadyExists
  | other
deriving DecidableEq

inductive MediaError
  | probe (message : String)
  | notFound (key : String)
  | io (error : ErrorKind)
deriving DecidableEq

/-- A call of the file system. Directories are given by their components. -/
inductive FileOp
  | mkdir (dir : List Component)
  | isDir (dir : List Component)
  | write (path : Path)
  | create (path : Path)
  | copyTo (path : Path)
  | removeFile (path : Path)
  | metadata (path : Path)

namespace FileOp

@[reducible] def Result : FileOp → Type
  | .mkdir _ | .write _ | .create _ | .removeFile _ => Unit
  | .isDir _ => Bool
  | .copyTo _ | .metadata _ => Nat

/-- The path that the call touches. -/
def target : FileOp → List Component
  | .mkdir dir | .isDir dir => dir
  | .write path | .create path | .copyTo path | .removeFile path | .metadata path =>
      components path

end FileOp

/-- A part of an operation of the store. -/
abbrev Filing (α : Type) : Type := Program FileOp.Result MediaError α

structure StoredFile where
  key : String
  path : Path
  sizeBytes : Nat

namespace LocalStore

open Bytes (utf8Bytes)

/-- A key as a path. -/
def keyPath (key : String) : Path := utf8Bytes key.toList

/-- Resolve a logical key to an absolute path, refusing traversal. -/
def abs (root : Path) (key : String) : Except MediaError Path :=
  if Store.containsDots key || ['/'].isPrefixOf key.toList then
    .error (.probe ("invalid storage key: " ++ key))
  else if !startsWith (join root (keyPath key)) root then
    .error (.probe ("invalid storage key: " ++ key))
  else .ok (join root (keyPath key))

/-- `create_dir_all`, of a directory given by its components, the last one first. -/
def createDirAll : List Component → Filing Unit
  | [] => .done ()
  | last :: above =>
      .call (.mkdir (last :: above).reverse) fun
        | .ok () => .done ()
        | .error (.io .notFound) =>
            if last = .rootDir then .fail (.io .other)
            else createDirAll above >>= fun _ =>
              .call (.mkdir (last :: above).reverse) fun
                | .ok () => .done ()
                | .error error => unlessDir (last :: above).reverse error
        | .error error => unlessDir (last :: above).reverse error
where
  /-- A directory that is there already need not be made. -/
  unlessDir (dir : List Component) (error : MediaError) : Filing Unit :=
    .call (.isDir dir) fun
      | .ok true => .done ()
      | _ => .fail error

/-- Make the directories on the way to a file. -/
def createParent (path : Path) : Filing Unit :=
  match parent (components path) with
  | some dir => createDirAll dir.reverse
  | none => .done ()

/-- Go on with the path of a key. -/
def onPath {α : Type} (root : Path) (key : String) (rest : Path → Filing α) : Filing α :=
  match abs root key with
  | .ok path => rest path
  | .error error => .fail error

def saveBytes (root : Path) (key : String) (data : List UInt8) : Filing StoredFile :=
  onPath root key fun path => do
    createParent path
    Program.perform (FileOp.write path)
    return ⟨key, path, data.length⟩

def saveStream (root : Path) (key : String) : Filing StoredFile :=
  onPath root key fun path => do
    createParent path
    Program.perform (FileOp.create path)
    let copied ← Program.perform (FileOp.copyTo path)
    return ⟨key, path, copied⟩

def delete (root : Path) (key : String) : Filing Unit :=
  onPath root key fun path =>
    .call (.removeFile path) fun
      | .ok () | .error (.io .notFound) => .done ()
      | .error error => .fail error

def openKey (root : Path) (key : String) : Filing StoredFile :=
  onPath root key fun path =>
    .call (.metadata path) fun
      | .ok size => .done ⟨key, path, size⟩
      | .error (.io .notFound) => .fail (.notFound key)
      | .error error => .fail error

end LocalStore

/-! ## The file system -/

/-- What the outside world contributes to one call. -/
structure FileEnv where
  /-- A directory cannot be made for another reason than that one is missing or there. -/
  denied : Bool
  /-- The answer to a call on a file. -/
  answer : Except MediaError Nat

/-- Which directories there are. -/
abbrev Disk : Type := List Component → Bool

/-- A directory can be made if the one above it is there. -/
def Disk.mkdir (denied : Bool) (dir : List Component) (disk : Disk) :
    Except MediaError Unit × Disk :=
  if denied then (.error (.io .other), disk)
  else if disk dir then (.error (.io .alreadyExists), disk)
  else if dir.dropLast = [] ∨ disk dir.dropLast then (.ok (), Function.update disk dir true)
  else (.error (.io .notFound), disk)

def FileOp.exec : Program.Executor FileOp.Result MediaError Disk FileEnv
  | env, .mkdir dir, disk => disk.mkdir env.denied dir
  | _, .isDir dir, disk => (.ok (disk dir), disk)
  | env, .write _, disk | env, .create _, disk | env, .removeFile _, disk =>
      (env.answer.map fun _ => (), disk)
  | env, .copyTo _, disk | env, .metadata _, disk => (env.answer, disk)

/-! ## Where keys lead -/

namespace LocalStore

open Bytes (utf8Bytes)

/-- The key names something below the root. -/
def Names (key : String) : Prop := (segments (keyPath key)).filterMap component? ≠ []

instance (key : String) : Decidable (Names key) := by
  unfold Names
  infer_instance

/-- The call touches nothing outside the root. -/
def Inside (root : Path) (op : FileOp) : Prop := Within (components root) op.target

instance (root : Path) (op : FileOp) : Decidable (Inside root op) := by
  unfold Inside
  infer_instance

/-- The call makes a directory on the way to the root. -/
def OnTheWay (root : Path) (op : FileOp) : Prop :=
  ∃ dir, (op = .mkdir dir ∨ op = .isDir dir) ∧ Within dir (components root)

/-- Two dots in the bytes of a text are two dots of the text. -/
theorem infix_of_bytes {text : List Char} (dots : [dot, dot] <:+: utf8Bytes text) :
    ['.', '.'] <:+: text := by
  have skip (front back : List UInt8) (none : dot ∉ front) (within : [dot, dot] <:+: front ++ back) :
      [dot, dot] <:+: back := by
    induction front with
    | nil => exact within
    | cons byte front inductionHypothesis =>
        rw [List.mem_cons, not_or] at none
        rw [List.cons_append, List.infix_cons_iff] at within
        rcases within with starts | later
        · exact absurd (List.cons_prefix_cons.mp starts).1 none.1
        · exact inductionHypothesis none.2 later
  induction text with
  | nil => simp at dots
  | cons char text inductionHypothesis =>
      rw [Bytes.utf8Bytes_cons] at dots
      by_cases isDot : char = '.'
      · subst isDot
        have bytes : String.utf8EncodeChar '.' = [dot] := by decide
        rw [bytes, List.singleton_append, List.infix_cons_iff] at dots
        rcases dots with starts | later
        · cases text with
          | nil => simp at starts
          | cons next text =>
              obtain ⟨back, bytes⟩ := (List.cons_prefix_cons.mp starts).2
              have first := Bytes.head?_utf8Bytes next text
              rw [← bytes, List.singleton_append, List.head?_cons] at first
              have isNext := (Bytes.leadByte_eq_iff next (show '.'.toNat < 0x80 by decide)).mp
                (Option.some.inj first).symm
              rw [isNext]
              exact (List.prefix_append ['.', '.'] text).isInfix
        · exact (inductionHypothesis later).trans (List.suffix_cons _ _).isInfix
      · have none : dot ∉ String.utf8EncodeChar char := fun member =>
          Bytes.ne_of_mem_utf8EncodeChar (by decide) isDot member rfl
        exact (inductionHypothesis (skip _ _ none dots)).trans (List.suffix_cons _ _).isInfix

theorem containsDots_iff (key : String) :
    Store.containsDots key = true ↔ ['.', '.'] <:+: key.toList := by
  unfold Store.containsDots
  simp only [List.any_eq_true, List.mem_tails, List.isPrefixOf_iff_prefix]
  constructor
  · rintro ⟨rest, isSuffix, isPrefix⟩
    exact isPrefix.isInfix.trans isSuffix.isInfix
  · intro dots
    obtain ⟨rest, isPrefix, isSuffix⟩ := List.infix_iff_prefix_suffix.mp dots
    exact ⟨rest, isSuffix, isPrefix⟩

theorem starts_iff (key : String) :
    (keyPath key).head? = some separator ↔ ['/'].isPrefixOf key.toList = true := by
  unfold keyPath
  cases key.toList with
  | nil => simp
  | cons char text =>
      have lead := Bytes.leadByte_eq_iff char (show '/'.toNat < 0x80 by decide)
      have first : List.head? (utf8Bytes (char :: text)) = some separator ↔ char = '/' := by
        rw [Bytes.head?_utf8Bytes, Option.some.injEq]
        exact lead
      rw [first, List.isPrefixOf_iff_prefix, List.cons_prefix_cons]
      exact ⟨fun same => ⟨same.symm, List.nil_prefix⟩, fun both => both.1.symm⟩

/-- The segments of a key without two dots are names. -/
theorem names_of_key {key : String} (plain : Store.containsDots key = false) :
    ∃ names : List (List UInt8),
      (segments (keyPath key)).filterMap component? = names.map .normal := by
  have isName : ∀ component ∈ (segments (keyPath key)).filterMap component?,
      ∃ name, component = .normal name := by
    intro component member
    obtain ⟨segment, isSegment, same⟩ := List.mem_filterMap.mp member
    unfold component? at same
    split at same
    · cases same
    split at same
    next dots =>
      have within := infix_of_bytes (dots ▸ infix_of_mem_segments isSegment)
      rw [(containsDots_iff key).mpr within] at plain
      cases plain
    · exact ⟨segment, (Option.some.inj same).symm⟩
  generalize (segments (keyPath key)).filterMap component? = found at isName
  induction found with
  | nil => exact ⟨[], rfl⟩
  | cons component found inductionHypothesis =>
      obtain ⟨name, rfl⟩ := isName component List.mem_cons_self
      obtain ⟨names, rfl⟩ := inductionHypothesis fun other member =>
        isName other (List.mem_cons_of_mem _ member)
      exact ⟨name :: names, rfl⟩

/-- A key that is resolved leads to the root and the names in it. -/
theorem components_abs {root path : Path} {key : String} (nonempty : root ≠ [])
    (resolved : abs root key = .ok path) :
    ∃ names : List (List UInt8),
      (segments (keyPath key)).filterMap component? = names.map .normal ∧
      components path = components root ++ names.map .normal := by
  unfold abs at resolved
  split at resolved
  · cases resolved
  next accepted =>
    split at resolved
    · cases resolved
    · cases resolved
      rw [Bool.or_eq_true, not_or] at accepted
      obtain ⟨names, same⟩ := names_of_key (Bool.eq_false_iff.mpr accepted.1)
      refine ⟨names, same, ?_⟩
      rw [components_join nonempty fun starts => accepted.2 ((starts_iff key).mp starts), same]

/-- Below a root without a trailing separator, keys are resolved as texts. -/
theorem abs_eq {root : String} (nonempty : root ≠ "")
    (plain : root.toList.getLast? ≠ some '/') (key : String) :
    (abs (keyPath root) key).toOption = (Store.abs root key).map keyPath := by
  have isSome : keyPath root ≠ [] ∧ (keyPath root).getLast? ≠ some separator := by
    obtain ⟨front, last, text⟩ : ∃ front last, root.toList = front ++ [last] := by
      rcases List.eq_nil_or_concat root.toList with empty | ⟨front, last, text⟩
      · exact absurd (String.toList_eq_nil_iff.mp empty) nonempty
      · exact ⟨front, last, text.trans List.concat_eq_append⟩
    rw [text, List.getLast?_concat, Ne, Option.some.injEq] at plain
    have bytes : String.utf8EncodeChar last ≠ [] := by
      rcases Bytes.utf8EncodeChar_cases last with ⟨-, -, one⟩ | ⟨lead, others, more, -⟩
      · rw [one]
        exact List.cons_ne_nil _ _
      · rw [more]
        exact List.cons_ne_nil _ _
    have whole : keyPath root = utf8Bytes front ++ String.utf8EncodeChar last := by
      rw [keyPath, text, Bytes.utf8Bytes_append, Bytes.utf8Bytes_cons, Bytes.utf8Bytes_nil,
        List.append_nil]
    rw [whole]
    refine ⟨List.append_ne_nil_of_right_ne_nil _ bytes, fun ends => ?_⟩
    rw [List.getLast?_append_of_ne_nil _ bytes] at ends
    exact Bytes.ne_of_mem_utf8EncodeChar (by decide) plain (List.mem_of_getLast? ends) rfl
  have joined (relative : (keyPath key).head? ≠ some separator) :
      join (keyPath root) (keyPath key) = keyPath (root ++ "/" ++ key) := by
    rw [join, if_neg relative, if_neg (not_or.mpr isSome)]
    simp [keyPath]
    rfl
  unfold abs Store.abs
  split
  · rfl
  next accepted =>
    have relative : (keyPath key).head? ≠ some separator := by
      rw [Bool.or_eq_true, not_or] at accepted
      exact fun starts => accepted.2 ((starts_iff key).mp starts)
    have below : startsWith (join (keyPath root) (keyPath key)) (keyPath root) = true := by
      rw [startsWith, List.isPrefixOf_iff_prefix, components_join isSome.1 relative]
      exact List.prefix_append _ _
    rw [below, joined relative]
    rfl

/-! ## What the operations touch -/

section Calls

variable {allowed : FileOp → Prop} {root path : Path} {key : String}

theorem calls_onPath {α : Type} {rest : Path → Filing α}
    (next : ∀ path, abs root key = .ok path → (rest path).Calls allowed) :
    (onPath root key rest).Calls allowed := by
  unfold onPath
  cases resolved : abs root key with
  | error error => trivial
  | ok path => exact next path resolved

theorem calls_unlessDir {dir : List Component} (asks : allowed (.isDir dir)) (error : MediaError) :
    (createDirAll.unlessDir dir error).Calls allowed := by
  refine ⟨asks, fun outcome => ?_⟩
  dsimp only
  split <;> trivial

/-- Directories are made at the path or above it. -/
theorem calls_createDirAll {dir : List Component}
    (makes : ∀ above, above <:+ dir → allowed (.mkdir above.reverse) ∧
      allowed (.isDir above.reverse)) :
    (createDirAll dir).Calls allowed := by
  induction dir with
  | nil => trivial
  | cons last above inductionHypothesis =>
      obtain ⟨make, asks⟩ := makes _ (List.suffix_refl _)
      refine ⟨make, fun outcome => ?_⟩
      dsimp only
      split
      · trivial
      · split
        · trivial
        · refine Program.Calls.bind (inductionHypothesis fun other isSuffix =>
            makes other (isSuffix.trans (List.suffix_cons _ _))) fun _ => ⟨make, fun again => ?_⟩
          dsimp only
          split
          · trivial
          · exact calls_unlessDir asks _
      · exact calls_unlessDir asks _

theorem calls_createParent
    (makes : ∀ dir, dir <+: (components path).dropLast → allowed (.mkdir dir) ∧
      allowed (.isDir dir)) :
    (createParent path).Calls allowed := by
  unfold createParent parent
  split
  next dir isParent =>
    split at isParent
    · cases isParent
    · cases isParent
    · cases isParent
      refine calls_createDirAll fun above isSuffix => makes _ ?_
      rw [← List.reverse_suffix, List.reverse_reverse]
      exact isSuffix
  next => trivial

theorem calls_delete (inside : ∀ path, abs root key = .ok path → allowed (.removeFile path)) :
    (delete root key).Calls allowed :=
  calls_onPath fun path resolved => ⟨inside path resolved, fun outcome => by
    dsimp only
    split <;> trivial⟩

theorem calls_openKey (inside : ∀ path, abs root key = .ok path → allowed (.metadata path)) :
    (openKey root key).Calls allowed :=
  calls_onPath fun path resolved => ⟨inside path resolved, fun outcome => by
    dsimp only
    split <;> trivial⟩

end Calls

/-- The way to a path at or below the root leads to the root or goes on from it. -/
theorem way_cases {root path : Path} {names : List (List UInt8)}
    (located : components path = components root ++ names.map .normal) {dir : List Component}
    (onWay : dir <+: (components path).dropLast) :
    Within (components root) dir ∨ Within dir (components root) := by
  have whole := onWay.trans (List.dropLast_prefix _)
  rw [located] at whole
  exact List.prefix_or_prefix_of_prefix (List.prefix_append _ _) whole

/-! ## Runs on a root that is there -/

section Runs

variable {root path : Path}

/-- The root is a directory, and nothing outside it has been touched. -/
def Safe (root : Path) (recorded : Disk × Program.Record FileOp.Result MediaError) : Prop :=
  recorded.1 (components root) = true ∧ ∀ call ∈ recorded.2, Inside root call.1

theorem mkdir_keeps (denied : Bool) (made : List Component) {disk : Disk} {dir : List Component}
    (isThere : disk dir = true) : (disk.mkdir denied made).2 dir = true := by
  unfold Disk.mkdir
  split
  · exact isThere
  split
  · exact isThere
  split
  · by_cases same : dir = made
    · rw [same]
      exact Function.update_self _ _ _
    · exact (Function.update_of_ne same _ _).trans isThere
  · exact isThere

/-- No directory is missing above one that is there. -/
theorem mkdir_there (denied : Bool) {disk : Disk} {dir : List Component}
    (isThere : disk dir = true) :
    ∃ kind, (disk.mkdir denied dir).1 = .error (.io kind) ∧ kind ≠ .notFound := by
  unfold Disk.mkdir
  rw [isThere]
  split
  · exact ⟨_, rfl, by decide⟩
  · exact ⟨_, rfl, by decide⟩

theorem exec_keeps (env : FileEnv) (op : FileOp) {disk : Disk} {dir : List Component}
    (isThere : disk dir = true) : (FileOp.exec env op disk).2 dir = true := by
  cases op with
  | mkdir made => exact mkdir_keeps env.denied made isThere
  | _ => exact isThere

theorem Safe.recording {recorded : Disk × Program.Record FileOp.Result MediaError}
    (safe : Safe root recorded) {op : FileOp} (inside : Inside root op) (env : FileEnv) :
    Safe root (Program.recording FileOp.exec env op recorded).2 := by
  refine ⟨exec_keeps env op safe.1, fun call member => ?_⟩
  rcases List.mem_append.mp member with earlier | last
  · exact safe.2 call earlier
  · rw [List.mem_singleton.mp last]
    exact inside

theorem ensures_safe {α : Type} {program : Filing α}
    {recorded : Disk × Program.Record FileOp.Result MediaError}
    (calls : program.Calls (Inside root)) (safe : Safe root recorded) :
    program.Ensures (Program.recording FileOp.exec) (fun _ => True)
      (fun _ final => Safe root final) recorded := by
  refine (calls.ensures (fun before after => Safe root before → Safe root after)
    (fun _ still => still) (fun _ _ _ first second still => second (first still))
    (fun env _ _ _ inside still => still.recording inside env) recorded).mono ?_
  exact fun _ _ kept => kept safe

/-- The root is there, so that nothing above it has to be made. -/
theorem ensures_createDirAll (deeper : List Component)
    {recorded : Disk × Program.Record FileOp.Result MediaError} (safe : Safe root recorded) :
    (createDirAll (deeper ++ (components root).reverse)).Ensures
      (Program.recording FileOp.exec) (fun _ => True) (fun _ final => Safe root final)
      recorded := by
  induction deeper generalizing recorded with
  | nil =>
      rw [List.nil_append]
      cases way : (components root).reverse with
      | nil => exact safe
      | cons last above =>
          have isRoot : (last :: above).reverse = components root := by
            rw [← way, List.reverse_reverse]
          have make : Inside root (.mkdir (last :: above).reverse) := by
            rw [isRoot]
            exact List.prefix_refl _
          intro env _
          have still := safe.recording make env
          have asks (error : MediaError) :
              (createDirAll.unlessDir (last :: above).reverse error).Calls (Inside root) :=
            calls_unlessDir make error
          have isThere : recorded.1 (last :: above).reverse = true := by
            rw [isRoot]
            exact safe.1
          obtain ⟨kind, refused, notMissing⟩ := mkdir_there env.denied isThere
          have failed : (FileOp.exec env (.mkdir (last :: above).reverse) recorded.1).1 =
            .error (.io kind) := refused
          simp only [Program.recording] at still ⊢
          rw [failed] at still ⊢
          cases kind with
          | notFound => exact absurd rfl notMissing
          | alreadyExists => exact ensures_safe (asks _) still
          | other => exact ensures_safe (asks _) still
  | cons last deeper inductionHypothesis =>
      have make : Inside root (.mkdir (last :: deeper ++ (components root).reverse).reverse) := by
        refine ⟨(last :: deeper).reverse, ?_⟩
        rw [FileOp.target, List.reverse_append, List.reverse_reverse]
      have asks (error : MediaError) : (createDirAll.unlessDir
          (last :: deeper ++ (components root).reverse).reverse error).Calls (Inside root) :=
        calls_unlessDir make error
      intro env _
      have still := safe.recording make env
      simp only [Program.recording] at still ⊢
      split
      · exact still
      · split
        · exact still
        · rw [Program.ensures_bind]
          refine (inductionHypothesis still).mono fun outcome final safeFinal => ?_
          cases outcome with
          | error error => exact safeFinal
          | ok value =>
              refine ensures_safe ⟨make, fun again => ?_⟩ safeFinal
              dsimp only
              split
              · trivial
              · exact asks _
      · exact ensures_safe (asks _) still

end Runs

/-- Runs on a root that is there touch nothing outside it. -/
def Confined {α : Type} (root : Path) (program : Filing α) : Prop :=
  ∀ (envs : Nat → FileEnv) (disk : Disk), disk (components root) = true →
    ∀ call ∈ program.history FileOp.exec envs disk, Inside root call.1

section Saves

variable {root : Path} {key : String} {α : Type} {rest : Path → Filing α}

theorem calls_save (nonempty : root ≠ [])
    (next : ∀ path, abs root key = .ok path → (rest path).Calls (Inside root)) :
    (onPath root key fun path => createParent path >>= fun _ => rest path).Calls
      fun op => Inside root op ∨ OnTheWay root op := by
  refine calls_onPath fun path resolved => ?_
  obtain ⟨names, -, located⟩ := components_abs nonempty resolved
  refine Program.Calls.bind (calls_createParent fun dir onWay => ?_) fun _ =>
    (next path resolved).mono fun _ => .inl
  rcases way_cases located onWay with below | above
  · exact ⟨.inl below, .inl below⟩
  · exact ⟨.inr ⟨dir, .inl rfl, above⟩, .inr ⟨dir, .inr rfl, above⟩⟩

theorem confined_save (nonempty : root ≠ []) (named : Names key)
    (next : ∀ path, abs root key = .ok path → (rest path).Calls (Inside root)) :
    Confined root (onPath root key fun path => createParent path >>= fun _ => rest path) := by
  intro envs disk isThere
  have safe : Safe root (disk, []) := ⟨isThere, by rintro _ ⟨⟩⟩
  have ensured : (onPath root key fun path => createParent path >>= fun _ => rest path).Ensures
      (Program.recording FileOp.exec) (fun _ => True) (fun _ final => Safe root final)
      (disk, []) := by
    unfold onPath
    cases resolved : abs root key with
    | error error => exact safe
    | ok path =>
        obtain ⟨names, same, located⟩ := components_abs nonempty resolved
        have some : names ≠ [] := by
          rintro rfl
          exact named same
        have made : (createParent path).Ensures (Program.recording FileOp.exec) (fun _ => True)
            (fun _ final => Safe root final) (disk, []) := by
          unfold createParent parent
          split
          next dir isParent =>
            split at isParent
            · cases isParent
            · cases isParent
            · cases isParent
              rw [located, List.dropLast_append_of_ne_nil (by simpa using some),
                List.reverse_append]
              exact ensures_createDirAll _ safe
          next => exact safe
        dsimp only
        rw [Program.ensures_bind]
        refine made.mono fun outcome final safeFinal => ?_
        cases outcome with
        | error error => exact safeFinal
        | ok value => exact ensures_safe (next path resolved) safeFinal
  exact (ensured.recorded envs fun _ => trivial).2

end Saves

theorem calls_inside {root : Path} {op : FileOp}
    (within : Within (components root) op.target) :
    (Program.perform op : Filing op.Result).Calls (Inside root) :=
  Program.calls_perform.mpr within

/-- A key that is resolved leads to names below the root. Opening and deleting touch nothing
outside it. Saving makes directories on the way to it besides, and none if the root is there and
the key names something. -/
theorem keys_stay_within {root : Path} (nonempty : root ≠ []) (key : String)
    (data : List UInt8) :
    (∀ path, abs root key = .ok path → ∃ names : List (List UInt8),
      components path = components root ++ names.map .normal) ∧
    (openKey root key).Calls (Inside root) ∧
    (delete root key).Calls (Inside root) ∧
    (saveBytes root key data).Calls (fun op => Inside root op ∨ OnTheWay root op) ∧
    (saveStream root key).Calls (fun op => Inside root op ∨ OnTheWay root op) ∧
    (Names key → Confined root (saveBytes root key data) ∧ Confined root (saveStream root key)) := by
  have inside (path : Path) (resolved : abs root key = .ok path) :
      Within (components root) (components path) := by
    obtain ⟨names, -, located⟩ := components_abs nonempty resolved
    rw [located]
    exact List.prefix_append _ _
  have written (path : Path) (resolved : abs root key = .ok path) :
      (Program.perform (FileOp.write path) >>= fun _ =>
        (Program.done ⟨key, path, data.length⟩ : Filing StoredFile)).Calls (Inside root) :=
    (calls_inside (inside path resolved)).bind fun _ => trivial
  have copied (path : Path) (resolved : abs root key = .ok path) :
      (Program.perform (FileOp.create path) >>= fun _ =>
        Program.perform (FileOp.copyTo path) >>= fun size =>
          (Program.done ⟨key, path, size⟩ : Filing StoredFile)).Calls (Inside root) :=
    (calls_inside (inside path resolved)).bind fun _ =>
      (calls_inside (inside path resolved)).bind fun _ => trivial
  refine ⟨fun path resolved => ?_, calls_openKey inside, calls_delete inside,
    calls_save nonempty written, calls_save nonempty copied, fun named =>
      ⟨confined_save nonempty named written, confined_save nonempty named copied⟩⟩
  obtain ⟨names, -, located⟩ := components_abs nonempty resolved
  exact ⟨names, located⟩

end LocalStore

namespace Sample

def mediaRoot : Path := LocalStore.keyPath "/srv/media"

/-- Every call succeeds that can. -/
def willing (_ : Nat) : FileEnv := ⟨false, .ok 0⟩

/-- Nothing but the top of the file system is there. -/
def bareDisk : Disk := fun dir => dir = [.rootDir]

end Sample

open Sample in
/-- A file below a root that is there. -/
theorem LocalStore.original_stays_within :
    (∃ path, abs mediaRoot "original/a.mp4" = .ok path) ∧
      ∀ call ∈ (saveBytes mediaRoot "original/a.mp4" []).history FileOp.exec willing fun _ => true,
        Inside mediaRoot call.1 :=
  ⟨⟨keyPath "/srv/media/original/a.mp4", by decide⟩,
    ((keys_stay_within (by decide) "original/a.mp4" []).2.2.2.2.2 (by decide)).1
      willing (fun _ => true) rfl⟩

open Sample in
/-- The root is made with the directories above it. An empty key leads to the directory above the
root even if it is there. -/
theorem LocalStore.above_root_touched :
    (∃ call ∈ (saveBytes mediaRoot "original/a.mp4" []).history FileOp.exec willing bareDisk,
      ¬Inside mediaRoot call.1) ∧
      ∃ call ∈ (saveBytes mediaRoot "" []).history FileOp.exec willing fun _ => true,
        ¬Inside mediaRoot call.1 := by
  constructor <;> decide

end TootTok
