import Denylist.Files.Tree
import Mathlib.Data.List.Basic
import Mathlib.Data.Nat.Notation

/-!
# Proofs — directories that exist

A directory exists when every part of the way to it is the name of a directory (`HasDirectory`).
The way down to it from the root then meets no obstacle (`walk_append`), and whether it has a
regular file under a name can be told (`isFile_of_hasFile`, `isFile_of_not_hasFile`), unless the
path as a whole is longer than paths may be (`isFile_of_isTooLong`).  The length of a path grows by
every part and the slash in front of it (`utf8ByteSize_text_concat`).
-/

namespace Denylist

namespace Path

@[simp] theorem absolute_root (parts : List String) : (absolute parts).root = "/" := rfl

@[simp] theorem absolute_parts (parts : List String) : (absolute parts).parts = parts := rfl

/-- Another part adds a slash and itself to the text of a path; the root has its slash already. -/
theorem utf8ByteSize_text_concat (dir : List String) (name : String) :
    (absolute (dir ++ [name])).text.utf8ByteSize =
      (absolute dir).text.utf8ByteSize + (if dir = [] then 0 else 1) + name.utf8ByteSize := by
  by_cases hdir : dir = []
  · simp [hdir, absolute, text]
  · simp only [absolute, text, String.reduceEq, decide_false, Bool.false_and, Bool.false_eq_true,
      if_false, String.utf8ByteSize_append, String.intercalate_append_of_ne_nil hdir
      (List.cons_ne_nil name []), String.intercalate_singleton, if_neg hdir]
    have hslash : "/".utf8ByteSize = 1 := rfl
    omega

/-- The text of a path of equal parts. -/
theorem utf8ByteSize_text_replicate (n : ℕ) (name : String) :
    (absolute (List.replicate (n + 1) name)).text.utf8ByteSize =
      (n + 1) * (1 + name.utf8ByteSize) := by
  induction n with
  | zero =>
      have h := utf8ByteSize_text_concat [] name
      simp only [List.nil_append, if_true] at h
      rw [List.replicate_one, h, Nat.zero_add, Nat.one_mul]
      rfl
  | succ n ih =>
      rw [List.replicate_succ', utf8ByteSize_text_concat, ih, Nat.add_mul (n + 1) 1]
      simp
      omega

end Path

namespace FileTree

variable {t : FileTree} {dir : List String} {name : String}

/-! ### What paths lead to -/

/-- A regular file is there because an entry says so. -/
theorem mem_entries_of_find?_eq_file {parts : List String} {bytes : List UInt8}
    (h : t.find? parts = some (.file bytes)) : (parts, .file bytes) ∈ t.entries := by
  unfold find? at h
  split at h
  · next e hentry =>
      have hparts := List.find?_some hentry
      obtain rfl := beq_iff_eq.mp hparts
      rw [← Option.some.inj h]
      exact List.mem_of_find?_eq_some hentry
  · split at h <;> cases h

/-- A directory is there because it is on the way to an entry and no entry says otherwise. -/
theorem find?_eq_directory {parts : List String}
    (hself : ∀ e ∈ t.entries, e.1 = parts → e.2 = .directory)
    (hbelow : ∃ e ∈ t.entries, parts <+: e.1) : t.find? parts = some .directory := by
  unfold find?
  split
  · next e hentry =>
      have hparts := List.find?_some hentry
      rw [hself e (List.mem_of_find?_eq_some hentry) (beq_iff_eq.mp hparts)]
  · rw [if_pos]
    obtain ⟨e, he, hprefix⟩ := hbelow
    rw [Bool.or_eq_true, List.any_eq_true]
    exact Or.inr ⟨e, he, List.isPrefixOf_iff_prefix.mpr hprefix⟩

/-! ### Directories -/

/-- A part of a path that something in a directory may be called by. -/
structure IsName (name : String) : Prop where
  isPart : Path.isPart name = true
  ne_parent : name ≠ ".."
  short : name.utf8ByteSize ≤ nameLimit

theorem IsName.ne_empty (h : IsName name) : name ≠ "" := by
  have hpart := h.isPart
  simp only [Path.isPart, Bool.and_eq_true, bne_iff_ne] at hpart
  exact hpart.1

/-- A directory that exists: the root, or a directory in a directory that exists. -/
inductive HasDirectory (t : FileTree) : List String → Prop where
  | root (isDir : t.find? [] = some .directory) : HasDirectory t []
  | child {dir : List String} {name : String} (parent : HasDirectory t dir) (isName : IsName name)
      (isDir : t.find? (dir ++ [name]) = some .directory) : HasDirectory t (dir ++ [name])

/-- A directory has a regular file under a name. -/
def HasFile (t : FileTree) (dir : List String) (name : String) : Prop :=
  ∃ bytes, t.find? (dir ++ [name]) = some (.file bytes)

theorem HasDirectory.find?_eq (h : HasDirectory t dir) : t.find? dir = some .directory := by
  cases h with
  | root isDir => exact isDir
  | child _ _ isDir => exact isDir

/-- The step from a directory to what it has under a name. -/
theorem walk_cons (h : t.find? dir = some .directory) (hname : IsName name) (rest : List String) :
    t.walk dir (name :: rest) = t.walk (dir ++ [name]) rest := by
  rw [walk, h]
  simp only [Nat.not_lt.mpr hname.short, if_false, Path.resolvePart, hname.ne_parent]

/-- The way through a directory that exists leads from the root to it. -/
theorem walk_append (h : HasDirectory t dir) (rest : List String) :
    t.walk [] (dir ++ rest) = t.walk dir rest := by
  induction h generalizing rest with
  | root => rfl
  | child parent isName _ ih =>
      rw [List.append_assoc, ih, List.singleton_append, walk_cons parent.find?_eq isName]

/-- A path is longer than paths may be. -/
def IsTooLong (parts : List String) : Prop :=
  pathLimit < (Path.absolute parts).text.utf8ByteSize

instance (parts : List String) : Decidable (IsTooLong parts) :=
  inferInstanceAs (Decidable (_ < _))

theorem isFile_of_isTooLong {parts : List String} (h : IsTooLong parts) :
    t.isFile parts = .error .longName := by
  rw [IsTooLong] at h
  simp only [isFile, entryAt, h, if_true]
  rfl

/-- A path that is not too long leads through a directory that exists to what is in it. -/
theorem entryAt_absolute_concat (h : HasDirectory t dir) (hname : IsName name)
    (hshort : ¬ IsTooLong (dir ++ [name])) (cwd : List String) :
    t.entryAt cwd (.absolute (dir ++ [name])) =
      (t.find? (dir ++ [name])).elim (.error .missing) .ok := by
  have hwalk : t.walk [] (dir ++ [name]) = .ok (dir ++ [name]) := by
    rw [walk_append h, walk_cons h.find?_eq hname, walk]
  rw [IsTooLong] at hshort
  cases hentry : t.find? (dir ++ [name]) <;>
    simp only [entryAt, hshort, if_false, Path.absolute_root, Path.absolute_parts,
      String.reduceEq, hwalk, bind, Except.bind, hentry] <;>
    rfl

theorem isFile_of_hasFile (h : HasDirectory t dir) (hname : IsName name)
    (hshort : ¬ IsTooLong (dir ++ [name])) (hfile : t.HasFile dir name) :
    t.isFile (dir ++ [name]) = .ok true := by
  obtain ⟨bytes, hbytes⟩ := hfile
  rw [isFile, entryAt_absolute_concat h hname hshort, hbytes]
  rfl

theorem isFile_of_not_hasFile (h : HasDirectory t dir) (hname : IsName name)
    (hshort : ¬ IsTooLong (dir ++ [name])) (hfile : ¬ t.HasFile dir name) :
    t.isFile (dir ++ [name]) = .ok false := by
  rw [isFile, entryAt_absolute_concat h hname hshort]
  cases hentry : t.find? (dir ++ [name]) with
  | none => rfl
  | some e =>
      cases e with
      | file bytes => exact absurd ⟨bytes, hentry⟩ hfile
      | directory => rfl

end FileTree

end Denylist
