import Denylist.Config.Discovery
import Denylist.Proofs.Directories
import Denylist.Proofs.Sequences

/-!
# Proofs — the config that is found

The search goes through the names of configs in a directory and then in its parents.  What it finds
is the first of the names in the nearest directory that has any of them as a regular file
(`IsNearest`), so a preferred name does not win from farther up, and a directory with the name of a
config does not count.  Where no directory on the way up has a config, there is none
(`FindsNearest`).

The search cannot go on at a path that is longer than paths may be.  Paths get shorter on the way
up by as much as the names of configs differ, so this happens in the directory where the search
begins or not at all (`IsTooDeep`, `not_isTooDeep_of_child`).
-/

namespace Denylist.Config

open FileTree (HasDirectory HasFile IsName IsTooLong)
open Sequences (IsFirst)

variable {t : FileTree} {dir : List String} {name : String}

/-! ### The names of configs -/

theorem isName_of_mem_fileNames (h : name ∈ fileNames) : IsName name := by
  have hall : ∀ s ∈ fileNames,
      Path.isPart s = true ∧ s ≠ ".." ∧ s.utf8ByteSize ≤ FileTree.nameLimit := by decide
  obtain ⟨hpart, hparent, hshort⟩ := hall name h
  exact ⟨hpart, hparent, hshort⟩

theorem utf8ByteSize_of_mem_fileNames (h : name ∈ fileNames) :
    11 ≤ name.utf8ByteSize ∧ name.utf8ByteSize ≤ 13 := by
  have hall : ∀ s ∈ fileNames, 11 ≤ s.utf8ByteSize ∧ s.utf8ByteSize ≤ 13 := by decide
  exact hall name h

/-- The paths of configs in a directory, the preferred one first. -/
def configPaths (dir : List String) : List (List String) := fileNames.map fun name => dir ++ [name]

theorem candidates_nil : candidates [] = configPaths [] := rfl

theorem ancestors_concat (dir : List String) (part : String) :
    ancestors (dir ++ [part]) = (dir ++ [part]) :: ancestors dir := by
  have htake (n : ℕ) :
      (dir ++ [part]).take (dir.length + 1 - (n + 1)) = dir.take (dir.length - n) := by
    rw [Nat.add_sub_add_right, List.take_append_of_le_length (Nat.sub_le _ _)]
  rw [ancestors, ancestors, List.length_append, List.length_singleton, List.range_succ_eq_map,
    List.map_cons, List.map_map, Nat.sub_zero, List.take_of_length_le (by simp)]
  exact congrArg _ (List.map_congr_left fun n _ => htake n)

/-- First come the configs of the directory itself, then those of its parents. -/
theorem candidates_concat (dir : List String) (part : String) :
    candidates (dir ++ [part]) = configPaths (dir ++ [part]) ++ candidates dir := by
  rw [candidates, ancestors_concat, List.flatMap_cons, configPaths, candidates]

/-! ### The search in one directory -/

/-- The search in a directory ends at a name: a regular file has it, or the path is too long. -/
def Stops (t : FileTree) (dir : List String) (name : String) : Prop :=
  IsTooLong (dir ++ [name]) ∨ t.HasFile dir name

/-- The path of a config that would be in a directory is too long, and none that is preferred is
there. -/
def IsTooDeep (t : FileTree) (dir : List String) : Prop :=
  ∃ name, IsFirst (Stops t dir) fileNames name ∧ IsTooLong (dir ++ [name])

/-- The fault of a path that is too long. -/
def tooLong (parts : List String) : Fault := .path .longName (Path.absolute parts).text

theorem firstFile?_cons_of_isTooLong {parts : List String} (h : IsTooLong parts)
    (rest : List (List String)) : firstFile? t (parts :: rest) = .error (tooLong parts) := by
  rw [firstFile?, FileTree.isFile_of_isTooLong h, tooLong]

theorem firstFile?_cons_of_hasFile (hdir : HasDirectory t dir) (hname : IsName name)
    (hshort : ¬ IsTooLong (dir ++ [name])) (hfile : HasFile t dir name)
    (rest : List (List String)) :
    firstFile? t ((dir ++ [name]) :: rest) = .ok (some (dir ++ [name])) := by
  rw [firstFile?, FileTree.isFile_of_hasFile hdir hname hshort hfile]

theorem firstFile?_cons_of_not_stops (hdir : HasDirectory t dir) (hname : IsName name)
    (h : ¬ Stops t dir name) (rest : List (List String)) :
    firstFile? t ((dir ++ [name]) :: rest) = firstFile? t rest := by
  rw [Stops, not_or] at h
  rw [firstFile?, FileTree.isFile_of_not_hasFile hdir hname h.1 h.2]

/-- The search begins anew at the first name that stops it. -/
theorem exists_firstFile?_of_isFirst (hdir : HasDirectory t dir) {names : List String}
    (hnames : ∀ s ∈ names, IsName s) (h : IsFirst (Stops t dir) names name)
    (rest : List (List String)) :
    ∃ rest', firstFile? t ((names.map fun s => dir ++ [s]) ++ rest) =
      firstFile? t ((dir ++ [name]) :: rest') := by
  induction h with
  | here => exact ⟨_, rfl⟩
  | later hnot _ ih =>
      obtain ⟨hname, hnames⟩ := List.forall_mem_cons.mp hnames
      obtain ⟨rest', hrest⟩ := ih hnames
      refine ⟨rest', ?_⟩
      rw [List.map_cons, List.cons_append, firstFile?_cons_of_not_stops hdir hname hnot, hrest]

/-- No name stops the search, which goes on elsewhere. -/
theorem firstFile?_of_forall_not_stops (hdir : HasDirectory t dir) {names : List String}
    (hnames : ∀ s ∈ names, IsName s) (h : ∀ s ∈ names, ¬ Stops t dir s)
    (rest : List (List String)) :
    firstFile? t ((names.map fun s => dir ++ [s]) ++ rest) = firstFile? t rest := by
  induction names with
  | nil => rfl
  | cons s names ih =>
      obtain ⟨hname, hnames⟩ := List.forall_mem_cons.mp hnames
      obtain ⟨hs, h⟩ := List.forall_mem_cons.mp h
      rw [List.map_cons, List.cons_append, firstFile?_cons_of_not_stops hdir hname hs,
        ih hnames h]

/-- In a directory that is too deep, the search ends with the fault of a path. -/
theorem exists_firstFile?_eq_error (hdir : HasDirectory t dir) (h : IsTooDeep t dir)
    (rest : List (List String)) : ∃ name ∈ fileNames, IsTooLong (dir ++ [name]) ∧
      firstFile? t (configPaths dir ++ rest) = .error (tooLong (dir ++ [name])) := by
  obtain ⟨name, hfirst, hlong⟩ := h
  obtain ⟨rest', hrest⟩ :=
    exists_firstFile?_of_isFirst hdir (fun s hs => isName_of_mem_fileNames hs) hfirst rest
  exact ⟨name, hfirst.mem, hlong, by
    rw [configPaths, hrest, firstFile?_cons_of_isTooLong hlong]⟩

/-- In any other directory, it ends with the first of the names that a regular file has, or no name
stops it and it goes on. -/
theorem firstFile?_configPaths_append (hdir : HasDirectory t dir) (h : ¬ IsTooDeep t dir)
    (rest : List (List String)) :
    (∃ name, IsFirst (HasFile t dir) fileNames name ∧
      firstFile? t (configPaths dir ++ rest) = .ok (some (dir ++ [name]))) ∨
    (∀ name ∈ fileNames, ¬ Stops t dir name) ∧
      firstFile? t (configPaths dir ++ rest) = firstFile? t rest := by
  have hnames : ∀ s ∈ fileNames, IsName s := fun s hs => isName_of_mem_fileNames hs
  by_cases hstops : ∃ name ∈ fileNames, Stops t dir name
  · obtain ⟨name, hfirst⟩ := Sequences.exists_isFirst hstops
    have hshort : ¬ IsTooLong (dir ++ [name]) := fun hlong => h ⟨name, hfirst, hlong⟩
    have hfile : HasFile t dir name := hfirst.holds.resolve_left hshort
    obtain ⟨rest', hrest⟩ := exists_firstFile?_of_isFirst hdir hnames hfirst rest
    refine Or.inl ⟨name, hfirst.of_imp (fun _ => Or.inr) hfile, ?_⟩
    rw [configPaths, hrest, firstFile?_cons_of_hasFile hdir (hnames name hfirst.mem) hshort hfile]
  · have hnone : ∀ name ∈ fileNames, ¬ Stops t dir name :=
      fun name hname hstop => hstops ⟨name, hname, hstop⟩
    exact Or.inr ⟨hnone, firstFile?_of_forall_not_stops hdir hnames hnone rest⟩

/-! ### The search through the parents -/

/-- A directory has a config: a regular file with one of the names. -/
def HoldsConfig (t : FileTree) (dir : List String) : Prop := ∃ name ∈ fileNames, t.HasFile dir name

/-- The config nearest to a directory: it is in the nearest of the directory and its parents that
holds one, and there it has the first of the names. -/
structure IsNearest (t : FileTree) (start dir : List String) (name : String) : Prop where
  above : dir <+: start
  nearest : ∀ other, other <+: start → HoldsConfig t other → other <+: dir
  first : IsFirst (HasFile t dir) fileNames name

theorem not_holdsConfig_of_forall_not_stops (h : ∀ name ∈ fileNames, ¬ Stops t dir name) :
    ¬ HoldsConfig t dir := by
  rintro ⟨name, hname, hfile⟩
  exact h name hname (Or.inr hfile)

theorem IsNearest.holdsConfig {start : List String} (h : IsNearest t start dir name) :
    HoldsConfig t dir := ⟨name, h.first.mem, h.first.holds⟩

/-- There is one nearest config at most. -/
theorem IsNearest.unique {start dir' : List String} {name' : String}
    (h : IsNearest t start dir name) (h' : IsNearest t start dir' name') :
    dir = dir' ∧ name = name' := by
  have hle := (h'.nearest dir h.above h.holdsConfig).length_le
  obtain rfl := (h.nearest dir' h'.above h'.holdsConfig).eq_of_length_le hle
  exact ⟨rfl, h.first.unique h'.first⟩

/-- Where a directory holds no config, the one nearest to its parent is the nearest. -/
theorem IsNearest.of_parent {start : List String} {part : String}
    (h : IsNearest t start dir name) (hnone : ¬ HoldsConfig t (start ++ [part])) :
    IsNearest t (start ++ [part]) dir name where
  above := h.above.trans (List.prefix_append _ _)
  nearest := by
    intro other hother hconfig
    rcases List.prefix_concat_iff.mp hother with rfl | hother
    · exact absurd hconfig hnone
    · exact h.nearest other hother hconfig
  first := h.first

/-- Where the paths to configs in a directory are not too long, those to configs in its parent are
not either. -/
theorem not_isTooDeep_of_child {part : String} (hpart : part ≠ "")
    (h : ∀ name ∈ fileNames, ¬ IsTooLong (dir ++ [part] ++ [name])) : ¬ IsTooDeep t dir := by
  rintro ⟨name, hfirst, hlong⟩
  have hmem : "clippy.toml" ∈ fileNames := List.mem_cons_self
  refine h _ hmem ?_
  have hsize := utf8ByteSize_of_mem_fileNames hfirst.mem
  have hclippy := utf8ByteSize_of_mem_fileNames hmem
  have hpos : 0 < part.utf8ByteSize :=
    Nat.pos_of_ne_zero fun hzero => hpart (String.utf8ByteSize_eq_zero_iff.mp hzero)
  have hne : dir ++ [part] ≠ [] := List.append_ne_nil_of_right_ne_nil _ (List.cons_ne_nil _ _)
  simp only [IsTooLong, Path.utf8ByteSize_text_concat, if_neg hne] at hlong ⊢
  omega

/-- The search from a directory that is not too deep finds the nearest config, or there is none. -/
theorem firstFile?_candidates (hdir : HasDirectory t dir) (h : ¬ IsTooDeep t dir) :
    (∃ d name, IsNearest t dir d name ∧
      firstFile? t (candidates dir) = .ok (some (d ++ [name]))) ∨
    (∀ d, d <+: dir → ¬ HoldsConfig t d) ∧ firstFile? t (candidates dir) = .ok none := by
  have hself {start : List String} {name : String}
      (hfirst : IsFirst (HasFile t start) fileNames name) : IsNearest t start start name :=
    ⟨List.prefix_rfl, fun _ hother _ => hother, hfirst⟩
  induction hdir with
  | root isDir =>
      rw [candidates_nil, ← List.append_nil (configPaths [])]
      rcases firstFile?_configPaths_append (.root isDir) h [] with
        ⟨name, hfirst, hfound⟩ | ⟨hnone, hgo⟩
      · exact Or.inl ⟨[], name, hself hfirst, hfound⟩
      · refine Or.inr ⟨fun d hd => ?_, hgo⟩
        rw [List.prefix_nil.mp hd]
        exact not_holdsConfig_of_forall_not_stops hnone
  | @child dir part parent isName isDir ih =>
      rw [candidates_concat]
      rcases firstFile?_configPaths_append (.child parent isName isDir) h (candidates dir) with
        ⟨name, hfirst, hfound⟩ | ⟨hnone, hgo⟩
      · exact Or.inl ⟨dir ++ [part], name, hself hfirst, hfound⟩
      · have hshort : ¬ IsTooDeep t dir :=
          not_isTooDeep_of_child isName.ne_empty fun name hname hlong =>
            hnone name hname (Or.inl hlong)
        have hconfig := not_holdsConfig_of_forall_not_stops hnone
        rw [hgo]
        rcases ih hshort with ⟨d, name, hnearest, hfound⟩ | ⟨hall, hfound⟩
        · exact Or.inl ⟨d, name, hnearest.of_parent hconfig, hfound⟩
        · refine Or.inr ⟨fun d hd => ?_, hfound⟩
          rcases List.prefix_concat_iff.mp hd with rfl | hd
          · exact hconfig
          · exact hall d hd

/-! ### Finding the config -/

section Locate

variable {cwd : List String} {start : Path}

theorem find?_eq (h : start.hasNul = false) :
    find? t cwd start = firstFile? t (candidates (start.resolve cwd)) := by
  rw [find?, startOf, h]
  rfl

theorem exists_candidates_eq (dir : List String) :
    ∃ rest, candidates dir = configPaths dir ++ rest := by
  induction dir using List.reverseRecOn with
  | nil => exact ⟨[], (List.append_nil _).symm⟩
  | append_singleton dir part => exact ⟨_, candidates_concat dir part⟩

/-- Without a path given, the config is the one that is found. -/
theorem locate_none_eq_ok_iff {p : Path} : locate t none cwd start = .ok p ↔
    ∃ parts, find? t cwd start = .ok (some parts) ∧ p = .absolute parts := by
  rw [locate]
  cases find? t cwd start with
  | error g => simp
  | ok o => cases o <;> simp [eq_comm]

/-- It is missing where none is found, which the error says of the directory where the search begins,
and a fault of the search is not handled. -/
theorem locate_none_eq_error_iff {f : Failure} : locate t none cwd start = .error f ↔
    find? t cwd start = .ok none ∧
        f = .error { cause := .configNotFound (Path.absolute (start.resolve cwd)).text } ∨
      ∃ g, find? t cwd start = .error g ∧ f = .fault g := by
  rw [locate]
  cases find? t cwd start with
  | error g => simp [eq_comm]
  | ok o => cases o <;> simp [notFound, eq_comm]

/-- The search finds the nearest config or, where there is none, nothing.  Where no path is given,
what is found is the config, and else the error tells where the search began. -/
structure FindsNearest (t : FileTree) (cwd : List String) (start : Path) : Prop where
  found : ∀ parts, find? t cwd start = .ok (some parts) ↔
    ∃ dir name, parts = dir ++ [name] ∧ IsNearest t (start.resolve cwd) dir name
  absent : find? t cwd start = .ok none ↔
    ∀ dir, dir <+: start.resolve cwd → ¬ HoldsConfig t dir
  located : ∀ p, locate t none cwd start = .ok p ↔
    ∃ parts, find? t cwd start = .ok (some parts) ∧ p = .absolute parts
  missed : ∀ f, locate t none cwd start = .error f ↔
    find? t cwd start = .ok none ∧
      f = .error { cause := .configNotFound (Path.absolute (start.resolve cwd)).text }

theorem findsNearest_of_found (hnearest : IsNearest t (start.resolve cwd) dir name)
    (hfound : find? t cwd start = .ok (some (dir ++ [name]))) : FindsNearest t cwd start where
  found := by
    intro parts
    rw [hfound]
    constructor
    · rintro h
      cases h
      exact ⟨dir, name, rfl, hnearest⟩
    · rintro ⟨d, n, rfl, h⟩
      obtain ⟨rfl, rfl⟩ := hnearest.unique h
      rfl
  absent := by
    rw [hfound]
    exact iff_of_false (by simp) fun h => h dir hnearest.above hnearest.holdsConfig
  located := fun _ => locate_none_eq_ok_iff
  missed := by
    intro f
    rw [locate_none_eq_error_iff, hfound]
    simp

theorem findsNearest_of_absent (hnone : ∀ d, d <+: start.resolve cwd → ¬ HoldsConfig t d)
    (habsent : find? t cwd start = .ok none) : FindsNearest t cwd start where
  found := by
    intro parts
    rw [habsent]
    refine iff_of_false (by simp) ?_
    rintro ⟨d, n, -, h⟩
    exact hnone d h.above h.holdsConfig
  absent := iff_of_true habsent hnone
  located := fun _ => locate_none_eq_ok_iff
  missed := by
    intro f
    rw [locate_none_eq_error_iff, habsent]
    simp

end Locate

/-- **The config is the nearest one.**  A path that is given is taken, whatever files there are.
Otherwise let the search begin in a directory that exists.

* If the directory is not too deep, the search finds the first of the names of configs in the
  nearest of the directory and its parents that has any of them as a regular file.  It finds nothing
  exactly where none of these holds a config, and exactly then the config is missing.
* If it is too deep, the search ends with the fault that the path of a config would be too long,
  whatever the parents hold. -/
theorem locate_finds_nearest (t : FileTree) (cwd : List String) (start : Path) :
    (∀ p, locate t (some p) cwd start = .ok p) ∧
    (start.hasNul = false → HasDirectory t (start.resolve cwd) →
      (¬ IsTooDeep t (start.resolve cwd) → FindsNearest t cwd start) ∧
      (IsTooDeep t (start.resolve cwd) → ∃ name ∈ fileNames,
        IsTooLong (start.resolve cwd ++ [name]) ∧
        find? t cwd start = .error (tooLong (start.resolve cwd ++ [name])) ∧
        locate t none cwd start = .error (.fault (tooLong (start.resolve cwd ++ [name]))))) := by
  refine ⟨fun _ => rfl, fun hnul hdir => ⟨fun h => ?_, fun h => ?_⟩⟩
  · rcases firstFile?_candidates hdir h with ⟨d, name, hnearest, hfound⟩ | ⟨hnone, habsent⟩
    · exact findsNearest_of_found hnearest (by rw [find?_eq hnul, hfound])
    · exact findsNearest_of_absent hnone (by rw [find?_eq hnul, habsent])
  · obtain ⟨rest, hrest⟩ := exists_candidates_eq (start.resolve cwd)
    obtain ⟨name, hname, hlong, hfault⟩ := exists_firstFile?_eq_error hdir h rest
    have hfind : find? t cwd start = .error (tooLong (start.resolve cwd ++ [name])) := by
      rw [find?_eq hnul, hrest, hfault]
    exact ⟨name, hname, hlong, hfind, locate_none_eq_error_iff.mpr (Or.inr ⟨_, hfind, rfl⟩)⟩

/-- A config at the root, and a directory that holds one under the last of the names; the first of
the names is there that of a directory. -/
def nestedTree : FileTree :=
  ⟨[(["clippy.toml"], .file []), (["home", "clippy.toml"], .directory),
    (["home", "apiguard.yaml"], .file []), (["home", "src"], .directory)]⟩

/-- A path into the directory below. -/
def nestedStart : Path := ⟨"", ["..", "src"]⟩

theorem hasFile_nestedTree_iff : HasFile nestedTree dir name ↔
    dir = [] ∧ name = "clippy.toml" ∨ dir = ["home"] ∧ name = "apiguard.yaml" := by
  constructor
  · rintro ⟨bytes, h⟩
    have hmem := FileTree.mem_entries_of_find?_eq_file h
    simp only [nestedTree, List.mem_cons, Prod.mk.injEq, reduceCtorEq, and_false, false_or,
      List.not_mem_nil, or_false] at hmem
    have hpath : dir ++ [name] = [] ++ ["clippy.toml"] ∨
        dir ++ [name] = ["home"] ++ ["apiguard.yaml"] := hmem.imp And.left And.left
    exact hpath.imp List.append_singleton_inj.mp List.append_singleton_inj.mp
  · rintro (⟨rfl, rfl⟩ | ⟨rfl, rfl⟩)
    · exact ⟨[], rfl⟩
    · exact ⟨[], rfl⟩

theorem finds_apiguard_in_nestedTree :
    nestedStart.hasNul = false ∧ nestedStart.resolve ["home", "src"] = ["home", "src"] ∧
    HasDirectory nestedTree ["home", "src"] ∧ ¬ IsTooDeep nestedTree ["home", "src"] ∧
    find? nestedTree ["home", "src"] nestedStart = .ok (some ["home", "apiguard.yaml"]) := by
  have hdir : HasDirectory nestedTree ["home", "src"] :=
    .child (.child (.root rfl) ⟨rfl, by decide, by decide⟩ rfl) ⟨rfl, by decide, by decide⟩ rfl
  have hshort : ¬ IsTooDeep nestedTree ["home", "src"] := by
    rintro ⟨name, hfirst, hlong⟩
    have hall : ∀ s ∈ fileNames, ¬ IsTooLong (["home", "src"] ++ [s]) := by decide
    exact hall name hfirst.mem hlong
  have hnearest : IsNearest nestedTree ["home", "src"] ["home"] "apiguard.yaml" := by
    refine ⟨⟨["src"], rfl⟩, ?_, ?_⟩
    · rintro other - ⟨name, -, hfile⟩
      rcases hasFile_nestedTree_iff.mp hfile with ⟨rfl, -⟩ | ⟨rfl, -⟩
      · exact List.nil_prefix
      · exact List.prefix_rfl
    · refine .later ?_ (.later ?_ (.later ?_ (.here ?_)))
      all_goals simp [hasFile_nestedTree_iff]
  have hfinds := ((locate_finds_nearest nestedTree ["home", "src"] nestedStart).2 rfl hdir).1
    hshort
  exact ⟨rfl, rfl, hdir, hshort, (hfinds.found _).mpr ⟨["home"], "apiguard.yaml", rfl, hnearest⟩⟩

/-- A directory far below, whose own path is just short enough. -/
def deepPath : List String := List.replicate 818 "deep"

/-- A config at the root, and the directory far below. -/
def deepTree : FileTree := ⟨[(["clippy.toml"], .file []), (deepPath, .directory)]⟩

theorem hasDirectory_deepTree : HasDirectory deepTree deepPath := by
  have hdir (n : ℕ) (hn : n ≤ 818) :
      deepTree.find? (List.replicate n "deep") = some .directory := by
    refine FileTree.find?_eq_directory ?_ ⟨_, List.mem_cons_of_mem _ List.mem_cons_self, ?_⟩
    · intro e he hpath
      simp only [deepTree, List.mem_cons, List.not_mem_nil, or_false] at he
      rcases he with rfl | rfl
      · have hmem : "clippy.toml" ∈ List.replicate n "deep" := by
          rw [← hpath]
          exact List.mem_cons_self
        exact absurd (List.eq_of_mem_replicate hmem) (by decide)
      · rfl
    · refine ⟨List.replicate (818 - n) "deep", ?_⟩
      rw [List.replicate_append_replicate, Nat.add_sub_cancel' hn, deepPath]
  -- Level after level, beginning at the root.
  have hall (n : ℕ) (hn : n ≤ 818) : HasDirectory deepTree (List.replicate n "deep") := by
    induction n with
    | zero => exact .root (hdir 0 hn)
    | succ n ih =>
        have hchild := hdir (n + 1) hn
        rw [List.replicate_succ'] at hchild ⊢
        exact .child (ih (Nat.le_of_succ_le hn)) ⟨rfl, by decide, by decide⟩ hchild
  exact hall 818 (Nat.le_refl 818)

/-- The config at the root is the nearest one, and the directory's own path is short enough, but the
search from there ends before it comes to the root. -/
theorem no_config_found_from_deepPath :
    HasDirectory deepTree deepPath ∧ ¬ IsTooLong deepPath ∧
    IsNearest deepTree deepPath [] "clippy.toml" ∧
    find? deepTree deepPath ⟨"", []⟩ = .error (tooLong (deepPath ++ ["clippy.toml"])) := by
  have hsize : (Path.absolute deepPath).text.utf8ByteSize = 4090 :=
    Path.utf8ByteSize_text_replicate 817 "deep"
  have hne : deepPath ≠ [] := List.cons_ne_nil _ _
  have hlong : IsTooLong (deepPath ++ ["clippy.toml"]) := by
    rw [IsTooLong, Path.utf8ByteSize_text_concat, hsize, if_neg hne]
    decide
  refine ⟨hasDirectory_deepTree, ?_, ⟨List.nil_prefix, ?_, .here ⟨[], rfl⟩⟩, ?_⟩
  · rw [IsTooLong, hsize]
    decide
  · rintro other - ⟨name, -, bytes, hfile⟩
    have hmem := FileTree.mem_entries_of_find?_eq_file hfile
    simp only [deepTree, List.mem_cons, Prod.mk.injEq, reduceCtorEq, and_false, List.not_mem_nil,
      or_false] at hmem
    have hpath : other ++ [name] = [] ++ ["clippy.toml"] := hmem.1
    obtain ⟨rfl, -⟩ := List.append_singleton_inj.mp hpath
    exact List.prefix_rfl
  · obtain ⟨rest, hrest⟩ := exists_candidates_eq deepPath
    have hcwd : Path.resolve deepPath ⟨"", []⟩ = deepPath := rfl
    rw [find?_eq rfl, hcwd, hrest, configPaths, fileNames, List.map_cons, List.cons_append,
      firstFile?_cons_of_isTooLong hlong]

end Denylist.Config
