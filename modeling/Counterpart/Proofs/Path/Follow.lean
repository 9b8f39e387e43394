/-
Joined paths in a tree of files.  Where a joined path leads somewhere, the path it is joined
to leads to a place on the way; without two points among its parts the rest only goes down
from there.
-/
import Counterpart.FileTree
import Counterpart.Proofs.Path.Join

namespace Counterpart.FileTree

open Text Counterpart.Path

variable {tree : FileTree} {base : Location}

/-- The place a path leads to, the empty path leading nowhere further. -/
def reach? (tree : FileTree) (base : Location) (path : String) : Option Location :=
  tree.follow (origin base path) (pieces '/' path.toList)

theorem reach?_of_resolve? {path : String} {place : Location}
    (hplace : tree.resolve? base path = some place) : tree.reach? base path = some place := by
  unfold resolve? at hplace
  split at hplace
  · cases hplace
  · exact hplace

theorem isDirectoryAt_of_follow {start place : Location} {ps : List (List Char)}
    (hne : ps ≠ []) (hplace : tree.follow start ps = some place) :
    tree.isDirectoryAt start = true := by
  cases ps with
  | nil => exact absurd rfl hne
  | cons p ps =>
      by_cases hdir : tree.isDirectoryAt start = true
      · exact hdir
      · rw [follow, if_pos (by simpa using hdir)] at hplace
        cases hplace

theorem follow_append (tree : FileTree) (start : Location) (front back : List (List Char)) :
    tree.follow start (front ++ back) =
      (tree.follow start front).bind fun mid => tree.follow mid back := by
  induction front generalizing start with
  | nil => rfl
  | cons p front ih =>
      simp only [List.cons_append, follow]
      split
      · rfl
      · split
        · exact ih start
        · split
          · exact ih start.dropLast
          · split
            · exact ih (start ++ [String.ofList p])
            · rfl

/-- Without two points a path only goes down. -/
theorem prefix_of_follow {start place : Location} {ps : List (List Char)}
    (hplace : tree.follow start ps = some place) (hdots : ['.', '.'] ∉ ps) : start <+: place := by
  induction ps generalizing start with
  | nil =>
      cases hplace
      exact List.prefix_rfl
  | cons p ps ih =>
      simp only [List.mem_cons, not_or] at hdots
      rw [follow] at hplace
      split at hplace
      · cases hplace
      · split at hplace
        · exact ih hplace hdots.2
        · rw [if_neg (Ne.symm hdots.1)] at hplace
          dsimp only at hplace
          split at hplace
          · exact (List.prefix_append _ _).trans (ih hplace hdots.2)
          · cases hplace

theorem dots_not_mem_pieces {path : String} (hdots : ".." ∉ parts path) :
    ['.', '.'] ∉ pieces '/' path.toList := by
  intro hmem
  apply hdots
  rw [parts, List.mem_map]
  exact ⟨['.', '.'], List.mem_filter.2 ⟨hmem, rfl⟩, rfl⟩

theorem origin_join {dir path : String} (hpath : isAbsolute path = false) :
    origin base (join dir path) = origin base dir := by
  by_cases hdir : dir = ""
  · rw [hdir, join_empty, origin, origin, hpath]
    rfl
  · rw [origin, origin, isAbsolute_join hdir hpath]

/-- A joined path leads through the place of the path it is joined to. -/
theorem exists_reach?_of_join {dir path : String} {place : Location}
    (hpath : isAbsolute path = false) (hplace : tree.reach? base (join dir path) = some place) :
    ∃ root, tree.reach? base dir = some root ∧
      tree.follow root (pieces '/' path.toList) = some place := by
  rw [reach?, origin_join hpath] at hplace
  have hne := pieces_ne_nil '/' path.toList
  -- An empty part at the end of the first path asks for a directory, which the second path
  -- needs anyway.
  have hstay : ∀ root, tree.follow root (pieces '/' path.toList) = some place →
      tree.follow root [[]] = some root := by
    intro root hroot
    simp [follow, isDirectoryAt_of_follow hne hroot]
  by_cases hdir : dir = ""
  · rw [hdir, join_empty] at hplace
    refine ⟨_, ?_, hplace⟩
    rw [hdir]
    exact hstay _ hplace
  · rcases toList_join hdir hpath with ⟨front, hfront, hjoin⟩ | hjoin
    · rw [hjoin, pieces_mark, follow_append, Option.bind_eq_some_iff] at hplace
      obtain ⟨root, hroot, hrest⟩ := hplace
      refine ⟨root, ?_, hrest⟩
      rw [reach?, hfront, pieces_mark, follow_append, hroot]
      exact hstay root hrest
    · rw [hjoin, pieces_mark, follow_append, Option.bind_eq_some_iff] at hplace
      exact hplace

/-- A relative path without two points leads below the place it is joined to. -/
theorem exists_prefix_of_join {dir path : String} {place : Location}
    (hpath : isAbsolute path = false) (hdots : ".." ∉ parts path)
    (hplace : tree.resolve? base (join dir path) = some place) :
    ∃ root, tree.reach? base dir = some root ∧ root <+: place := by
  obtain ⟨root, hroot, hrest⟩ := exists_reach?_of_join hpath (reach?_of_resolve? hplace)
  exact ⟨root, hroot, prefix_of_follow hrest (dots_not_mem_pieces hdots)⟩

end Counterpart.FileTree
