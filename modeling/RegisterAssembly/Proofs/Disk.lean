import RegisterAssembly.Disk
import RegisterAssembly.Proofs.Splitting

/-!
# Normal forms of paths on a disk

A command looks for a file under the path that it was given and reads it under the normal form of
that path.  A disk on which both lead to the same file is said to keep its files.  Every directory
in memory does: names that normal forms leave out do not lead anywhere, and nothing can follow the
name of a file.
-/

namespace RegisterAssembly

/-- Disks on which a file is found under the normal form of its path as well. -/
def Disk.KeepsFiles (disk : Disk) : Prop :=
  ∀ path bytes, disk.find path = .file bytes → disk.find (FilePath.normal path) = .file bytes

/-! ## Names of a path -/

theorem utf8ByteSize_le_of_sublist {left right : String}
    (sublist : left.toList.Sublist right.toList) : left.utf8ByteSize ≤ right.utf8ByteSize := by
  rw [← String.ofList_toList (s := left), ← String.ofList_toList (s := right)]
  generalize left.toList = front at sublist ⊢
  generalize right.toList = whole at sublist ⊢
  induction sublist with
  | slnil => exact Nat.le_refl _
  | cons c _ ih =>
      rw [String.ofList_cons, String.utf8ByteSize_append]
      omega
  | cons_cons c _ ih =>
      rw [String.ofList_cons, String.ofList_cons, String.utf8ByteSize_append,
        String.utf8ByteSize_append]
      omega

namespace FilePath

/-- The names that a normal form keeps. -/
def IsKept (name : String) : Bool :=
  name ≠ "" && name ≠ "."

theorem normal_eq (path : String) :
    normal path =
      if root path ++ "/".intercalate ((names path).filter IsKept) = "" then "."
      else root path ++ "/".intercalate ((names path).filter IsKept) := rfl

theorem slash_not_mem_of_mem_names {path name : String} (member : name ∈ names path) :
    '/' ∉ name.toList := by
  obtain ⟨part, among, rfl⟩ := List.mem_map.mp member
  rw [String.toList_ofList]
  exact Text.not_mem_of_mem_splitOn among

theorem names_intercalate {parts : List String} (nonempty : parts ≠ [])
    (clean : ∀ part ∈ parts, '/' ∉ part.toList) : names ("/".intercalate parts) = parts := by
  have split : Text.splitOn '/' ("/".intercalate parts).toList = parts.map String.toList := by
    rw [String.toList_intercalate]
    apply Text.splitOn_intercalate
    · simpa using nonempty
    · simpa using clean
  rw [names, split, List.map_map]
  exact (List.map_congr_left fun part _ => String.ofList_toList).trans (List.map_id _)

theorem intercalate_names (path : String) : "/".intercalate (names path) = path := by
  rw [← String.toList_inj, String.toList_intercalate, names, List.map_map]
  have parts : (Text.splitOn '/' path.toList).map (String.toList ∘ String.ofList) =
      Text.splitOn '/' path.toList :=
    (List.map_congr_left fun part _ => String.toList_ofList).trans (List.map_id _)
  rw [parts]
  exact Text.intercalate_splitOn '/' path.toList

/-- The normal form of a relative path has no characters that the path does not have. -/
theorem intercalate_filter_sublist (path : String) (keep : String → Bool) :
    ("/".intercalate ((names path).filter keep)).toList.Sublist path.toList := by
  have kept : ((names path).filter keep).Sublist (names path) := List.filter_sublist
  have sublist : (['/'].intercalate (((names path).filter keep).map String.toList)).Sublist
      (['/'].intercalate ((names path).map String.toList)) :=
    Text.intercalate_sublist (kept.map String.toList)
  have whole := congrArg String.toList (intercalate_names path)
  rw [String.toList_intercalate] at whole ⊢
  rw [← whole]
  exact sublist

theorem isAbsolute_eq_false_iff (path : String) :
    isAbsolute path = false ↔ path.toList.head? ≠ some '/' := by
  rw [isAbsolute, root]
  cases path.toList with
  | nil => simp
  | cons first rest =>
      by_cases slash : first = '/'
      · simp only [slash, decide_true, List.takeWhile_cons_of_pos]
        split <;> simp_all
      · simp [slash]

variable {parts : List String}

theorem head?_intercalate (nonempty : parts ≠ []) (kept : ∀ part ∈ parts, IsKept part)
    (clean : ∀ part ∈ parts, '/' ∉ part.toList) :
    ("/".intercalate parts).toList.head? ≠ none ∧
      ("/".intercalate parts).toList.head? ≠ some '/' := by
  obtain ⟨part, rest, rfl⟩ := List.exists_cons_of_ne_nil nonempty
  have first := Text.prefix_intercalate ['/'] part.toList (rest.map String.toList)
  obtain ⟨back, whole⟩ := first
  rw [List.forall_mem_cons] at kept clean
  have spelled : part.toList ≠ [] := by
    intro empty
    rw [String.toList_eq_nil_iff] at empty
    rw [empty] at kept
    cases kept.1
  obtain ⟨c, chars, text⟩ := List.exists_cons_of_ne_nil spelled
  have begins : ("/".intercalate (part :: rest)).toList.head? = some c := by
    rw [String.toList_intercalate, List.map_cons]
    change (['/'].intercalate _).head? = _
    rw [← whole, text]
    rfl
  rw [begins]
  refine ⟨by simp, ?_⟩
  rintro ⟨rfl⟩
  exact clean.1 (text ▸ List.mem_cons_self)

/-- The normal form of a relative path that has names to keep. -/
theorem normal_of_relative {path : String} (relative : isAbsolute path = false)
    (nonempty : (names path).filter IsKept ≠ []) :
    normal path = "/".intercalate ((names path).filter IsKept) := by
  have rootless : root path = "" := by simpa [isAbsolute] using relative
  have head := (head?_intercalate nonempty (fun part member => (List.mem_filter.mp member).2)
    fun part member => slash_not_mem_of_mem_names (List.mem_filter.mp member).1).1
  rw [normal_eq, rootless, String.empty_append, if_neg]
  intro empty
  rw [empty] at head
  exact head rfl

end FilePath

/-! ## Following names -/

namespace Directory

variable {directory : Directory} {bytes : List UInt8}

theorem foldl_follow_lost (found : Found) (names : List String) :
    names.foldl directory.follow (.lost found) = .lost found := by
  induction names with
  | nil => rfl
  | cons name names ih => exact ih

theorem foldl_follow_outside_ne (names : List String) :
    names.foldl directory.follow .outside ≠ .atFile bytes := by
  induction names with
  | nil => simp
  | cons name names ih =>
      rw [List.foldl_cons, follow]
      split
      · exact ih
      · split <;> simp [foldl_follow_lost]

/-- Nothing follows the name of a file. -/
theorem eq_nil_of_foldl_follow_atFile {names : List String} {contents : List UInt8}
    (reached : names.foldl directory.follow (.atFile contents) = .atFile bytes) : names = [] := by
  cases names with
  | nil => rfl
  | cons name names =>
      rw [List.foldl_cons, follow, foldl_follow_lost] at reached
      cases reached

theorem follow_inside_of_not_isKept {name : String} (dropped : FilePath.IsKept name = false)
    (folder : List String) : directory.follow (.inside folder) name = .inside folder := by
  rw [FilePath.IsKept, Bool.and_eq_false_iff] at dropped
  simp only [ne_eq, decide_not, Bool.not_eq_false', decide_eq_true_eq] at dropped
  rcases dropped with rfl | rfl <;> simp [follow, enter]

/-- A file is reached by the names that normal forms keep. -/
theorem foldl_follow_filter {names : List String} {standing : Standing}
    (reached : names.foldl directory.follow standing = .atFile bytes) :
    (names.filter FilePath.IsKept).foldl directory.follow standing = .atFile bytes := by
  induction names generalizing standing with
  | nil => exact reached
  | cons name names ih =>
      cases kept : FilePath.IsKept name with
      | true =>
          rw [List.filter_cons_of_pos kept]
          exact ih reached
      | false =>
          rw [List.filter_cons_of_neg (by simp [kept])]
          cases standing with
          | inside folder =>
              rw [List.foldl_cons, follow_inside_of_not_isKept kept] at reached
              exact ih reached
          | outside => exact absurd reached (foldl_follow_outside_ne _)
          | atFile contents =>
              have none := eq_nil_of_foldl_follow_atFile reached
              cases none
          | lost found =>
              rw [foldl_follow_lost] at reached
              cases reached

theorem follow_ne_lost_file {standing : Standing} (sound : standing ≠ .lost (.file bytes))
    (name : String) : directory.follow standing name ≠ .lost (.file bytes) := by
  cases standing with
  | inside folder =>
      simp only [follow]
      split
      · simp
      · split
        · simp
        · split
          · simp
          · split
            · simp
            · split <;> simp
  | outside =>
      simp only [follow]
      split
      · simp
      · split <;> simp
  | atFile contents => simp [follow]
  | lost found => exact sound

/-- A path that is lost does not lead to a file. -/
theorem foldl_follow_ne_lost_file {standing : Standing} (sound : standing ≠ .lost (.file bytes))
    (names : List String) : names.foldl directory.follow standing ≠ .lost (.file bytes) := by
  induction names generalizing standing with
  | nil => exact sound
  | cons name names ih => exact ih (follow_ne_lost_file sound name)

theorem found_eq_file_iff {standing : Standing} (sound : standing ≠ .lost (.file bytes)) :
    found standing = .file bytes ↔ standing = .atFile bytes := by
  cases standing with
  | lost found =>
      constructor
      · rintro rfl
        exact absurd rfl sound
      · intro file
        cases file
  | _ => simp [found]

/-- What it takes for a path to lead to a file: it is relative and short enough. -/
theorem find_eq_file_iff (path : String) :
    directory.toDisk.find path = .file bytes ↔
      '\x00' ∉ path.toList ∧ path ≠ "" ∧ path.utf8ByteSize ≤ pathMax ∧
        FilePath.isAbsolute path = false ∧
          (FilePath.names path).foldl directory.follow (.inside []) = .atFile bytes := by
  have led (standing : Standing) (start : standing ≠ .lost (.file bytes)) :
      found ((FilePath.names path).foldl directory.follow standing) = .file bytes ↔
        (FilePath.names path).foldl directory.follow standing = .atFile bytes :=
    found_eq_file_iff (foldl_follow_ne_lost_file start _)
  simp only [toDisk]
  split
  · simp [*]
  · split
    · simp [*]
    · split
      · simp only [reduceCtorEq, false_iff]
        omega
      · rename_i noNul nonempty short
        cases absolute : FilePath.isAbsolute path with
        | true =>
            rw [if_pos rfl, led _ (by simp)]
            simp [foldl_follow_outside_ne]
        | false =>
            rw [if_neg Bool.false_ne_true, led _ (by simp)]
            simp [noNul, nonempty, Nat.le_of_not_lt short]

/-- A directory in memory keeps its files. -/
theorem keepsFiles_toDisk (directory : Directory) : directory.toDisk.KeepsFiles := by
  intro path bytes found
  rw [find_eq_file_iff] at found
  obtain ⟨noNul, nonempty, short, relative, reached⟩ := found
  have kept := foldl_follow_filter reached
  have some_kept : (FilePath.names path).filter FilePath.IsKept ≠ [] := by
    intro none
    rw [none] at kept
    cases kept
  have clean : ∀ part ∈ (FilePath.names path).filter FilePath.IsKept, '/' ∉ part.toList :=
    fun part member => FilePath.slash_not_mem_of_mem_names (List.mem_filter.mp member).1
  have sublist := FilePath.intercalate_filter_sublist path FilePath.IsKept
  obtain ⟨head, relative'⟩ := FilePath.head?_intercalate some_kept
    (fun part member => (List.mem_filter.mp member).2) clean
  rw [FilePath.normal_of_relative relative some_kept, find_eq_file_iff,
    FilePath.isAbsolute_eq_false_iff, FilePath.names_intercalate some_kept clean]
  refine ⟨fun member => noNul (sublist.subset member), ?_,
    Nat.le_trans (utf8ByteSize_le_of_sublist sublist) short, relative', kept⟩
  intro empty
  rw [empty] at head
  exact head rfl

end Directory
end RegisterAssembly
