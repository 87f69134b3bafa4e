/-
What the image checker reports.

`EndsIn` says which paths have an unwanted extension, `Reports` what the findings of a change set are: the paths that
changes lead to, in order, one for each change of the set.

Results:
- `reports_images`: a path is reported if and only if a change leads to it and it ends in an extension, and as often as
  different changes lead to it; so none is reported twice if and only if no two changes lead to one such path;
- `modified_added_twice`: a file that is new in one listing and modified in another one is reported twice.
-/
import ChangeLint.Checker.Image
import ChangeLint.Proofs.Act
import ChangeLint.Proofs.Change.Listing
import ChangeLint.Proofs.OrderedSet

namespace ChangeLint.Checker.Image

/-- a path ends in one of the extensions, upper and lower case being the same -/
def EndsIn (extensions : List String) (path : String) : Prop :=
  ∃ e ∈ extensions, (Text.lower e).toList <:+ (Text.lower path).toList

/-- two changes lead to one path that ends in an extension -/
def Meet (extensions : List String) (c c' : FileChange) : Prop :=
  ∃ path, EndsIn extensions path ∧ c.current? = some path ∧ c'.current? = some path

/-- the paths that are reported of the set of the changes in a list -/
structure Reports (extensions : List String) (changes : List FileChange) (paths : List String) : Prop where
  sorted : paths.Pairwise (· ≤ ·)
  mem_iff : ∀ path, path ∈ paths ↔ EndsIn extensions path ∧ ∃ c ∈ changes, c.current? = some path
  /-- one finding for each change that leads to the path -/
  count : ∀ path, EndsIn extensions path → paths.count path = changes.dedup.countP fun c => c.current? = some path
  /-- none is reported twice if no two different changes meet, and only then -/
  once : paths.Nodup ↔ ∀ c ∈ changes, ∀ c' ∈ changes, Meet extensions c c' → c = c'

variable {extensions : List String} {changes : List FileChange} {diffs : List FileDiff} {path : String}

instance : Std.Symm fun c c' => ¬ Meet extensions c c' :=
  ⟨fun _ _ h ⟨path, hpath, hc, hc'⟩ => h ⟨path, hpath, hc', hc⟩⟩

theorem matchesExtension_iff : matchesExtension extensions path = true ↔ EndsIn extensions path := by
  simp only [matchesExtension, List.any_eq_true, List.isSuffixOf_iff_suffix, EndsIn]

/-- the paths that are reported -/
def reported (extensions : List String) (changes : List FileChange) : List String :=
  (ChangeSet.ofList changes).currentPaths.filter (matchesExtension extensions)

theorem result_checker :
    ((checker extensions).run ⟨ChangeSet.ofList changes, diffs⟩).result =
      .ok ((reported extensions changes).map finding) := rfl

theorem sorted_currentPaths (c : ChangeSet) : c.currentPaths.Pairwise (· ≤ ·) := by
  have h := @List.pairwise_mergeSort String (fun a b => a ≤ b)
    (fun a b c hab hbc => by simpa using le_trans (of_decide_eq_true hab) (of_decide_eq_true hbc))
    (fun a b => by simpa using le_total a b) (c.members.filterMap FileChange.current?)
  exact h.imp of_decide_eq_true

theorem mem_reported : path ∈ reported extensions changes ↔ EndsIn extensions path ∧ ∃ c ∈ changes, c.current? = some path := by
  rw [reported, List.mem_filter, matchesExtension_iff, ChangeSet.currentPaths, List.mem_mergeSort, List.mem_filterMap,
    and_comm]
  exact and_congr_right fun _ => exists_congr fun c => and_congr_left fun _ => ChangeSet.mem_ofList

theorem count_reported (h : EndsIn extensions path) :
    (reported extensions changes).count path = changes.dedup.countP fun c => c.current? = some path := by
  calc (reported extensions changes).count path
      = (ChangeSet.ofList changes).currentPaths.count path := List.count_filter (matchesExtension_iff.2 h)
    _ = ((ChangeSet.ofList changes).members.filterMap FileChange.current?).count path :=
        (List.mergeSort_perm _ _).count_eq path
    _ = (ChangeSet.ofList changes).members.countP fun c => c.current? = some path := by
        rw [List.count_filterMap]
        exact List.countP_congr fun c _ => by simp
    _ = changes.dedup.countP fun c => c.current? = some path := (ChangeSet.members_ofList_perm changes).countP_eq _

/-- the paths that are reported, in the order of the changes -/
theorem reported_perm : (reported extensions changes).Perm
    (((ChangeSet.ofList changes).members.filterMap FileChange.current?).filter (matchesExtension extensions)) :=
  (List.mergeSort_perm _ _).filter _

theorem nodup_reported_iff_pairwise : (reported extensions changes).Nodup ↔
    (ChangeSet.ofList changes).members.Pairwise fun c c' => ¬ Meet extensions c c' := by
  rw [reported_perm.nodup_iff, List.Nodup, List.pairwise_filter, List.pairwise_filterMap]
  refine iff_of_eq (congrArg (List.Pairwise · _) (funext₂ fun c c' => propext ?_))
  simp only [Meet, matchesExtension_iff]
  constructor
  · rintro h ⟨path, hpath, hc, hc'⟩
    exact h path hc path hc' hpath hpath rfl
  · intro h path hc path' hc' hpath _ he
    exact h ⟨path, hpath, hc, he ▸ hc'⟩

theorem nodup_reported :
    (reported extensions changes).Nodup ↔ ∀ c ∈ changes, ∀ c' ∈ changes, Meet extensions c c' → c = c' := by
  rw [nodup_reported_iff_pairwise]
  constructor
  · intro h c hc c' hc' hmeet
    by_contra hne
    exact h.forall (ChangeSet.mem_ofList.2 hc) (ChangeSet.mem_ofList.2 hc') hne hmeet
  · intro h
    refine (ChangeSet.nodup_ofList changes).pairwise_of_forall_ne fun c hc c' hc' hne hmeet => hne ?_
    exact h c (ChangeSet.mem_ofList.1 hc) c' (ChangeSet.mem_ofList.1 hc') hmeet

/-- **Images are reported**, one finding for each change that leads to one -/
theorem reports_images (extensions : List String) (changes : List FileChange) (diffs : List FileDiff) :
    ∃ paths, ((checker extensions).run ⟨ChangeSet.ofList changes, diffs⟩).result = .ok (paths.map finding) ∧
      Reports extensions changes paths :=
  ⟨reported extensions changes, result_checker, (sorted_currentPaths _).filter _, fun _ => mem_reported,
    fun _ h => count_reported h, nodup_reported⟩

/-- what is staged: a file with new content -/
def staged : List Status.Row := [.modified "a.jpg".toList]

/-- what the commits tell: the same file is new -/
def branch : List Status.Row := [.added "a.jpg".toList]

/-- the framed listing of rows -/
def listed (rows : List Status.Row) : String := Status.frame (String.ofList (Status.wire rows))

/-- **A path twice.** A set of changes from two listings tells of the file twice, and so does the checker. -/
theorem modified_added_twice :
    Status.resolveAll [listed staged, listed branch] = ChangeSet.ofList [.modified "a.jpg", .added "a.jpg"] ∧
      ((checker [".jpg", ".jpeg"]).run ⟨Status.resolveAll [listed staged, listed branch], []⟩).result =
        .ok [finding "a.jpg", finding "a.jpg"] := by
  have hset : Status.resolveAll [listed staged, listed branch] = ChangeSet.ofList [.modified "a.jpg", .added "a.jpg"] := by
    rw [Status.resolveAll, List.flatMap_cons, List.flatMap_singleton, listed, listed,
      Status.changes_frame_wire (by decide), Status.changes_frame_wire (by decide)]
    rfl
  refine ⟨hset, ?_⟩
  have hreported : reported [".jpg", ".jpeg"] [.modified "a.jpg", .added "a.jpg"] = List.replicate 2 "a.jpg" := by
    refine List.perm_replicate.1 (reported_perm.trans (.of_eq ?_))
    decide
  rw [hset, result_checker, hreported]
  rfl

end ChangeLint.Checker.Image
