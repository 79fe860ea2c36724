import SecurityCompliance.Generator.Paths

/-!
# What every run of the generator leaves

`main` writes three kinds of files for a table `T`: `tests/mod.rs`, one `mod.rs` per category
and one file per test, its `Target`s. The result this file exists for is
`files_main_iterate`, the contents of every target after any number of runs from a working
directory without `tests/`. It needs only that different targets have different paths and
that no target's path is a directory `main` makes (`DistinctPaths`). Both hold for any table
whose names hold no `/` and no test called `mod`, as in `TEST_CATEGORIES`.

The contents show which files a further run leaves as they are and which it grows:

* `tests/mod.rs` is written whole by every run, so it holds one `mod` line per category
  after each run.
* A test's file is written only when it is missing, so it keeps its template.
* A category's `mod.rs` is not so. Its first call writes the `mod` lines of all the
  category's tests. Every later call, in that run and in every later one, appends the line
  of its own test. So from the first run on, every test but the first is declared twice.
  Every further run appends each test's line once more.

The proof goes from one call to a run. `get?_createTestFile_modPath` and
`get?_createTestFile_testFilePath` say what one `create_test_file` call does to its two
files. The frame lemmas (`get?_createTestFile_of_ne` and the loop versions) say that it
touches nothing else. `modAfter` follows one `mod.rs` through the calls of a category. Every
call keeps the directories among those `main` makes (`DirsMade`), which is how
`DistinctPaths` keeps every target's path free of directories throughout.
-/

namespace SecurityCompliance

namespace TestGenerator

open WorkTree

/-- Every directory of the tree is one `main` makes for `T`. -/
def DirsMade (T : Categories) (w : WorkTree) : Prop := ∀ d ∈ w.dirs, d ∈ madeDirs T

variable {T : Categories}

/-! ## One call of `create_test_file` -/

section Call

variable {w : WorkTree} {c t q : String}

/-- A call writes only its category's `mod.rs` and its test's file. -/
lemma get?_createTestFile_of_ne (hm : q ≠ modPath c) (ht : q ≠ testFilePath c t) :
    (createTestFile T w c t).files.get? q = w.files.get? q := by
  rw [createTestFile, get?_createNew_of_ne ht, get?_appendOrCreate_of_ne hm, files_ensureDir]

lemma dirsMade_createTestFile {e : String × List String} (he : e ∈ T.entries)
    (hw : DirsMade T w) : DirsMade T (createTestFile T w e.1 t) := by
  intro d hd
  rw [createTestFile, dirs_createNew, dirs_appendOrCreate] at hd
  rcases mem_dirs_ensureDir hd with hd | rfl
  · exact hw d hd
  · exact categoryDir_mem_madeDirs he

variable (hT : DistinctPaths T) {e : String × List String} (he : e ∈ T.entries)
  (hw : DirsMade T w)
include hT he hw

/-- A target's path stays free of directories through the category's directory step. -/
lemma not_mem_dirs_ensureDir {a : Target} (ha : a ∈ targets T) :
    a.path ∉ (w.ensureDir (categoryDir e.1)).dirs := fun hd => by
  rcases mem_dirs_ensureDir hd with hd | hd
  · exact hT.not_dir a ha (hw _ hd)
  · exact hT.not_dir a ha (hd ▸ categoryDir_mem_madeDirs he)

/-- **One call on its `mod.rs`.** The call appends its test's line to an existing `mod.rs`
and creates a missing one with the lines of all the category's tests. -/
lemma get?_createTestFile_modPath (ht : t ∈ e.2) :
    (createTestFile T w e.1 t).files.get? (modPath e.1) =
      some (((w.files.get? (modPath e.1)).map (· ++ appendedLine t)).getD (modContents T e.1)) := by
  have hne : modPath e.1 ≠ testFilePath e.1 t :=
    hT.path_ne (categoryMod_mem_targets he) (testFile_mem_targets he ht) (by simp)
  have hd : modPath e.1 ∉ (w.ensureDir (categoryDir e.1)).dirs :=
    not_mem_dirs_ensureDir hT he hw (categoryMod_mem_targets he)
  rw [createTestFile, get?_createNew_of_ne hne, get?_appendOrCreate hd, if_pos rfl,
    files_ensureDir]

/-- **One call on its test's file.** The call creates the file from the template when it is
missing and leaves it otherwise. -/
lemma get?_createTestFile_testFilePath (ht : t ∈ e.2) :
    (createTestFile T w e.1 t).files.get? (testFilePath e.1 t) =
      some ((w.files.get? (testFilePath e.1 t)).getD (testContents e.1 t)) := by
  have hne : testFilePath e.1 t ≠ modPath e.1 :=
    hT.path_ne (testFile_mem_targets he ht) (categoryMod_mem_targets he) (by simp)
  have hd : (testFilePath e.1 t) ∉
      ((w.ensureDir (categoryDir e.1)).appendOrCreate (modPath e.1) (appendedLine t)
        (modContents T e.1)).dirs := by
    rw [dirs_appendOrCreate]
    exact not_mem_dirs_ensureDir hT he hw (testFile_mem_targets he ht)
  rw [createTestFile, get?_createNew hd, if_pos rfl, get?_appendOrCreate_of_ne hne,
    files_ensureDir]

end Call

/-! ## The calls for one category -/

/-- `String.join` is the fold of `++` from the empty string. -/
lemma foldl_append_eq_append_join (r : String) (l : List String) :
    l.foldl (fun r s => r ++ s) r = r ++ String.join l := by
  induction l generalizing r with
  | nil => simp [String.join]
  | cons b l ih =>
    simp only [List.foldl_cons, ih (r ++ b), String.join, ih ("" ++ b), String.append_assoc]
    rfl

lemma join_cons (a : String) (l : List String) : String.join (a :: l) = a ++ String.join l :=
  foldl_append_eq_append_join a l

lemma join_append (l₁ l₂ : List String) :
    String.join (l₁ ++ l₂) = String.join l₁ ++ String.join l₂ := by
  rw [String.join, List.foldl_append, foldl_append_eq_append_join]
  rfl

/-- What a category's `mod.rs` holds after the calls for `tests`, from what it held before. -/
def modAfter (T : Categories) (category : String) : Option String → List String → Option String
  | o, [] => o
  | o, t :: ts =>
    modAfter T category (some ((o.map (· ++ appendedLine t)).getD (modContents T category))) ts

/-- From an existing `mod.rs`, every call appends its test's line. -/
lemma modAfter_some (c : String) :
    ∀ (X : String) (ts : List String),
      modAfter T c (some X) ts = some (X ++ String.join (ts.map appendedLine))
  | X, [] => by simp [modAfter, String.join]
  | X, t :: ts => by
    rw [modAfter, Option.map_some', Option.getD_some, modAfter_some, List.map_cons, join_cons,
      String.append_assoc]

section Category

variable {e : String × List String}

lemma get?_createCategoryFiles_of_ne {q : String} :
    ∀ {w : WorkTree} (us : List String), q ≠ modPath e.1 → (∀ t ∈ us, q ≠ testFilePath e.1 t) →
      (createCategoryFiles T w e.1 us).files.get? q = w.files.get? q
  | _, [], _, _ => rfl
  | _, u :: us, hm, ht => by
    rw [createCategoryFiles, List.foldl_cons, ← createCategoryFiles,
      get?_createCategoryFiles_of_ne us hm fun t h => ht t (List.mem_cons_of_mem _ h),
      get?_createTestFile_of_ne hm (ht u (List.mem_cons_self _ _))]

lemma dirsMade_createCategoryFiles (he : e ∈ T.entries) :
    ∀ {w : WorkTree} (us : List String), DirsMade T w → DirsMade T (createCategoryFiles T w e.1 us)
  | _, [], hw => hw
  | _, _ :: us, hw => dirsMade_createCategoryFiles he us (dirsMade_createTestFile he hw)

variable (hT : DistinctPaths T) (he : e ∈ T.entries)
include hT he

/-- **The calls of a category on its `mod.rs`.** -/
lemma get?_createCategoryFiles_modPath :
    ∀ {w : WorkTree} (us : List String), DirsMade T w → (∀ t ∈ us, t ∈ e.2) →
      (createCategoryFiles T w e.1 us).files.get? (modPath e.1) =
        modAfter T e.1 (w.files.get? (modPath e.1)) us
  | _, [], _, _ => rfl
  | _, u :: us, hw, hus => by
    rw [createCategoryFiles, List.foldl_cons, ← createCategoryFiles,
      get?_createCategoryFiles_modPath us (dirsMade_createTestFile he hw)
        fun t h => hus t (List.mem_cons_of_mem _ h),
      get?_createTestFile_modPath hT he hw (hus u (List.mem_cons_self _ _)), modAfter]

/-- **The calls of a category on a test's file.** The first call for the test creates it when
it is missing; nothing else touches it. -/
lemma get?_createCategoryFiles_testFilePath {t : String} (ht : t ∈ e.2) :
    ∀ {w : WorkTree} (us : List String), DirsMade T w → (∀ u ∈ us, u ∈ e.2) →
      (createCategoryFiles T w e.1 us).files.get? (testFilePath e.1 t) =
        if t ∈ us then some ((w.files.get? (testFilePath e.1 t)).getD (testContents e.1 t))
        else w.files.get? (testFilePath e.1 t)
  | _, [], _, _ => by simp [createCategoryFiles]
  | w, u :: us, hw, hus => by
    have hu := hus u (List.mem_cons_self _ _)
    rw [createCategoryFiles, List.foldl_cons, ← createCategoryFiles,
      get?_createCategoryFiles_testFilePath ht us (dirsMade_createTestFile he hw)
        fun t h => hus t (List.mem_cons_of_mem _ h)]
    by_cases htu : t = u
    · subst htu
      simp [get?_createTestFile_testFilePath hT he hw ht]
    · have hne : testFilePath e.1 t ≠ testFilePath e.1 u :=
        hT.path_ne (testFile_mem_targets he ht) (testFile_mem_targets he hu) (by simp [htu])
      have hm : testFilePath e.1 t ≠ modPath e.1 :=
        hT.path_ne (testFile_mem_targets he ht) (categoryMod_mem_targets he) (by simp)
      simp [get?_createTestFile_of_ne hm hne, htu]

end Category

/-! ## The loop of `main` over the categories -/

lemma get?_foldl_of_ne {q : String} :
    ∀ {w : WorkTree} (l : List (String × List String)),
      (∀ e ∈ l, q ≠ modPath e.1 ∧ ∀ t ∈ e.2, q ≠ testFilePath e.1 t) →
      (l.foldl (fun w e => createCategoryFiles T w e.1 e.2) w).files.get? q = w.files.get? q
  | _, [], _ => rfl
  | _, e :: l, h => by
    obtain ⟨hm, ht⟩ := h e (List.mem_cons_self _ _)
    rw [List.foldl_cons, get?_foldl_of_ne l fun e' he' => h e' (List.mem_cons_of_mem _ he'),
      get?_createCategoryFiles_of_ne _ hm ht]

lemma dirsMade_foldl :
    ∀ {w : WorkTree} (l : List (String × List String)), (∀ e ∈ l, e ∈ T.entries) →
      DirsMade T w → DirsMade T (l.foldl (fun w e => createCategoryFiles T w e.1 e.2) w)
  | _, [], _, hw => hw
  | _, e :: l, hl, hw => dirsMade_foldl l (fun e' h => hl e' (List.mem_cons_of_mem _ h))
      (dirsMade_createCategoryFiles (hl e (List.mem_cons_self _ _)) _ hw)

/-- The categories around `e` in the table have other names. -/
lemma exists_entries_eq_append {e : String × List String} (he : e ∈ T.entries) :
    ∃ pre post, T.entries = pre ++ e :: post ∧ ∀ e' ∈ pre ++ post, e' ∈ T.entries ∧ e'.1 ≠ e.1 := by
  obtain ⟨pre, post, h⟩ := List.append_of_mem he
  have hn := T.nodup_keys
  rw [h, List.map_append, List.map_cons, List.nodup_middle, List.nodup_cons, ← List.map_append]
    at hn
  refine ⟨pre, post, h, fun e' he' => ⟨?_, fun hk => hn.1 (hk ▸ List.mem_map_of_mem _ he')⟩⟩
  rw [h]
  rcases List.mem_append.1 he' with h' | h'
  · exact List.mem_append_left _ h'
  · exact List.mem_append_right _ (List.mem_cons_of_mem _ h')

variable (hT : DistinctPaths T) {e : String × List String} (he : e ∈ T.entries)
include hT he

omit he in
/-- Another category's calls never write a target of `e`'s category. -/
lemma path_ne_of_category_ne {a : Target} (ha : a ∈ targets T) (hc : a.category = some e.1)
    {e' : String × List String} (he' : e' ∈ T.entries) (hne : e'.1 ≠ e.1) :
    a.path ≠ modPath e'.1 ∧ ∀ t ∈ e'.2, a.path ≠ testFilePath e'.1 t :=
  ⟨hT.path_ne ha (categoryMod_mem_targets he') (by rintro rfl; exact hne (Option.some.inj hc)),
    fun _ ht => hT.path_ne ha (testFile_mem_targets he' ht)
      (by rintro rfl; exact hne (Option.some.inj hc))⟩

/-- **The category loop on a target of `e`'s category.** Only the calls of `e` touch it, and
they run on a tree whose directories `main` makes and which holds what the loop started from
at the target's path. -/
lemma get?_foldl_eq_createCategoryFiles {a : Target} (ha : a ∈ targets T)
    (hc : a.category = some e.1) {w : WorkTree} (hw : DirsMade T w) :
    ∃ w', DirsMade T w' ∧ w'.files.get? a.path = w.files.get? a.path ∧
      (T.entries.foldl (fun w e => createCategoryFiles T w e.1 e.2) w).files.get? a.path =
        (createCategoryFiles T w' e.1 e.2).files.get? a.path := by
  obtain ⟨pre, post, hsplit, hother⟩ := exists_entries_eq_append he
  have hframe : ∀ e' ∈ pre ++ post,
      a.path ≠ modPath e'.1 ∧ ∀ t ∈ e'.2, a.path ≠ testFilePath e'.1 t :=
    fun e' h => path_ne_of_category_ne hT ha hc (hother e' h).1 (hother e' h).2
  refine ⟨_, dirsMade_foldl pre (fun e' h => (hother e' (List.mem_append_left _ h)).1) hw,
    get?_foldl_of_ne pre fun e' h => hframe e' (List.mem_append_left _ h), ?_⟩
  rw [hsplit, List.foldl_append, List.foldl_cons,
    get?_foldl_of_ne post fun e' h => hframe e' (List.mem_append_right _ h)]

/-- **The category loop on a category's `mod.rs`**: the category's calls, one after another. -/
lemma get?_foldl_modPath {w : WorkTree} (hw : DirsMade T w) :
    (T.entries.foldl (fun w e => createCategoryFiles T w e.1 e.2) w).files.get? (modPath e.1) =
      modAfter T e.1 (w.files.get? (modPath e.1)) e.2 := by
  obtain ⟨w', hw', hpre, hfold⟩ :=
    get?_foldl_eq_createCategoryFiles hT he (categoryMod_mem_targets he) rfl hw
  simp only [Target.path] at hpre hfold
  rw [hfold, get?_createCategoryFiles_modPath hT he _ hw' fun _ ht => ht, hpre]

/-- **The category loop on a test's file**: created when missing, never touched again. -/
lemma get?_foldl_testFilePath {w : WorkTree} (hw : DirsMade T w) {t : String} (ht : t ∈ e.2) :
    (T.entries.foldl (fun w e => createCategoryFiles T w e.1 e.2) w).files.get?
        (testFilePath e.1 t) =
      some ((w.files.get? (testFilePath e.1 t)).getD (testContents e.1 t)) := by
  obtain ⟨w', hw', hpre, hfold⟩ :=
    get?_foldl_eq_createCategoryFiles hT he (testFile_mem_targets he ht) rfl hw
  simp only [Target.path] at hpre hfold
  rw [hfold, get?_createCategoryFiles_testFilePath hT he ht _ hw' fun _ hu => hu, if_pos ht, hpre]

/-! ## Runs of `main` -/

omit hT he in
lemma dirsMade_createTestDirectory {w : WorkTree} (hw : DirsMade T w) :
    DirsMade T (createTestDirectory w) := fun d hd =>
  (mem_dirs_ensureDir hd).elim (hw d) fun h => h ▸ List.mem_cons_self _ _

omit hT he in
lemma dirsMade_main {w : WorkTree} (hw : DirsMade T w) : DirsMade T (main T w) :=
  dirsMade_foldl T.entries (fun _ h => h) (dirsMade_createTestDirectory hw)

omit hT he in
/-- Every run writes `tests/mod.rs` whole. -/
lemma get?_main_mainPath (w : WorkTree) :
    (main T w).files.get? "tests/mod.rs" = some (mainContents T) := by
  rw [main, createMainTestFile, get?_write, if_pos rfl]

variable {w : WorkTree} (hw : DirsMade T w)
include hw

/-- **A run on a category's `mod.rs`**: the category's calls, one after another. -/
lemma get?_main_modPath :
    (main T w).files.get? (modPath e.1) = modAfter T e.1 (w.files.get? (modPath e.1)) e.2 := by
  have hne : modPath e.1 ≠ "tests/mod.rs" :=
    hT.path_ne (categoryMod_mem_targets he) (List.mem_cons_self _ _) (by simp)
  rw [main, createMainTestFile, get?_write, if_neg hne,
    get?_foldl_modPath hT he (dirsMade_createTestDirectory hw), createTestDirectory,
    files_ensureDir]

/-- **A run on a test's file**: created when missing, kept otherwise. -/
lemma get?_main_testFilePath {t : String} (ht : t ∈ e.2) :
    (main T w).files.get? (testFilePath e.1 t) =
      some ((w.files.get? (testFilePath e.1 t)).getD (testContents e.1 t)) := by
  have hne : testFilePath e.1 t ≠ "tests/mod.rs" :=
    hT.path_ne (testFile_mem_targets he ht) (List.mem_cons_self _ _) (by simp)
  rw [main, createMainTestFile, get?_write, if_neg hne,
    get?_foldl_testFilePath hT he (dirsMade_createTestDirectory hw) ht, createTestDirectory,
    files_ensureDir]

omit hT he hw

/-! ## Every run from a working directory without `tests/` -/

lemma dirsMade_iterate (n : ℕ) : DirsMade T ((main T)^[n] WorkTree.empty) := by
  induction n with
  | zero => exact fun d hd => absurd hd (List.not_mem_nil d)
  | succ n ih => rw [Function.iterate_succ_apply']; exact dirsMade_main ih

/-- **Every run of the generator.** After `k + 1` runs of `main` from a working directory
without `tests/`, `tests/mod.rs` holds a `mod` line for each category and each test's file
holds its template. A category's `mod.rs` holds the `mod` lines of all its tests, then an
appended line for each test but the first, then the appended lines of all its tests once for
each of the `k` later runs. A category without tests has no `mod.rs`. -/
theorem files_main_iterate (hT : DistinctPaths T) (k : ℕ) :
    ((main T)^[k + 1] WorkTree.empty).files.get? "tests/mod.rs" = some (mainContents T) ∧
    ∀ e ∈ T.entries,
      ((main T)^[k + 1] WorkTree.empty).files.get? (modPath e.1) =
        (if e.2 = [] then none else
          some (modContents T e.1 ++ String.join (e.2.tail.map appendedLine) ++
            String.join (List.replicate k (String.join (e.2.map appendedLine))))) ∧
      ∀ t ∈ e.2, ((main T)^[k + 1] WorkTree.empty).files.get? (testFilePath e.1 t) =
        some (testContents e.1 t) := by
  refine ⟨by rw [Function.iterate_succ_apply']; exact get?_main_mainPath _, fun e he => ?_⟩
  induction k with
  | zero =>
    have hw : DirsMade T WorkTree.empty := dirsMade_iterate 0
    refine ⟨?_, fun t ht => get?_main_testFilePath hT he hw ht⟩
    rw [Function.iterate_one, get?_main_modPath hT he hw]
    obtain ⟨c, _ | ⟨t, ts⟩⟩ := e
    · rfl
    · simp [modAfter, modAfter_some, String.join, get?_empty]
  | succ k ih =>
    have hw := dirsMade_iterate (T := T) (k + 1)
    rw [Function.iterate_succ_apply']
    refine ⟨?_, fun t ht => ?_⟩
    · rw [get?_main_modPath hT he hw, ih.1]
      split_ifs with h
      · rw [h]; rfl
      · rw [modAfter_some, List.replicate_succ', join_append, join_cons,
          show String.join [] = "" from rfl, String.append_empty, String.append_assoc]
    · rw [get?_main_testFilePath hT he hw ht, ih.2 t ht, Option.getD_some]

/-- **The generator is not idempotent.** Every run after the first grows the `mod.rs` of each
category that has tests. -/
theorem modPath_main_iterate_ne (hT : DistinctPaths T) (k : ℕ) {e : String × List String}
    (he : e ∈ T.entries) (hne : e.2 ≠ []) :
    ((main T)^[k + 2] WorkTree.empty).files.get? (modPath e.1) ≠
      ((main T)^[k + 1] WorkTree.empty).files.get? (modPath e.1) := by
  have hw := dirsMade_iterate (T := T) (k + 1)
  obtain ⟨X, hX⟩ : ∃ X, ((main T)^[k + 1] WorkTree.empty).files.get? (modPath e.1) = some X :=
    ⟨_, ((files_main_iterate hT k).2 e he).1.trans (if_neg hne)⟩
  obtain ⟨t, ts, hts⟩ := List.exists_cons_of_ne_nil hne
  rw [Function.iterate_succ_apply', get?_main_modPath hT he hw, hX, modAfter_some, hts,
    List.map_cons, join_cons, Ne, Option.some.injEq]
  intro h
  have := congrArg String.length h
  simp [appendedLine] at this
  exact absurd this.1.1.1 (by decide)

theorem modPath_main_iterate_ne_happy_path :
    let e := ("happy_path", ["main_success_path", "typical_user_journey",
      "standard_input_processing"])
    DistinctPaths testCategories ∧ e ∈ testCategories.entries ∧ e.2 ≠ [] ∧
      ((main testCategories)^[0 + 2] WorkTree.empty).files.get? (modPath e.1) ≠
        ((main testCategories)^[0 + 1] WorkTree.empty).files.get? (modPath e.1) :=
  ⟨plainNames_testCategories.distinctPaths, List.mem_cons_self _ _, List.cons_ne_nil _ _,
    modPath_main_iterate_ne plainNames_testCategories.distinctPaths 0 (List.mem_cons_self _ _)
      (List.cons_ne_nil _ _)⟩

/-! ## The shipped table -/

/-- **The script as shipped.** From a working directory without `tests/`, after `k + 1` runs
the `mod.rs` of `happy_path` declares its second and third tests twice, followed by the lines
of all three tests once more for each run after the first. -/
theorem main_iterate_happy_path_mod (k : ℕ) :
    ((main testCategories)^[k + 1] WorkTree.empty).files.get? "tests/happy_path/mod.rs" =
      some ("//! Happy Path Tests\n\nmod main_success_path;\nmod typical_user_journey;\n" ++
        "mod standard_input_processing;\n" ++
        "\nmod typical_user_journey;\n\nmod standard_input_processing;\n" ++
        String.join (List.replicate k ("\nmod main_success_path;\n" ++
          "\nmod typical_user_journey;\n\nmod standard_input_processing;\n"))) := by
  have h := ((files_main_iterate plainNames_testCategories.distinctPaths k).2 _
    (List.mem_cons_self _ _)).1
  rw [if_neg (by decide)] at h
  exact h

end TestGenerator

end SecurityCompliance
