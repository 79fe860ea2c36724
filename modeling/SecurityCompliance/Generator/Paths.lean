import SecurityCompliance.Generator.TestFiles

/-!
# The paths the generator writes

`main` writes three kinds of files for a table `T`: `tests/mod.rs`, one `mod.rs` per category
and one file per test, its `Target`s. What a run does to each target, in
`Generator/Runs.lean`, follows from one property of the table: different targets have
different paths, and no target's path is a directory that `main` makes (`DistinctPaths`).

Paths are text, so `DistinctPaths` is a fact about how names are joined with `/`. It holds for
every table of plain names (`PlainNames.distinctPaths`). In such a table the category modules
hold no `/` and no `.` and are pairwise different, and the test names hold no `/` and none is
`mod`. The proof reads a path as `tests/` and a rest, and a rest as a name up to its first
`/` (`append_slash_inj`). `TEST_CATEGORIES` is such a table (`plainNames_testCategories`).
That check is cheap, while comparing its 138 paths pair by pair is not.
-/

namespace SecurityCompliance

namespace TestGenerator

/-! ## The files a table asks for -/

/-- A file `main` writes for a table. -/
inductive Target where
  | mainMod
  | categoryMod (category : String)
  | testFile (category testName : String)
deriving DecidableEq

/-- The path `main` writes a target at. -/
def Target.path : Target → String
  | .mainMod => "tests/mod.rs"
  | .categoryMod c => modPath c
  | .testFile c t => testFilePath c t

/-- The targets of a table. -/
def targets (T : Categories) : List Target :=
  .mainMod :: T.entries.flatMap fun e => .categoryMod e.1 :: e.2.map (.testFile e.1)

/-- The directories `main` makes for a table. -/
def madeDirs (T : Categories) : List String := "tests" :: T.keys.map categoryDir

/-- **The generator's paths do not collide.** Different targets of the table have different
paths, and no target's path is a directory that `main` makes. -/
structure DistinctPaths (T : Categories) : Prop where
  path_injective : ∀ a ∈ targets T, ∀ b ∈ targets T, a.path = b.path → a = b
  not_dir : ∀ a ∈ targets T, a.path ∉ madeDirs T

instance (T : Categories) : Decidable (DistinctPaths T) :=
  decidable_of_iff ((∀ a ∈ targets T, ∀ b ∈ targets T, a.path = b.path → a = b) ∧
      ∀ a ∈ targets T, a.path ∉ madeDirs T)
    ⟨fun h => ⟨h.1, h.2⟩, fun h => ⟨h.1, h.2⟩⟩

/-- The category a target belongs to. -/
def Target.category : Target → Option String
  | .mainMod => none
  | .categoryMod c => some c
  | .testFile c _ => some c

variable {T : Categories}

lemma categoryMod_mem_targets {e : String × List String} (he : e ∈ T.entries) :
    Target.categoryMod e.1 ∈ targets T :=
  List.mem_cons_of_mem _ (List.mem_flatMap.2 ⟨e, he, List.mem_cons_self _ _⟩)

lemma testFile_mem_targets {e : String × List String} (he : e ∈ T.entries) {t : String}
    (ht : t ∈ e.2) : Target.testFile e.1 t ∈ targets T :=
  List.mem_cons_of_mem _
    (List.mem_flatMap.2 ⟨e, he, List.mem_cons_of_mem _ (List.mem_map_of_mem _ ht)⟩)

lemma categoryDir_mem_madeDirs {e : String × List String} (he : e ∈ T.entries) :
    categoryDir e.1 ∈ madeDirs T :=
  List.mem_cons_of_mem _ (List.mem_map_of_mem _ (List.mem_map_of_mem _ he))

lemma DistinctPaths.path_ne (hT : DistinctPaths T) {a b : Target} (ha : a ∈ targets T)
    (hb : b ∈ targets T) (hab : a ≠ b) : a.path ≠ b.path :=
  fun h => hab (hT.path_injective a ha b hb h)

lemma mem_targets {a : Target} :
    a ∈ targets T ↔ a = .mainMod ∨
      ∃ e ∈ T.entries, a = .categoryMod e.1 ∨ ∃ t ∈ e.2, a = .testFile e.1 t := by
  simp [targets, @eq_comm _ _ a]

/-! ## Tables of plain names -/

/-- The part of a target's path after `tests/`. -/
def Target.rest : Target → List Char
  | .mainMod => "mod.rs".data
  | .categoryMod c => (categoryFile c).data ++ '/' :: "mod.rs".data
  | .testFile c t => (categoryFile c).data ++ '/' :: (t.data ++ ".rs".data)

lemma Target.data_path (a : Target) : a.path.data = "tests/".data ++ a.rest := by
  cases a <;> simp only [Target.path, Target.rest, modPath, testFilePath, categoryDir,
    String.data_append, List.append_assoc] <;> rfl

lemma Target.path_eq_iff {a b : Target} : a.path = b.path ↔ a.rest = b.rest := by
  rw [String.ext_iff, Target.data_path, Target.data_path]
  exact ⟨List.append_cancel_left, fun h => h ▸ rfl⟩

/-- A text is split at its first `/`. -/
lemma append_slash_inj {a a' b b' : List Char} (ha : '/' ∉ a) (ha' : '/' ∉ a')
    (h : a ++ '/' :: b = a' ++ '/' :: b') : a = a' ∧ b = b' := by
  induction a generalizing a' with
  | nil =>
    cases a' with
    | nil => simpa using h
    | cons y a' =>
      obtain ⟨rfl, -⟩ := List.cons.inj h
      exact absurd (List.mem_cons_self _ _) ha'
  | cons x a ih =>
    cases a' with
    | nil =>
      obtain ⟨rfl, -⟩ := List.cons.inj h
      exact absurd (List.mem_cons_self _ _) ha
    | cons y a' =>
      simp only [List.cons_append, List.cons.injEq] at h
      obtain ⟨rfl, h⟩ := h
      obtain ⟨rfl, rfl⟩ := ih (fun hm => ha (List.mem_cons_of_mem _ hm))
        (fun hm => ha' (List.mem_cons_of_mem _ hm)) h
      exact ⟨rfl, rfl⟩

/-- A text without `/` is none with one. -/
lemma ne_append_slash {x a b : List Char} (hx : '/' ∉ x) : x ≠ a ++ '/' :: b :=
  fun h => hx (h ▸ List.mem_append_right _ (List.mem_cons_self _ _))

/-- **Plain names.** The category modules of the table hold no `/` and no `.` and are
pairwise different; its test names hold no `/` and none is `mod`. -/
structure PlainNames (T : Categories) : Prop where
  categoryFile_plain : ∀ c ∈ T.keys, '/' ∉ (categoryFile c).data ∧ '.' ∉ (categoryFile c).data
  categoryFile_nodup : (T.keys.map categoryFile).Nodup
  testName_plain : ∀ e ∈ T.entries, ∀ t ∈ e.2, '/' ∉ t.data ∧ t ≠ "mod"

instance (T : Categories) : Decidable (PlainNames T) :=
  decidable_of_iff ((∀ c ∈ T.keys, '/' ∉ (categoryFile c).data ∧ '.' ∉ (categoryFile c).data) ∧
      (T.keys.map categoryFile).Nodup ∧ ∀ e ∈ T.entries, ∀ t ∈ e.2, '/' ∉ t.data ∧ t ≠ "mod")
    ⟨fun h => ⟨h.1, h.2.1, h.2.2⟩, fun h => ⟨h.1, h.2, h.3⟩⟩

section Plain

variable (hT : PlainNames T)
include hT

/-- Below the directories of two categories, equal paths name the same category and the
same rest. -/
lemma PlainNames.split {e e' : String × List String} (he : e ∈ T.entries)
    (he' : e' ∈ T.entries) {b b' : List Char}
    (h : (categoryFile e.1).data ++ '/' :: b = (categoryFile e'.1).data ++ '/' :: b') :
    e.1 = e'.1 ∧ b = b' :=
  have hs := append_slash_inj (hT.categoryFile_plain _ (List.mem_map_of_mem _ he)).1
    (hT.categoryFile_plain _ (List.mem_map_of_mem _ he')).1 h
  ⟨List.inj_on_of_nodup_map hT.categoryFile_nodup (List.mem_map_of_mem _ he)
    (List.mem_map_of_mem _ he') (String.ext hs.1), hs.2⟩

lemma PlainNames.rest_of_test {e : String × List String} (he : e ∈ T.entries) {t : String}
    (ht : t ∈ e.2) : '/' ∉ t.data ++ ".rs".data ∧ "mod.rs".data ≠ t.data ++ ".rs".data := by
  refine ⟨fun hm => ?_, fun h => (hT.testName_plain e he t ht).2 ?_⟩
  · rcases List.mem_append.1 hm with hm | hm
    · exact (hT.testName_plain e he t ht).1 hm
    · exact absurd hm (by decide)
  · exact String.ext (List.append_cancel_right (h.symm.trans (by rfl : _ = "mod".data ++ _)))

/-- **Plain names keep the paths apart.** -/
theorem PlainNames.distinctPaths : DistinctPaths T where
  path_injective a ha b hb hab := by
    rw [Target.path_eq_iff] at hab
    have hslash : '/' ∉ "mod.rs".data := by decide
    rcases mem_targets.1 ha with rfl | ⟨e, he, rfl | ⟨t, ht, rfl⟩⟩ <;>
      rcases mem_targets.1 hb with rfl | ⟨e', he', rfl | ⟨t', ht', rfl⟩⟩ <;>
      simp only [Target.rest] at hab
    · rfl
    · exact absurd hab (ne_append_slash hslash)
    · exact absurd hab (ne_append_slash hslash)
    · exact absurd hab.symm (ne_append_slash hslash)
    · rw [(hT.split he he' hab).1]
    · exact absurd (hT.split he he' hab).2 (hT.rest_of_test he' ht').2
    · exact absurd hab.symm (ne_append_slash hslash)
    · exact absurd (hT.split he he' hab).2.symm (hT.rest_of_test he ht).2
    · obtain ⟨h, h'⟩ := hT.split he he' hab
      rw [h, String.ext (List.append_cancel_right h')]
  not_dir a ha hd := by
    rcases List.mem_cons.1 hd with hd | hd
    · have := congrArg List.length (congrArg String.data hd)
      rw [Target.data_path, List.length_append, show "tests/".data.length = 6 from rfl,
        show "tests".data.length = 5 from rfl] at this
      omega
    · obtain ⟨c, hc, hcd⟩ := List.mem_map.1 hd
      have hrest : (categoryFile c).data = a.rest := List.append_cancel_left
        ((String.data_append _ _).symm.trans ((congrArg String.data hcd).trans a.data_path))
      obtain ⟨hslash, hdot⟩ := hT.categoryFile_plain c hc
      rcases mem_targets.1 ha with rfl | ⟨e, -, rfl | ⟨t, -, rfl⟩⟩
      · exact hdot (by rw [hrest]; decide)
      · exact hslash (by rw [hrest]; exact List.mem_append_right _ (List.mem_cons_self _ _))
      · exact hslash (by rw [hrest]; exact List.mem_append_right _ (List.mem_cons_self _ _))

end Plain

/-- The names of `TEST_CATEGORIES` are plain. -/
theorem plainNames_testCategories : PlainNames testCategories := by decide

end TestGenerator

end SecurityCompliance
