import SecurityCompliance.Python.Dict

/-!
# The test file generator (`generate-test-files.py`)

`main` creates `tests/`, then calls `create_test_file(category, test)` for every test of every
category of `TEST_CATEGORIES`, in the table's order, and last writes `tests/mod.rs` with one
`mod` line per category. `create_test_file` makes the category's directory and, when
`tests/<category>/mod.rs` does not exist, writes it with a title line and one `mod` line for
every test of the category. When it exists, the call appends the line of its own test. The
call then writes `tests/<category>/<test>.rs` from `TEST_TEMPLATE`, unless that file exists.

The state is a `WorkTree`: the directories the script made and the files under them, by
path. The script reads nothing else of the working directory. Each function is the sequence
of its steps over that state, with `os.path.exists` as the only test. The generator's view of
a fresh working directory is `WorkTree.empty`.

## Modeling disclosure

`str.lower` and `str.title` are modelled on ASCII text, which is all that `TEST_CATEGORIES`
holds. `os.makedirs` is modelled as making the one directory it is given: in `main` its parent
`tests` always exists by then.
-/

namespace SecurityCompliance

namespace TestGenerator

/-! ## Strings -/

/-- `str.lower`, on ASCII text. -/
def pyLower (s : String) : String := ⟨s.data.map Char.toLower⟩

/-- `str.replace(old, new)` for one character `old` and one character `new`. -/
def pyReplace (s : String) (old new : Char) : String :=
  ⟨s.data.map fun c => if c = old then new else c⟩

/-- `str.title` from a position after a cased character or not: each letter is upper case
exactly when the character before it is no letter. -/
def titleChars : Bool → List Char → List Char
  | _, [] => []
  | previousIsCased, c :: cs =>
    let c := if previousIsCased then c.toLower else c.toUpper
    c :: titleChars c.isAlpha cs

/-- `str.title`, on ASCII text. -/
def pyTitle (s : String) : String := ⟨titleChars false s.data⟩

/-- `category.lower().replace("-", "_").replace(" ", "_")`: the category's module name. -/
def categoryFile (category : String) : String :=
  pyReplace (pyReplace (pyLower category) '-' '_') ' ' '_'

/-- `category.replace('_', ' ').title()`. -/
def categoryTitle (category : String) : String := pyTitle (pyReplace category '_' ' ')

/-- `TEST_TEMPLATE.format(category_title=..., category_description=..., test_name=...)`. -/
def testTemplate (categoryTitle categoryDescription testName : String) : String :=
  "//! " ++ categoryTitle ++ " tests\n//!\n//! This file contains tests for the " ++
    categoryDescription ++ "\n\n#[cfg(test)]\nmod tests \x7b\n    use super::*;\n\n" ++
    "    #[test]\n    fn test_" ++ testName ++ "_basic() \x7b\n" ++
    "        // TODO: Implement " ++ testName ++ " test\n" ++
    "        assert!(true, \"Placeholder test for " ++ testName ++ "\");\n    \x7d\n\n" ++
    "    #[test]\n    fn test_" ++ testName ++ "_edge_cases() \x7b\n" ++
    "        // TODO: Implement edge case tests for " ++ testName ++ "\n" ++
    "        assert!(true, \"Placeholder for edge case tests\");\n    \x7d\n\n" ++
    "    #[test]\n    fn test_" ++ testName ++ "_error_conditions() \x7b\n" ++
    "        // TODO: Implement error condition tests for " ++ testName ++ "\n" ++
    "        assert!(true, \"Placeholder for error condition tests\");\n    \x7d\n\x7d\n"

/-- The line `mod <name>;` that declares a module. -/
def modLine (name : String) : String := "mod " ++ name ++ ";\n"

/-! ## The working tree -/

/-- The directories the script made and the files under them. -/
structure WorkTree where
  dirs : List String
  files : PyDict String String

namespace WorkTree

/-- A working directory without `tests/`. -/
def empty : WorkTree := ⟨[], PyDict.empty⟩

@[simp] lemma get?_empty (p : String) : empty.files.get? p = none := rfl

/-- `os.path.exists`. -/
def pathExists (w : WorkTree) (p : String) : Bool := decide (p ∈ w.dirs) || w.files.contains p

/-- `os.makedirs`. -/
def makedirs (w : WorkTree) (p : String) : WorkTree := { w with dirs := w.dirs ++ [p] }

/-- `open(p, "w").write(s)`. -/
def write (w : WorkTree) (p s : String) : WorkTree := { w with files := w.files.insert p s }

/-- `open(p, "a").write(s)`. -/
def append (w : WorkTree) (p s : String) : WorkTree :=
  { w with files := w.files.insert p ((w.files.get? p).getD "" ++ s) }

/-- `if not os.path.exists(p): os.makedirs(p)`. -/
def ensureDir (w : WorkTree) (p : String) : WorkTree := if w.pathExists p then w else w.makedirs p

/-- `if os.path.exists(p)`: append `s` to it, else create it with `s₀`. -/
def appendOrCreate (w : WorkTree) (p s s₀ : String) : WorkTree :=
  if w.pathExists p then w.append p s else w.write p s₀

/-- `if not os.path.exists(p)`: create it with `s`. -/
def createNew (w : WorkTree) (p s : String) : WorkTree := if w.pathExists p then w else w.write p s

/-! ### What each operation changes -/

variable {w : WorkTree} {p q s s₀ : String}

lemma files_ensureDir : (w.ensureDir p).files = w.files := by
  unfold ensureDir; split <;> rfl

lemma mem_dirs_ensureDir (h : q ∈ (w.ensureDir p).dirs) : q ∈ w.dirs ∨ q = p := by
  unfold ensureDir at h
  split at h
  · exact .inl h
  · simpa [makedirs] using h

@[simp] lemma dirs_appendOrCreate : (w.appendOrCreate p s s₀).dirs = w.dirs := by
  unfold appendOrCreate; split <;> rfl

@[simp] lemma dirs_createNew : (w.createNew p s).dirs = w.dirs := by
  unfold createNew; split <;> rfl

lemma get?_write : (w.write p s).files.get? q = if q = p then some s else w.files.get? q :=
  PyDict.get?_insert _ _ _ _

lemma get?_appendOrCreate_of_ne (hq : q ≠ p) :
    (w.appendOrCreate p s s₀).files.get? q = w.files.get? q := by
  unfold appendOrCreate; split <;> simp [append, write, PyDict.get?_insert, hq]

lemma get?_createNew_of_ne (hq : q ≠ p) : (w.createNew p s).files.get? q = w.files.get? q := by
  unfold createNew; split <;> simp [write, PyDict.get?_insert, hq]

/-- On a path that is no directory, existence is having contents. -/
lemma pathExists_of_not_mem_dirs (h : p ∉ w.dirs) : w.pathExists p = (w.files.get? p).isSome := by
  simp [pathExists, h, PyDict.contains_eq_isSome_get?]

lemma get?_appendOrCreate (h : p ∉ w.dirs) :
    (w.appendOrCreate p s s₀).files.get? q =
      if q = p then some (((w.files.get? p).map (· ++ s)).getD s₀) else w.files.get? q := by
  unfold appendOrCreate
  rw [pathExists_of_not_mem_dirs h]
  cases hp : w.files.get? p <;>
    simp [append, write, PyDict.get?_insert, hp]

lemma get?_createNew (h : p ∉ w.dirs) :
    (w.createNew p s).files.get? q =
      if q = p then some ((w.files.get? p).getD s) else w.files.get? q := by
  unfold createNew
  rw [pathExists_of_not_mem_dirs h]
  cases hp : w.files.get? p <;> by_cases hq : q = p <;>
    simp [write, PyDict.get?_insert, hp, hq]

end WorkTree

/-! ## The script -/

/-- A table like `TEST_CATEGORIES`: category names and their test names, in order. -/
abbrev Categories := PyDict String (List String)

/-- `TEST_CATEGORIES`. -/
def testCategories : Categories :=
  ⟨[
    ("happy_path", ["main_success_path", "typical_user_journey", "standard_input_processing"]),
    ("boundary", ["min_max_values", "null_empty_inputs", "special_characters", "unicode_support"]),
    ("equivalence", ["valid_partition", "invalid_partition", "boundary_values"]),
    ("state", ["state_transitions", "illegal_transitions", "idempotent_operations"]),
    ("api_contract", ["request_validation", "response_format", "error_handling", "status_codes"]),
    ("i18n", ["locale_formatting", "rtl_support", "timezone_handling", "cultural_adaptation"]),
    ("accessibility", ["aria_attributes", "keyboard_navigation", "screen_reader", "contrast_ratios"]),
    ("feature_flag", ["flag_enabled", "flag_disabled", "variant_a", "variant_b"]),
    ("data_validation", ["input_constraints", "output_formatting", "referential_integrity", "data_type_validation"]),
    ("auth", ["authentication_flow", "authorization_checks", "role_permissions", "session_management"]),
    ("sanitization", ["xss_prevention", "sql_injection", "template_injection", "input_encoding"]),
    ("crypto", ["tls_configuration", "key_rotation", "key_derivation", "cryptographic_suites"]),
    ("secrets", ["encryption_at_rest", "secure_transmission", "plaintext_exposure", "secret_management"]),
    ("session", ["csrf_protection", "session_fixation", "timeout_handling", "token_scoping"]),
    ("privacy", ["data_minimization", "consent_mechanisms", "subject_rights", "policy_conformance"]),
    ("schema_migration", ["forward_compatibility", "backward_compatibility", "zero_downtime", "rollback_procedures"]),
    ("data_migration", ["etl_correctness", "checksum_validation", "row_count_matching", "data_integrity"]),
    ("consistency", ["eventual_consistency", "strong_consistency", "data_invariants", "cross_system_sync"]),
    ("analytics", ["aggregation_accuracy", "windowing_functions", "source_reconciliation", "pipeline_integrity"]),
    ("smoke", ["critical_endpoints", "basic_functionality", "core_features", "build_stability"]),
    ("sanity", ["focused_changes", "targeted_fixes", "specific_functionality", "change_effectiveness"]),
    ("regression", ["historical_issues", "existing_features", "previously_fixed_bugs", "feature_regression"]),
    ("concurrency", ["race_conditions", "deadlock_prevention", "lock_mechanisms", "async_safety"]),
    ("wcag", ["perceivable_content", "operable_interfaces", "understandable_information", "robust_content"]),
    ("localization", ["font_support", "character_handling", "collation_sorting", "text_overflow"]),
    ("messaging", ["message_ordering", "delivery_guarantees", "exactly_once_semantics", "system_reliability"]),
    ("payments", ["double_entry_accounting", "financial_invariants", "book_reconciliation", "transaction_accuracy"]),
    ("search", ["ranking_quality", "metric_consistency", "relevance_bands", "algorithm_effectiveness"])]
    , by decide⟩

/-- `create_test_directory`. -/
def createTestDirectory (w : WorkTree) : WorkTree := w.ensureDir "tests"

/-- `category_dir`. -/
def categoryDir (category : String) : String := "tests/" ++ categoryFile category

/-- `file_path`: the category's `mod.rs`. -/
def modPath (category : String) : String := categoryDir category ++ "/mod.rs"

/-- `test_file_path`. -/
def testFilePath (category testName : String) : String :=
  categoryDir category ++ "/" ++ testName ++ ".rs"

/-- What a category's `mod.rs` is created with: its title and a `mod` line for each of its
tests in `T`. -/
def modContents (T : Categories) (category : String) : String :=
  "//! " ++ categoryTitle category ++ " Tests\n\n" ++ String.join ((T.get category []).map modLine)

/-- What an existing `mod.rs` is appended for a test. -/
def appendedLine (testName : String) : String := "\nmod " ++ testName ++ ";\n"

/-- What a test's file is created with. -/
def testContents (category testName : String) : String :=
  testTemplate (categoryTitle category) (pyReplace category '_' ' ' ++ " testing category") testName

/-- `create_test_file(category, test_name)`, for the table `T`. -/
def createTestFile (T : Categories) (w : WorkTree) (category testName : String) : WorkTree :=
  ((w.ensureDir (categoryDir category)).appendOrCreate (modPath category) (appendedLine testName)
    (modContents T category)).createNew (testFilePath category testName)
      (testContents category testName)

/-- The first lines of `tests/mod.rs`. -/
def mainHeader : String :=
  "//! Main test file that includes all 66+ testing types\n//!\n" ++
    "//! This file serves as the entry point for all testing categories\n\n"

/-- What `tests/mod.rs` is written with: a `mod` line for each category of `T`. -/
def mainContents (T : Categories) : String :=
  mainHeader ++ String.join (T.keys.map fun c => modLine (categoryFile c))

/-- `create_main_test_file`. -/
def createMainTestFile (T : Categories) (w : WorkTree) : WorkTree :=
  w.write "tests/mod.rs" (mainContents T)

/-- The loop of `main` over the tests of one category. -/
def createCategoryFiles (T : Categories) (w : WorkTree) (category : String)
    (tests : List String) : WorkTree :=
  tests.foldl (fun w test => createTestFile T w category test) w

/-- `main`, for the table `T`. -/
def main (T : Categories) (w : WorkTree) : WorkTree :=
  createMainTestFile T
    (T.entries.foldl (fun w e => createCategoryFiles T w e.1 e.2) (createTestDirectory w))

end TestGenerator

end SecurityCompliance
