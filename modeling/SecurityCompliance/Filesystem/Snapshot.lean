import Mathlib.Data.List.Basic

/-!
# Filesystem snapshots

Both scripts decide whether a control is implemented by looking at the filesystem, which is
read and never written during a run.  A run therefore sees one *snapshot*: the finite set of
files and directories present, each named by its path from the working directory.  There are
no symbolic links, so `os.path.exists` and `os.path.lexists` agree.

`Snapshot` is that set, flat, with the facts that make it a tree carried as fields: every
path is a list of proper names (non-empty, no `/`, neither `.` nor `..`), no path is listed
twice, and the parent of every entry is the working directory or a directory of the
snapshot.  On such a tree the flat queries below are what the recursive directory walks of
`glob` observe: `listdir` is `os.scandir` of one directory, and `rlistdir` is `_rlistdir`,
the walk that `**` performs, which never enters or yields a hidden name.

`Snapshot.Subset` is inclusion of entries, with their kinds: the filesystem grew between two
runs.  Every query is monotone under it (`isdir_mono`, `lexists_mono`, `mem_listdir_mono`,
`mem_rlistdir_mono`), which is all that the monotonicity of `glob` needs.
-/

namespace SecurityCompliance

/-- A path from the working directory, as its components. -/
abbrev Path := List String

/-- A file or a directory present in a snapshot. -/
structure Entry where
  path : Path
  isDir : Bool
deriving DecidableEq, Repr

/-- A name a directory can hold. -/
def properName (c : String) : Bool :=
  c ≠ "" && !c.data.contains '/' && c ≠ "." && c ≠ ".."

/-- `_ishidden`: a name starting with a dot. -/
def isHidden (c : String) : Bool := c.data.head? = some '.'

/-- The files and directories present during a run. -/
structure Snapshot where
  entries : List Entry
  nodup_paths : (entries.map Entry.path).Nodup
  proper : ∀ e ∈ entries, e.path ≠ [] ∧ e.path.all properName
  parent_isDir : ∀ e ∈ entries, e.path.dropLast = [] ∨ ⟨e.path.dropLast, true⟩ ∈ entries

/-- The part of `q` below the directory `p`, when `p` is a prefix of `q`. -/
def below : Path → Path → Option Path
  | [], q => some q
  | a :: p, b :: q => if a = b then below p q else none
  | _ :: _, [] => none

/-- The name of `q` in the directory `p`, when `q` is a child of `p`. -/
def childName (p q : Path) : Option String :=
  match below p q with
  | some [c] => some c
  | _ => none

namespace Snapshot

variable (F : Snapshot)

/-- `os.path.lexists`; the working directory itself always exists. -/
def lexists (p : Path) : Bool := p.isEmpty || F.entries.any (·.path = p)

/-- `os.path.isdir`. -/
def isdir (p : Path) : Bool := p.isEmpty || F.entries.any (fun e => e.path = p && e.isDir)

/-- `glob._listdir`: the names in the directory `p`, only the subdirectories when `dironly`. -/
def listdir (p : Path) (dironly : Bool) : List String :=
  F.entries.filterMap fun e => if !dironly || e.isDir then childName p e.path else none

/-- Whether `e` is reached by `_rlistdir` from `p`: strictly below `p`, through non-hidden
names only, and a directory when `dironly`. -/
def reachedBelow (p : Path) (dironly : Bool) (e : Entry) : Bool :=
  (!dironly || e.isDir) &&
    match below p e.path with
    | some rel => !rel.isEmpty && rel.all (!isHidden ·)
    | none => false

/-- `glob._rlistdir`: every path below `p` through non-hidden names. -/
def rlistdir (p : Path) (dironly : Bool) : List Path :=
  (F.entries.filter (reachedBelow p dironly)).map (·.path)

/-- The working directory with nothing in it. -/
def empty : Snapshot := ⟨[], List.nodup_nil, by simp, by simp⟩

/-- The filesystem grew: every entry of `F` is an entry of `F'`, with the same kind. -/
def Subset (F F' : Snapshot) : Prop := ∀ e ∈ F.entries, e ∈ F'.entries

instance : HasSubset Snapshot := ⟨Subset⟩

/-! ## Monotonicity of the queries -/

variable {F} {F' : Snapshot}

lemma isdir_mono (h : F ⊆ F') {p : Path} (hp : F.isdir p) : F'.isdir p := by
  simp only [isdir, Bool.or_eq_true, List.any_eq_true] at hp ⊢
  exact hp.imp_right fun ⟨e, he, hx⟩ => ⟨e, h e he, hx⟩

lemma lexists_mono (h : F ⊆ F') {p : Path} (hp : F.lexists p) : F'.lexists p := by
  simp only [lexists, Bool.or_eq_true, List.any_eq_true] at hp ⊢
  exact hp.imp_right fun ⟨e, he, hx⟩ => ⟨e, h e he, hx⟩

lemma mem_listdir_mono (h : F ⊆ F') {p : Path} {b : Bool} {c : String}
    (hc : c ∈ F.listdir p b) : c ∈ F'.listdir p b := by
  simp only [listdir, List.mem_filterMap] at hc ⊢
  exact hc.imp fun e ⟨he, hx⟩ => ⟨h e he, hx⟩

lemma mem_rlistdir_mono (h : F ⊆ F') {p q : Path} {b : Bool}
    (hq : q ∈ F.rlistdir p b) : q ∈ F'.rlistdir p b := by
  simp only [rlistdir, List.mem_map, List.mem_filter] at hq ⊢
  exact hq.imp fun e ⟨⟨he, hr⟩, hx⟩ => ⟨⟨h e he, hr⟩, hx⟩

end Snapshot

end SecurityCompliance
