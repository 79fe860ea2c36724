import SecurityCompliance.Filesystem.Snapshot
import SecurityCompliance.Filesystem.Fnmatch

/-!
# `glob.glob(pattern, recursive=True)` and `os.path.exists` over a snapshot

`check_artifact_exists` resolves a spec with `glob.glob(spec, recursive=True)` when it holds
`*` or `?`, and with `os.path.exists(spec)` otherwise.  This module embeds both on strings, as
CPython 3.11's `glob.py` and `posixpath.py` compute them:

* the operating system looks a path up one component at a time (`resolve`): an empty component
  (from `//` or a trailing `/`) and `.` stay, `..` goes to the parent, and a name goes down to
  an entry; each step needs a directory.  `os.path.exists`, `os.path.lexists` and
  `os.path.isdir` ask it, and there are no symbolic links;
* `iglobAux` is `_iglob`: a pattern without magic characters is returned when it exists.
  Otherwise `os.path.split` takes off the last component; the directories to look in are the
  results of globbing the head when the head has magic characters, and the head itself,
  unchecked, when it has none.  The last component is matched in each of them by `glob0`
  (a literal name, `_glob0`), `glob1` (a pattern against the directory's listing, `_glob1`) or
  `glob2` (`**`: the directory itself as `''`, then every path below it, `_glob2`);
* `iglob` drops the first result when it is `''` and the pattern starts with `**`, and `glob`
  returns the others, each path as its components.

CPython 3.11's `_glob2` yields `''` without checking that its directory exists, so `missing/**`
returns `missing/`; the model does the same.  `fuel` bounds the recursion of `_iglob` on the
head, which is always shorter than the pattern, so the pattern's length is fuel enough
(`iglobAux_fuel`).

The main facts: `glob` never returns `''` (`empty_not_mem_iglob`: only a pattern starting with
`**` yields it, and then first); both resolutions only grow when the filesystem grows
(`glob_mono`, `pathExists_mono`); and on a spec without magic characters `glob` returns the
spec exactly when `os.path.exists` holds (`glob_ne_nil_iff_pathExists`).

Modelling choices: the working directory is the root of the snapshot, so an absolute spec is
looked up from it and `..` at the root stays there, as `/..` does on POSIX; `_rlistdir`'s paths
come in the snapshot's order rather than in the order of its walk.
-/

namespace SecurityCompliance

/-! ## Path strings -/

/-- Split at every `/`, keeping empty components: `a//b/` is `a`, ``, `b`, ``. -/
def splitSlash : List Char → List (List Char)
  | [] => [[]]
  | c :: cs =>
    if c = '/' then [] :: splitSlash cs
    else
      match splitSlash cs with
      | [] => [[c]]
      | p :: ps => (c :: p) :: ps

/-- The components of a path or pattern string. -/
def pathComponents (s : String) : List String := (splitSlash s.data).map String.mk

/-- `glob.has_magic`: the string holds `*`, `?` or `[`. -/
def hasMagic (s : String) : Bool := s.data.any fun c => c = '*' || c = '?' || c = '['

/-- `posixpath.split(p)`: the head up to the last `/`, without its trailing slashes unless it
is all slashes, and the tail after that `/`. -/
def splitPath (p : String) : String × String :=
  let head := p.data.reverse.dropWhile (· != '/')
  (⟨if head.all (· == '/') then head.reverse else (head.dropWhile (· == '/')).reverse⟩,
    ⟨(p.data.reverse.takeWhile (· != '/')).reverse⟩)

/-- `posixpath.join(a, b)`: `b` when it is absolute, else `a` and `b` with one `/` between. -/
def joinPath (a b : String) : String :=
  if b.data.head? = some '/' then b
  else if a = "" || a.data.getLast? = some '/' then a ++ b
  else a ++ "/" ++ b

/-- `glob._join(dirname, basename)`: the one that is not empty when the other is, else
`os.path.join`. -/
def globJoin (dirname basename : String) : String :=
  if dirname = "" || basename = "" then (if dirname = "" then basename else dirname)
  else joinPath dirname basename

/-- The names of a relative path joined by `/`, as `_rlistdir` builds them with `_join`. -/
def joinNames : List String → String
  | [] => ""
  | [x] => x
  | x :: y :: ys => x ++ "/" ++ joinNames (y :: ys)

namespace Snapshot

variable (F : Snapshot)

/-! ## The operating system -/

/-- Looking up the components `qs` from the directory `dir`: an empty component and `.` stay,
`..` goes to the parent, and a name goes down to an entry; each step needs `dir` to be a
directory. -/
def resolveFrom : Path → List String → Option Path
  | dir, [] => some dir
  | dir, q :: qs =>
    if !F.isdir dir then none
    else if q = "" || q = "." then resolveFrom dir qs
    else if q = ".." then resolveFrom dir.dropLast qs
    else if F.lexists (dir ++ [q]) then resolveFrom (dir ++ [q]) qs
    else none

/-- The entry a path names, looked up from the working directory; `''` names none. -/
def resolve (path : String) : Option Path :=
  if path = "" then none else F.resolveFrom [] (pathComponents path)

/-- `os.path.exists(path)`, which is `os.path.lexists(path)`: there are no symbolic links. -/
def pathExists (path : String) : Bool := (F.resolve path).isSome

/-- `os.path.isdir(path)`. -/
def pathIsdir (path : String) : Bool :=
  match F.resolve path with
  | some p => F.isdir p
  | none => false

/-- The directory that `os.scandir` opens for `glob`'s `dirname`: `os.curdir` for `''`. -/
def scandirPath (dirname : String) : Option Path :=
  if dirname = "" then some [] else F.resolve dirname

/-- `glob._listdir(dirname, dir_fd, dironly)`: the names in the directory, and none when it
cannot be opened. -/
def globListdir (dirname : String) (dironly : Bool) : List String :=
  match F.scandirPath dirname with
  | some p => F.listdir p dironly
  | none => []

/-- `glob._rlistdir(dirname, dir_fd, dironly)`: the paths below the directory through
non-hidden names, relative to it. -/
def globRlistdir (dirname : String) (dironly : Bool) : List String :=
  match F.scandirPath dirname with
  | some p => (F.rlistdir p dironly).map fun x => joinNames (x.drop p.length)
  | none => []

/-! ## `glob` -/

/-- `_glob0(dirname, basename, dir_fd, dironly)`: the name when it exists in the directory,
and an empty name (a pattern ending in `/`) when the directory is one. -/
def glob0 (dirname basename : String) : List String :=
  if basename ≠ "" then (if F.pathExists (globJoin dirname basename) then [basename] else [])
  else if F.pathIsdir dirname then [basename] else []

/-- `_glob1(dirname, pattern, dir_fd, dironly)`: the names in the directory that match the
pattern, hidden ones only when the pattern starts with a dot. -/
def glob1 (dirname pattern : String) (dironly : Bool) : List String :=
  (F.globListdir dirname dironly).filter fun x =>
    (isHidden pattern || !isHidden x) && fnmatch x pattern

/-- `_glob2(dirname, pattern, dir_fd, dironly)`: the directory itself as `''`, then the paths
below it. -/
def glob2 (dirname : String) (dironly : Bool) : List String :=
  "" :: F.globRlistdir dirname dironly

/-- `_iglob(pathname, root_dir, dir_fd, recursive, dironly)` with `root_dir` `''` and
`recursive` true; `fuel` bounds the recursion on the head. -/
def iglobAux : ℕ → String → Bool → List String
  | 0, _, _ => []
  | fuel + 1, pathname, dironly =>
    let dirname := (splitPath pathname).1
    let basename := (splitPath pathname).2
    if !hasMagic pathname then
      if basename ≠ "" then (if F.pathExists pathname then [pathname] else [])
      else if F.pathIsdir dirname then [pathname] else []
    else if dirname = "" then
      if basename = "**" then F.glob2 "" dironly else F.glob1 "" basename dironly
    else
      let dirs :=
        if dirname ≠ pathname && hasMagic dirname then iglobAux fuel dirname true
        else [dirname]
      dirs.flatMap fun d =>
        (if hasMagic basename then
          (if basename = "**" then F.glob2 d dironly else F.glob1 d basename dironly)
        else F.glob0 d basename).map (joinPath d)

/-- `glob.iglob(pathname, recursive=True)`: the results of `_iglob`, without the first when
it is `''` and the pattern is empty or starts with `**`. -/
def iglob (pathname : String) : List String :=
  let it := F.iglobAux (pathname.length + 1) pathname false
  if pathname = "" || pathname.data.take 2 = ['*', '*'] then
    match it with
    | s :: rest => if s = "" then rest else s :: rest
    | [] => []
  else it

/-- `glob.glob(pathname, recursive=True)`, each path as its components. -/
def glob (pathname : String) : List Path := (F.iglob pathname).map pathComponents

end Snapshot

/-! ## Facts about path strings -/

lemma splitSlash_ne_nil : ∀ cs : List Char, splitSlash cs ≠ []
  | [] => List.cons_ne_nil _ _
  | c :: cs => by
    unfold splitSlash
    split_ifs
    · exact List.cons_ne_nil _ _
    · split <;> exact List.cons_ne_nil _ _

/-- A `/` splits a string into the components of its two sides. -/
lemma splitSlash_append_slash (ys : List Char) :
    ∀ xs : List Char, splitSlash (xs ++ '/' :: ys) = splitSlash xs ++ splitSlash ys
  | [] => rfl
  | c :: xs => by
    obtain ⟨p, ps, hp⟩ := List.exists_cons_of_ne_nil (splitSlash_ne_nil xs)
    rw [List.cons_append, splitSlash, splitSlash, splitSlash_append_slash ys xs, hp]
    split_ifs <;> rfl

lemma splitSlash_replicate_slash : ∀ k : ℕ,
    splitSlash (List.replicate k '/') = List.replicate (k + 1) []
  | 0 => rfl
  | k + 1 => by
    rw [List.replicate_succ, splitSlash, if_pos rfl, splitSlash_replicate_slash k]
    rfl

lemma joinPath_eq_empty {a b : String} (h : joinPath a b = "") : a = "" ∧ b = "" := by
  have hd := congrArg String.data h
  unfold joinPath at hd
  split_ifs at hd with h1 h2
  · simp_all
  · simp only [String.data_append, List.append_eq_nil] at hd
    exact ⟨String.ext hd.1, String.ext hd.2⟩
  · simp [String.data_append] at hd

lemma joinPath_empty_left (b : String) : joinPath "" b = b := by
  unfold joinPath
  split_ifs <;> simp_all

lemma joinNames_ne_empty {x : String} (hx : x ≠ "") : ∀ xs, joinNames (x :: xs) ≠ ""
  | [] => hx
  | y :: ys => fun h => by
    rw [joinNames] at h
    have := congrArg String.data h
    simp at this

section SplitPath

variable (p : String)

/-- The string is the head of `os.path.split`, before its trailing slashes, then the tail. -/
lemma data_eq_split :
    p.data = (p.data.reverse.dropWhile (· != '/')).reverse ++
      (p.data.reverse.takeWhile (· != '/')).reverse := by
  rw [← List.reverse_append, List.takeWhile_append_dropWhile, List.reverse_reverse]

/-- **`os.path.split` returns a prefix as the head.** -/
lemma splitPath_fst_prefix : (splitPath p).1.data <+: p.data := by
  have hpre : (p.data.reverse.dropWhile (· != '/')).reverse <+: p.data :=
    ⟨_, (data_eq_split p).symm⟩
  dsimp only [splitPath]
  split_ifs
  · exact hpre
  · exact (List.reverse_prefix.2 (List.dropWhile_suffix _)).trans hpre

lemma length_splitPath_fst_lt {p : String} (h : (splitPath p).1 ≠ p) :
    (splitPath p).1.length < p.length := by
  have hpre := splitPath_fst_prefix p
  have hle := hpre.length_le
  show (splitPath p).1.data.length < p.data.length
  refine lt_of_le_of_ne hle fun heq => h (String.ext (hpre.eq_of_length heq))

/-- A head of `''` leaves the whole string as the tail. -/
lemma splitPath_snd_of_fst_eq_empty (h : (splitPath p).1 = "") : (splitPath p).2 = p := by
  have hd := congrArg String.data h
  dsimp only [splitPath] at hd ⊢
  have hH : p.data.reverse.dropWhile (· != '/') = [] := by
    split_ifs at hd with hall
    · simpa using hd
    · rw [List.reverse_eq_nil_iff, List.dropWhile_eq_nil_iff] at hd
      exact absurd (List.all_eq_true.2 hd) hall
  apply String.ext
  conv_rhs => rw [data_eq_split p, hH]
  rfl

/-- What `os.path.split` leaves of a path that ends in `/`: a path of slashes is its own
head; any other is its head, which is not empty, then slashes. -/
lemma splitPath_of_snd_eq_empty {p : String} (hp : p ≠ "") (hb : (splitPath p).2 = "") :
    (∃ n, p.data = List.replicate (n + 1) '/' ∧ (splitPath p).1 = p) ∨
      ∃ k, p.data = (splitPath p).1.data ++ List.replicate (k + 1) '/' ∧
        (splitPath p).1 ≠ "" := by
  have hT : p.data.reverse.takeWhile (· != '/') = [] := by
    simpa [splitPath] using congrArg String.data hb
  have hR : p.data.reverse.dropWhile (· != '/') = p.data.reverse := by
    conv_rhs => rw [← List.takeWhile_append_dropWhile (· != '/') p.data.reverse, hT]
    rfl
  obtain ⟨c, r, hcr⟩ := List.exists_cons_of_ne_nil
    (List.reverse_ne_nil_iff.2 fun h => hp (String.ext h))
  have hc : c = '/' := by
    rw [hcr, List.takeWhile_cons] at hT
    split_ifs at hT with h
    simpa using h
  subst hc
  have hd : (splitPath p).1.data = if p.data.reverse.all (· == '/') then p.data
      else (p.data.reverse.dropWhile (· == '/')).reverse := by
    dsimp only [splitPath]
    rw [hR, List.reverse_reverse]
  by_cases hall : p.data.reverse.all (· == '/')
  · rw [if_pos hall] at hd
    refine .inl ⟨p.data.length - 1, ?_, String.ext hd⟩
    have hlen : p.data.length - 1 + 1 = p.data.length := by
      have : p.data.reverse.length = r.length + 1 := by rw [hcr]; rfl
      rw [List.length_reverse] at this
      omega
    rw [hlen, List.eq_replicate_iff]
    exact ⟨rfl, fun b hb => by simpa using List.all_eq_true.1 hall b (List.mem_reverse.2 hb)⟩
  · rw [if_neg hall] at hd
    have hW : p.data.reverse.takeWhile (· == '/') =
        List.replicate (r.takeWhile (· == '/')).length.succ '/' := by
      rw [hcr, List.takeWhile_cons_of_pos (by rfl), List.replicate_succ]
      congr 1
      exact List.eq_replicate_iff.2 ⟨rfl, fun b hb => by simpa using List.mem_takeWhile_imp hb⟩
    refine .inr ⟨(r.takeWhile (· == '/')).length, ?_, fun h0 => hall ?_⟩
    · rw [hd, ← List.reverse_replicate, ← hW, ← List.reverse_append,
        List.takeWhile_append_dropWhile, List.reverse_reverse]
    · have h1 : (p.data.reverse.dropWhile (· == '/')).reverse = [] := by rw [← hd, h0]
      rw [List.reverse_eq_nil_iff, List.dropWhile_eq_nil_iff] at h1
      exact List.all_eq_true.2 h1

end SplitPath

/-! ## Lookups -/

lemma eq_append_of_below_eq_some : ∀ {p q r : Path}, below p q = some r → q = p ++ r
  | [], _, _, h => by rw [List.nil_append]; exact Option.some.inj h
  | _ :: _, [], _, h => by cases h
  | a :: p, b :: q, r, h => by
    unfold below at h
    split_ifs at h with hab
    rw [hab, eq_append_of_below_eq_some h, List.cons_append]

lemma ne_empty_of_properName {c : String} (h : properName c = true) : c ≠ "" := by
  simp only [properName, Bool.and_eq_true, decide_eq_true_eq] at h
  exact h.1.1.1

namespace Snapshot

variable (F : Snapshot)

lemma resolveFrom_append (qs rs : List String) :
    ∀ dir, F.resolveFrom dir (qs ++ rs) = (F.resolveFrom dir qs).bind (F.resolveFrom · rs) := by
  induction qs with
  | nil => intro dir; rfl
  | cons q qs ih =>
    intro dir
    simp only [List.cons_append, resolveFrom]
    split_ifs <;> simp [ih]

/-- Trailing slashes need a directory and change nothing else. -/
lemma resolveFrom_replicate_empty (dir : Path) :
    ∀ k, F.resolveFrom dir (List.replicate (k + 1) "") = if F.isdir dir then some dir else none
  | 0 => by
    simp only [List.replicate, resolveFrom]
    split_ifs <;> simp_all
  | k + 1 => by
    rw [List.replicate_succ, resolveFrom]
    split_ifs with h1 <;> simp_all [resolveFrom_replicate_empty dir k]

lemma pathIsdir_empty : F.pathIsdir "" = false := rfl

lemma pathExists_empty : F.pathExists "" = false := rfl

/-- **A trailing `/` asks for a directory.** For a path that ends in `/`, `os.path.exists`
holds exactly when `os.path.isdir` holds for its head. -/
lemma pathExists_eq_pathIsdir {path : String} (hp : path ≠ "") (hb : (splitPath path).2 = "") :
    F.pathExists path = F.pathIsdir (splitPath path).1 := by
  rcases splitPath_of_snd_eq_empty hp hb with ⟨n, hn, hd⟩ | ⟨k, hk, hd⟩
  · have hr : F.resolve path = some [] := by
      rw [resolve, if_neg hp, pathComponents, hn, splitSlash_replicate_slash, List.map_replicate,
        resolveFrom_replicate_empty]
      rfl
    rw [hd, pathExists, pathIsdir, hr]
    rfl
  · have hr : F.resolve path = (F.resolve (splitPath path).1).bind
        fun r => if F.isdir r then some r else none := by
      rw [resolve, if_neg hp, resolve, if_neg hd, pathComponents, hk, List.replicate_succ,
        splitSlash_append_slash, List.map_append, splitSlash_replicate_slash, List.map_replicate,
        resolveFrom_append, show String.mk [] = "" from rfl]
      simp only [resolveFrom_replicate_empty]
      rfl
    rw [pathExists, pathIsdir, hr]
    cases F.resolve (splitPath path).1 with
    | none => rfl
    | some r => by_cases h : F.isdir r <;> simp [h]

end Snapshot

/-! ## Monotonicity -/

namespace Snapshot

variable {F F' : Snapshot}

lemma resolveFrom_mono (h : F ⊆ F') :
    ∀ {qs : List String} {dir r : Path}, F.resolveFrom dir qs = some r →
      F'.resolveFrom dir qs = some r
  | [], _, _, hr => hr
  | q :: qs, dir, r, hr => by
    unfold resolveFrom at hr ⊢
    have hd : F.isdir dir = true := by
      by_contra hd
      simp [hd] at hr
    rw [if_neg (by simp [isdir_mono h hd])]
    rw [if_neg (by simp [hd])] at hr
    split_ifs at hr ⊢ with h1 h2 h3
    · exact resolveFrom_mono h hr
    · exact resolveFrom_mono h hr
    · exact resolveFrom_mono h hr
    · exact absurd (lexists_mono h ‹F.lexists (dir ++ [q])›) h3

lemma resolve_mono (h : F ⊆ F') {path : String} {r : Path} (hr : F.resolve path = some r) :
    F'.resolve path = some r := by
  unfold resolve at hr ⊢
  split_ifs at hr ⊢
  exact resolveFrom_mono h hr

lemma pathExists_mono (h : F ⊆ F') {path : String} (hp : F.pathExists path) :
    F'.pathExists path := by
  obtain ⟨r, hr⟩ := Option.isSome_iff_exists.1 hp
  exact Option.isSome_iff_exists.2 ⟨r, resolve_mono h hr⟩

lemma pathIsdir_mono (h : F ⊆ F') {path : String} (hp : F.pathIsdir path) :
    F'.pathIsdir path := by
  unfold pathIsdir at hp ⊢
  split at hp
  · rw [resolve_mono h ‹_›]
    exact isdir_mono h hp
  · cases hp

lemma scandirPath_mono (h : F ⊆ F') {dirname : String} {p : Path}
    (hp : F.scandirPath dirname = some p) : F'.scandirPath dirname = some p := by
  unfold scandirPath at hp ⊢
  split_ifs at hp ⊢
  · exact hp
  · exact resolve_mono h hp

lemma mem_globListdir_mono (h : F ⊆ F') {dirname x : String} {b : Bool}
    (hx : x ∈ F.globListdir dirname b) : x ∈ F'.globListdir dirname b := by
  unfold globListdir at hx ⊢
  split at hx
  · rw [scandirPath_mono h ‹_›]
    exact mem_listdir_mono h hx
  · cases hx

lemma mem_globRlistdir_mono (h : F ⊆ F') {dirname x : String} {b : Bool}
    (hx : x ∈ F.globRlistdir dirname b) : x ∈ F'.globRlistdir dirname b := by
  unfold globRlistdir at hx ⊢
  split at hx
  · rw [scandirPath_mono h ‹_›]
    obtain ⟨y, hy, rfl⟩ := List.mem_map.1 hx
    exact List.mem_map_of_mem _ (mem_rlistdir_mono h hy)
  · cases hx

/-- A literal lookup, as `_glob0` and `_iglob` without magic make it: a name must exist, and
a path ending in `/` must be a directory. -/
lemma mem_existsOrIsdir_mono (h : F ⊆ F') {c : Prop} [Decidable c] {e d y x : String}
    (hx : x ∈ if c then (if F.pathExists e then [y] else []) else if F.pathIsdir d then [y] else []) :
    x ∈ if c then (if F'.pathExists e then [y] else []) else if F'.pathIsdir d then [y] else [] := by
  split_ifs at hx with hc he hd
  · rwa [if_pos hc, if_pos (pathExists_mono h he)]
  · cases hx
  · rwa [if_neg hc, if_pos (pathIsdir_mono h hd)]
  · cases hx

lemma mem_glob0_mono (h : F ⊆ F') {dirname basename x : String}
    (hx : x ∈ F.glob0 dirname basename) : x ∈ F'.glob0 dirname basename :=
  mem_existsOrIsdir_mono h hx

lemma mem_glob1_mono (h : F ⊆ F') {dirname pattern x : String} {b : Bool}
    (hx : x ∈ F.glob1 dirname pattern b) : x ∈ F'.glob1 dirname pattern b := by
  unfold glob1 at hx ⊢
  rw [List.mem_filter] at hx ⊢
  exact ⟨mem_globListdir_mono h hx.1, hx.2⟩

lemma mem_glob2_mono (h : F ⊆ F') {dirname x : String} {b : Bool}
    (hx : x ∈ F.glob2 dirname b) : x ∈ F'.glob2 dirname b := by
  unfold glob2 at hx ⊢
  rcases List.mem_cons.1 hx with rfl | hx
  · exact List.mem_cons_self _ _
  · exact List.mem_cons_of_mem _ (mem_globRlistdir_mono h hx)

lemma mem_iglobAux_mono (h : F ⊆ F') :
    ∀ {n : ℕ} {p x : String} {b : Bool}, x ∈ F.iglobAux n p b → x ∈ F'.iglobAux n p b
  | 0, _, _, _, hx => hx
  | n + 1, p, x, b, hx => by
    unfold iglobAux at hx ⊢
    dsimp only at hx ⊢
    by_cases hm : hasMagic p = true
    · rw [if_neg (by simp [hm])] at hx ⊢
      by_cases hd : (splitPath p).1 = ""
      · rw [if_pos hd] at hx ⊢
        split_ifs at hx ⊢
        · exact mem_glob2_mono h hx
        · exact mem_glob1_mono h hx
      · rw [if_neg hd] at hx ⊢
        simp only [List.mem_flatMap, List.mem_map] at hx ⊢
        obtain ⟨d, hdirs, y, hy, rfl⟩ := hx
        refine ⟨d, ?_, y, ?_, rfl⟩
        · split_ifs at hdirs ⊢
          · exact mem_iglobAux_mono h hdirs
          · exact hdirs
        · split_ifs at hy ⊢
          · exact mem_glob2_mono h hy
          · exact mem_glob1_mono h hy
          · exact mem_glob0_mono h hy
    · rw [if_pos (by simpa using hm)] at hx ⊢
      exact mem_existsOrIsdir_mono h hx

end Snapshot

/-! ## `''` comes first, and only from `**` -/

/-- `''` comes, if at all, first. -/
def EmptyFirst (l : List String) : Prop := ∀ x ∈ l.tail, x ≠ ""

lemma emptyFirst_of_forall {l : List String} (h : ∀ x ∈ l, x ≠ "") : EmptyFirst l :=
  fun x hx => h x (List.mem_of_mem_tail hx)

lemma emptyFirst_append {l₁ l₂ : List String} (h₁ : EmptyFirst l₁) (h₂ : ∀ x ∈ l₂, x ≠ "") :
    EmptyFirst (l₁ ++ l₂) := by
  rcases l₁ with _ | ⟨a, l₁⟩
  · exact emptyFirst_of_forall h₂
  · intro x hx
    rcases List.mem_append.1 hx with hx | hx
    · exact h₁ x hx
    · exact h₂ x hx

/-- Looking in directories of which only the first may be `''`, the results keep `''` first
when the names found in `''` do. -/
lemma emptyFirst_flatMap {dirs : List String} {g : String → List String} (hd : EmptyFirst dirs)
    (hg : ∀ d, d ≠ "" → ∀ y ∈ g d, y ≠ "") (hg0 : EmptyFirst (g "")) :
    EmptyFirst (dirs.flatMap g) := by
  rcases dirs with _ | ⟨d, ds⟩
  · exact emptyFirst_of_forall (by simp)
  · rw [List.flatMap_cons]
    refine emptyFirst_append ?_ fun y hy => ?_
    · by_cases h0 : d = ""
      · rw [h0]
        exact hg0
      · exact emptyFirst_of_forall (hg d h0)
    · obtain ⟨d', hd', hy⟩ := List.mem_flatMap.1 hy
      exact hg d' (hd d' hd') y hy

namespace Snapshot

variable (F : Snapshot)

lemma ne_empty_of_mem_listdir {p : Path} {b : Bool} {x : String} (hx : x ∈ F.listdir p b) :
    x ≠ "" := by
  obtain ⟨e, he, hx⟩ := List.mem_filterMap.1 hx
  split_ifs at hx
  unfold childName at hx
  split at hx
  · cases hx
    rename_i heq
    refine ne_empty_of_properName (List.all_eq_true.1 (F.proper e he).2 _ ?_)
    rw [eq_append_of_below_eq_some heq]
    exact List.mem_append_right _ (List.mem_singleton_self _)
  · cases hx

lemma ne_empty_of_mem_globListdir {dirname x : String} {b : Bool}
    (hx : x ∈ F.globListdir dirname b) : x ≠ "" := by
  unfold globListdir at hx
  split at hx
  · exact F.ne_empty_of_mem_listdir hx
  · cases hx

lemma ne_empty_of_mem_globRlistdir {dirname x : String} {b : Bool}
    (hx : x ∈ F.globRlistdir dirname b) : x ≠ "" := by
  unfold globRlistdir at hx
  split at hx
  · rename_i p _
    obtain ⟨y, hy, rfl⟩ := List.mem_map.1 hx
    obtain ⟨e, he, rfl⟩ := List.mem_map.1 hy
    obtain ⟨he, hr⟩ := List.mem_filter.1 he
    unfold reachedBelow at hr
    split at hr
    · rename_i rel hrel
      simp only [Bool.and_eq_true, Bool.not_eq_true', List.isEmpty_eq_false] at hr
      obtain ⟨c, cs, rfl⟩ := List.exists_cons_of_ne_nil hr.2.1
      rw [eq_append_of_below_eq_some hrel, List.drop_left]
      refine joinNames_ne_empty (ne_empty_of_properName (List.all_eq_true.1 (F.proper e he).2 _ ?_)) _
      rw [eq_append_of_below_eq_some hrel]
      exact List.mem_append_right _ (List.mem_cons_self _ _)
    · simp at hr
  · cases hx

lemma ne_empty_of_mem_glob1 {dirname pattern x : String} {b : Bool}
    (hx : x ∈ F.glob1 dirname pattern b) : x ≠ "" :=
  F.ne_empty_of_mem_globListdir (List.mem_filter.1 hx).1

lemma emptyFirst_glob2 (dirname : String) (b : Bool) : EmptyFirst (F.glob2 dirname b) :=
  fun _ hx => F.ne_empty_of_mem_globRlistdir hx

/-- In the working directory, a literal name is found as itself, never as `''`. -/
lemma ne_empty_of_mem_glob0_empty {basename x : String} (hx : x ∈ F.glob0 "" basename) :
    x ≠ "" := by
  unfold glob0 at hx
  split_ifs at hx with hb h1 h2 <;> simp_all [pathIsdir_empty]

lemma emptyFirst_iglobAux : ∀ (n : ℕ) (p : String) (b : Bool), EmptyFirst (F.iglobAux n p b)
  | 0, _, _ => fun _ hx => by cases hx
  | n + 1, p, b => by
    unfold iglobAux
    dsimp only
    by_cases hm : hasMagic p = true
    · rw [if_neg (by simp [hm])]
      by_cases hd : (splitPath p).1 = ""
      · rw [if_pos hd]
        split_ifs
        · exact F.emptyFirst_glob2 _ _
        · exact emptyFirst_of_forall fun _ hx => F.ne_empty_of_mem_glob1 hx
      · rw [if_neg hd]
        refine emptyFirst_flatMap ?_ (fun d hd0 y hy => ?_) ?_
        · split_ifs
          · exact emptyFirst_iglobAux n _ true
          · exact fun _ hx => by cases hx
        · obtain ⟨z, -, rfl⟩ := List.mem_map.1 hy
          exact fun h0 => hd0 (joinPath_eq_empty h0).1
        · have hj : joinPath "" = id := funext joinPath_empty_left
          simp only [hj, List.map_id]
          split_ifs
          · exact F.emptyFirst_glob2 _ _
          · exact emptyFirst_of_forall fun _ hx => F.ne_empty_of_mem_glob1 hx
          · exact emptyFirst_of_forall fun _ hx => F.ne_empty_of_mem_glob0_empty hx
    · rw [if_pos (by simpa using hm)]
      split_ifs <;> exact fun _ hx => by simp at hx

/-- Only a pattern starting with `**` yields `''`. -/
lemma take_two_of_empty_mem_iglobAux :
    ∀ {n : ℕ} {p : String} {b : Bool}, "" ∈ F.iglobAux n p b → p.data.take 2 = ['*', '*']
  | 0, _, _, h => by cases h
  | n + 1, p, b, h => by
    unfold iglobAux at h
    dsimp only at h
    by_cases hm : hasMagic p = true
    · rw [if_neg (by simp [hm])] at h
      by_cases hd : (splitPath p).1 = ""
      · rw [if_pos hd] at h
        split_ifs at h with h2
        · rw [← splitPath_snd_of_fst_eq_empty p hd, h2]
          rfl
        · exact absurd rfl (F.ne_empty_of_mem_glob1 h)
      · rw [if_neg hd] at h
        obtain ⟨d, hdirs, hy⟩ := List.mem_flatMap.1 h
        obtain ⟨y, -, hy⟩ := List.mem_map.1 hy
        rw [(joinPath_eq_empty hy).1] at hdirs
        split_ifs at hdirs
        · have ht := take_two_of_empty_mem_iglobAux hdirs
          obtain ⟨t, ht'⟩ := splitPath_fst_prefix p
          have hlen : 2 ≤ (splitPath p).1.data.length := by
            have := congrArg List.length ht
            simp only [List.length_take, List.length_cons, List.length_nil] at this
            omega
          rw [← ht', List.take_append_of_le_length hlen, ht]
        · exact absurd (List.mem_singleton.1 hdirs).symm hd
    · rw [if_pos (by simpa using hm)] at h
      have hp : p = "" := by
        split_ifs at h <;> first | exact (List.mem_singleton.1 h).symm | cases h
      subst hp
      simp [splitPath, pathIsdir_empty, pathExists_empty] at h

/-- **`glob` never returns `''`.** `iglob` drops the `''` that a pattern starting with `**`
yields first, and no other pattern yields one. -/
theorem empty_not_mem_iglob (p : String) : "" ∉ F.iglob p := by
  intro h
  have hE := F.emptyFirst_iglobAux (p.length + 1) p false
  unfold iglob at h
  dsimp only at h
  split_ifs at h with hs
  · generalize F.iglobAux (p.length + 1) p false = it at h hE
    rcases it with _ | ⟨s, rest⟩
    · cases h
    · dsimp only at h
      split_ifs at h with h0
      · exact hE "" h rfl
      · rcases List.mem_cons.1 h with h1 | h1
        · exact h0 h1.symm
        · exact hE "" h1 rfl
  · exact hs (by simp [F.take_two_of_empty_mem_iglobAux h])

/-- In an empty working directory `**` finds nothing once its `''` is dropped, while
`missing/**` finds `missing/`: the head has no magic, so it is not checked. -/
example : empty.iglob "**" = [] ∧ empty.iglob "missing/**" = ["missing/"] := by decide

/-- Apart from `''`, `iglob` returns what `_iglob` does. -/
lemma mem_iglob_iff {p x : String} (hx : x ≠ "") :
    x ∈ F.iglob p ↔ x ∈ F.iglobAux (p.length + 1) p false := by
  unfold iglob
  dsimp only
  split_ifs
  · generalize F.iglobAux (p.length + 1) p false = it
    rcases it with _ | ⟨s, rest⟩
    · rfl
    · dsimp only
      split_ifs with hs
      · rw [hs, List.mem_cons, or_iff_right hx]
      · rfl
  · rfl

/-- **The pattern's length is fuel enough**: with more fuel than the pattern has characters,
`_iglob` returns the same paths. -/
lemma iglobAux_fuel : ∀ {n m : ℕ} {p : String} (b : Bool), p.length < n → p.length < m →
    F.iglobAux n p b = F.iglobAux m p b
  | 0, _, _, _, hn, _ => absurd hn (Nat.not_lt_zero _)
  | _ + 1, 0, _, _, _, hm => absurd hm (Nat.not_lt_zero _)
  | n + 1, m + 1, p, b, hn, hm => by
    unfold iglobAux
    dsimp only
    by_cases hc : ((splitPath p).1 ≠ p && hasMagic (splitPath p).1) = true
    · have hlt := length_splitPath_fst_lt (p := p) fun h => by simp [h] at hc
      rw [if_pos hc, if_pos hc, iglobAux_fuel (n := n) (m := m) true (by omega) (by omega)]
    · rw [if_neg hc, if_neg hc]

/-- **No magic, no difference.** `glob` returns a spec without `*`, `?` or `[` exactly when
`os.path.exists` holds for it. -/
lemma iglob_of_not_hasMagic {s : String} (hs : hasMagic s = false) :
    F.iglob s = if F.pathExists s then [s] else [] := by
  by_cases hs0 : s = ""
  · subst hs0
    rfl
  have hskip : ¬(s = "" || s.data.take 2 = ['*', '*']) = true := by
    intro h
    simp only [Bool.or_eq_true, decide_eq_true_eq, hs0, false_or] at h
    have : '*' ∈ s.data := List.mem_of_mem_take (h ▸ List.mem_cons_self _ _)
    simp only [hasMagic, List.any_eq_false] at hs
    simpa using hs '*' this
  unfold iglob iglobAux
  dsimp only
  rw [if_neg hskip, if_pos (by simp [hs])]
  by_cases hb : (splitPath s).2 = ""
  · rw [if_neg (not_not.2 hb), ← F.pathExists_eq_pathIsdir hs0 hb]
  · rw [if_pos hb]

lemma glob_ne_nil_iff_pathExists {s : String} (hs : hasMagic s = false) :
    F.glob s ≠ [] ↔ F.pathExists s := by
  rw [glob, F.iglob_of_not_hasMagic hs]
  split_ifs with h <;> simp [h]

end Snapshot

/-! ## Monotonicity of `glob` -/

namespace Snapshot

variable {F F' : Snapshot}

/-- **Globbing is monotone.** A path `glob` finds is still found once the filesystem grew. -/
lemma glob_mono (h : F ⊆ F') {pattern : String} {x : Path} (hx : x ∈ F.glob pattern) :
    x ∈ F'.glob pattern := by
  obtain ⟨s, hs, rfl⟩ := List.mem_map.1 hx
  have hs0 : s ≠ "" := fun h0 => F.empty_not_mem_iglob pattern (h0 ▸ hs)
  exact List.mem_map_of_mem _ ((F'.mem_iglob_iff hs0).2
    (mem_iglobAux_mono h ((F.mem_iglob_iff hs0).1 hs)))

end Snapshot

end SecurityCompliance
