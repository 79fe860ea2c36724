import Mathlib.Data.List.Forall2
import Mathlib.Data.List.Nodup
import Mathlib.Algebra.BigOperators.Group.List
import Mathlib.Algebra.Order.Ring.Nat

/-!
# Python `dict`s as insertion-ordered association lists

Both compliance scripts keep their per-layer statistics in a Python `dict` built by one loop
over the checklist: a key's record is created the first time the key is seen
(`if layer_num not in layer_stats: layer_stats[layer_num] = {...}`) and is then updated in
place (`layer_stats[layer_num]["implemented"] += 1`).  A `dict` iterates in insertion order and
re-assigning an existing key keeps its place; `PyDict` records exactly that, with the
uniqueness of its keys carried as a field.

`PyDict.tally` is that loop, stated once with the key function, the initial record and the
update as parameters; `generate_summary` and `SecurityDashboard.calculate_compliance_metrics`
are both instances of it.  Its three facts follow from the step lemma `tally_append`: the keys
are the distinct keys in order of first occurrence (`keys_tally`), the record of a key is the
update folded over that key's items (`get?_tally`), and a counter that every update raises by
one exactly on the items of some kind sums, over all records, to the number of those items
(`sum_tally`).  A loop of plain assignments `d[k] = v`, as `csv.DictReader` builds a row
with, is the case of an update that ignores the record (`foldl_insert_eq_tally`).
-/

namespace SecurityCompliance

/-- A Python `dict`: its entries in insertion order, with each key at most once. -/
structure PyDict (K V : Type) [DecidableEq K] where
  entries : List (K × V)
  nodup_keys : (entries.map Prod.fst).Nodup

namespace PyDict

variable {α K V : Type} [DecidableEq K]

/-- `d.keys()`, in iteration order. -/
def keys (d : PyDict K V) : List K := d.entries.map Prod.fst

/-- `{}`. -/
def empty : PyDict K V := ⟨[], List.nodup_nil⟩

/-- `k in d`. -/
def contains (d : PyDict K V) (k : K) : Bool := decide (k ∈ d.keys)

/-- `d.get(k)`, without a default: the value stored under `k`, if any. -/
def get? (d : PyDict K V) (k : K) : Option V := d.entries.lookup k

/-- `d.get(k, default)`. -/
def get (d : PyDict K V) (k : K) (default : V) : V := (d.get? k).getD default

/-- The entry-wise update behind `d[k] = f(d[k])`. -/
def updateEntry (k : K) (f : V → V) (e : K × V) : K × V :=
  if e.1 = k then (e.1, f e.2) else e

@[simp] lemma updateEntry_fst (k : K) (f : V → V) (e : K × V) : (updateEntry k f e).1 = e.1 := by
  unfold updateEntry; split <;> rfl

lemma map_fst_updateEntry (k : K) (f : V → V) (es : List (K × V)) :
    (es.map (updateEntry k f)).map Prod.fst = es.map Prod.fst := by
  simp [Function.comp_def]

/-- `d[k] = f(d[k])`: the value under `k` is replaced in place, the keys do not move. -/
def modify (d : PyDict K V) (k : K) (f : V → V) : PyDict K V :=
  ⟨d.entries.map (updateEntry k f), by rw [map_fst_updateEntry]; exact d.nodup_keys⟩

/-- `d[k] = v`: an existing key keeps its position, a new key goes last. -/
def insert (d : PyDict K V) (k : K) (v : V) : PyDict K V :=
  if h : k ∈ d.keys then d.modify k (fun _ => v)
  else ⟨d.entries ++ [(k, v)], by
    simpa [List.nodup_append, keys] using And.intro d.nodup_keys h⟩

/-! ## One-step facts -/

lemma lookup_cons_ite (k a : K) (b : V) (es : List (K × V)) :
    ((a, b) :: es).lookup k = if k = a then some b else es.lookup k := by
  by_cases h : k = a
  · simp [h]
  · simp [List.lookup_cons, beq_false_of_ne h, h]

@[simp] lemma keys_empty : (empty : PyDict K V).keys = [] := rfl

@[simp] lemma keys_modify (d : PyDict K V) (k : K) (f : V → V) :
    (d.modify k f).keys = d.keys :=
  map_fst_updateEntry k f d.entries

lemma keys_insert (d : PyDict K V) (k : K) (v : V) :
    (d.insert k v).keys = if k ∈ d.keys then d.keys else d.keys ++ [k] := by
  unfold insert
  split
  · exact keys_modify ..
  · simp [keys]

lemma lookup_map_updateEntry (k k' : K) (f : V → V) (es : List (K × V)) :
    (es.map (updateEntry k f)).lookup k' =
      if k' = k then (es.lookup k').map f else es.lookup k' := by
  induction es with
  | nil => split <;> rfl
  | cons e es ih =>
    obtain ⟨a, b⟩ := e
    by_cases hk : k' = a
    · subst hk; by_cases ha : k' = k <;> simp [updateEntry, lookup_cons_ite, ha]
    · by_cases ha : a = k
      · subst ha; simp [updateEntry, lookup_cons_ite, hk, ih]
      · simp [updateEntry, lookup_cons_ite, ha, hk, ih]

lemma get?_modify (d : PyDict K V) (k k' : K) (f : V → V) :
    (d.modify k f).get? k' = if k' = k then (d.get? k').map f else d.get? k' :=
  lookup_map_updateEntry k k' f d.entries

lemma get?_eq_none {d : PyDict K V} {k : K} (h : k ∉ d.keys) : d.get? k = none :=
  List.lookup_eq_none_iff.2 fun _ hp => bne_iff_ne.2 fun e => h (e ▸ List.mem_map_of_mem _ hp)

lemma isSome_get? {d : PyDict K V} {k : K} (h : k ∈ d.keys) : (d.get? k).isSome := by
  obtain ⟨p, hp, rfl⟩ := List.mem_map.1 h
  exact List.lookup_isSome_iff.2 ⟨p, hp, beq_self_eq_true _⟩

lemma contains_eq_isSome_get? (d : PyDict K V) (k : K) : d.contains k = (d.get? k).isSome := by
  by_cases h : k ∈ d.keys
  · simp [contains, h, isSome_get? h]
  · simp [contains, h, get?_eq_none h]

/-- An entry's key looks up the entry's value. -/
lemma get?_of_mem {d : PyDict K V} {e : K × V} (h : e ∈ d.entries) : d.get? e.1 = some e.2 := by
  obtain ⟨es, hn⟩ := d
  simp only [get?] at h ⊢
  induction es with
  | nil => cases h
  | cons a es ih =>
    rw [List.map_cons, List.nodup_cons] at hn
    rw [lookup_cons_ite]
    rcases List.mem_cons.1 h with rfl | h
    · simp
    · rw [if_neg fun (he : e.1 = a.1) => hn.1 (he ▸ List.mem_map_of_mem _ h)]
      exact ih hn.2 h

/-- A present key's default is never used. -/
lemma get_eq_of_mem_keys {d : PyDict K V} {k : K} (h : k ∈ d.keys) (a b : V) :
    d.get k a = d.get k b := by
  obtain ⟨w, hw⟩ := Option.isSome_iff_exists.1 (isSome_get? h)
  simp [get, hw]

/-- `d.get(k, a)` of an absent key is the default. -/
lemma get_of_not_mem {d : PyDict K V} {k : K} (h : k ∉ d.keys) (a : V) : d.get k a = a := by
  rw [get, get?_eq_none h]
  rfl

lemma get?_insert (d : PyDict K V) (k k' : K) (v : V) :
    (d.insert k v).get? k' = if k' = k then some v else d.get? k' := by
  unfold insert
  split
  · rw [get?_modify]
    split
    · subst_vars
      obtain ⟨w, hw⟩ := Option.isSome_iff_exists.1 (isSome_get? ‹_›)
      simp [hw]
    · rfl
  · show (d.entries ++ [(k, v)]).lookup k' = _
    rw [List.lookup_append]
    split
    · subst_vars
      rw [show d.entries.lookup k' = none from get?_eq_none ‹_›]
      simp
    · simp [get?, lookup_cons_ite, *]

lemma ext_entries {d d' : PyDict K V} (h : d.entries = d'.entries) : d = d' := by
  cases d; cases d'; cases h; rfl

/-- Setting keys that are all new appends them in order. -/
lemma entries_foldl_insert_of_nodup :
    ∀ (xs : List (K × V)) (d : PyDict K V), (d.keys ++ xs.map Prod.fst).Nodup →
      (xs.foldl (fun d x => d.insert x.1 x.2) d).entries = d.entries ++ xs
  | [], _, _ => (List.append_nil _).symm
  | x :: xs, d, h => by
    have hx : x.1 ∉ d.keys := fun hm =>
      (List.nodup_append.1 h).2.2 hm (List.mem_cons_self _ _)
    have hins : (d.insert x.1 x.2).entries = d.entries ++ [x] := by
      unfold insert; rw [dif_neg hx]
    rw [List.foldl_cons, entries_foldl_insert_of_nodup xs _ (by
      rw [keys, hins, List.map_append, List.append_assoc]; exact h), hins, List.append_assoc,
      List.singleton_append]

lemma map_updateEntry_of_not_mem {k : K} (f : V → V) {es : List (K × V)}
    (h : k ∉ es.map Prod.fst) : es.map (updateEntry k f) = es := by
  induction es with
  | nil => rfl
  | cons e es ih =>
    simp only [List.map_cons, List.mem_cons, not_or] at h
    simp [updateEntry, Ne.symm h.1, ih h.2]

/-- Updating the one entry of a present key raises a counter's sum over the entries by the
amount the update raises that counter. -/
lemma sum_map_updateEntry (c : V → ℕ) (n : ℕ) {k : K} {f : V → V} (hf : ∀ v, c (f v) = c v + n)
    {es : List (K × V)} (hnd : (es.map Prod.fst).Nodup) (hk : k ∈ es.map Prod.fst) :
    ((es.map (updateEntry k f)).map (c ∘ Prod.snd)).sum = (es.map (c ∘ Prod.snd)).sum + n := by
  induction es with
  | nil => simp at hk
  | cons e es ih =>
    obtain ⟨a, b⟩ := e
    simp only [List.map_cons, List.nodup_cons, List.mem_cons] at hnd hk
    by_cases ha : a = k
    · subst ha
      simp [updateEntry, map_updateEntry_of_not_mem f hnd.1, hf]
      omega
    · have hb : updateEntry k f (a, b) = (a, b) := by simp [updateEntry, ha]
      simp only [List.map_cons, List.sum_cons, hb, ih hnd.2 (hk.resolve_left (Ne.symm ha))]
      omega

/-! ## The grouping loop -/

lemma eraseDups_loop_cons {β : Type} [BEq β] [LawfulBEq β] (y : β) (l bs : List β) :
    List.eraseDups.loop (y :: l) bs =
      if y ∈ bs then List.eraseDups.loop l bs else List.eraseDups.loop l (y :: bs) := by
  by_cases h : y ∈ bs <;> simp [List.eraseDups.loop, List.elem_eq_mem, h]

lemma eraseDups_loop_append_singleton {β : Type} [BEq β] [LawfulBEq β] (a : β) (l : List β) :
    ∀ bs, List.eraseDups.loop (l ++ [a]) bs =
      if a ∈ l ∨ a ∈ bs then List.eraseDups.loop l bs else List.eraseDups.loop l bs ++ [a] := by
  induction l with
  | nil => intro bs; by_cases h : a ∈ bs <;> simp [List.eraseDups.loop, h]
  | cons y l ih =>
    intro bs
    rw [List.cons_append, eraseDups_loop_cons, eraseDups_loop_cons]
    by_cases hy : y ∈ bs
    · by_cases ha : a = y
      · subst ha; simp [hy, ih]
      · simp [hy, ha, ih]
    · rw [if_neg hy, if_neg hy, ih]
      have : (a ∈ l ∨ a ∈ y :: bs) ↔ (a ∈ y :: l ∨ a ∈ bs) := by simp only [List.mem_cons]; tauto
      by_cases h : a ∈ y :: l ∨ a ∈ bs
      · rw [if_pos (this.2 h), if_pos h]
      · rw [if_neg (mt this.1 h), if_neg h]

/-- `eraseDups` keeps first occurrences: an item already seen adds nothing, a new one goes
last. -/
lemma eraseDups_append_singleton {β : Type} [BEq β] [LawfulBEq β] (l : List β) (a : β) :
    (l ++ [a]).eraseDups = if a ∈ l then l.eraseDups else l.eraseDups ++ [a] := by
  simp [List.eraseDups, eraseDups_loop_append_singleton]


/-- One item repeated is kept once. -/
lemma eraseDups_replicate_succ {β : Type} [BEq β] [LawfulBEq β] (a : β) :
    ∀ n, (List.replicate (n + 1) a).eraseDups = [a]
  | 0 => rfl
  | n + 1 => by
    rw [List.replicate_succ', eraseDups_append_singleton,
      if_pos (List.mem_replicate.2 ⟨n.succ_ne_zero, rfl⟩), eraseDups_replicate_succ a n]

/-- A non-empty list that a function sends to one value has that value as its only
distinct image. -/
lemma eraseDups_map_of_forall_eq {β : Type} [BEq β] [LawfulBEq β] {l : List α} (hl : l ≠ [])
    {f : α → β} {b : β} (h : ∀ x ∈ l, f x = b) : (l.map f).eraseDups = [b] := by
  obtain ⟨x, xs, rfl⟩ := List.exists_cons_of_ne_nil hl
  rw [List.map_eq_replicate_iff.2 h, List.length_cons, eraseDups_replicate_succ]

/-- One iteration of the grouping loop: the record of `key x` is created with `init` when the
key is new (`if k not in d: d[k] = init`), then updated in place. -/
def tallyStep (key : α → K) (init : V) (update : α → V → V) (d : PyDict K V) (x : α) :
    PyDict K V :=
  (if d.contains (key x) then d else d.insert (key x) init).modify (key x) (update x)

/-- The grouping loop over `xs`, starting from `{}`. -/
def tally (key : α → K) (init : V) (update : α → V → V) (xs : List α) : PyDict K V :=
  xs.foldl (tallyStep key init update) empty

section Tally

variable (key : α → K) (init : V) (update : α → V → V)

lemma tally_append (xs : List α) (x : α) :
    tally key init update (xs ++ [x]) = tallyStep key init update (tally key init update xs) x := by
  simp [tally, List.foldl_append]

lemma keys_tallyStep (d : PyDict K V) (x : α) :
    (tallyStep key init update d x).keys =
      if key x ∈ d.keys then d.keys else d.keys ++ [key x] := by
  unfold tallyStep contains
  by_cases h : key x ∈ d.keys <;> simp [h, keys_insert]

lemma get?_tallyStep (d : PyDict K V) (x : α) (k : K) :
    (tallyStep key init update d x).get? k =
      if k = key x then some (update x ((d.get? k).getD init)) else d.get? k := by
  unfold tallyStep contains
  rw [get?_modify]
  by_cases hk : k = key x
  · subst hk
    by_cases h : key x ∈ d.keys
    · obtain ⟨w, hw⟩ := Option.isSome_iff_exists.1 (isSome_get? h)
      simp [h, hw]
    · simp [h, get?_insert, get?_eq_none h]
  · by_cases h : key x ∈ d.keys <;> simp [h, hk, get?_insert]

lemma mem_keys_tally (xs : List α) :
    ∀ k, k ∈ (tally key init update xs).keys ↔ k ∈ xs.map key := by
  induction xs using List.reverseRecOn with
  | nil => simp [tally]
  | append_singleton xs x ih =>
    intro k
    rw [tally_append, keys_tallyStep]
    split
    · have := (ih (key x)).1 ‹_›
      simp_all
    · simp_all [or_comm]

lemma keys_tally [BEq K] [LawfulBEq K] (xs : List α) :
    (tally key init update xs).keys = (xs.map key).eraseDups := by
  induction xs using List.reverseRecOn with
  | nil => rfl
  | append_singleton xs x ih =>
    rw [tally_append, keys_tallyStep, List.map_append, List.map_singleton,
      eraseDups_append_singleton, ← ih]
    by_cases h : key x ∈ xs.map key <;> simp [h, mem_keys_tally]

/-- `d[k] = v` is a step of the grouping loop whose update ignores the record. -/
lemma tallyStep_const (val : α → V) (d : PyDict K V) (x : α) :
    tallyStep key init (fun x _ => val x) d x = d.insert (key x) (val x) := by
  apply ext_entries
  unfold tallyStep contains insert
  by_cases h : key x ∈ d.keys
  · simp only [decide_eq_true_eq, h, if_true, dif_pos]
  · simp only [decide_eq_true_eq, h, if_false, dif_neg, not_false_eq_true, modify,
      List.map_append, map_updateEntry_of_not_mem _ h, List.map_singleton, updateEntry, if_true]

/-- A loop of `d[key(x)] = val(x)` from `{}` is the grouping loop whose update ignores the
record. -/
lemma foldl_insert_eq_tally (val : α → V) (xs : List α) :
    xs.foldl (fun d x => d.insert (key x) (val x)) empty =
      tally key init (fun x _ => val x) xs := by
  unfold tally
  congr 1
  funext d x
  exact (tallyStep_const key init val d x).symm

/-- **The record of a key.** After the loop, a key is present exactly when one of the items
has it, and its record is `update` folded, in order, over the items that have it. -/
lemma get?_tally (xs : List α) (k : K) :
    (tally key init update xs).get? k =
      if k ∈ xs.map key then
        some ((xs.filter (key · = k)).foldl (fun v x => update x v) init)
      else none := by
  induction xs using List.reverseRecOn with
  | nil => rfl
  | append_singleton xs x ih =>
    rw [tally_append, get?_tallyStep, ih]
    by_cases hk : k = key x
    · subst hk
      by_cases hm : key x ∈ xs.map key
      · simp [hm, List.filter_append]
      · have hnil : xs.filter (key · = key x) = [] :=
          List.filter_eq_nil_iff.2 fun y hy h => hm (List.mem_map.2 ⟨y, hy, by simpa using h⟩)
        simp [hm, List.filter_append, hnil]
    · simp [hk, List.filter_append, Ne.symm hk]

/-- **Counters add up.** If every update raises the counter `c` by one exactly on the items
satisfying `p`, and the initial record has counter `0`, the counters of all records sum to the
number of items satisfying `p`. -/
lemma sum_tally (c : V → ℕ) (p : α → Bool) (h0 : c init = 0)
    (hc : ∀ x v, c (update x v) = c v + if p x then 1 else 0) (xs : List α) :
    ((tally key init update xs).entries.map (c ∘ Prod.snd)).sum = xs.countP p := by
  induction xs using List.reverseRecOn with
  | nil => rfl
  | append_singleton xs x ih =>
    set d := tally key init update xs
    set d' : PyDict K V := if d.contains (key x) then d else d.insert (key x) init with hd'
    have hsum : (d'.entries.map (c ∘ Prod.snd)).sum = (d.entries.map (c ∘ Prod.snd)).sum := by
      by_cases h : key x ∈ d.keys
      · simp [d', contains, h]
      · simp [d', contains, h, insert, h0]
    have hmem : key x ∈ d'.keys := by
      by_cases h : key x ∈ d.keys
      · rw [hd', if_pos (show d.contains (key x) = true from decide_eq_true h)]; exact h
      · rw [hd', if_neg (show ¬d.contains (key x) = true by simpa [contains] using h),
          keys_insert, if_neg h]
        simp
    rw [tally_append, List.countP_append, ← ih, ← hsum, List.countP_singleton]
    exact sum_map_updateEntry c _ (hc x) d'.nodup_keys hmem

end Tally

/-! ## Two grouping loops side by side -/

section Simulation

variable {W : Type} (R : V → W → Prop)

/-- Entries related key by key: the same keys in the same order, related records. -/
def EntriesRel (es : List (K × V)) (es' : List (K × W)) : Prop :=
  List.Forall₂ (fun e e' => e.1 = e'.1 ∧ R e.2 e'.2) es es'

variable {R}

omit [DecidableEq K] in
lemma EntriesRel.keys_eq {es : List (K × V)} {es' : List (K × W)} (h : EntriesRel R es es') :
    es.map Prod.fst = es'.map Prod.fst := by
  induction h with
  | nil => rfl
  | cons hx _ ih => simp [hx.1, ih]

lemma EntriesRel.modify {es : List (K × V)} {es' : List (K × W)} (h : EntriesRel R es es')
    (k : K) {f : V → V} {f' : W → W} (hf : ∀ v v', R v v' → R (f v) (f' v')) :
    EntriesRel R (es.map (updateEntry k f)) (es'.map (updateEntry k f')) := by
  induction h with
  | nil => exact List.Forall₂.nil
  | cons hx _ ih =>
    refine List.Forall₂.cons ?_ ih
    unfold updateEntry
    rw [hx.1]
    split_ifs
    · exact ⟨rfl, hf _ _ hx.2⟩
    · exact ⟨hx.1, hx.2⟩

variable {key key' : α → K} {init : V} {init' : W} {update : α → V → V} {update' : α → W → W}

lemma EntriesRel.tallyStep {d : PyDict K V} {d' : PyDict K W}
    (h : EntriesRel R d.entries d'.entries) {x : α} (hk : key x = key' x) (hinit : R init init')
    (hupd : ∀ v v', R v v' → R (update x v) (update' x v')) :
    EntriesRel R (tallyStep key init update d x).entries
      (tallyStep key' init' update' d' x).entries := by
  have hkeys : d.keys = d'.keys := h.keys_eq
  unfold PyDict.tallyStep contains
  rw [← hk, ← hkeys]
  refine EntriesRel.modify ?_ (key x) hupd
  by_cases hm : key x ∈ d.keys
  · simpa [hm] using h
  · rw [if_neg (by simpa using hm), if_neg (by simpa [← hkeys] using hm)]
    simp only [insert, dif_neg hm, dif_neg (hkeys ▸ hm)]
    exact List.rel_append h (List.Forall₂.cons ⟨rfl, hinit⟩ List.Forall₂.nil)

/-- **Simulation.** Two grouping loops over the same items, whose keys agree on the items and
whose updates preserve a relation between records, build dicts with the same keys in the
same order and related records. -/
lemma tally_rel (xs : List α) (hkey : ∀ x ∈ xs, key x = key' x) (hinit : R init init')
    (hupd : ∀ x ∈ xs, ∀ v v', R v v' → R (update x v) (update' x v')) :
    EntriesRel R (tally key init update xs).entries (tally key' init' update' xs).entries := by
  induction xs using List.reverseRecOn with
  | nil => exact List.Forall₂.nil
  | append_singleton xs x ih =>
    have hmem : ∀ y ∈ xs, y ∈ xs ++ [x] := fun y hy => List.mem_append_left _ hy
    rw [tally_append, tally_append]
    exact (ih (fun y hy => hkey y (hmem y hy)) fun y hy => hupd y (hmem y hy)).tallyStep
      (hkey x (by simp)) hinit (hupd x (by simp))

/-- What every update preserves holds of every record the loop builds. -/
lemma forall_tally (P : V → Prop) (xs : List α) (h0 : P init)
    (hu : ∀ x ∈ xs, ∀ v, P v → P (update x v)) :
    ∀ e ∈ (tally key init update xs).entries, P e.2 := by
  have h : EntriesRel (fun v v' => P v ∧ v = v') (tally key init update xs).entries
      (tally key init update xs).entries :=
    tally_rel xs (fun _ _ => rfl) ⟨h0, rfl⟩ fun x hx v _ ⟨hv, hvv⟩ => ⟨hu x hx v hv, hvv ▸ rfl⟩
  exact fun e he => (List.forall₂_same.1 h e he).2.1

end Simulation

end PyDict

end SecurityCompliance
