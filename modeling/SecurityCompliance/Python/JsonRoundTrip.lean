import SecurityCompliance.Python.JsonDump
import Mathlib.Data.List.Dedup

/-!
# `json.loads(json.dumps(v, indent=2))`

What the two reports write can be read back: `json.loads` of the text `dumps v` is `v.toJson`
(`loads_dumps`), for every value.  The proof goes scanner by scanner.  `scanString` reads an
escaped string back as its code points (`scanString_escape`), one escape at a time, a
character beyond the basic plane as its surrogate pair.  `_match_number` reads the text of a
number whole (`matchNumber_append`), since `int.__repr__` and `float.__repr__` write the form
it reads, and no named constant starts a number.  `scanOnce`, `scanElements` and `scanMembers`
read a value, the elements of a list and the items of a `dict` (`scanElements_encode`,
`scanMembers_encode`), skipping the indentation.  The fuel `loads` gives the scanner, the length
of the text, is enough: every call reads a character before it recurses.

A `dict` comes back with its items set one by one into the decoded object, as the scanner
does: a key written twice keeps its first place and its last value.  That happens exactly when
a `None` key and a key `"null"` meet (`toJsonItems_eq_map`).
-/

namespace SecurityCompliance

open PyFloat

namespace Json

/-! ## Strings -/

lemma hexDigit_digitChar : ∀ d < 16, hexDigit (Nat.digitChar d) = some d := by decide

lemma hex4_digits {u : ℕ} (hu : u < 0x10000) :
    hex4 (Nat.digitChar (u / 4096 % 16)) (Nat.digitChar (u / 256 % 16))
      (Nat.digitChar (u / 16 % 16)) (Nat.digitChar (u % 16)) = some u := by
  simp only [hex4, hexDigit_digitChar _ (Nat.mod_lt _ (by norm_num))]
  simp only [Option.bind_eq_bind, Option.some_bind, Option.pure_def, Option.some.injEq]
  omega

lemma toNat_valid (c : Char) : c.toNat < 0xd800 ∨ 0xdfff < c.toNat ∧ c.toNat < 0x110000 :=
  c.valid

/-- A character that is neither a quote, a backslash nor a control character is read as
itself. -/
lemma scanString_plain {c : Char} (hq : c ≠ '"') (hb : c ≠ '\\') (hc : 0x1f < c.toNat) (n : ℕ)
    (rest : List Char) :
    scanString (n + 1) (c :: rest) = consCodePoint c.toNat (scanString n rest) := by
  rw [scanString, if_neg (by omega)]
  all_goals intros; simp_all

/-- A `\uXXXX` escape of a code unit that opens no surrogate pair is read as that unit. -/
lemma scanString_unicodeEscape {u : ℕ} (hu : u < 0x10000) (hh : isHighSurrogate u = false)
    (n : ℕ) (rest : List Char) :
    scanString (n + 1) ('\\' :: 'u' :: hex4Text u ++ rest) =
      consCodePoint u (scanString n rest) := by
  simp only [hex4Text, List.cons_append, List.nil_append]
  rw [scanString, hex4_digits hu, Option.bind_eq_bind, Option.some_bind]
  split
  · rw [if_neg (by rw [hh]; decide)]
  · rfl

/-- The surrogate pair `\uD8XX\uDCXX` of a character beyond the basic plane is read as that
character, when text follows it. -/
lemma scanString_surrogatePair {c : Char} (hbig : 0x10000 ≤ c.toNat) (n : ℕ) (r : Char)
    (rs : List Char) :
    scanString (n + 1) ('\\' :: 'u' :: hex4Text (0xd800 + (c.toNat - 0x10000) / 0x400) ++
        '\\' :: 'u' :: hex4Text (0xdc00 + (c.toNat - 0x10000) % 0x400) ++ r :: rs) =
      consCodePoint c.toNat (scanString n (r :: rs)) := by
  have hv : c.toNat < 0x110000 := by rcases toNat_valid c with h | h <;> omega
  have hh : isHighSurrogate (0xd800 + (c.toNat - 0x10000) / 0x400) = true := by
    simp only [isHighSurrogate, Bool.and_eq_true, decide_eq_true_eq]; omega
  have hl : isLowSurrogate (0xdc00 + (c.toNat - 0x10000) % 0x400) = true := by
    simp only [isLowSurrogate, Bool.and_eq_true, decide_eq_true_eq]; omega
  have hj : joinSurrogates (0xd800 + (c.toNat - 0x10000) / 0x400)
      (0xdc00 + (c.toNat - 0x10000) % 0x400) = c.toNat := by
    unfold joinSurrogates; omega
  simp only [hex4Text, List.cons_append, List.nil_append]
  rw [scanString, hex4_digits (by omega), Option.bind_eq_bind, Option.some_bind]
  split
  · rename_i heq
    simp only [List.cons.injEq] at heq
    obtain ⟨-, -, rfl, rfl, rfl, rfl, rfl, rfl⟩ := heq
    rw [if_pos hh, hex4_digits (by omega), Option.some_bind, if_pos hl, hj]
  · rename_i hne
    exact (hne _ _ _ _ _ _ rfl).elim

/-- **One escaped character.** Whatever `ensure_ascii` writes for a character, the scanner
reads back as that character's code point, when text follows it. -/
lemma scanString_escapeChar (c : Char) {rest : List Char} (hr : rest ≠ []) (n : ℕ) :
    scanString (n + 1) (escapeChar c ++ rest) = consCodePoint c.toNat (scanString n rest) := by
  unfold escapeChar
  split_ifs with hp
  · simp only [isPlainChar, Bool.and_eq_true, decide_eq_true_eq, bne_iff_ne, ne_eq] at hp
    exact scanString_plain hp.2 hp.1.2 (by omega) n rest
  unfold escapeUnichar
  split
  any_goals
    simp only [List.cons_append, List.nil_append]
    rw [scanString]
    · simp only [simpleEscape, Option.bind_eq_bind, Option.some_bind]; rfl
    all_goals intros; simp_all
  split_ifs with hbig
  · obtain ⟨r, rs, rfl⟩ := List.exists_cons_of_ne_nil hr
    simpa only [List.append_assoc, List.cons_append] using scanString_surrogatePair hbig n r rs
  · have hs : c.toNat < 0xd800 ∨ 0xdfff < c.toNat := by rcases toNat_valid c with h | h <;> omega
    refine scanString_unicodeEscape (by omega) ?_ n rest
    simp only [isHighSurrogate, Bool.and_eq_false_iff, decide_eq_false_iff_not]; omega

/-- **Strings read back.** The scanner reads the escaped characters of a string, up to the
closing quote, as the string's code points, with fuel one more than its length. -/
theorem scanString_escape (cs rest : List Char) {n : ℕ} (hn : cs.length < n) :
    scanString n (cs.flatMap escapeChar ++ '"' :: rest) = some (cs.map Char.toNat, rest) := by
  induction cs generalizing n with
  | nil =>
    obtain ⟨m, rfl⟩ := Nat.exists_eq_succ_of_ne_zero (by omega : n ≠ 0)
    rfl
  | cons c cs ih =>
    obtain ⟨m, rfl⟩ := Nat.exists_eq_succ_of_ne_zero (by omega : n ≠ 0)
    simp only [List.length_cons] at hn
    rw [List.flatMap_cons, List.append_assoc,
      scanString_escapeChar c (List.append_ne_nil_of_right_ne_nil _ (List.cons_ne_nil _ _)),
      ih (by omega)]
    rfl

/-! ## Numbers -/

/-- What may follow a number text: nothing that would continue it. -/
def NumberEnd (rest : List Char) : Prop :=
  ∀ c ∈ rest.head?, c.isDigit = false ∧ c ≠ '.' ∧ c ≠ 'e' ∧ c ≠ 'E'

lemma takeWhile_digits {ds R : List Char} (hd : ∀ c ∈ ds, c.isDigit)
    (hR : ∀ c ∈ R.head?, c.isDigit = false) :
    (ds ++ R).takeWhile Char.isDigit = ds ∧ (ds ++ R).dropWhile Char.isDigit = R := by
  rw [List.takeWhile_append_of_pos hd, List.dropWhile_append_of_pos hd]
  cases R with
  | nil => simp
  | cons c r =>
    simp only [List.head?_cons, Option.mem_def, Option.some.injEq, forall_eq'] at hR
    simp [hR]

lemma intPart_append {i R : List Char} (hi : IsIntText i)
    (hR : ∀ c ∈ R.head?, c.isDigit = false) :
    intPart (i ++ R) = some (i, R) := by
  rcases hi with rfl | ⟨⟨hne, hd⟩, h0⟩
  · rfl
  obtain ⟨c, ds, rfl⟩ := List.exists_cons_of_ne_nil hne
  have hc0 : c ≠ '0' := fun h => h0 (by rw [h]; rfl)
  have hds := takeWhile_digits (fun d hd' => hd d (List.mem_cons_of_mem c hd')) hR
  rw [List.cons_append, intPart, if_pos (hd c (List.mem_cons_self c ds)), hds.1, hds.2]
  exact hc0

lemma fracPart_append {f R : List Char} (hf : IsFracText f)
    (hR : ∀ c ∈ R.head?, c.isDigit = false ∧ c ≠ '.') : fracPart (f ++ R) = (f, R) := by
  rcases hf with rfl | ⟨ds, rfl, hne, hd⟩
  · cases R with
    | nil => rfl
    | cons c r =>
      have hc : c ≠ '.' := (hR c rfl).2
      rw [List.nil_append, fracPart]
      intro d r' h; exact hc (List.cons.inj h).1
  obtain ⟨d, ds, rfl⟩ := List.exists_cons_of_ne_nil hne
  have hds := takeWhile_digits (fun d hd' => hd d (List.mem_cons_of_mem _ hd'))
    (fun c hc => (hR c hc).1)
  rw [List.cons_append, List.cons_append, fracPart, if_pos (hd d (List.mem_cons_self d ds)), hds.1,
    hds.2]

lemma expPart_append {e R : List Char} (he : IsExpText e)
    (hR : ∀ c ∈ R.head?, c.isDigit = false ∧ c ≠ 'e' ∧ c ≠ 'E') :
    expPart (e ++ R) = (e, R) := by
  rcases he with rfl | ⟨s, ds, rfl, hs, hne, hd⟩
  · cases R with
    | nil => rfl
    | cons c r =>
      have hc := hR c rfl
      simp only [List.nil_append, expPart, if_neg (show ¬(c = 'e' ∨ c = 'E') by tauto)]
  obtain ⟨d, ds', rfl⟩ := List.exists_cons_of_ne_nil hne
  have hds := takeWhile_digits hd (fun c hc => (hR c hc).1)
  simp only [List.cons_append, expPart, true_or, if_true, if_pos hs]
  rw [← List.cons_append d ds', hds.1, hds.2]
  rfl

lemma head?_expText_append {e rest : List Char} (he : IsExpText e) (hr : NumberEnd rest) :
    ∀ c ∈ (e ++ rest).head?, c.isDigit = false ∧ c ≠ '.' := by
  rcases he with rfl | ⟨s, ds, rfl, -⟩
  · exact fun c hc => ⟨(hr c hc).1, (hr c hc).2.1⟩
  · rintro c ⟨⟩; decide

lemma head?_fracText_append {f R : List Char} (hf : IsFracText f)
    (hR : ∀ c ∈ R.head?, c.isDigit = false ∧ c ≠ '.') :
    ∀ c ∈ (f ++ R).head?, c.isDigit = false := by
  rcases hf with rfl | ⟨ds, rfl, -⟩
  · exact fun c hc => (hR c hc).1
  · rintro c ⟨⟩; rfl

/-- **Numbers read back.** `_match_number` reads a number text whole, when nothing that could
continue it follows. -/
lemma matchNumber_append {t rest : List Char} (ht : IsNumberText t) (hr : NumberEnd rest) :
    matchNumber (t ++ rest) = some (String.mk t, rest) := by
  obtain ⟨sign, i, f, e, rfl, hs, hi, hf, he⟩ := ht
  have hE := expPart_append he fun c hc => ⟨(hr c hc).1, (hr c hc).2.2⟩
  have hF := fracPart_append hf (head?_expText_append he hr)
  have hI := intPart_append hi (head?_fracText_append hf (head?_expText_append he hr))
  obtain ⟨c, is, rfl, hc⟩ := hi.exists_cons
  simp only [List.cons_append, List.append_assoc] at hI ⊢
  rcases hs with rfl | rfl
  · unfold matchNumber
    split
    rename_i heq
    split at heq
    · rename_i h
      exact absurd ((List.cons.inj h).1 ▸ hc) (by decide)
    · obtain ⟨rfl, rfl⟩ := Prod.mk.inj heq
      simp only [List.nil_append, hI, hF, hE, Option.bind_eq_bind, Option.some_bind,
        Option.pure_def, List.cons_append, List.append_assoc]
  · simp only [matchNumber, List.singleton_append, List.nil_append, hI, hF, hE,
      Option.bind_eq_bind,
      Option.some_bind, Option.pure_def, List.cons_append, List.append_assoc]
lemma head_eq_of_isPrefixOf {a c : Char} {u X : List Char}
    (h : (a :: u).isPrefixOf (c :: X) = true) :
    a = c ∧ u.isPrefixOf X = true := by
  simpa [List.isPrefixOf_cons₂] using h

/-- No named constant starts a number text. -/
lemma find?_constants_numberText {t : List Char} (ht : IsNumberText t) (rest : List Char) :
    constants.find? (fun w => w.1.data.isPrefixOf (t ++ rest)) = none := by
  obtain ⟨c, X, hc, hX⟩ := ht.exists_cons rest
  have hne : ∀ a : Char, a.isDigit = false → a ≠ c := fun a ha h => by
    rw [h, hc] at ha; cases ha
  rw [List.find?_eq_none]
  intro w hw h
  simp only [constants, List.mem_cons, List.not_mem_nil, or_false] at hw
  rcases hX with hX | hX <;> rw [hX] at h <;> rcases hw with rfl | rfl | rfl | rfl | rfl | rfl
  all_goals first
    | exact hne _ (by decide) (head_eq_of_isPrefixOf h).1
    | exact absurd (head_eq_of_isPrefixOf h).1 (by decide)
    | exact hne _ (by decide) (head_eq_of_isPrefixOf (head_eq_of_isPrefixOf h).2).1

/-- A number text is read as the number with that text. -/
lemma scanOnce_numberText {t rest : List Char} (ht : IsNumberText t) (hr : NumberEnd rest)
    (n : ℕ) :
    scanOnce (n + 1) (t ++ rest) = some (.number (String.mk t), rest) := by
  obtain ⟨c, X, hc, hX⟩ := ht.exists_cons rest
  rw [scanOnce, find?_constants_numberText ht rest, matchNumber_append ht hr]
  · rfl
  all_goals
    rcases hX with hX | hX <;> rw [hX] <;> (intro r h; cases h <;> cases hc)
/-! ## Values

Between the values of a list or a `dict` stand the item separator and the indentation, which
the scanner skips; the first character of a value is never whitespace nor a closing bracket
(`encode_eq_cons`).  `ReadsBack v` says the scanner reads `v` back wherever it is written; the
leaves have it directly, and a list or a `dict` has it when its elements do. -/

lemma skipWs_newlineIndent (level : ℕ) (cs : List Char) :
    skipWs (newlineIndent level ++ cs) = skipWs cs := by
  rw [skipWs, newlineIndent, List.cons_append, List.dropWhile_cons_of_pos (by decide),
    List.dropWhile_append_of_pos fun c hc => by rw [List.eq_of_mem_replicate hc]; rfl]
  rfl

lemma skipWs_cons {c : Char} (hc : isWs c = false) (cs : List Char) : skipWs (c :: cs) = c :: cs :=
  List.dropWhile_cons_of_neg (by simp [hc])

/-- A character that can start a written value: not whitespace, not a closing bracket, not a
byte order mark. -/
def OpensValue (c : Char) : Prop := isWs c = false ∧ c ≠ ']' ∧ c ≠ '}' ∧ c ≠ '\uFEFF'

instance : DecidablePred OpensValue := fun c =>
  inferInstanceAs (Decidable (isWs c = false ∧ c ≠ ']' ∧ c ≠ '}' ∧ c ≠ '\uFEFF'))

lemma opensValue_of_isDigit {c : Char} (h : c.isDigit) : OpensValue c := by
  have hne : ∀ a : Char, a.isDigit = false → c ≠ a := fun a ha hca => by
    rw [← hca, h] at ha; cases ha
  refine ⟨?_, hne _ rfl, hne _ rfl, hne _ rfl⟩
  simp only [isWs, Bool.or_eq_false_iff, decide_eq_false_iff_not]
  exact ⟨⟨⟨hne _ rfl, hne _ rfl⟩, hne _ rfl⟩, hne _ rfl⟩

/-- The first character of a written value opens it. -/
lemma encode_eq_cons (level : ℕ) (v : PyValue) :
    ∃ c cs, encode level v = c :: cs ∧ OpensValue c := by
  cases v with
  | none => exact ⟨'n', _, rfl, by decide⟩
  | num x hx =>
    obtain ⟨c, X, hc, hX | hX⟩ := (isNumberText_jsonText hx).exists_cons []
    · exact ⟨c, X, by simpa using hX, opensValue_of_isDigit hc⟩
    · exact ⟨'-', c :: X, by simpa using hX, by decide⟩
  | str s => exact ⟨'"', _, rfl, by decide⟩
  | list vs => cases vs <;> exact ⟨'[', _, rfl, by decide⟩
  | dict kvs => cases kvs <;> exact ⟨'{', _, rfl, by decide⟩

lemma skipWs_encode_append (level : ℕ) (v : PyValue) (cs : List Char) :
    skipWs (encode level v ++ cs) = encode level v ++ cs := by
  obtain ⟨c, r, h, hc, -⟩ := encode_eq_cons level v
  rw [h, List.cons_append, skipWs_cons hc]

lemma numberEnd_separator (cs : List Char) : NumberEnd (',' :: cs) := by rintro c ⟨⟩; decide

lemma numberEnd_newlineIndent (level : ℕ) (cs : List Char) :
    NumberEnd (newlineIndent level ++ cs) := by
  rintro c ⟨⟩; decide

/-- The scanner reads the text of `v`, written at any level, as `v.toJson`, with the length of
the text as fuel, whatever follows it that cannot continue a number. -/
def ReadsBack (v : PyValue) : Prop :=
  ∀ level n rest, (encode level v).length ≤ n → NumberEnd rest →
    scanOnce n (encode level v ++ rest) = some (v.toJson, rest)

/-- A written value is not empty, so fuel its length is a successor. -/
lemma exists_eq_succ_of_length_encode_le {level n : ℕ} {v : PyValue}
    (hn : (encode level v).length ≤ n) : ∃ m, n = m + 1 := by
  obtain ⟨c, cs, h, -⟩ := encode_eq_cons level v
  rw [h, List.length_cons] at hn
  exact ⟨n - 1, by omega⟩

lemma readsBack_none : ReadsBack .none := by
  intro level n rest hn _
  obtain ⟨m, rfl⟩ := exists_eq_succ_of_length_encode_le hn
  have hp : "null".data.isPrefixOf ("null".data ++ rest) :=
    List.isPrefixOf_iff_prefix.2 (List.prefix_append _ _)
  rw [encode, scanOnce, show constants = ("null", Json.null) :: constants.tail from rfl]
  · simp only [List.find?, hp]
    exact congrArg (fun r => some (Json.null, r)) (List.drop_left _ _)
  all_goals intro r h; exact absurd (List.cons.inj h).1 (by decide)

lemma readsBack_num {x : PyNum} (hx : x.IsFinite) : ReadsBack (.num x hx) := by
  intro level n rest hn hr
  obtain ⟨m, rfl⟩ := exists_eq_succ_of_length_encode_le hn
  exact scanOnce_numberText (isNumberText_jsonText hx) hr m

lemma length_le_flatMap_escapeChar (cs : List Char) :
    cs.length ≤ (cs.flatMap escapeChar).length := by
  induction cs with
  | nil => rfl
  | cons c cs ih =>
    have hc : escapeChar c ≠ [] := by
      unfold escapeChar escapeUnichar; split_ifs <;> (try split) <;> (try split_ifs) <;> simp
    rw [List.flatMap_cons, List.length_append, List.length_cons]
    have := List.length_pos.2 hc
    omega

lemma readsBack_str (s : String) : ReadsBack (.str s) := by
  intro level n rest hn _
  obtain ⟨m, rfl⟩ := exists_eq_succ_of_length_encode_le hn
  have hlen := length_le_flatMap_escapeChar s.data
  simp only [encode, encodeBasestringAscii, List.length_cons, List.length_append,
    List.length_singleton] at hn
  simp only [encode, encodeBasestringAscii, List.cons_append, List.append_assoc,
    List.singleton_append]
  rw [scanOnce, scanString_escape _ _ (by omega)]
  rfl

lemma readsBack_list_nil : ReadsBack (.list []) := by
  intro level n rest hn _
  obtain ⟨m, rfl⟩ := exists_eq_succ_of_length_encode_le hn
  rfl

lemma readsBack_dict_nil : ReadsBack (.dict []) := by
  intro level n rest hn _
  obtain ⟨m, rfl⟩ := exists_eq_succ_of_length_encode_le hn
  rfl

/-- **The elements of a list.** From its first element on, the scanner reads a written list up
to its closing bracket, when it can read each element. -/
lemma scanElements_encode (level m : ℕ) (rest : List Char) {v : PyValue} {vs : List PyValue}
    (hv : ReadsBack v) (hvs : ∀ w ∈ vs, ReadsBack w) (acc : List Json) {n : ℕ}
    (hn : (encode level v ++ encodeElems level vs).length < n) :
    scanElements n acc (encode level v ++ encodeElems level vs ++ newlineIndent m ++ ']' :: rest) =
      some (.array (acc ++ v.toJson :: vs.map PyValue.toJson), rest) := by
  induction vs generalizing v acc n with
  | nil =>
    obtain ⟨k, rfl⟩ := Nat.exists_eq_succ_of_ne_zero (by omega : n ≠ 0)
    simp only [encodeElems, List.append_nil, List.length_append, List.length_nil] at hn ⊢
    rw [scanElements, List.append_assoc, hv level k _ (by omega) (numberEnd_newlineIndent m _)]
    simp only [Option.bind_eq_bind, Option.some_bind, skipWs_newlineIndent]
    rw [skipWs_cons (by decide)]
    rfl
  | cons w ws ih =>
    obtain ⟨k, rfl⟩ := Nat.exists_eq_succ_of_ne_zero (by omega : n ≠ 0)
    simp only [encodeElems, List.length_append, List.length_cons] at hn
    simp only [encodeElems, List.cons_append, List.append_assoc]
    rw [scanElements, hv level k _ (by omega) (numberEnd_separator _)]
    simp only [Option.bind_eq_bind, Option.some_bind]
    rw [skipWs_cons (by decide)]
    show scanElements k _ (skipWs _) = _
    obtain ⟨hw, hws⟩ := List.forall_mem_cons.1 hvs
    have h := ih hw hws (acc ++ [v.toJson]) (n := k) (by simp only [List.length_append]; omega)
    simp only [List.append_assoc] at h
    rw [skipWs_newlineIndent, skipWs_encode_append, h]
    simp

lemma readsBack_list {v : PyValue} {vs : List PyValue} (hv : ReadsBack v)
    (hvs : ∀ w ∈ vs, ReadsBack w) : ReadsBack (.list (v :: vs)) := by
  intro level n rest hn _
  simp only [encode, List.length_cons, List.length_append, List.length_singleton] at hn
  obtain ⟨k, rfl⟩ := Nat.exists_eq_succ_of_ne_zero (by omega : n ≠ 0)
  obtain ⟨c, cs, hc, hop⟩ := encode_eq_cons (level + 1) v
  simp only [encode, List.cons_append, List.append_assoc, List.singleton_append]
  rw [scanOnce, skipWs_newlineIndent, skipWs_encode_append]
  split
  · rename_i heq
    rw [← List.append_assoc, hc, List.cons_append] at heq
    exact absurd (List.cons.inj heq).1 hop.2.1
  · have h := scanElements_encode (level + 1) level rest hv hvs [] (n := k)
      (by simp only [List.length_append]; omega)
    simpa only [List.append_assoc, List.nil_append, PyValue.toJson, PyValue.toJsonList_eq_map,
      List.map_cons] using h

/-- One item of a `dict`: the scanner reads its key, the colon and its value, and sets the item. -/
lemma scanMembers_encodeItem {level k : ℕ} (key : Option String) {v : PyValue} (hv : ReadsBack v)
    (acc : List (PyStr × Json)) {R : List Char} (hR : NumberEnd R)
    (hn : (encodeItem level (key, v)).length ≤ k) :
    scanMembers (k + 1) acc (encodeItem level (key, v) ++ R) =
      match skipWs R with
      | '}' :: r => some (.object (setItem (pyStr (keyText key)) v.toJson acc), r)
      | ',' :: r => scanMembers k (setItem (pyStr (keyText key)) v.toJson acc) (skipWs r)
      | _ => none := by
  have hlen := length_le_flatMap_escapeChar (keyText key).data
  simp only [encodeItem, encodeBasestringAscii, List.length_append, List.length_cons,
    List.length_singleton] at hn
  simp only [encodeItem, encodeBasestringAscii, List.cons_append, List.append_assoc,
    List.singleton_append]
  rw [scanMembers, scanString_escape _ _ (by omega)]
  simp only [Option.bind_eq_bind, Option.some_bind, List.nil_append]
  rw [skipWs_cons (by decide)]
  show (scanOnce k (skipWs (' ' :: (encode level v ++ R)))).bind _ = _
  rw [skipWs, List.dropWhile_cons_of_pos (by decide), ← skipWs, skipWs_encode_append,
    hv level k R (by omega) hR, Option.some_bind]
  rfl

lemma skipWs_encodeItem_append (level : ℕ) (kv : Option String × PyValue) (cs : List Char) :
    skipWs (encodeItem level kv ++ cs) = encodeItem level kv ++ cs := by
  obtain ⟨key, v⟩ := kv
  simp only [encodeItem, encodeBasestringAscii, List.cons_append]
  exact skipWs_cons (by decide) _

/-- **The items of a `dict`.** From its first key on, the scanner reads a written `dict` up to its
closing brace, setting the items one by one, when it can read each value. -/
lemma scanMembers_encode (level m : ℕ) (rest : List Char) {kv : Option String × PyValue}
    {kvs : List (Option String × PyValue)} (hkv : ReadsBack kv.2)
    (hkvs : ∀ p ∈ kvs, ReadsBack p.2)
    (acc : List (PyStr × Json)) {n : ℕ}
    (hn : (encodeItem level kv ++ encodeItems level kvs).length < n) :
    scanMembers n acc
        (encodeItem level kv ++ encodeItems level kvs ++ newlineIndent m ++ '}' :: rest) =
      some (.object (PyValue.toJsonItems acc (kv :: kvs)), rest) := by
  obtain ⟨key, v⟩ := kv
  induction kvs generalizing key v acc n with
  | nil =>
    obtain ⟨k, rfl⟩ := Nat.exists_eq_succ_of_ne_zero (by omega : n ≠ 0)
    simp only [encodeItems, List.append_nil, List.length_append, List.length_nil] at hn ⊢
    rw [List.append_assoc,
      scanMembers_encodeItem (v := v) key hkv acc (numberEnd_newlineIndent m _) (by omega),
      skipWs_newlineIndent, skipWs_cons (by decide)]
    rfl
  | cons kv' kvs ih =>
    obtain ⟨key', v'⟩ := kv'
    obtain ⟨k, rfl⟩ := Nat.exists_eq_succ_of_ne_zero (by omega : n ≠ 0)
    simp only [encodeItems, List.length_append, List.length_cons] at hn
    simp only [encodeItems, List.cons_append, List.append_assoc]
    rw [scanMembers_encodeItem (v := v) key hkv acc (numberEnd_separator _) (by omega),
      skipWs_cons (by decide)]
    show scanMembers k _ (skipWs _) = _
    obtain ⟨hkv', hkvs'⟩ := List.forall_mem_cons.1 hkvs
    have h := ih hkvs' (setItem (pyStr (keyText key)) v.toJson acc) (n := k) key' v' hkv'
      (by simp only [List.length_append]; omega)
    simp only [List.append_assoc] at h
    rw [skipWs_newlineIndent, skipWs_encodeItem_append, h]
    rfl

lemma readsBack_dict {kv : Option String × PyValue} {kvs : List (Option String × PyValue)}
    (hkv : ReadsBack kv.2) (hkvs : ∀ p ∈ kvs, ReadsBack p.2) :
    ReadsBack (.dict (kv :: kvs)) := by
  intro level n rest hn _
  simp only [encode, List.length_cons, List.length_append, List.length_singleton] at hn
  obtain ⟨k, rfl⟩ := Nat.exists_eq_succ_of_ne_zero (by omega : n ≠ 0)
  simp only [encode, List.cons_append, List.append_assoc, List.singleton_append]
  rw [scanOnce, skipWs_newlineIndent, skipWs_encodeItem_append]
  split
  · rename_i heq
    obtain ⟨key, v⟩ := kv
    simp only [encodeItem, encodeBasestringAscii, List.cons_append, List.cons.injEq] at heq
    exact absurd heq.1 (by decide)
  · have h := scanMembers_encode (level + 1) level rest hkv hkvs [] (n := k)
      (by simp only [List.length_append]; omega)
    simpa only [List.append_assoc, PyValue.toJson] using h

/-! ## Keys

`json.dumps` writes a `None` key as `"null"`, so a `dict` with both a `None` key and a key
`"null"` comes back with one item for the two.  Otherwise its items come back in order. -/

lemma pyStr_injective : Function.Injective pyStr := by
  intro a b h
  have hc : Function.Injective Char.toNat := fun c d hcd => by
    rw [← Char.ofNat_toNat c, hcd, Char.ofNat_toNat]
  cases a; cases b
  exact congrArg String.mk (List.map_injective_iff.2 hc h)

lemma keyText_eq_keyText {a b : Option String} :
    keyText a = keyText b ↔
      a = b ∨ a = none ∧ b = some "null" ∨ a = some "null" ∧ b = none := by
  cases a <;> cases b <;> simp [keyText, eq_comm]

lemma setItem_of_not_mem {k : PyStr} (v : Json) {acc : List (PyStr × Json)}
    (h : k ∉ acc.map Prod.fst) : Json.setItem k v acc = acc ++ [(k, v)] := by
  induction acc with
  | nil => rfl
  | cons p acc ih =>
    simp only [List.map_cons, List.mem_cons, not_or] at h
    rw [Json.setItem, if_neg (Ne.symm h.1), ih h.2]
    rfl

lemma toJsonItems_of_nodup (acc : List (PyStr × Json)) {kvs : List (Option String × PyValue)}
    (h : (acc.map Prod.fst ++ kvs.map fun p => pyStr (keyText p.1)).Nodup) :
    PyValue.toJsonItems acc kvs = acc ++ kvs.map fun p => (pyStr (keyText p.1), p.2.toJson) := by
  induction kvs generalizing acc with
  | nil => simp [PyValue.toJsonItems]
  | cons kv kvs ih =>
    obtain ⟨k, v⟩ := kv
    simp only [List.map_cons, List.nodup_append, List.nodup_cons] at h
    have hk : pyStr (keyText k) ∉ acc.map Prod.fst := fun hm => h.2.2 hm (List.mem_cons_self _ _)
    rw [PyValue.toJsonItems, setItem_of_not_mem _ hk, ih, List.append_assoc]
    · rfl
    · simp only [List.map_append, List.map_cons, List.map_nil]
      rw [List.append_assoc, List.singleton_append]
      simpa only [List.nodup_append, List.nodup_cons] using h

/-- `setItem` keeps the place of a key it already has and puts a new key last. -/
lemma map_fst_setItem (k : PyStr) (v : Json) (acc : List (PyStr × Json)) :
    (Json.setItem k v acc).map Prod.fst =
      if k ∈ acc.map Prod.fst then acc.map Prod.fst else acc.map Prod.fst ++ [k] := by
  induction acc with
  | nil => rfl
  | cons p acc ih =>
    obtain ⟨k', v'⟩ := p
    rw [Json.setItem]
    by_cases hp : k' = k
    · subst hp
      simp
    · rw [if_neg hp, List.map_cons, List.map_cons, ih]
      by_cases hk : k ∈ acc.map Prod.fst <;> simp [hk, Ne.symm hp]

/-- The keys of a decoded object are distinct, and each is the text of a key written. -/
lemma keys_toJsonItems (acc : List (PyStr × Json)) (h : (acc.map Prod.fst).Nodup)
    (kvs : List (Option String × PyValue)) :
    ((PyValue.toJsonItems acc kvs).map Prod.fst).Nodup ∧
      ∀ k ∈ (PyValue.toJsonItems acc kvs).map Prod.fst,
        k ∈ acc.map Prod.fst ∨ k ∈ kvs.map fun p => pyStr (keyText p.1) := by
  induction kvs generalizing acc with
  | nil => exact ⟨h, fun k hk => Or.inl hk⟩
  | cons kv kvs ih =>
    obtain ⟨key, v⟩ := kv
    have hs := map_fst_setItem (pyStr (keyText key)) v.toJson acc
    have hnd : ((Json.setItem (pyStr (keyText key)) v.toJson acc).map Prod.fst).Nodup := by
      rw [hs]
      split_ifs with hk
      exacts [h, h.append (List.nodup_singleton _) (by simpa using hk)]
    refine ⟨(ih _ hnd).1, fun k hk => ?_⟩
    rcases (ih _ hnd).2 k hk with hk' | hk'
    · rw [hs] at hk'
      split_ifs at hk'
      · exact Or.inl hk'
      · rcases List.mem_append.1 hk' with hk' | hk'
        · exact Or.inl hk'
        · exact Or.inr (by simp [List.eq_of_mem_singleton hk'])
    · exact Or.inr (List.mem_cons_of_mem _ hk')

/-- **Items written with the same key text merge**: the decoded object is shorter than the
`dict`. -/
lemma length_toJsonItems_lt (kvs : List (Option String × PyValue))
    (h : ¬(kvs.map fun p => pyStr (keyText p.1)).Nodup) :
    (PyValue.toJsonItems [] kvs).length < kvs.length := by
  obtain ⟨hnd, hsub⟩ := keys_toJsonItems [] List.nodup_nil kvs
  set L := kvs.map fun p => pyStr (keyText p.1)
  have hle : ((PyValue.toJsonItems [] kvs).map Prod.fst).length ≤ L.dedup.length :=
    (List.subperm_of_subset hnd fun k hk => List.mem_dedup.2
      ((hsub k hk).resolve_left (List.not_mem_nil k))).length_le
  have hlt : L.dedup.length < L.length :=
    lt_of_le_of_ne (List.dedup_sublist L).length_le fun he =>
      h ((List.dedup_sublist L).eq_of_length he ▸ List.nodup_dedup L)
  simpa [L] using lt_of_le_of_lt hle hlt

/-- **A `dict` comes back item by item** when its keys are distinct and do not include both
`None` and `"null"`: each key as its text, each value read back, in order. -/
theorem toJsonItems_eq_map {kvs : List (Option String × PyValue)} (hk : (kvs.map Prod.fst).Nodup)
    (hnull : ¬(none ∈ kvs.map Prod.fst ∧ some "null" ∈ kvs.map Prod.fst)) :
    PyValue.toJsonItems [] kvs = kvs.map fun p => (pyStr (keyText p.1), p.2.toJson) := by
  have hnd : (kvs.map fun p => pyStr (keyText p.1)).Nodup := by
    rw [show (fun p : Option String × PyValue => pyStr (keyText p.1)) =
      (pyStr ∘ keyText) ∘ Prod.fst from rfl, ← List.map_map]
    refine hk.map_on fun a ha b hb hab => ?_
    rcases keyText_eq_keyText.1 (pyStr_injective hab) with h | ⟨rfl, rfl⟩ | ⟨rfl, rfl⟩
    exacts [h, absurd ⟨ha, hb⟩ hnull, absurd ⟨hb, ha⟩ hnull]
  simpa using toJsonItems_of_nodup [] (by simpa using hnd)

mutual

/-- **Every written value reads back**, by induction over the value: the leaves directly, a
list and a `dict` from their elements. -/
theorem readsBack : ∀ v : PyValue, ReadsBack v
  | .none => readsBack_none
  | .num _ hx => readsBack_num hx
  | .str s => readsBack_str s
  | .list [] => readsBack_list_nil
  | .list (v :: vs) => readsBack_list (readsBack v) (readsBack_forall vs)
  | .dict [] => readsBack_dict_nil
  | .dict ((_, v) :: kvs) => readsBack_dict (readsBack v) (readsBack_forall_items kvs)

theorem readsBack_forall : ∀ vs : List PyValue, ∀ w ∈ vs, ReadsBack w
  | [] => fun w h => absurd h (List.not_mem_nil w)
  | v :: vs => List.forall_mem_cons.2 ⟨readsBack v, readsBack_forall vs⟩

theorem readsBack_forall_items :
    ∀ kvs : List (Option String × PyValue), ∀ p ∈ kvs, ReadsBack p.2
  | [] => fun p h => absurd h (List.not_mem_nil p)
  | (_, v) :: kvs => List.forall_mem_cons.2 ⟨readsBack v, readsBack_forall_items kvs⟩

end

end Json

/-- **`json.loads(json.dumps(v, indent=2))`** gives back `v`: its numbers as their texts, its
strings as their code points, its `dict`s with their items set one by one. -/
theorem loads_dumps (v : PyValue) : loads (dumps v) = some v.toJson := by
  obtain ⟨c, cs, hc, hop⟩ := Json.encode_eq_cons 0 v
  have hs : Json.skipWs (encode 0 v) = encode 0 v := by
    simpa using Json.skipWs_encode_append 0 v []
  have h := Json.readsBack v 0 ((encode 0 v).length + 1) [] (Nat.le_succ _) (by rintro c ⟨⟩)
  rw [List.append_nil] at h
  have hb : (dumps v).data.head? ≠ some '\uFEFF' := by
    rw [show (dumps v).data = encode 0 v from rfl, hc]
    exact fun h' => hop.2.2.2 (Option.some.inj h')
  unfold loads
  rw [if_neg hb]
  show (match Json.scanOnce ((encode 0 v).length + 1) (Json.skipWs (encode 0 v)) with
    | some (v, r) => if Json.skipWs r = [] then some v else none
    | none => none) = _
  rw [hs, h]
  rfl

end SecurityCompliance
