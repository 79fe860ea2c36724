import SecurityCompliance.Python.Json
import SecurityCompliance.Python.Repr

/-!
# `json.dumps(obj, indent=2)`

Both scripts write a JSON file with `indent=2`: `generate_json_report` returns
`json.dumps(report, indent=2)` and `generate_dashboard` calls `json.dump(dashboard_data, f,
indent=2)`, which writes the same text.  With an indent, CPython encodes with the pure Python
`_make_iterencode`: `None` as `null`, an `int` and a `float` with their `__repr__`, a `str`
with `py_encode_basestring_ascii` (`ensure_ascii`), and a `list` or a `dict` with each item on
its own line, indented two spaces a level, after `","` and with `": "` between a key and its
value.  An empty `list` or `dict` is `[]` or `{}`, and a `None` key is written `"null"`.

`PyValue` holds the values the reports contain and `encode` is `_iterencode`.  A `float` of
Python is a binary64 value, so `PyValue.num` carries that fact.  `PyValue.toJson` is the value
`json.loads` should give back for the text: `Python/JsonRoundTrip.lean` proves it does.  The
numbers `json.dumps` writes have the shape `_match_number` reads (`isNumberText_jsonText`).
-/

namespace SecurityCompliance

open PyFloat

/-! ## Strings -/

/-- `S_CHAR`: the characters `ensure_ascii` writes as themselves, printable ASCII but the quote
and the backslash. -/
def isPlainChar (c : Char) : Bool :=
  0x20 ≤ c.toNat && c.toNat ≤ 0x7e && c != '\\' && c != '"'

/-- The four lowercase hexadecimal digits of a code unit. -/
def hex4Text (u : ℕ) : List Char :=
  [Nat.digitChar (u / 4096 % 16), Nat.digitChar (u / 256 % 16), Nat.digitChar (u / 16 % 16),
    Nat.digitChar (u % 16)]

/-- `ascii_escape_unichar`: a two-character escape, or `\uXXXX`, or beyond the basic plane a
surrogate pair of them. -/
def escapeUnichar (c : Char) : List Char :=
  match c with
  | '\\' => ['\\', '\\']
  | '"' => ['\\', '"']
  | '\x08' => ['\\', 'b']
  | '\x0c' => ['\\', 'f']
  | '\n' => ['\\', 'n']
  | '\r' => ['\\', 'r']
  | '\t' => ['\\', 't']
  | c =>
    if 0x10000 ≤ c.toNat then
      '\\' :: 'u' :: hex4Text (0xd800 + (c.toNat - 0x10000) / 0x400) ++
        '\\' :: 'u' :: hex4Text (0xdc00 + (c.toNat - 0x10000) % 0x400)
    else '\\' :: 'u' :: hex4Text c.toNat

/-- One character of `ascii_escape_unicode`: a plain one as itself, any other escaped. -/
def escapeChar (c : Char) : List Char := if isPlainChar c then [c] else escapeUnichar c

/-- `py_encode_basestring_ascii`: the string, escaped, between quotes. -/
def encodeBasestringAscii (s : String) : List Char := '"' :: s.data.flatMap escapeChar ++ ['"']

/-! ## Numbers

`int.__repr__` and `float.__repr__` write an optional `-`, an integer part that is `0` or does
not start with `0`, an optional fraction and an optional exponent `e±dd`. -/

/-- `[0-9]+`. -/
def IsDigits (ds : List Char) : Prop := ds ≠ [] ∧ ∀ c ∈ ds, c.isDigit

/-- The integer part of a number text: `0`, or digits that do not start with `0`. -/
def IsIntText (i : List Char) : Prop := i = ['0'] ∨ IsDigits i ∧ i.head? ≠ some '0'

/-- The fraction of a number text: nothing, or a point and digits. -/
def IsFracText (f : List Char) : Prop := f = [] ∨ ∃ ds, f = '.' :: ds ∧ IsDigits ds

/-- The exponent `float.__repr__` writes: nothing, or `e`, a sign and digits. -/
def IsExpText (e : List Char) : Prop :=
  e = [] ∨ ∃ s ds, e = 'e' :: s :: ds ∧ (s = '+' ∨ s = '-') ∧ IsDigits ds

/-- The text of a number as `json.dumps` writes it. -/
def IsNumberText (t : List Char) : Prop :=
  ∃ sign i f e, t = sign ++ i ++ f ++ e ∧ (sign = [] ∨ sign = ['-']) ∧ IsIntText i ∧
    IsFracText f ∧ IsExpText e

lemma IsIntText.exists_cons {i : List Char} (hi : IsIntText i) :
    ∃ c is, i = c :: is ∧ c.isDigit := by
  rcases hi with rfl | ⟨⟨hne, hd⟩, -⟩
  · exact ⟨'0', [], rfl, rfl⟩
  · obtain ⟨c, is, rfl⟩ := List.exists_cons_of_ne_nil hne
    exact ⟨c, is, rfl, hd c (List.mem_cons_self c is)⟩

lemma IsNumberText.exists_cons {t : List Char} (ht : IsNumberText t) (rest : List Char) :
    ∃ c X, c.isDigit ∧ (t ++ rest = c :: X ∨ t ++ rest = '-' :: c :: X) := by
  obtain ⟨sign, i, f, e, rfl, hs, hi, -, -⟩ := ht
  obtain ⟨c, is, rfl, hc⟩ := hi.exists_cons
  refine ⟨c, is ++ f ++ e ++ rest, hc, ?_⟩
  rcases hs with rfl | rfl
  exacts [Or.inl (by simp), Or.inr (by simp)]

lemma isDigits_toDigits (m : ℕ) : IsDigits (Nat.toDigits 10 m) := by
  refine ⟨?_, fun _ h => isDigit_of_mem_toDigits h⟩
  rcases Nat.eq_zero_or_pos m with rfl | hm
  · decide
  · obtain ⟨c, cs, h, -⟩ := toDigits_eq_cons hm
    rw [h]; exact List.cons_ne_nil c cs

lemma isIntText_toDigits (m : ℕ) : IsIntText (Nat.toDigits 10 m) := by
  rcases Nat.eq_zero_or_pos m with rfl | hm
  · exact Or.inl rfl
  · obtain ⟨c, cs, h, hc⟩ := toDigits_eq_cons hm
    exact Or.inr ⟨isDigits_toDigits m, by rw [h]; simpa using hc⟩

lemma isNumberText_toString (n : ℤ) : IsNumberText (toString n).data := by
  cases n with
  | ofNat m =>
    exact ⟨[], Nat.toDigits 10 m, [], [], by simp only [List.nil_append, List.append_nil]; rfl,
      Or.inl rfl, isIntText_toDigits m, Or.inl rfl, Or.inl rfl⟩
  | negSucc m =>
    exact ⟨['-'], Nat.toDigits 10 (m + 1), [], [], by simp only [List.append_nil]; rfl,
      Or.inr rfl, isIntText_toDigits _, Or.inl rfl, Or.inl rfl⟩

lemma isExpText_exponentText (e : ℤ) : IsExpText ('e' :: exponentText e) := by
  refine Or.inr ⟨_, _, rfl, by split_ifs <;> simp, ?_⟩
  split_ifs
  · exact ⟨List.cons_ne_nil _ _, List.forall_mem_cons.2 ⟨rfl, (isDigits_toDigits _).2⟩⟩
  · exact isDigits_toDigits _

/-- Each branch of `format_float_short` writes an integer part, a fraction and an exponent of
the form the scanner reads, when the digits start with a digit other than `0`. -/
lemma isNumberText_formatShort {c : Char} {t : List Char} (hc : c.isDigit) (hc0 : c ≠ '0')
    (ht : ∀ d ∈ t, d.isDigit) (decpt : ℤ) :
    ∃ i f e, formatShort (c :: t) decpt = i ++ f ++ e ∧ IsIntText i ∧ IsFracText f ∧
      IsExpText e := by
  have hint : ∀ l, (∀ d ∈ l, d.isDigit) → IsIntText (c :: l) := fun l hl =>
    Or.inr ⟨⟨List.cons_ne_nil _ _, List.forall_mem_cons.2 ⟨hc, hl⟩⟩, by simpa using hc0⟩
  have hzeros : ∀ k, ∀ d ∈ List.replicate k '0', d.isDigit := fun k d hd => by
    rw [List.eq_of_mem_replicate hd]; rfl
  have hct : ∀ d ∈ c :: t, d.isDigit := List.forall_mem_cons.2 ⟨hc, ht⟩
  unfold formatShort
  split_ifs with h1 h2 h3 h4
  · exact ⟨[c], '.' :: t, 'e' :: exponentText (decpt - 1), by simp, hint [] (by simp),
      Or.inr ⟨t, rfl, List.ne_nil_of_length_pos (by simpa using h2), ht⟩,
      isExpText_exponentText _⟩
  · exact ⟨[c], [], 'e' :: exponentText (decpt - 1), by simp, hint [] (by simp), Or.inl rfl,
      isExpText_exponentText _⟩
  · refine ⟨['0'], '.' :: (List.replicate (-decpt).toNat '0' ++ c :: t), [], by simp, Or.inl rfl,
      Or.inr ⟨_, rfl, by simp, fun d hd => ?_⟩, Or.inl rfl⟩
    rcases List.mem_append.1 hd with hd | hd
    exacts [hzeros _ d hd, hct d hd]
  · obtain ⟨k, hk⟩ : ∃ k, decpt.toNat = k + 1 := ⟨decpt.toNat - 1, by omega⟩
    rw [hk] at h4 ⊢
    refine ⟨c :: t.take k, '.' :: t.drop k, [], by simp,
      hint _ fun d hd => ht d (List.mem_of_mem_take hd),
      Or.inr ⟨_, rfl, ?_, fun d hd => ht d (List.mem_of_mem_drop hd)⟩, Or.inl rfl⟩
    simpa [List.drop_eq_nil_iff] using h4
  · refine ⟨c :: t ++ List.replicate (decpt.toNat - (c :: t).length) '0', ['.', '0'], [],
      by simp, ?_,
      Or.inr ⟨['0'], rfl, by simp, by simp⟩, Or.inl rfl⟩
    rw [List.cons_append]
    exact hint _ fun d hd => (List.mem_append.1 hd).elim (ht d) (hzeros _ d)

lemma isNumberText_floatRepr {x : ℚ} (hx : IsBinary64 x) : IsNumberText (floatRepr x).data := by
  unfold floatRepr
  by_cases h0 : x = 0
  · rw [if_pos h0]
    exact ⟨[], ['0'], ['.', '0'], [], rfl, Or.inl rfl, Or.inl rfl,
      Or.inr ⟨['0'], rfl, by simp, by simp⟩, Or.inl rfl⟩
  rw [if_neg h0]
  have hm := pos_shortestDigits (isBinary64_abs hx) (abs_pos.2 h0)
  obtain ⟨c, t, hct, hc, hc0⟩ := stripZeros_toDigits_eq_cons (n := (shortestDigits |x|).1.toNat)
    (by omega)
  obtain ⟨i, f, e, heq, hi, hf, he⟩ := isNumberText_formatShort hc hc0
    (fun d hd => isDigit_of_mem_stripZeros (by rw [hct]; exact List.mem_cons_of_mem c hd))
    ((Nat.toDigits 10 (shortestDigits |x|).1.toNat).length + (shortestDigits |x|).2)
  dsimp only
  rw [hct, heq]
  exact ⟨if x < 0 then ['-'] else [], i, f, e, by simp only [List.append_assoc],
    by split_ifs <;> simp, hi, hf, he⟩

/-- **Every number `json.dumps` writes has the shape `_match_number` reads.** -/
lemma isNumberText_jsonText {v : PyNum} (hv : v.IsFinite) : IsNumberText v.jsonText.data := by
  cases v with
  | int n => exact isNumberText_toString n
  | float x => exact isNumberText_floatRepr hv

/-! ## Values -/

/-- The values the two reports hold: `None`, numbers, strings, lists and `dict`s, whose keys
are strings or `None`. -/
inductive PyValue where
  | none
  | num (n : PyNum) (finite : n.IsFinite)
  | str (s : String)
  | list (elems : List PyValue)
  | dict (items : List (Option String × PyValue))

/-- `'\n' + _indent * _current_indent_level` with `indent=2`. -/
def newlineIndent (level : ℕ) : List Char := '\n' :: List.replicate (2 * level) ' '

/-- A key of `_iterencode_dict`: a `str` as itself, `None` as `"null"`. -/
def keyText : Option String → String
  | some s => s
  | none => "null"

mutual

/-- `_iterencode(o, _current_indent_level)`, its chunks joined. -/
def encode (level : ℕ) : PyValue → List Char
  | .none => "null".data
  | .num n _ => n.jsonText.data
  | .str s => encodeBasestringAscii s
  | .list [] => ['[', ']']
  | .list (v :: vs) =>
    '[' :: newlineIndent (level + 1) ++ encode (level + 1) v ++ encodeElems (level + 1) vs ++
      newlineIndent level ++ [']']
  | .dict [] => ['{', '}']
  | .dict (kv :: kvs) =>
    '{' :: newlineIndent (level + 1) ++ encodeItem (level + 1) kv ++
      encodeItems (level + 1) kvs ++ newlineIndent level ++ ['}']

/-- One item of `_iterencode_dict`: the key, `": "`, the value. -/
def encodeItem (level : ℕ) : Option String × PyValue → List Char
  | (k, v) => encodeBasestringAscii (keyText k) ++ ':' :: ' ' :: encode level v

/-- The elements of a list after the first, each after the item separator. -/
def encodeElems (level : ℕ) : List PyValue → List Char
  | [] => []
  | v :: vs => ',' :: newlineIndent level ++ encode level v ++ encodeElems level vs

/-- The items of a `dict` after the first, each after the item separator. -/
def encodeItems (level : ℕ) : List (Option String × PyValue) → List Char
  | [] => []
  | kv :: kvs => ',' :: newlineIndent level ++ encodeItem level kv ++ encodeItems level kvs

end

/-- `json.dumps(v, indent=2)`. -/
def dumps (v : PyValue) : String := ⟨encode 0 v⟩

example : dumps (.dict [(some "a", .list [.none, .str "é"]), (none, .dict [])]) =
    "\x7b\n  \"a\": [\n    null,\n    \"\\u00e9\"\n  ],\n  \"null\": \x7b\x7d\n\x7d" := by decide

mutual

/-- The value `json.loads` gives for the text of a value: a number as its text, a string as
its code points, and a `dict` with its items set one by one, as the scanner does. -/
def PyValue.toJson : PyValue → Json
  | .none => .null
  | .num n _ => .number n.jsonText
  | .str s => .str (pyStr s)
  | .list vs => .array (PyValue.toJsonList vs)
  | .dict kvs => .object (PyValue.toJsonItems [] kvs)

def PyValue.toJsonList : List PyValue → List Json
  | [] => []
  | v :: vs => v.toJson :: PyValue.toJsonList vs

def PyValue.toJsonItems (acc : List (PyStr × Json)) :
    List (Option String × PyValue) → List (PyStr × Json)
  | [] => acc
  | (k, v) :: kvs => PyValue.toJsonItems (Json.setItem (pyStr (keyText k)) v.toJson acc) kvs

end

@[simp] lemma PyValue.toJsonList_eq_map (vs : List PyValue) :
    PyValue.toJsonList vs = vs.map PyValue.toJson := by
  induction vs with
  | nil => rfl
  | cons v vs ih => rw [PyValue.toJsonList, ih, List.map_cons]

end SecurityCompliance
