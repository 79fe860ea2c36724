import Mathlib.Data.List.Basic

/-!
# `json.loads` and the Python operations the audit applies to its result

`run_security_audit` parses the standard output of `cargo audit --json` and of
`cargo deny check --format json` with `json.loads`, then reads the result with `.get`,
`len` and a list comprehension. This file models those four library operations. What it is
for is their error paths: each one raises on part of its input, and which exception it raises
decides whether `run_security_audit` catches it (`Dashboard/Audit.lean`).

`loads` follows the C scanner of CPython's `json` module. It skips `[ \t\n\r]` around the one
value. It reads `null`, `true`, `false`, `NaN`, `Infinity` and `-Infinity`, numbers of the
form `-?(0|[1-9][0-9]*)(\.[0-9]+)?([eE][-+]?[0-9]+)?`, and strings, where control characters
are refused and `\uXXXX` escapes join surrogate pairs. Arrays and objects may not have a
trailing comma. An object keeps its first position for a repeated key and takes the last
value. Every failure is one `JSONDecodeError`, `none` here. A decoded string is a list of code
points, since an escape can produce a lone surrogate, which no `Char` holds.

On the decoded value, `get` exists only on a `dict`. `len` exists on a list, a `dict` and a
`str`. Iteration yields a list's elements, a `dict`'s keys and a `str`'s characters. The one
fact the audit's counts rest on is that iterating a value yields as many items as its
length (`len_eq_of_iter_eq`).
-/

namespace SecurityCompliance

/-- A Python `str`, as its code points. -/
abbrev PyStr := List ℕ

/-- The Python `str` of a Lean string literal. -/
def pyStr (s : String) : PyStr := s.data.map Char.toNat

/-- A value `json.loads` returns; a number keeps the text it was read from. -/
inductive Json where
  | null
  | bool (b : Bool)
  | number (text : String)
  | str (s : PyStr)
  | array (elems : List Json)
  | object (members : List (PyStr × Json))
deriving Inhabited, Repr

/-- The exceptions the audit's parsing and reading can raise. -/
inductive PyException where
  | jsonDecodeError
  | attributeError
  | typeError
deriving DecidableEq, Repr

namespace Except

/-! ## Raising

A Python statement sequence is a chain of `Except` binds: it returns when every step does, and
raises what the first raising step raises. -/

variable {ε α β : Type} {x : Except ε α}

lemma bind_eq_ok {f : α → Except ε β} {b : β} :
    x >>= f = .ok b ↔ ∃ a, x = .ok a ∧ f a = .ok b := by
  cases x <;> simp [bind, Except.bind]

lemma exists_bind_eq_ok {f : α → Except ε β} :
    (∃ b, x >>= f = .ok b) ↔ ∃ a, x = .ok a ∧ ∃ b, f a = .ok b := by
  cases x <;> simp [bind, Except.bind]

lemma bind_eq_error {f : α → Except ε β} {e : ε} :
    x >>= f = .error e ↔ x = .error e ∨ ∃ a, x = .ok a ∧ f a = .error e := by
  cases x <;> simp [bind, Except.bind]

lemma map_eq_ok {g : α → β} {b : β} : g <$> x = .ok b ↔ ∃ a, x = .ok a ∧ g a = b := by
  cases x <;> simp [Functor.map, Except.map]

lemma exists_map_eq_ok {g : α → β} : (∃ b, g <$> x = .ok b) ↔ ∃ a, x = .ok a := by
  cases x <;> simp [Functor.map, Except.map]

lemma map_eq_error {g : α → β} {e : ε} : g <$> x = .error e ↔ x = .error e := by
  cases x <;> simp [Functor.map, Except.map]

end Except

namespace Json

/-! ## Strings -/

/-- `IS_WHITESPACE` of the scanner. -/
def isWs (c : Char) : Bool := c = ' ' || c = '\t' || c = '\n' || c = '\r'

/-- Skip the whitespace at the head of the text. -/
def skipWs (cs : List Char) : List Char := cs.dropWhile isWs

/-- The value of one hexadecimal digit, either case. -/
def hexDigit (c : Char) : Option ℕ :=
  if '0' ≤ c ∧ c ≤ '9' then some (c.toNat - '0'.toNat)
  else if 'a' ≤ c ∧ c ≤ 'f' then some (c.toNat - 'a'.toNat + 10)
  else if 'A' ≤ c ∧ c ≤ 'F' then some (c.toNat - 'A'.toNat + 10)
  else none

/-- The code unit of the four digits of a `\uXXXX` escape. -/
def hex4 (a b c d : Char) : Option ℕ := do
  pure ((((← hexDigit a) * 16 + (← hexDigit b)) * 16 + (← hexDigit c)) * 16 + (← hexDigit d))

/-- The code point of a one-character escape `\"`, `\\`, `\/`, `\b`, `\f`, `\n`, `\r`, `\t`. -/
def simpleEscape : Char → Option ℕ
  | '"' => some 0x22
  | '\\' => some 0x5c
  | '/' => some 0x2f
  | 'b' => some 0x08
  | 'f' => some 0x0c
  | 'n' => some 0x0a
  | 'r' => some 0x0d
  | 't' => some 0x09
  | _ => none

def isHighSurrogate (u : ℕ) : Bool := 0xd800 ≤ u && u ≤ 0xdbff

def isLowSurrogate (u : ℕ) : Bool := 0xdc00 ≤ u && u ≤ 0xdfff

/-- `Py_UNICODE_JOIN_SURROGATES`. -/
def joinSurrogates (hi lo : ℕ) : ℕ := 0x10000 + (hi - 0xd800) * 0x400 + (lo - 0xdc00)

/-- Put one code point in front of a decoded string body. -/
def consCodePoint (u : ℕ) : Option (PyStr × List Char) → Option (PyStr × List Char) :=
  Option.map fun p => (u :: p.1, p.2)

/-- `scanstring`: the body of a string after its opening quote, decoded, and the text after
its closing quote. A high surrogate escape followed by a low one, with text still after
them, is one code point. Each step reads a character, so fuel the length of the text is
enough. -/
def scanString : ℕ → List Char → Option (PyStr × List Char)
  | 0, _ => none
  | _ + 1, [] => none
  | _ + 1, '"' :: rest => some ([], rest)
  | _ + 1, ['\\'] => none
  | n + 1, '\\' :: 'u' :: a :: b :: c :: d :: rest => do
    let u ← hex4 a b c d
    match rest with
    | '\\' :: 'u' :: e :: f :: g :: h :: rest'@(_ :: _) =>
      if isHighSurrogate u then do
        let u₂ ← hex4 e f g h
        if isLowSurrogate u₂ then consCodePoint (joinSurrogates u u₂) (scanString n rest')
        else consCodePoint u (scanString n rest)
      else consCodePoint u (scanString n rest)
    | _ => consCodePoint u (scanString n rest)
  | n + 1, '\\' :: e :: rest => do consCodePoint (← simpleEscape e) (scanString n rest)
  | n + 1, c :: rest =>
    if c.toNat ≤ 0x1f then none else consCodePoint c.toNat (scanString n rest)

/-! ## Numbers and named constants -/

/-- The integer part of a number: `0`, or a non-zero digit and the digits after it. -/
def intPart : List Char → Option (List Char × List Char)
  | '0' :: r => some (['0'], r)
  | c :: r =>
    if c.isDigit then some (c :: r.takeWhile Char.isDigit, r.dropWhile Char.isDigit) else none
  | [] => none

/-- The fraction of a number, read only when a digit follows the point. -/
def fracPart : List Char → List Char × List Char
  | '.' :: d :: r =>
    if d.isDigit then ('.' :: d :: r.takeWhile Char.isDigit, r.dropWhile Char.isDigit)
    else ([], '.' :: d :: r)
  | r => ([], r)

/-- The exponent of a number, read only when a digit follows `e` and its sign. -/
def expPart : List Char → List Char × List Char
  | e :: r =>
    if e = 'e' ∨ e = 'E' then
      let (sign, r') := match r with
        | s :: r' => if s = '+' ∨ s = '-' then ([s], r') else ([], s :: r')
        | [] => ([], [])
      match r'.takeWhile Char.isDigit with
      | [] => ([], e :: r)
      | ds => (e :: sign ++ ds, r'.dropWhile Char.isDigit)
    else ([], e :: r)
  | [] => ([], [])

/-- `_match_number`: the text of the number at the head of the text. -/
def matchNumber (cs : List Char) : Option (String × List Char) := do
  let (sign, cs) := match cs with
    | '-' :: r => (['-'], r)
    | r => ([], r)
  let (i, cs) ← intPart cs
  let (f, cs) := fracPart cs
  let (e, cs) := expPart cs
  pure (String.mk (sign ++ i ++ f ++ e), cs)

/-- The named constants `scan_once` tries before a number. -/
def constants : List (String × Json) :=
  [("null", .null), ("true", .bool true), ("false", .bool false), ("NaN", .number "NaN"),
    ("Infinity", .number "Infinity"), ("-Infinity", .number "-Infinity")]

/-! ## Values -/

/-- `PyDict_SetItem` on the members read so far. -/
def setItem (k : PyStr) (v : Json) : List (PyStr × Json) → List (PyStr × Json)
  | [] => [(k, v)]
  | (k', v') :: rest => if k' = k then (k, v) :: rest else (k', v') :: setItem k v rest

mutual

/-- `scan_once`: the value at the head of the text, and the text after it. -/
def scanOnce : ℕ → List Char → Option (Json × List Char)
  | 0, _ => none
  | n + 1, '"' :: rest => (scanString n rest).map fun p => (.str p.1, p.2)
  | n + 1, '{' :: rest =>
    match skipWs rest with
    | '}' :: r => some (.object [], r)
    | r => scanMembers n [] r
  | n + 1, '[' :: rest =>
    match skipWs rest with
    | ']' :: r => some (.array [], r)
    | r => scanElements n [] r
  | _ + 1, cs =>
    match constants.find? (fun w => w.1.data.isPrefixOf cs) with
    | some (w, v) => some (v, cs.drop w.length)
    | none => (matchNumber cs).map fun p => (.number p.1, p.2)

/-- `_parse_object` from a key on: the members, and the text after the closing brace. -/
def scanMembers : ℕ → List (PyStr × Json) → List Char → Option (Json × List Char)
  | 0, _, _ => none
  | n + 1, acc, '"' :: rest => do
    let (key, r) ← scanString n rest
    match skipWs r with
    | ':' :: r =>
      let (v, r) ← scanOnce n (skipWs r)
      match skipWs r with
      | '}' :: r => some (.object (setItem key v acc), r)
      | ',' :: r => scanMembers n (setItem key v acc) (skipWs r)
      | _ => none
    | _ => none
  | _ + 1, _, _ => none

/-- `_parse_array` from the first element on: the elements, and the text after the closing
bracket. -/
def scanElements : ℕ → List Json → List Char → Option (Json × List Char)
  | 0, _, _ => none
  | n + 1, acc, cs => do
    let (v, r) ← scanOnce n cs
    match skipWs r with
    | ']' :: r => some (.array (acc ++ [v]), r)
    | ',' :: r => scanElements n (acc ++ [v]) (skipWs r)
    | _ => none

end

end Json

/-- `json.loads`; `none` is a `JSONDecodeError`. A leading byte order mark is refused, and
nothing but whitespace may follow the value. Every scanning call reads a character before
it recurses, so the length of the text plus one is fuel enough. -/
def loads (s : String) : Option Json :=
  if s.data.head? = some '\uFEFF' then none
  else match Json.scanOnce (s.length + 1) (Json.skipWs s.data) with
    | some (v, r) => if Json.skipWs r = [] then some v else none
    | none => none

namespace Json

/-! ## Reading a decoded value -/

/-- `value.get(key, default)`: only a `dict` has `get`. -/
def get : Json → PyStr → Json → Except PyException Json
  | .object members, key, default => .ok ((members.lookup key).getD default)
  | _, _, _ => .error .attributeError

/-- `len(value)`: numbers, booleans and `None` have no length. -/
def len : Json → Except PyException ℕ
  | .array elems => .ok elems.length
  | .object members => .ok members.length
  | .str s => .ok s.length
  | _ => .error .typeError

/-- `iter(value)`: a list's elements, a `dict`'s keys, a `str`'s one-character strings. -/
def iter : Json → Except PyException (List Json)
  | .array elems => .ok elems
  | .object members => .ok (members.map fun m => .str m.1)
  | .str s => .ok (s.map fun c => .str [c])
  | _ => .error .typeError

/-- `value == s` for a Python `str` `s`. -/
def eqStr : Json → PyStr → Bool
  | .str t, s => t == s
  | _, _ => false

/-- Iterating a value yields as many items as its length. -/
lemma len_eq_of_iter_eq {v : Json} {xs : List Json} (h : v.iter = .ok xs) :
    v.len = .ok xs.length := by
  cases v <;> simp only [iter, Except.ok.injEq, reduceCtorEq] at h <;> subst h <;> simp [len]

end Json

end SecurityCompliance
