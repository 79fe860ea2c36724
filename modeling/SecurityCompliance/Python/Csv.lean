import SecurityCompliance.Python.Dict
import SecurityCompliance.Python.Json

/-!
# `csv.reader` and `csv.DictReader`, `excel` dialect

`load_checklist` reads the checklist with `csv.DictReader` over a file opened with
`newline=''`.  This file embeds that reader as CPython's `_csv.c` implements it for the
`excel` dialect (delimiter `,`, quote `"`, doubled quotes, `QUOTE_MINIMAL`, not strict):
`parseProcessChar` is `parse_process_char`, `readRecords` is `Reader_iternext` run to the end
over the file's lines, `splitLines` is how a file opened with `newline=''` yields them, and
`dictRow` is a row of `DictReader`.  `parse_add_char` compares the field with the module's
`field_limit`, which `csv.field_size_limit` sets: the reader takes it as `limit`, and the
scripts read at its default, `fieldLimit`.

The reader sees one stream: each line's characters, then the end-of-line mark `EOL` (`none`
here).  `readRecords_eq_readEvents` and `events_splitLines` show that the stream of a text is
`lineEvents`, a function of the text alone, so the results below are inductions over text.

* `csvReaderWith_eq`: the limit decides only whether reading raises.  Every text has the
  records that a reader with a limit no field can reach returns; at any limit the reader
  returns them when none of their fields is longer than the limit, and raises `field larger
  than field limit` otherwise.  It never raises `new-line character seen in unquoted field`.
  It rests on what one step can do (`parseProcessChar_eq_ok`), on how a step depends on the
  limit (`parseProcessChar_limit`), and on the fact that a field the reader holds ends up in a
  record it returns (`exists_longField_of_readEvents`).
* `csvReader_formatTable`: what the `excel` writer writes for records that each have a field
  reads back as those records; the induction runs field by field (`readEvents_formatField`),
  then record by record (`readEvents_formatRecord`).
* `keys_dictRow`, `entries_dictRow`: every `DictReader` row has the header's names as its keys
  and, under a header without a repeated name, holds the record's cells in order.
-/

namespace SecurityCompliance

namespace Csv

/-! ## The parser -/

/-- The states of `parse_process_char` that the `excel` dialect reaches. -/
inductive ParserState where
  | startRecord
  | startField
  | inField
  | inQuotedField
  | quoteInQuotedField
  | eatCrnl
deriving DecidableEq, Repr

/-- The `_csv.Error`s the `excel` reader can raise. -/
inductive CsvError where
  | fieldLarger
  | newlineInUnquotedField
deriving DecidableEq, Repr

/-- `str(e)` of the error. -/
def CsvError.text : CsvError → String
  | .fieldLarger => "field larger than field limit (131072)"
  | .newlineInUnquotedField =>
    "new-line character seen in unquoted field - " ++
      "do you need to open the file with newline=\x27\x27?"

/-- `field_size_limit()`, at its default. -/
def fieldLimit : ℕ := 131072

/-- The reader between two characters: its state, the fields of the record so far and the
field being read. -/
structure Parser where
  state : ParserState
  fields : List String
  field : List Char
deriving DecidableEq, Repr

/-- `parse_reset`. -/
def parseReset : Parser := ⟨.startRecord, [], []⟩

namespace Parser

/-- `self->state = s`. -/
def withState (p : Parser) (s : ParserState) : Parser := ⟨s, p.fields, p.field⟩

/-- `parse_save_field`. -/
def parseSaveField (p : Parser) : Parser := ⟨p.state, p.fields ++ [⟨p.field⟩], []⟩

/-- `parse_add_char`, against the module's `field_limit`. -/
def parseAddChar (limit : ℕ) (p : Parser) (c : Char) : Except CsvError Parser :=
  if p.field.length ≥ limit then .error .fieldLarger
  else .ok ⟨p.state, p.fields, p.field ++ [c]⟩

/-- The end of a record at a line break or `EOL`: save the field, then
`self->state = (c == EOL ? START_RECORD : EAT_CRNL)`. -/
def endRecord (p : Parser) (c : Option Char) : Parser :=
  p.parseSaveField.withState (if c = none then .startRecord else .eatCrnl)

end Parser

/-- `c == '\n' || c == '\r'`. -/
def isNewline (c : Char) : Bool := c == '\n' || c == '\r'

/-- The `START_FIELD` case of `parse_process_char`, which `START_RECORD` falls through to;
`none` is `EOL`. -/
def processStartField (limit : ℕ) (p : Parser) : Option Char → Except CsvError Parser
  | none => .ok (p.endRecord none)
  | some c =>
    if isNewline c then .ok (p.endRecord (some c))
    else if c = '"' then .ok (p.withState .inQuotedField)
    else if c = ',' then .ok p.parseSaveField
    else (·.withState .inField) <$> p.parseAddChar limit c

/-- `parse_process_char(self, module_state, c)`; `none` is `EOL`. -/
def parseProcessChar (limit : ℕ) (p : Parser) (c : Option Char) : Except CsvError Parser :=
  match p.state, c with
  | .startRecord, none => .ok p
  | .startRecord, some c =>
    if isNewline c then .ok (p.withState .eatCrnl)
    else processStartField limit (p.withState .startField) (some c)
  | .startField, c => processStartField limit p c
  | .inField, none => .ok (p.endRecord none)
  | .inField, some c =>
    if isNewline c then .ok (p.endRecord (some c))
    else if c = ',' then .ok (p.parseSaveField.withState .startField)
    else p.parseAddChar limit c
  | .inQuotedField, none => .ok p
  | .inQuotedField, some c =>
    if c = '"' then .ok (p.withState .quoteInQuotedField) else p.parseAddChar limit c
  | .quoteInQuotedField, none => .ok (p.endRecord none)
  | .quoteInQuotedField, some c =>
    if c = '"' then (·.withState .inQuotedField) <$> p.parseAddChar limit c
    else if c = ',' then .ok (p.parseSaveField.withState .startField)
    else if isNewline c then .ok (p.endRecord (some c))
    else (·.withState .inField) <$> p.parseAddChar limit c
  | .eatCrnl, none => .ok (p.withState .startRecord)
  | .eatCrnl, some c => if isNewline c then .ok p else .error .newlineInUnquotedField

/-! ## Lines and records -/

/-- One line of `Reader_iternext`: every character of the line, then `EOL`. -/
def feedLine (limit : ℕ) (p : Parser) (line : List Char) : Except CsvError Parser := do
  let p ← line.foldlM (fun p c => parseProcessChar limit p (some c)) p
  parseProcessChar limit p none

/-- `list(reader)` over the remaining lines: a record ends when a line leaves the parser in
`START_RECORD`; at the end of the input a pending field is saved when it is non-empty or
quoted. -/
def readRecords (limit : ℕ) : Parser → List (List Char) → Except CsvError (List (List String))
  | p, [] =>
    .ok (if p.field ≠ [] ∨ p.state = .inQuotedField then [p.parseSaveField.fields] else [])
  | p, line :: lines => do
    let p ← feedLine limit p line
    if p.state = .startRecord then return p.fields :: (← readRecords limit parseReset lines)
    else readRecords limit p lines

/-- The lines of a file opened with `newline=''`: each ends after `\n`, `\r\n` or a lone
`\r`, kept in the line. -/
def splitLines : List Char → List Char → List (List Char)
  | line, [] => if line = [] then [] else [line]
  | line, '\n' :: rest => (line ++ ['\n']) :: splitLines [] rest
  | line, '\r' :: '\n' :: rest => (line ++ ['\r', '\n']) :: splitLines [] rest
  | line, '\r' :: rest => (line ++ ['\r']) :: splitLines [] rest
  | line, c :: rest => splitLines (line ++ [c]) rest

/-- `list(csv.reader(f))` for a file `f` holding `text`, with `field_limit` set to `limit`. -/
def csvReaderWith (limit : ℕ) (text : String) : Except CsvError (List (List String)) :=
  readRecords limit parseReset (splitLines [] text.data)

/-- `list(csv.reader(f))` for a file `f` holding `text`. -/
def csvReader (text : String) : Except CsvError (List (List String)) :=
  csvReaderWith fieldLimit text

/-! ## One stream of characters and line ends -/

/-- What the reader is fed: each line's characters, then `EOL`. -/
def events (lines : List (List Char)) : List (Option Char) :=
  lines.flatMap fun l => l.map some ++ [none]

/-- `readRecords` over the stream it is fed. -/
def readEvents (limit : ℕ) : Parser → List (Option Char) → Except CsvError (List (List String))
  | p, [] =>
    .ok (if p.field ≠ [] ∨ p.state = .inQuotedField then [p.parseSaveField.fields] else [])
  | p, some c :: es => do readEvents limit (← parseProcessChar limit p (some c)) es
  | p, none :: es => do
    let p ← parseProcessChar limit p none
    if p.state = .startRecord then return p.fields :: (← readEvents limit parseReset es)
    else readEvents limit p es

/-- The stream of a text, read from the middle of a line when `mid`: `EOL` follows each line
break and, in the middle of a line, the end of the text. -/
def lineEvents : Bool → List Char → List (Option Char)
  | mid, [] => if mid then [none] else []
  | _, '\n' :: rest => some '\n' :: none :: lineEvents false rest
  | _, '\r' :: '\n' :: rest => some '\r' :: some '\n' :: none :: lineEvents false rest
  | _, '\r' :: rest => some '\r' :: none :: lineEvents false rest
  | _, c :: rest => some c :: lineEvents true rest

variable {L : ℕ}

@[simp] lemma events_nil : events [] = [] := rfl

@[simp] lemma events_cons (l : List Char) (ls : List (List Char)) :
    events (l :: ls) = l.map some ++ none :: events ls := by
  simp [events]

lemma readEvents_map_some_append (l : List Char) (es : List (Option Char)) :
    ∀ p, readEvents L p (l.map some ++ es) =
      l.foldlM (fun p c => parseProcessChar L p (some c)) p >>= fun p => readEvents L p es := by
  induction l with
  | nil => intro p; rfl
  | cons c l ih =>
    intro p
    show (parseProcessChar L p (some c) >>= fun q => readEvents L q (l.map some ++ es)) = _
    simp only [List.foldlM_cons, ih, bind_assoc]

lemma readRecords_eq_readEvents (lines : List (List Char)) :
    ∀ p, readRecords L p lines = readEvents L p (events lines) := by
  induction lines with
  | nil => intro p; rfl
  | cons line lines ih =>
    intro p
    simp only [readRecords, feedLine, events, List.flatMap_cons, List.append_assoc,
      List.singleton_append, readEvents_map_some_append, readEvents, bind_assoc, ih]

lemma events_splitLines (acc cs : List Char) :
    events (splitLines acc cs) = acc.map some ++ lineEvents (acc ≠ []) cs := by
  induction acc, cs using splitLines.induct with
  | case1 => rfl
  | case2 line h => simp [splitLines, lineEvents, h]
  | case3 line rest ih => simp [splitLines, lineEvents, ih]
  | case4 line rest ih => simp [splitLines, lineEvents, ih]
  | case5 line rest hr ih => simp [splitLines, lineEvents, ih]
  | case6 line c rest h1 h2 h3 ih => simp [splitLines, lineEvents, ih]

/-- The reader reads the file's lines as one stream of characters and line ends. -/
lemma csvReaderWith_eq_readEvents (text : String) :
    csvReaderWith L text = readEvents L parseReset (lineEvents false text.data) := by
  rw [csvReaderWith, readRecords_eq_readEvents, events_splitLines]
  rfl

lemma lineEvents_cons_of_not_newline {c : Char} (hc : isNewline c = false) (mid : Bool)
    (rest : List Char) : lineEvents mid (c :: rest) = some c :: lineEvents true rest := by
  have h1 : c ≠ '\n' := by rintro rfl; cases hc
  have h2 : c ≠ '\r' := by rintro rfl; cases hc
  rw [lineEvents] <;> simp_all

/-- A `\r` ends its line unless a `\n` follows. -/
lemma lineEvents_cr (mid : Bool) (rest : List Char) :
    lineEvents mid ('\r' :: rest) = some '\r' ::
      if rest.head? = some '\n' then lineEvents true rest else none :: lineEvents false rest := by
  rcases rest with _ | ⟨c, rest⟩
  · rfl
  · by_cases hc : c = '\n'
    · subst hc; rfl
    · rw [lineEvents] <;> simp_all

lemma lineEvents_crlf (mid : Bool) (rest : List Char) :
    lineEvents mid ('\r' :: '\n' :: rest) =
      some '\r' :: some '\n' :: none :: lineEvents false rest := by
  rw [lineEvents]

lemma lineEvents_lf (mid : Bool) (rest : List Char) :
    lineEvents mid ('\n' :: rest) = some '\n' :: none :: lineEvents false rest := by
  rw [lineEvents]

lemma lineEvents_quote (mid : Bool) (rest : List Char) :
    lineEvents mid ('"' :: rest) = some '"' :: lineEvents true rest :=
  lineEvents_cons_of_not_newline (c := '"') rfl mid rest

/-- The stream of a text ends with `EOL`, unless the text is empty and read from the start of
a line. -/
lemma getLast?_lineEvents (mid : Bool) (cs : List Char) :
    (lineEvents mid cs).getLast? = some none ∨ mid = false ∧ cs = [] := by
  induction mid, cs using lineEvents.induct with
  | case1 => exact .inl rfl
  | case2 mid hmid => exact .inr ⟨by simpa using hmid, rfl⟩
  | case3 _ rest ih =>
    rcases ih with h | ⟨-, rfl⟩
    · simp [lineEvents, List.getLast?_cons, h]
    · exact .inl rfl
  | case4 _ rest ih =>
    rcases ih with h | ⟨-, rfl⟩
    · simp [lineEvents, List.getLast?_cons, h]
    · exact .inl rfl
  | case5 _ rest hrest ih =>
    rw [lineEvents_cr, if_neg (by rcases rest with _ | ⟨_, _⟩ <;> simp_all)]
    rcases ih with h | ⟨-, rfl⟩
    · simp [List.getLast?_cons, h]
    · exact .inl rfl
  | case6 _ c rest h1 _ h3 ih =>
    have hc : isNewline c = false := by simpa [isNewline] using And.intro h1 h3
    rw [lineEvents_cons_of_not_newline hc]
    rcases ih with h | ⟨h, -⟩
    · simp [List.getLast?_cons, h]
    · cases h

/-! ## One step -/

section Step

variable {M : ℕ} {p q : Parser}

lemma parseAddChar_eq_ok {c : Char} (h : p.parseAddChar L c = .ok q) :
    q = ⟨p.state, p.fields, p.field ++ [c]⟩ ∧ p.field.length < L := by
  unfold Parser.parseAddChar at h
  split_ifs at h with hl
  exact ⟨(Except.ok.inj h).symm, Nat.lt_of_not_le hl⟩

lemma parseAddChar_eq_error {c : Char} {e : CsvError} (h : p.parseAddChar L c = .error e) :
    e = .fieldLarger ∧ L ≤ p.field.length := by
  unfold Parser.parseAddChar at h
  split_ifs at h with hl
  exact ⟨(Except.error.inj h).symm, hl⟩

lemma parseAddChar_of_lt {c : Char} (h : p.field.length < L) :
    p.parseAddChar L c = .ok ⟨p.state, p.fields, p.field ++ [c]⟩ :=
  if_neg (Nat.not_le_of_lt h)

/-- **What a step can raise.** Outside `EAT_CRNL`, or on a line break there, a step raises
only at a full field. -/
lemma parseProcessChar_eq_error {c : Option Char} {e : CsvError}
    (h : parseProcessChar L p c = .error e)
    (hs : p.state = .eatCrnl → ∀ c', c = some c' → isNewline c' = true) :
    e = .fieldLarger ∧ L ≤ p.field.length := by
  rcases p with ⟨st, fields, field⟩
  unfold parseProcessChar processStartField at h
  rcases st <;> rcases c with _ | c <;> dsimp only at h
  all_goals
    (try split_ifs at h with h1) <;>
      first
      | exact absurd (hs rfl _ rfl) h1
      | have := parseAddChar_eq_error h; exact this
      | have := parseAddChar_eq_error (Except.map_eq_error.1 h); exact this
      | cases h

/-- **What a step can do.** A step keeps the record's fields and its field, adds the
character to a field shorter than the limit, or saves the field into the record; it reaches
`EAT_CRNL` only on a line break, and it ends in `START_RECORD` or `EAT_CRNL` with an empty
field or with the field it had in one of them. -/
lemma parseProcessChar_eq_ok {c : Option Char} (h : parseProcessChar L p c = .ok q) :
    (q.fields = p.fields ∧ (q.field = p.field ∨
        ∃ c', c = some c' ∧ q.field = p.field ++ [c'] ∧ p.field.length < L) ∨
      q.fields = p.fields ++ [⟨p.field⟩] ∧ q.field = []) ∧
    (q.state = .eatCrnl → ∃ c', c = some c' ∧ isNewline c' = true) ∧
    (q.state = .startRecord ∨ q.state = .eatCrnl →
      q.field = [] ∨ q.field = p.field ∧ (p.state = .startRecord ∨ p.state = .eatCrnl)) := by
  rcases p with ⟨st, fields, field⟩
  unfold parseProcessChar processStartField at h
  rcases st <;> rcases c with _ | c <;> dsimp only at h
  all_goals
    (try split_ifs at h with h1) <;>
      first
      | (cases h; simp_all [Parser.withState, Parser.endRecord, Parser.parseSaveField])
      | (obtain ⟨rfl, hl⟩ := parseAddChar_eq_ok h; simp_all [Parser.withState])
      | (obtain ⟨q', hq', rfl⟩ := Except.map_eq_ok.1 h
         obtain ⟨rfl, hl⟩ := parseAddChar_eq_ok hq'
         simp_all [Parser.withState])

lemma length_field_le_of_parseProcessChar {c : Option Char}
    (h : parseProcessChar L p c = .ok q) : q.field.length ≤ p.field.length + 1 := by
  rcases (parseProcessChar_eq_ok h).1 with ⟨-, hq | ⟨_, -, hq, -⟩⟩ | ⟨-, hq⟩ <;> simp [hq]

/-- **The limit only stops a growing field.** A step that succeeds at one limit gives the same
parser at any other limit `L`, unless it grew the field past `L`: then it raises. -/
lemma parseProcessChar_limit {c : Option Char} (h : parseProcessChar M p c = .ok q) :
    parseProcessChar L p c =
      if p.field.length < q.field.length ∧ L < q.field.length then .error .fieldLarger
      else .ok q := by
  rcases p with ⟨st, fields, field⟩
  unfold parseProcessChar processStartField at h ⊢
  rcases st <;> rcases c with _ | c <;> dsimp only at h ⊢
  all_goals
    (try split_ifs at h ⊢ with h1) <;>
      first
      | (cases h; simp_all [Parser.withState, Parser.endRecord, Parser.parseSaveField])
      | (obtain ⟨rfl, -⟩ := parseAddChar_eq_ok h
         unfold Parser.parseAddChar
         split_ifs <;> simp_all; omega)
      | (obtain ⟨q', hq', rfl⟩ := Except.map_eq_ok.1 h
         obtain ⟨rfl, -⟩ := parseAddChar_eq_ok hq'
         unfold Parser.parseAddChar
         split_ifs <;> simp_all [Parser.withState]; omega)

/-- `EOL` never raises: it ends the record, or leaves a quoted field open. -/
lemma parseProcessChar_none (p : Parser) :
    ∃ q, parseProcessChar L p none = .ok q ∧
      (q.state = .startRecord ∨ q = p ∧ p.state = .inQuotedField) := by
  rcases p with ⟨_ | _ | _ | _ | _ | _, fields, field⟩ <;>
    first | exact ⟨_, rfl, .inl rfl⟩ | exact ⟨_, rfl, .inr ⟨rfl, rfl⟩⟩

end Step

/-! ## Fields the reader holds -/

namespace Parser

/-- Between records the reader holds no partial field: `START_RECORD` and `EAT_CRNL` come
with an empty field. -/
def Inv (p : Parser) : Prop := p.state = .startRecord ∨ p.state = .eatCrnl → p.field = []

/-- The reader holds a field longer than `L`: one of the record so far, or the one being
read. -/
def HoldsLongField (L : ℕ) (p : Parser) : Prop := ∃ f ∈ p.fields ++ [⟨p.field⟩], L < f.length

/-- At the end of the input the reader returns every field it holds: `Reader_iternext` saves
a pending field only when it is non-empty or quoted. -/
def Flushes (p : Parser) : Prop := p.fields = [] ∨ p.field ≠ [] ∨ p.state = .inQuotedField

lemma inv_parseReset : parseReset.Inv := fun _ => rfl

lemma not_holdsLongField_parseReset : ¬parseReset.HoldsLongField L := by
  rintro ⟨f, hf, hl⟩
  simp only [parseReset, List.nil_append, List.mem_singleton] at hf
  subst hf
  exact Nat.not_lt_zero _ hl

end Parser

section Holds

variable {M : ℕ} {p q : Parser} {c : Option Char}

lemma parseProcessChar_inv (h : parseProcessChar M p c = .ok q) (hp : p.Inv) : q.Inv :=
  fun hs => ((parseProcessChar_eq_ok h).2.2 hs).elim id fun ⟨hq, hps⟩ => hq.trans (hp hps)

/-- A step never drops a field it holds: it keeps the record's fields, and saves or extends
the field being read. -/
lemma holdsLongField_parseProcessChar (h : parseProcessChar M p c = .ok q)
    (hp : p.HoldsLongField L) : q.HoldsLongField L := by
  obtain ⟨f, hf, hl⟩ := hp
  rcases (parseProcessChar_eq_ok h).1 with ⟨hfs, hq | ⟨c', -, hq, -⟩⟩ | ⟨hfs, -⟩
  · exact ⟨f, by rwa [hfs, hq], hl⟩
  · rcases List.mem_append.1 hf with hf | hf
    · exact ⟨f, List.mem_append_left _ (hfs ▸ hf), hl⟩
    · rw [List.mem_singleton] at hf
      subst hf
      refine ⟨⟨q.field⟩, List.mem_append_right _ (List.mem_singleton_self _), ?_⟩
      simp only [String.length_mk, hq, List.length_append, List.length_singleton] at hl ⊢
      omega
  · exact ⟨f, List.mem_append_left _ (hfs ▸ hf), hl⟩

/-- A step that keeps the field within `L` gives a reader that holds no field longer than
`L`, when the reader before it held none. -/
lemma not_holdsLongField_parseProcessChar (h : parseProcessChar M p c = .ok q)
    (hp : ¬p.HoldsLongField L) (hq : q.field.length ≤ L) : ¬q.HoldsLongField L := by
  rintro ⟨f, hf, hl⟩
  rcases List.mem_append.1 hf with hf | hf
  · rcases (parseProcessChar_eq_ok h).1 with ⟨hfs, -⟩ | ⟨hfs, -⟩ <;> rw [hfs] at hf
    · exact hp ⟨f, List.mem_append_left _ hf, hl⟩
    · exact hp ⟨f, hf, hl⟩
  · rw [List.mem_singleton] at hf
    subst hf
    exact absurd hl (not_lt.2 hq)

/-- At an `EOL` that ends the record, the record holds the fields the reader held. -/
lemma exists_longField_of_parseProcessChar_none (h : parseProcessChar M p none = .ok q)
    (hs : q.state = .startRecord) (hi : p.Inv) (hp : p.HoldsLongField L) :
    ∃ f ∈ q.fields, L < f.length := by
  obtain ⟨f, hf, hl⟩ := holdsLongField_parseProcessChar h hp
  rcases List.mem_append.1 hf with hf | hf
  · exact ⟨f, hf, hl⟩
  · rw [List.mem_singleton] at hf
    subst hf
    rw [parseProcessChar_inv h hi (.inl hs)] at hl
    exact absurd hl (Nat.not_lt_zero _)

end Holds

/-! ## The stream -/

section Stream

variable {M : ℕ} {p : Parser} {es : List (Option Char)} {e : CsvError}

/-- A character raises at a full field, or the stream goes on from the step's result. -/
lemma readEvents_some_eq_error {c : Char} (h : readEvents L p (some c :: es) = .error e)
    (hs : p.state = .eatCrnl → isNewline c = true) :
    (e = .fieldLarger ∧ L ≤ p.field.length) ∨
      ∃ q, q.field.length ≤ p.field.length + 1 ∧
        (q.state = .eatCrnl → isNewline c = true) ∧ readEvents L q es = .error e := by
  rcases Except.bind_eq_error.1 h with h | ⟨q, hq, h⟩
  · exact .inl (parseProcessChar_eq_error h fun hp _ hc => Option.some.inj hc ▸ hs hp)
  · refine .inr ⟨q, length_field_le_of_parseProcessChar hq, fun hq' => ?_, h⟩
    obtain ⟨_, hc, h'⟩ := (parseProcessChar_eq_ok hq).2.1 hq'
    exact Option.some.inj hc ▸ h'

/-- The end of a line never raises: the stream goes on from a state outside `EAT_CRNL`. -/
lemma readEvents_none_eq_error (h : readEvents L p (none :: es) = .error e) :
    ∃ q, q.state ≠ .eatCrnl ∧ q.field.length ≤ p.field.length ∧
      readEvents L q es = .error e := by
  obtain ⟨q, hq, hs⟩ := parseProcessChar_none (L := L) p
  rw [readEvents, hq] at h
  dsimp only [bind, Except.bind] at h
  split_ifs at h
  · exact ⟨parseReset, by decide, Nat.zero_le _, (Except.bind_eq_error.1 h).elim id
      fun ⟨_, _, h⟩ => by cases h⟩
  · obtain ⟨rfl, hs⟩ := hs.resolve_left ‹_›
    exact ⟨q, by rw [hs]; decide, le_rfl, h⟩

/-- A line break and the end of its line raise at a full field, or the stream goes on from a
state outside `EAT_CRNL`. -/
lemma readEvents_lineEnd_eq_error {c : Char} (h : readEvents L p (some c :: none :: es) = .error e)
    (hc : isNewline c = true) :
    (e = .fieldLarger ∧ L ≤ p.field.length) ∨
      ∃ q, q.state ≠ .eatCrnl ∧ q.field.length ≤ p.field.length + 1 ∧
        readEvents L q es = .error e := by
  rcases readEvents_some_eq_error h (fun _ => hc) with he | ⟨q, hql, -, h⟩
  · exact .inl he
  · obtain ⟨r, hr, hrl, h⟩ := readEvents_none_eq_error h
    exact .inr ⟨r, hr, by omega, h⟩

/-- **The stream of a text raises only on a long field.** From a state outside `EAT_CRNL`,
reading the stream of a text raises only `field larger than field limit`, and only when the
field so far and the text together are longer than the limit. -/
lemma readEvents_lineEvents_eq_error (mid : Bool) (cs : List Char) :
    ∀ {p : Parser}, p.state ≠ .eatCrnl → readEvents L p (lineEvents mid cs) = .error e →
      e = .fieldLarger ∧ L < p.field.length + cs.length := by
  induction mid, cs using lineEvents.induct with
  | case1 =>
    intro p _ h
    obtain ⟨_, _, _, h⟩ := readEvents_none_eq_error h
    cases h
  | case2 mid hmid =>
    intro p _ h
    rw [lineEvents, if_neg hmid] at h
    cases h
  | case3 _ rest ih =>
    intro p _ h
    rcases readEvents_lineEnd_eq_error h rfl with ⟨rfl, hl⟩ | ⟨q, hq, hql, h⟩
    · exact ⟨rfl, by simp only [List.length_cons]; omega⟩
    obtain ⟨rfl, hl⟩ := ih hq h
    exact ⟨rfl, by simp only [List.length_cons]; omega⟩
  | case4 _ rest ih =>
    intro p hp h
    rcases readEvents_some_eq_error h (absurd · hp) with ⟨rfl, hl⟩ | ⟨q, hql, -, h⟩
    · exact ⟨rfl, by simp only [List.length_cons]; omega⟩
    rcases readEvents_lineEnd_eq_error h rfl with ⟨rfl, hl⟩ | ⟨r, hr, hrl, h⟩
    · exact ⟨rfl, by simp only [List.length_cons]; omega⟩
    obtain ⟨rfl, hl⟩ := ih hr h
    exact ⟨rfl, by simp only [List.length_cons]; omega⟩
  | case5 _ rest hrest ih =>
    intro p _ h
    rw [lineEvents_cr, if_neg (by rcases rest with _ | ⟨_, _⟩ <;> simp_all)] at h
    rcases readEvents_lineEnd_eq_error h rfl with ⟨rfl, hl⟩ | ⟨q, hq, hql, h⟩
    · exact ⟨rfl, by simp only [List.length_cons]; omega⟩
    obtain ⟨rfl, hl⟩ := ih hq h
    exact ⟨rfl, by simp only [List.length_cons]; omega⟩
  | case6 _ c rest h1 _ h3 ih =>
    intro p hp h
    have hc : isNewline c = false := by simpa [isNewline] using And.intro h1 h3
    rw [lineEvents_cons_of_not_newline hc] at h
    rcases readEvents_some_eq_error h (absurd · hp) with ⟨rfl, hl⟩ | ⟨q, hql, hqs, h⟩
    · exact ⟨rfl, by simp only [List.length_cons]; omega⟩
    obtain ⟨rfl, hl⟩ := ih (fun hq => absurd (hqs hq) (by simp [hc])) h
    exact ⟨rfl, by simp only [List.length_cons]; omega⟩

/-- The stream ends with `EOL`, or it is empty and the reader returns every field it holds. -/
def EndsAtLine (p : Parser) (es : List (Option Char)) : Prop :=
  es.getLast? = some none ∨ es = [] ∧ p.Flushes

/-- A stream that ends at a line end still does after its first event. -/
lemma endsAtLine_tail {x : Option Char} {p q : Parser} (hend : EndsAtLine p (x :: es))
    (hq : es = [] → q.Flushes) : EndsAtLine q es := by
  rcases es with _ | ⟨y, es⟩
  · exact .inr ⟨rfl, hq rfl⟩
  · left
    simpa [EndsAtLine] using hend

lemma length_field_le_of_not_holdsLongField (hl : ¬p.HoldsLongField L) : p.field.length ≤ L :=
  not_lt.1 fun h => hl ⟨_, List.mem_append_right _ (List.mem_singleton_self _), h⟩

/-- **A long field is returned.** On a stream that ends at a line end, a field longer than
`L` that the reader holds ends up in a record it returns. -/
lemma exists_longField_of_readEvents :
    ∀ {es : List (Option Char)} {p : Parser} {R : List (List String)}, p.Inv →
      EndsAtLine p es → p.HoldsLongField L → readEvents M p es = .ok R →
      ∃ r ∈ R, ∃ f ∈ r, L < f.length
  | [], p, R, _, hend, ⟨f, hf, hl⟩, h => by
    have hfl : p.Flushes := by simpa [EndsAtLine] using hend
    rw [readEvents, Except.ok.injEq] at h
    subst h
    split_ifs with hc
    · exact ⟨_, List.mem_singleton_self _, f, hf, hl⟩
    · push_neg at hc
      rcases hfl with h0 | h0 | h0
      · rw [h0, List.nil_append, List.mem_singleton] at hf
        subst hf
        rw [String.length_mk, hc.1] at hl
        exact absurd hl (Nat.not_lt_zero _)
      · exact absurd hc.1 h0
      · exact absurd h0 hc.2
  | some c :: es, p, R, hi, hend, hl, h => by
    obtain ⟨q, hq, h⟩ := Except.bind_eq_ok.1 h
    exact exists_longField_of_readEvents (parseProcessChar_inv hq hi)
      (endsAtLine_tail hend fun h0 => by subst h0; simp [EndsAtLine] at hend)
      (holdsLongField_parseProcessChar hq hl) h
  | none :: es, p, R, hi, hend, hl, h => by
    obtain ⟨q, hq, hs⟩ := parseProcessChar_none (L := M) p
    rw [readEvents, hq] at h
    dsimp only [bind, Except.bind] at h
    rcases hs with hs | ⟨rfl, hs⟩
    · rw [if_pos hs] at h
      obtain ⟨R', -, h⟩ := Except.bind_eq_ok.1 h
      cases h
      obtain ⟨f, hf, hfl⟩ := exists_longField_of_parseProcessChar_none hq hs hi hl
      exact ⟨_, List.mem_cons_self _ _, f, hf, hfl⟩
    · rw [if_neg (by rw [hs]; decide)] at h
      exact exists_longField_of_readEvents hi (endsAtLine_tail hend fun _ => .inr (.inr hs)) hl h

/-- **The limit decides only whether the stream raises.** On a stream that ends at a line end,
from a reader that holds no field longer than `L`: when reading at the limit `M` returns `R`,
reading at `L` returns `R` if no field of `R` is longer than `L`, and raises `field larger
than field limit` otherwise. -/
lemma readEvents_limit :
    ∀ {es : List (Option Char)} {p : Parser} {R : List (List String)}, p.Inv →
      EndsAtLine p es → ¬p.HoldsLongField L → readEvents M p es = .ok R →
      readEvents L p es =
        if ∃ r ∈ R, ∃ f ∈ r, L < f.length then .error .fieldLarger else .ok R
  | [], p, R, _, _, hl, h => by
    rw [if_neg]
    · exact h
    · rintro ⟨r, hr, f, hf, hfl⟩
      rw [readEvents, Except.ok.injEq] at h
      subst h
      split_ifs at hr
      · rw [List.mem_singleton] at hr
        subst hr
        exact hl ⟨f, hf, hfl⟩
      · cases hr
  | some c :: es, p, R, hi, hend, hl, h => by
    obtain ⟨q, hq, h⟩ := Except.bind_eq_ok.1 h
    have hend' := endsAtLine_tail (q := q) hend fun h0 => by subst h0; simp [EndsAtLine] at hend
    show (parseProcessChar L p (some c) >>= fun q => readEvents L q es) = _
    rw [parseProcessChar_limit hq]
    by_cases hg : p.field.length < q.field.length ∧ L < q.field.length
    · rw [if_pos hg, if_pos (exists_longField_of_readEvents (parseProcessChar_inv hq hi) hend'
        ⟨_, List.mem_append_right _ (List.mem_singleton_self _), hg.2⟩ h)]
      rfl
    · rw [if_neg hg]
      have hq' : q.field.length ≤ L := by
        have := length_field_le_of_parseProcessChar hq
        have := length_field_le_of_not_holdsLongField hl
        by_contra hc
        exact hg ⟨by omega, by omega⟩
      exact readEvents_limit (parseProcessChar_inv hq hi) hend'
        (not_holdsLongField_parseProcessChar hq hl hq') h
  | none :: es, p, R, hi, hend, hl, h => by
    obtain ⟨q, hq, hs⟩ := parseProcessChar_none (L := M) p
    have hqn : q.field.length ≤ p.field.length := by
      rcases (parseProcessChar_eq_ok hq).1 with ⟨-, hf | ⟨_, hc, -⟩⟩ | ⟨-, hf⟩
      · rw [hf]
      · cases hc
      · rw [hf]
        exact Nat.zero_le _
    have hqL : parseProcessChar L p none = .ok q := by
      rw [parseProcessChar_limit hq, if_neg fun hg => absurd hg.1 (not_lt.2 hqn)]
    have hql := not_holdsLongField_parseProcessChar hq hl
      (hqn.trans (length_field_le_of_not_holdsLongField hl))
    rw [readEvents, hq] at h
    rw [readEvents, hqL]
    dsimp only [bind, Except.bind] at h ⊢
    rcases hs with hs | ⟨rfl, hs⟩
    · rw [if_pos hs] at h ⊢
      obtain ⟨R', hR', h⟩ := Except.bind_eq_ok.1 h
      cases h
      rw [readEvents_limit Parser.inv_parseReset (endsAtLine_tail hend fun _ => .inl rfl)
        Parser.not_holdsLongField_parseReset hR']
      have hcons : (∃ r ∈ q.fields :: R', ∃ f ∈ r, L < f.length) ↔
          ∃ r ∈ R', ∃ f ∈ r, L < f.length := by
        refine ⟨fun ⟨r, hr, hrf⟩ => ?_, fun ⟨r, hr, hrf⟩ => ⟨r, List.mem_cons_of_mem _ hr, hrf⟩⟩
        rcases List.mem_cons.1 hr with rfl | hr
        · obtain ⟨f, hf, hfl⟩ := hrf
          exact absurd ⟨f, List.mem_append_left _ hf, hfl⟩ hql
        · exact ⟨r, hr, hrf⟩
      by_cases hlong : ∃ r ∈ R', ∃ f ∈ r, L < f.length
      · rw [if_pos hlong, if_pos (hcons.2 hlong)]
      · rw [if_neg hlong, if_neg (mt hcons.1 hlong)]
        rfl
    · rw [if_neg (by rw [hs]; decide)] at h ⊢
      exact readEvents_limit hi (endsAtLine_tail hend fun _ => .inr (.inr hs)) hl h

end Stream

/-- **The limit decides only whether `csv.reader` raises.** Every text has records, those read
with a limit no field can reach; at any limit `L` the reader returns them when none of their
fields is longer than `L`, and raises `field larger than field limit` otherwise.  It never
raises `new-line character seen in unquoted field`. -/
theorem csvReaderWith_eq (text : String) :
    ∃ records, csvReaderWith text.length text = .ok records ∧
      ∀ L, csvReaderWith L text =
        if ∃ r ∈ records, ∃ f ∈ r, L < f.length then .error .fieldLarger else .ok records := by
  cases h : csvReaderWith text.length text with
  | error e =>
    rw [csvReaderWith_eq_readEvents] at h
    have hl := (readEvents_lineEvents_eq_error false text.data (by decide) h).2
    have : text.length = text.data.length := rfl
    simp only [parseReset, List.length_nil, Nat.zero_add] at hl
    omega
  | ok records =>
    refine ⟨records, rfl, fun L => ?_⟩
    rw [csvReaderWith_eq_readEvents] at h ⊢
    refine readEvents_limit Parser.inv_parseReset ?_ Parser.not_holdsLongField_parseReset h
    rcases getLast?_lineEvents false text.data with h' | ⟨-, h0⟩
    · exact .inl h'
    · exact .inr ⟨by rw [h0]; rfl, .inl rfl⟩

/-! ## Reading back what the writer writes -/

/-- The `excel` writer quotes a field (`QUOTE_MINIMAL`) when it holds the delimiter, the
quote character or a line break. -/
def needsQuotes (f : List Char) : Bool := f.any fun c => c == ',' || c == '"' || isNewline c

/-- A quoted field's content: every quote doubled. -/
def escapeQuotes (f : List Char) : List Char :=
  f.flatMap fun c => if c = '"' then ['"', '"'] else [c]

/-- A field as the writer writes it. -/
def formatField (f : List Char) : List Char :=
  if needsQuotes f then '"' :: escapeQuotes f ++ ['"'] else f

/-- The writer's fields of a record, joined by the delimiter. -/
def joinFields : List String → List Char
  | [] => []
  | [f] => formatField f.data
  | f :: g :: fs => formatField f.data ++ ',' :: joinFields (g :: fs)

/-- A record as the writer writes it: its fields joined by the delimiter, then `\r\n`.  A
record of one empty field is written `""`, as an empty line reads as no record at all. -/
def formatRecord (r : List String) : List Char :=
  (if r = [""] then ['"', '"'] else joinFields r) ++ ['\r', '\n']

/-- A table as the writer writes it. -/
def formatTable (rs : List (List String)) : String := ⟨rs.flatMap formatRecord⟩

lemma escapeQuotes_cons (c : Char) (f : List Char) :
    escapeQuotes (c :: f) = (if c = '"' then ['"', '"'] else [c]) ++ escapeQuotes f :=
  List.flatMap_cons _ _ _

section Quoted

variable {fields : List String} {field : List Char} {es : List (Option Char)}

lemma readEvents_inQuotedField_quote :
    readEvents L ⟨.inQuotedField, fields, field⟩ (some '"' :: es) =
      readEvents L ⟨.quoteInQuotedField, fields, field⟩ es := rfl

lemma readEvents_inQuotedField_none :
    readEvents L ⟨.inQuotedField, fields, field⟩ (none :: es) =
      readEvents L ⟨.inQuotedField, fields, field⟩ es := rfl

lemma readEvents_inQuotedField_char {c : Char} (hc : c ≠ '"') (h : field.length < L) :
    readEvents L ⟨.inQuotedField, fields, field⟩ (some c :: es) =
      readEvents L ⟨.inQuotedField, fields, field ++ [c]⟩ es := by
  show (parseProcessChar _ _ _ >>= _) = _
  dsimp only [parseProcessChar]
  rw [if_neg hc, parseAddChar_of_lt h]
  rfl

lemma readEvents_quoteInQuotedField_quote (h : field.length < L) :
    readEvents L ⟨.quoteInQuotedField, fields, field⟩ (some '"' :: es) =
      readEvents L ⟨.inQuotedField, fields, field ++ ['"']⟩ es := by
  show (parseProcessChar _ _ _ >>= _) = _
  dsimp only [parseProcessChar]
  rw [if_pos rfl, parseAddChar_of_lt h]
  rfl

/-- **A quoted field reads back.** Inside quotes the reader keeps every character, line
breaks included, and reads a doubled quote as one quote; the closing quote leaves it waiting
for a delimiter. -/
lemma readEvents_escapeQuotes (s : List Char) :
    ∀ {field : List Char} {mid : Bool} {rest : List Char},
      field.length + s.length ≤ L →
      readEvents L ⟨.inQuotedField, fields, field⟩
          (lineEvents mid (escapeQuotes s ++ '"' :: rest)) =
        readEvents L ⟨.quoteInQuotedField, fields, field ++ s⟩ (lineEvents true rest) := by
  induction s with
  | nil =>
    intro field mid rest _
    rw [escapeQuotes, List.flatMap_nil, List.nil_append, lineEvents_quote,
      readEvents_inQuotedField_quote, List.append_nil]
  | cons c s ih =>
    intro field mid rest hl
    rw [List.length_cons] at hl
    have hlt : field.length < L := by omega
    have ih' : ∀ mid, readEvents L ⟨.inQuotedField, fields, field ++ [c]⟩
        (lineEvents mid (escapeQuotes s ++ '"' :: rest)) =
        readEvents L ⟨.quoteInQuotedField, fields, field ++ c :: s⟩ (lineEvents true rest) := by
      intro mid
      rw [ih (by rw [List.length_append, List.length_singleton]; omega), List.append_assoc,
        List.singleton_append]
    rw [escapeQuotes_cons, List.append_assoc]
    by_cases hq : c = '"'
    · subst hq
      rw [if_pos rfl, List.cons_append, List.cons_append, List.nil_append, lineEvents_quote,
        lineEvents_quote, readEvents_inQuotedField_quote, readEvents_quoteInQuotedField_quote hlt]
      exact ih' true
    rw [if_neg hq, List.singleton_append]
    by_cases hlf : c = '\n'
    · subst hlf
      rw [lineEvents_lf, readEvents_inQuotedField_char hq hlt, readEvents_inQuotedField_none]
      exact ih' false
    by_cases hcr : c = '\r'
    · subst hcr
      rw [lineEvents_cr, readEvents_inQuotedField_char hq hlt]
      split_ifs
      · exact ih' true
      · rw [readEvents_inQuotedField_none]
        exact ih' false
    have hc : isNewline c = false := by simpa [isNewline] using And.intro hlf hcr
    rw [lineEvents_cons_of_not_newline hc, readEvents_inQuotedField_char hq hlt]
    exact ih' true

lemma readEvents_inField_char {c : Char} (hc : isNewline c = false) (hd : c ≠ ',')
    (h : field.length < L) :
    readEvents L ⟨.inField, fields, field⟩ (some c :: es) =
      readEvents L ⟨.inField, fields, field ++ [c]⟩ es := by
  show (parseProcessChar _ _ _ >>= _) = _
  dsimp only [parseProcessChar]
  rw [hc, if_neg Bool.false_ne_true, if_neg hd, parseAddChar_of_lt h]
  rfl

/-- **A plain field reads back**: without delimiter, quote or line break, every character
goes into the field. -/
lemma readEvents_plain (s : List Char) :
    ∀ {field : List Char} {rest : List Char}, needsQuotes s = false →
      field.length + s.length ≤ L →
      readEvents L ⟨.inField, fields, field⟩ (lineEvents true (s ++ rest)) =
        readEvents L ⟨.inField, fields, field ++ s⟩ (lineEvents true rest) := by
  induction s with
  | nil => intro field rest _ _; rw [List.nil_append, List.append_nil]
  | cons c s ih =>
    intro field rest hq hl
    simp only [needsQuotes, List.any_cons, Bool.or_eq_false_iff, beq_eq_false_iff_ne] at hq
    obtain ⟨⟨⟨hd, -⟩, hc⟩, hq⟩ := hq
    rw [List.length_cons] at hl
    rw [List.cons_append, lineEvents_cons_of_not_newline hc,
      readEvents_inField_char hc hd (by omega),
      ih hq (by rw [List.length_append, List.length_singleton]; omega), List.append_assoc,
      List.singleton_append]

end Quoted

section Boundaries

variable {fields : List String} {field : List Char} {es : List (Option Char)}

/-- After a field, a delimiter saves it and starts the next. -/
lemma readEvents_comma {st : ParserState}
    (hst : st = .startField ∨ st = .inField ∨ st = .quoteInQuotedField) :
    readEvents L ⟨st, fields, field⟩ (some ',' :: es) =
      readEvents L ⟨.startField, fields ++ [⟨field⟩], []⟩ es := by
  rcases hst with rfl | rfl | rfl <;> rfl

/-- After a field, `\r\n` and the end of the line end the record. -/
lemma readEvents_crlf {st : ParserState}
    (hst : st = .startField ∨ st = .inField ∨ st = .quoteInQuotedField) :
    readEvents L ⟨st, fields, field⟩ (some '\r' :: some '\n' :: none :: es) =
      ((fields ++ [⟨field⟩]) :: ·) <$> readEvents L parseReset es := by
  rcases hst with rfl | rfl | rfl <;> rfl

lemma readEvents_startField_quote :
    readEvents L ⟨.startField, fields, field⟩ (some '"' :: es) =
      readEvents L ⟨.inQuotedField, fields, field⟩ es := rfl

lemma readEvents_startField_char {c : Char} (hc : isNewline c = false) (hq : c ≠ '"')
    (hd : c ≠ ',') (hL : 0 < L) :
    readEvents L ⟨.startField, fields, []⟩ (some c :: es) =
      readEvents L ⟨.inField, fields, [c]⟩ es := by
  show (parseProcessChar _ _ _ >>= _) = _
  dsimp only [parseProcessChar, processStartField]
  rw [hc, if_neg Bool.false_ne_true, if_neg hq, if_neg hd,
    parseAddChar_of_lt hL]
  rfl

/-- A record that starts with a character other than a line break starts its first field. -/
lemma readEvents_startRecord {c : Char} {rest : List Char} (hc : isNewline c = false)
    (mid : Bool) :
    readEvents L ⟨.startRecord, fields, field⟩ (lineEvents mid (c :: rest)) =
      readEvents L ⟨.startField, fields, field⟩ (lineEvents mid (c :: rest)) := by
  rw [lineEvents_cons_of_not_newline hc]
  show (parseProcessChar _ _ _ >>= _) = (parseProcessChar _ _ _ >>= _)
  dsimp only [parseProcessChar]
  rw [hc, if_neg Bool.false_ne_true]
  rfl

end Boundaries

/-- **A field reads back.** From the start of a field, the reader takes in the field as the
writer writes it and holds its characters, in a state where a delimiter or a line break
saves it. -/
lemma readEvents_formatField {fields : List String} {f : List Char} (hf : f.length ≤ L)
    (mid : Bool) (rest : List Char) :
    ∃ st, (st = .startField ∨ st = .inField ∨ st = .quoteInQuotedField) ∧ ∃ mid',
      readEvents L ⟨.startField, fields, []⟩ (lineEvents mid (formatField f ++ rest)) =
        readEvents L ⟨st, fields, f⟩ (lineEvents mid' rest) := by
  unfold formatField
  split_ifs with hq
  · refine ⟨.quoteInQuotedField, .inr (.inr rfl), true, ?_⟩
    simp only [List.cons_append, List.append_assoc, List.singleton_append]
    rw [lineEvents_quote, readEvents_startField_quote,
      readEvents_escapeQuotes f (by simpa using hf)]
    simp only [List.nil_append]
  · rcases f with _ | ⟨c, s⟩
    · exact ⟨.startField, .inl rfl, mid, rfl⟩
    · simp only [Bool.not_eq_true, needsQuotes, List.any_cons, Bool.or_eq_false_iff,
        beq_eq_false_iff_ne] at hq
      obtain ⟨⟨⟨hd, hqc⟩, hc⟩, hs⟩ := hq
      rw [List.length_cons] at hf
      refine ⟨.inField, .inr (.inl rfl), true, ?_⟩
      rw [List.cons_append, lineEvents_cons_of_not_newline hc,
        readEvents_startField_char hc hqc hd (by omega),
        @readEvents_plain _ fields s [c] rest hs (by rw [List.length_singleton]; omega)]
      rfl

/-- **A record's fields read back**, up to the `\r\n` that ends it. -/
lemma readEvents_joinFields :
    ∀ (r : List String), r ≠ [] → (∀ f ∈ r, f.length ≤ L) →
    ∀ (fields : List String) (mid : Bool) (rest : List Char),
      readEvents L ⟨.startField, fields, []⟩
          (lineEvents mid (joinFields r ++ '\r' :: '\n' :: rest)) =
        ((fields ++ r) :: ·) <$> readEvents L parseReset (lineEvents false rest)
  | [], h, _ => absurd rfl h
  | [f], _, hl => by
    intro fields mid rest
    obtain ⟨st, hst, mid', h⟩ :=
      @readEvents_formatField _ fields _ (hl f (List.mem_singleton_self _)) mid
        ('\r' :: '\n' :: rest)
    rw [joinFields, h, lineEvents_crlf, readEvents_crlf hst]
  | f :: g :: r, _, hl => by
    intro fields mid rest
    rw [joinFields, List.append_assoc, List.cons_append]
    obtain ⟨st, hst, mid', h⟩ :=
      @readEvents_formatField _ fields _ (hl f (List.mem_cons_self _ _)) mid
        (',' :: (joinFields (g :: r) ++ '\r' :: '\n' :: rest))
    have ih := readEvents_joinFields (g :: r) (List.cons_ne_nil _ _)
      (fun f' hf' => hl f' (List.mem_cons_of_mem _ hf')) (fields ++ [f]) true rest
    rw [h, lineEvents_cons_of_not_newline (c := ',') rfl, readEvents_comma hst, ih,
      List.append_assoc]
    rfl

lemma isNewline_of_formatField_eq_cons {f t : List Char} {c : Char} (h : formatField f = c :: t) :
    isNewline c = false := by
  unfold formatField at h
  split_ifs at h with hq
  · cases h; rfl
  · subst h
    simp only [Bool.not_eq_true, needsQuotes, List.any_cons, Bool.or_eq_false_iff] at hq
    exact hq.1.2

lemma eq_nil_of_formatField_eq_nil {f : List Char} (h : formatField f = []) : f = [] := by
  unfold formatField at h
  split_ifs at h
  · cases h
  · exact h

/-- A record but `[""]` is written starting with a character other than a line break. -/
lemma exists_joinFields_eq_cons {r : List String} (hr : r ≠ []) (hr' : r ≠ [""]) :
    ∃ c t, joinFields r = c :: t ∧ isNewline c = false := by
  rcases r with _ | ⟨f, _ | ⟨g, r⟩⟩
  · exact absurd rfl hr
  · cases h : formatField f.data with
    | nil => exact absurd (by rw [String.ext (eq_nil_of_formatField_eq_nil h)]) hr'
    | cons c t => exact ⟨c, t, h, isNewline_of_formatField_eq_cons h⟩
  · cases h : formatField f.data with
    | nil => exact ⟨',', _, by rw [joinFields, h, List.nil_append], rfl⟩
    | cons c t => exact ⟨c, _, by rw [joinFields, h, List.cons_append],
        isNewline_of_formatField_eq_cons h⟩

/-- **A record reads back.** -/
lemma readEvents_formatRecord {r : List String} (hr : r ≠ [])
    (hl : ∀ f ∈ r, f.length ≤ L) (rest : List Char) :
    readEvents L parseReset (lineEvents false (formatRecord r ++ rest)) =
      (r :: ·) <$> readEvents L parseReset (lineEvents false rest) := by
  unfold formatRecord
  split_ifs with h1
  · subst h1
    rfl
  · obtain ⟨c, t, ht, hc⟩ := exists_joinFields_eq_cons hr h1
    simp only [List.append_assoc, List.cons_append, List.nil_append]
    rw [ht, List.cons_append, parseReset, readEvents_startRecord hc, ← List.cons_append, ← ht]
    exact readEvents_joinFields r hr hl [] false rest

/-- **A table reads back.** Reading the text the writer writes for records that each have a
field, none longer than the limit, gives back the records. -/
theorem csvReader_formatTable {rs : List (List String)}
    (h : ∀ r ∈ rs, r ≠ [] ∧ ∀ f ∈ r, f.length ≤ fieldLimit) :
    csvReader (formatTable rs) = .ok rs := by
  rw [csvReader, csvReaderWith_eq_readEvents]
  show readEvents fieldLimit parseReset (lineEvents false (rs.flatMap formatRecord)) = _
  induction rs with
  | nil => rfl
  | cons r rs ih =>
    obtain ⟨hr, hl⟩ := h r (List.mem_cons_self _ _)
    rw [List.flatMap_cons, readEvents_formatRecord hr hl,
      ih fun r' hr' => h r' (List.mem_cons_of_mem _ hr')]
    rfl

/-- A header and a row with a quoted cell that holds a delimiter, a quote and a line break. -/
example :
    (∀ r ∈ [["Layer #", "Control"], ["1", "a, \"b\"\r\nc"]], r ≠ [] ∧
        ∀ f ∈ r, f.length ≤ fieldLimit) ∧
      csvReader (formatTable [["Layer #", "Control"], ["1", "a, \"b\"\r\nc"]]) =
        .ok [["Layer #", "Control"], ["1", "a, \"b\"\r\nc"]] :=
  ⟨by decide, csvReader_formatTable (by decide)⟩

/-! ## `DictReader` -/

/-- A row of `csv.DictReader`: `dict(zip(fieldnames, row))`, then `restval` (`None`) under
each field name past the end of the record.  The `restkey` entry of a record longer than the
header is left out: its key is `None`, which no column name is. -/
def dictRow (fieldnames row : List String) : PyDict String (Option String) :=
  (fieldnames.drop row.length).foldl (fun d k => d.insert k none)
    ((fieldnames.zip row).foldl (fun d kv => d.insert kv.1 (some kv.2)) PyDict.empty)

/-- `list(csv.DictReader(f))` over the records of `f`: the first record names the fields, and
every later record but an empty one becomes a row. -/
def dictReader : List (List String) → List (PyDict String (Option String))
  | [] => []
  | fieldnames :: records => (records.filter (· ≠ [])).map (dictRow fieldnames)

/-- Without an empty record, every record after the header becomes a row. -/
lemma dictReader_of_ne_nil {fieldnames : List String} {records : List (List String)}
    (h : ∀ r ∈ records, r ≠ []) :
    dictReader (fieldnames :: records) = records.map (dictRow fieldnames) :=
  congrArg (List.map _) (List.filter_eq_self.2 fun r hr => decide_eq_true (h r hr))

/-- What `dictRow` sets, in order: each field name with its cell, or `None` past the end of
the record. -/
def dictItems (fieldnames row : List String) : List (String × Option String) :=
  (fieldnames.zip row).map (fun kv => (kv.1, some kv.2)) ++
    (fieldnames.drop row.length).map (fun k => (k, none))

lemma dictRow_eq_foldl (fieldnames row : List String) :
    dictRow fieldnames row =
      (dictItems fieldnames row).foldl (fun d x => d.insert x.1 x.2) PyDict.empty := by
  rw [dictItems, List.foldl_append, List.foldl_map, List.foldl_map, dictRow]

lemma map_fst_zip_eq_take {α β : Type} :
    ∀ (l : List α) (l' : List β), (l.zip l').map Prod.fst = l.take l'.length
  | [], _ => (List.take_nil).symm
  | _ :: _, [] => rfl
  | a :: l, _ :: l' => by
    rw [List.zip_cons_cons, List.map_cons, map_fst_zip_eq_take l l', List.length_cons,
      List.take_succ_cons]

lemma map_fst_dictItems (fieldnames row : List String) :
    (dictItems fieldnames row).map Prod.fst = fieldnames := by
  rw [dictItems, List.map_append, List.map_map, List.map_map]
  simp only [Function.comp_def]
  rw [map_fst_zip_eq_take, List.map_id', List.take_append_drop]

/-- **A row has the header's columns**: its keys are the header's names, each once, in the
header's order. -/
lemma keys_dictRow (fieldnames row : List String) :
    (dictRow fieldnames row).keys = fieldnames.eraseDups := by
  rw [dictRow_eq_foldl, PyDict.foldl_insert_eq_tally _ none, PyDict.keys_tally,
    map_fst_dictItems]

lemma mem_keys_dictRow {fieldnames row : List String} {k : String} :
    k ∈ (dictRow fieldnames row).keys ↔ k ∈ fieldnames := by
  rw [dictRow_eq_foldl, PyDict.foldl_insert_eq_tally _ none, PyDict.mem_keys_tally,
    map_fst_dictItems]

/-- Every row of a `DictReader` has the header's names as its keys. -/
lemma keys_of_mem_dictReader {fieldnames : List String} {records : List (List String)}
    {r : PyDict String (Option String)} (h : r ∈ dictReader (fieldnames :: records)) :
    r.keys = fieldnames.eraseDups := by
  obtain ⟨row, -, rfl⟩ := List.mem_map.1 h
  exact keys_dictRow fieldnames row

/-- **A row holds the record's cells.** Under a header without a repeated name, a row is the
header's names with the record's cells in order, and `None` past the end of the record. -/
lemma entries_dictRow {fieldnames : List String} (h : fieldnames.Nodup) (row : List String) :
    (dictRow fieldnames row).entries = dictItems fieldnames row := by
  rw [dictRow_eq_foldl, PyDict.entries_foldl_insert_of_nodup _ _ (by
    rw [PyDict.keys_empty, List.nil_append, map_fst_dictItems]; exact h)]
  rfl

end Csv

end SecurityCompliance
