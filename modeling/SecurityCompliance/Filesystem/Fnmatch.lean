import Mathlib.Data.List.Basic

/-!
# Shell-style name patterns (`fnmatch`)

`glob.glob` matches each magic component of a pattern against directory entries with
`fnmatch.filter`, which compiles the component by `fnmatch.translate` into a regular
expression and requires a full match.  This module models that translation on the character
level and the full match of its result:

* `*` matches any run of characters, `?` any one character;
* `[...]` is a character class when a closing `]` follows (a `]` right after the `[` or the
  `[!` belongs to the class); `[!...]` is its complement; inside, `x-y` is the range of code
  points from `x` to `y`, and a range with `x > y` matches nothing;
* a `[` with no closing `]` is an ordinary character, as is every other character.

`translate` scans left to right as `fnmatch._translate` does; the class body is parsed by
`classItems`, whose greedy `x-y` reading is what the chunking loop of `_translate` computes.
Both `translate` and `matchTokens` are structurally recursive (`translate` on a fuel equal to
the pattern's length, which each step lowers by one while consuming at least one character),
so every pattern of a concrete run is evaluated by `decide`.
-/

namespace SecurityCompliance

/-- One element of a bracket class. -/
inductive ClassItem where
  | single (c : Char)
  | range (lo hi : Char)
deriving DecidableEq, Repr

/-- Whether a class element admits the character `x`. -/
def ClassItem.admits : ClassItem → Char → Bool
  | .single c, x => x = c
  | .range lo hi, x => lo ≤ x && x ≤ hi

/-- The elements of a class body (its leading `!` removed): `x-y` is a range when a character
follows the hyphen; a hyphen first or last in the body is an ordinary character. -/
def classItems : List Char → List ClassItem
  | x :: '-' :: y :: rest => .range x y :: classItems rest
  | x :: rest => .single x :: classItems rest
  | [] => []

/-- A compiled pattern element. -/
inductive Token where
  | star
  | any
  | cls (negated : Bool) (items : List ClassItem)
  | lit (c : Char)
deriving DecidableEq, Repr

/-- The bracket scan of `_translate` after a `[`: `some (body, rest)` when a closing `]` is
found, where `body` keeps a leading `!` and a `]` right after the `[` or the `[!`. -/
def scanClass (p : List Char) : Option (List Char × List Char) :=
  let (neg, p) := match p with
    | '!' :: r => (['!'], r)
    | r => ([], r)
  let (first, p) := match p with
    | ']' :: r => ([']'], r)
    | r => ([], r)
  match p.span (· ≠ ']') with
  | (body, ']' :: rest) => some (neg ++ first ++ body, rest)
  | _ => none

/-- The token of a class body: a leading `!` complements the class. -/
def classToken : List Char → Token
  | '!' :: body => .cls true (classItems body)
  | body => .cls false (classItems body)

/-- `fnmatch._translate` with fuel; see `translate`. -/
def translateAux : Nat → List Char → List Token
  | 0, _ => []
  | _ + 1, [] => []
  | n + 1, '*' :: p => .star :: translateAux n p
  | n + 1, '?' :: p => .any :: translateAux n p
  | n + 1, '[' :: p =>
    match scanClass p with
    | some (body, rest) => classToken body :: translateAux n rest
    | none => .lit '[' :: translateAux n p
  | n + 1, c :: p => .lit c :: translateAux n p

/-- `fnmatch.translate`: every step consumes at least one character, so the pattern's length
is enough fuel. -/
def translate (p : List Char) : List Token := translateAux p.length p

/-- Full match of a token list against a name, as `re.match(translate(pat) + r'\Z')`. -/
def matchTokens : List Token → List Char → Bool
  | [], s => s.isEmpty
  | .star :: ts, s => s.tails.any (matchTokens ts)
  | .any :: ts, _ :: s => matchTokens ts s
  | .cls neg items :: ts, c :: s => (items.any (·.admits c) != neg) && matchTokens ts s
  | .lit d :: ts, c :: s => c = d && matchTokens ts s
  | _ :: _, [] => false

/-- `fnmatch.fnmatchcase(name, pat)` (on POSIX `fnmatch` does not fold case). -/
def fnmatch (name pat : String) : Bool := matchTokens (translate pat.data) name.data

end SecurityCompliance
