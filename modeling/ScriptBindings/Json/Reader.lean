import ScriptBindings.Json

/-!
# Reading JSON texts

A text is cut into tokens (`Token.scan`), and a stack of unfinished arrays and objects takes the
tokens one after the other (`State.feed`). The grammar is the strict one, with one addition: `NaN`
and the two infinities count as numbers. An escape for half a surrogate pair stands for U+FFFD, and
the last of several members with one name wins. A whole number may not have more than
`Text.maxDigits` digits, and a number with a point or an exponent is rounded to the binary format.
Arrays and objects may not be nested deeper than `maxNesting`.
-/

namespace ScriptBindings.Json

/-- Why a text cannot be read. -/
inductive ReadError where
  | malformed
  | tooManyDigits
  | tooDeep
  deriving DecidableEq, Repr

/-! ## Tokens -/

/-- A token of a JSON text. `bad` stands where no token begins, and ends the list of tokens. -/
inductive Token where
  | openArray
  | closeArray
  | openObject
  | closeObject
  | comma
  | colon
  | word (value : Json)
  | text (s : String)
  | number (negative : Bool) (digits : List Char)
  | real (x : Binary64)
  | bad

/-- White space between tokens. -/
def isSpace (c : Char) : Bool :=
  c == ' ' || c == '\t' || c == '\n' || c == '\r'

/-- The value of a hexadecimal digit. -/
def hexValue? (c : Char) : Option Nat :=
  if '0' ≤ c ∧ c ≤ '9' then some (c.toNat - '0'.toNat)
  else if 'a' ≤ c ∧ c ≤ 'f' then some (c.toNat - 'a'.toNat + 10)
  else if 'A' ≤ c ∧ c ≤ 'F' then some (c.toNat - 'A'.toNat + 10)
  else none

/-- The number that four hexadecimal digits stand for. -/
def hexUnit? (a b c d : Char) : Option Nat := do
  let a ← hexValue? a
  let b ← hexValue? b
  let c ← hexValue? c
  let d ← hexValue? d
  return ((a * 16 + b) * 16 + c) * 16 + d

/-- The character that a one-letter escape stands for. -/
def escape? : Char → Option Char
  | '"' => some '"'
  | '\\' => some '\\'
  | '/' => some '/'
  | 'b' => some '\x08'
  | 'f' => some '\x0c'
  | 'n' => some '\n'
  | 'r' => some '\r'
  | 't' => some '\t'
  | _ => none

/-- Reads a string up to its closing quote: the code points and 16-bit units in it, and the text
that follows. Control characters have to be written as escapes. -/
def scanString (units : List Nat) : List Char → Option (List Nat × List Char)
  | [] => none
  | '"' :: cs => some (units.reverse, cs)
  | '\\' :: 'u' :: a :: b :: c :: d :: cs =>
    match hexUnit? a b c d with
    | some n => scanString (n :: units) cs
    | none => none
  | '\\' :: e :: cs =>
    match escape? e with
    | some c => scanString (c.toNat :: units) cs
    | none => none
  | c :: cs => if c < ' ' then none else scanString (c.toNat :: units) cs

/-- The characters of a list of code points and 16-bit units: a high and a low surrogate make one
character, and a surrogate that stands alone is replaced. -/
def joinUnits : List Nat → List Char
  | [] => []
  | [n] => [if 0xD800 ≤ n ∧ n < 0xE000 then '\uFFFD' else Char.ofNat n]
  | n :: m :: ns =>
    if 0xD800 ≤ n ∧ n < 0xDC00 ∧ 0xDC00 ≤ m ∧ m < 0xE000 then
      Char.ofNat (0x10000 + (n - 0xD800) * 0x400 + (m - 0xDC00)) :: joinUnits ns
    else
      (if 0xD800 ≤ n ∧ n < 0xE000 then '\uFFFD' else Char.ofNat n) :: joinUnits (m :: ns)

/-- The digits of a whole number at the front of a text: a lone zero, or digits that do not begin
with one. -/
def wholeDigits : List Char → List Char
  | '0' :: _ => ['0']
  | cs => cs.takeWhile (·.isDigit)

/-- The digits behind a point at the front of a text. -/
def fractionDigits : List Char → List Char
  | '.' :: cs => cs.takeWhile (·.isDigit)
  | _ => []

/-- An exponent at the front of a text, with the number of characters it takes. -/
def exponent? : List Char → Option (Int × Nat)
  | e :: cs =>
    if e = 'e' ∨ e = 'E' then
      let sign := (cs.take 1).filter fun c => c == '+' || c == '-'
      let digits := (cs.drop sign.length).takeWhile (·.isDigit)
      let size : Int := Text.natOfDigits digits
      if digits.isEmpty then none
      else some (if sign = ['-'] then -size else size, 1 + sign.length + digits.length)
    else none
  | [] => none

/-- A number at the front of a text, as a token and the number of characters it takes. -/
def scanNumber? (cs : List Char) : Option (Token × Nat) :=
  let sign := (cs.take 1).filter (· == '-')
  let whole := wholeDigits (cs.drop sign.length)
  let n := sign.length + whole.length
  let behind := fractionDigits (cs.drop n)
  -- without digits behind it, a point or a letter is not taken
  let m := if behind.isEmpty then n else n + 1 + behind.length
  let real (power : Int) : Token :=
    .real (.ofDecimal (sign = ['-']) (whole ++ behind) (power - behind.length))
  if whole.isEmpty then none
  else
    match exponent? (cs.drop m), behind with
    | some (power, k), _ => some (real power, m + k)
    | none, _ :: _ => some (real 0, m)
    | none, [] => some (.number (sign = ['-']) whole, n)

/-- The words that stand for a value. -/
def words : List (List Char × Token) :=
  [("null".toList, .word .null), ("true".toList, .word (.bool true)),
   ("false".toList, .word (.bool false)), ("NaN".toList, .real .nan),
   ("Infinity".toList, .real (.infinity false)), ("-Infinity".toList, .real (.infinity true))]

/-- The token that begins a text and is neither a string nor white space, and the number of
characters it takes. -/
def scanPlain? (cs : List Char) : Option (Token × Nat) :=
  match cs.head? with
  | some '[' => some (.openArray, 1)
  | some ']' => some (.closeArray, 1)
  | some '{' => some (.openObject, 1)
  | some '}' => some (.closeObject, 1)
  | some ',' => some (.comma, 1)
  | some ':' => some (.colon, 1)
  | _ =>
    match words.find? fun w => w.1.isPrefixOf cs with
    | some w => some (w.2, w.1.length)
    | none => scanNumber? cs

/-- What is left after a string is shorter than what was before it. -/
theorem length_of_scanString {units us : List Nat} {cs rest : List Char}
    (h : scanString units cs = some (us, rest)) : rest.length < cs.length := by
  fun_induction scanString units cs <;> simp_all <;> omega

/-- The tokens of a text. -/
def Token.scan (cs : List Char) : List Token :=
  match cs with
  | [] => []
  | '"' :: rest =>
    match h : scanString [] rest with
    | none => [.bad]
    | some (units, after) =>
      have := length_of_scanString h
      .text (String.ofList (joinUnits units)) :: scan after
  | c :: rest =>
    if isSpace c then scan rest
    else
      match scanPlain? (c :: rest) with
      | none => [.bad]
      | some (token, n) => token :: scan (rest.drop (n - 1))
termination_by cs.length
decreasing_by all_goals simp_all <;> omega

/-! ## Values -/

/-- An array or object of which some elements have been read. -/
inductive Frame where
  | array (items : List Json)
  | object (members : List (String × Json)) (name : String)

/-- What a reader may meet next. -/
inductive Expected where
  | value
  | itemOrEnd
  | nameOrEnd
  | name (members : List (String × Json))
  | colon (members : List (String × Json)) (name : String)
  | next (done : Json)

/-- A reader of tokens: what it expects, within which unfinished arrays and objects. -/
structure State where
  expected : Expected
  stack : List Frame

/-- The value that a single token stands for, if it does. -/
def Token.value? : Token → Except ReadError (Option Json)
  | .word v => .ok (some v)
  | .text s => .ok (some (.text s))
  | .real x => .ok (some (.scalar (.real x)))
  | .number negative digits =>
    match Text.readDigits? digits with
    | none => .error .tooManyDigits
    | some n => .ok (some (.int (if negative then -(n : Int) else n)))
  | _ => .ok none

/-- The most arrays and objects that may be unfinished at a time. -/
def maxNesting : Nat := 989

/-- Whether there may be one more unfinished array or object. -/
def checkNesting (stack : List Frame) : Except ReadError Unit :=
  if maxNesting ≤ stack.length then .error .tooDeep else .ok ()

/-- Takes a token where a value may begin. -/
def State.feedValue (token : Token) (stack : List Frame) : Except ReadError State := do
  match token with
  | .openArray =>
    checkNesting stack
    return ⟨.itemOrEnd, .array [] :: stack⟩
  | .openObject =>
    checkNesting stack
    return ⟨.nameOrEnd, stack⟩
  | _ =>
    match ← token.value? with
    | some v => return ⟨.next v, stack⟩
    | none => throw .malformed

/-- Takes the next token. -/
def State.feed (s : State) (token : Token) : Except ReadError State :=
  match s.expected, token, s.stack with
  -- an array may end before its first item, but not behind a comma
  | .itemOrEnd, .closeArray, .array items :: stack => .ok ⟨.next (.array items.reverse), stack⟩
  | .value, token, stack => feedValue token stack
  | .itemOrEnd, token, stack => feedValue token stack
  | .nameOrEnd, .closeObject, stack => .ok ⟨.next (.object []), stack⟩
  | .nameOrEnd, .text name, stack => .ok ⟨.colon [] name, stack⟩
  | .name members, .text name, stack => .ok ⟨.colon members name, stack⟩
  | .colon members name, .colon, stack => .ok ⟨.value, .object members name :: stack⟩
  | .next v, .comma, .array items :: stack => .ok ⟨.value, .array (v :: items) :: stack⟩
  | .next v, .closeArray, .array items :: stack =>
    .ok ⟨.next (.array (v :: items).reverse), stack⟩
  -- a name that comes again gets the later value
  | .next v, .comma, .object members name :: stack =>
    .ok ⟨.name (Table.putPair name v members), stack⟩
  | .next v, .closeObject, .object members name :: stack =>
    .ok ⟨.next (.object (Table.putPair name v members)), stack⟩
  | _, _, _ => .error .malformed

/-- The value that a text spells. -/
def read (cs : List Char) : Except ReadError Json := do
  let last ← (Token.scan cs).foldlM State.feed ⟨.value, []⟩
  match last with
  | ⟨.next v, []⟩ => return v
  | _ => throw .malformed

end ScriptBindings.Json
