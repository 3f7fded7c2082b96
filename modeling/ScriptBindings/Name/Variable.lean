import ScriptBindings.Name.HashSuffix
import ScriptBindings.Text.CaseMapping
import ScriptBindings.Text.Digit
import ScriptBindings.Text.Uppercase

/-!
# Variable names

The script spelling of host variables. Host names are in title case, with a leading `b` for truth
values and possibly with blanks, colons and a content hash; script names are in small letters with
underscores between words, an `@` before members, and a question mark after truth values:
`MaxHealth` is spelled `max_health`, and the member `bIsDead` is spelled `@is_dead?`.

* `spelling` turns the characters of a host name into script characters;
* `placed` adds what depends on the place of the name;
* `ofVariable` is both together.
-/

namespace ScriptBindings.Name

open Text

/-- The words of the script language, which no variable may be called. -/
def reservedWords : List (List Char) :=
  ["branch", "case", "divert", "else", "exit", "false", "fork", "if", "loop", "nil", "race",
   "rush", "skip", "sync", "this", "this_class", "this_code", "true", "unless", "when", "and",
   "nand", "nor", "not", "nxor", "or", "xor"].map String.toList

/-- Whether a host name has the form of a truth value: a `b`, a capital letter, and more. -/
def isBoolean : List Char → Bool
  | 'b' :: c :: _ :: _ => isUppercase c
  | _ => false

/-- A host name without the `b` of a truth value. -/
def dropBooleanMark (name : List Char) : List Char :=
  if isBoolean name then name.drop 1 else name

/-- Characters that separate the words of a host name. -/
def isSeparator (c : Char) : Bool :=
  c == ' ' || c == ':' || c == '_'

/-- Characters that begin a new word when one of another sort comes before them. -/
def isUpperLike (c : Char) : Bool :=
  isUppercase c || isDigit c

/-- Spells the rest of a host name, given whether the last character was upper-like and whether the
spelling stands at its beginning or behind an underscore. Question marks are left out, and a stretch
of separators makes one underscore. -/
def spellFrom : (upper gap : Bool) → List Char → List Char
  | _, _, [] => []
  | upper, gap, c :: cs =>
    if c = '?' then spellFrom upper gap cs
    else if isSeparator c then
      -- a separator does not change what the last character was
      if gap then spellFrom upper gap cs else '_' :: spellFrom upper true cs
    else
      let word := lowercase c ++ spellFrom (isUpperLike c) false cs
      if isUpperLike c && !upper && !gap then '_' :: word else word

/-- A host name without what does not belong to its spelling: the content hash of a long name, and
then the `b` of a truth value. -/
def stem (name : List Char) : List Char :=
  dropBooleanMark (if hashLength < name.length then dropHash isHexDigit name else name)

/-- The spelling of a host name in small letters and underscores. -/
def spelling (name : List Char) : List Char :=
  spellFrom true true (stem name)

/-- Keeps a spelling apart from the reserved words. -/
def escapeReserved (s : List Char) : List Char :=
  if s ∈ reservedWords then s ++ ['_'] else s

/-- A spelling without the content hash at its end, if it is longer than that. The last characters
are dropped as many as a hash has, so a final line feed goes in place of the underscore. -/
def dropSpelledHash (s : List Char) : List Char :=
  if hashLength < s.length && endsInHash isSmallHexDigit s then s.take (s.length - hashLength)
  else s

/-- A spelling in its place. A question mark is put after it if `question` holds, and an `@` before
it if it is a `member`; only a name without the `@` can be a reserved word. -/
def placed (spelled : List Char) (question member : Bool) : List Char :=
  let marked := if member then '@' :: spelled else escapeReserved spelled
  -- the `@` and the escape count towards the length that a hash is looked for in
  dropSpelledHash marked ++ if question then ['?'] else []

/-- The script name of a host variable; a host variable without a name has none. -/
def ofVariable (name : List Char) (question member : Bool) : List Char :=
  if name = [] then [] else placed (spelling name) question member

end ScriptBindings.Name
