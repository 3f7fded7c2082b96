/-!
# Content hashes in names

Generated host names end in an underscore and a hash of 32 hexadecimal digits. A single line feed
behind the hash is looked past.
-/

namespace ScriptBindings.Name

/-- Hexadecimal digits of either case, as host names have them. -/
def isHexDigit (c : Char) : Bool :=
  c.isDigit || ('a' ≤ c && c ≤ 'f') || ('A' ≤ c && c ≤ 'F')

/-- Hexadecimal digits in small letters, as script names have them. -/
def isSmallHexDigit (c : Char) : Bool :=
  c.isDigit || ('a' ≤ c && c ≤ 'f')

/-- The number of characters of a hash together with its underscore. -/
def hashLength : Nat := 33

/-- The line feed that may stand at the very end of a text. -/
def finalLineFeed (s : List Char) : List Char :=
  if s.getLast? = some '\n' then ['\n'] else []

/-- A text without the line feed at its very end. -/
def withoutFinalLineFeed (s : List Char) : List Char :=
  if s.getLast? = some '\n' then s.dropLast else s

/-- Whether a text is an underscore and 32 digits. -/
def isHash (isDigit : Char → Bool) : List Char → Bool
  | '_' :: digits => digits.length + 1 == hashLength && digits.all isDigit
  | _ => false

/-- Whether a text ends in a hash, possibly before one final line feed. -/
def endsInHash (isDigit : Char → Bool) (s : List Char) : Bool :=
  let body := withoutFinalLineFeed s
  -- a shorter text is looked at as a whole, and is no hash because of its length
  isHash isDigit (body.drop (body.length - hashLength))

/-- A text without the hash at its end. A final line feed stays. -/
def dropHash (isDigit : Char → Bool) (s : List Char) : List Char :=
  if endsInHash isDigit s then
    let body := withoutFinalLineFeed s
    body.take (body.length - hashLength) ++ finalLineFeed s
  else s

/-- A text is what comes before its final line feed, and that line feed. -/
theorem withoutFinalLineFeed_append (s : List Char) :
    withoutFinalLineFeed s ++ finalLineFeed s = s := by
  unfold withoutFinalLineFeed finalLineFeed
  split
  · next h =>
    obtain ⟨xs, rfl⟩ := List.getLast?_eq_some_iff.mp h
    simp
  · simp

end ScriptBindings.Name
