import ScriptBindings.Text.CharRun

/-!
# Blanks

White space between words: the property White_Space of Unicode 14 together with the four information
separators U+001C to U+001F. Zero-width characters are not blanks.
-/

namespace ScriptBindings.Text

/-- The characters with the property White_Space, and U+001C to U+001F. -/
def blankRuns : List CharRun :=
  [⟨0x9, 0xD, 1⟩, ⟨0x1C, 0x20, 1⟩, ⟨0x85, 0x85, 1⟩, ⟨0xA0, 0xA0, 1⟩, ⟨0x1680, 0x1680, 1⟩,
   ⟨0x2000, 0x200A, 1⟩, ⟨0x2028, 0x2029, 1⟩, ⟨0x202F, 0x202F, 1⟩, ⟨0x205F, 0x205F, 1⟩,
   ⟨0x3000, 0x3000, 1⟩]

/-- Whether a character is white space. -/
def isBlank (c : Char) : Bool :=
  covered blankRuns c

end ScriptBindings.Text
