import SessionReplay.Text.Basic

/-!
# Blank characters

The white space of Unicode and the four information separators U+001C to U+001F. Trimming takes
blanks off both ends of a text and leaves what stands between.
-/

namespace SessionReplay.Text

/-- The Unicode property White_Space. -/
def isWhiteSpace (c : Char) : Bool :=
  let n := c.toNat
  (9 ≤ n && n ≤ 13) || n == 0x20 || n == 0x85 || n == 0xA0 || n == 0x1680 ||
    (0x2000 ≤ n && n ≤ 0x200A) || n == 0x2028 || n == 0x2029 || n == 0x202F || n == 0x205F ||
    n == 0x3000

/-- White space, or one of the separators for files, groups, records and units. -/
def isBlank (c : Char) : Bool :=
  isWhiteSpace c || (0x1C ≤ c.toNat && c.toNat ≤ 0x1F)

def stripWhere (drop : Char → Bool) (text : Text) : Text :=
  ((text.dropWhile drop).reverse.dropWhile drop).reverse

def trim (text : Text) : Text := stripWhere isBlank text

@[simp] theorem trim_nil : trim [] = [] := rfl

end SessionReplay.Text
