/-!
# Text

Text is a list of characters, so that every statement about written code is a statement about
lists. A string literal stands for its characters.

`Text.lines` cuts at line feeds and `Text.unlines` joins with them; each undoes the other.
-/

namespace SessionReplay

abbrev Text := List Char

instance : Coe String Text := ⟨String.toList⟩

namespace Text

instance decidableMem (text : Text) (texts : List Text) : Decidable (text ∈ texts) :=
  List.instDecidableMemOfLawfulBEq text texts

/-- The pieces between line feeds; there is always at least one. -/
def lines (text : Text) : List Text := text.splitOn '\n'

/-- The pieces in one text, a line feed between neighbours. -/
def unlines (pieces : List Text) : Text := ['\n'].intercalate pieces

def join (separator : Text) (pieces : List Text) : Text := separator.intercalate pieces

@[simp] theorem join_singleton (separator piece : Text) : join separator [piece] = piece := by
  simp [join, List.intercalate]

theorem join_cons_cons (separator piece next : Text) (rest : List Text) :
    join separator (piece :: next :: rest) = piece ++ separator ++ join separator (next :: rest) := by
  simp [join, List.intercalate, List.intersperse]

def contains (part : Text) : Text → Bool
  | [] => part.isEmpty
  | c :: rest => part.isPrefixOf (c :: rest) || contains part rest

theorem contains_iff (part text : Text) : contains part text = true ↔ part <:+: text := by
  induction text with
  | nil => simp [contains]
  | cons c rest ih => simp [contains, ih, List.infix_cons_iff]

def ofNat (n : Nat) : Text := Nat.toDigits 10 n

/-- The decimal numeral of an integer, a minus sign before a negative one. -/
def ofInt : Int → Text
  | .ofNat n => ofNat n
  | .negSucc n => '-' :: ofNat (n + 1)

/-- The hexadecimal digits of a number, filled with zeros to `width`. -/
def hex (width n : Nat) : Text :=
  let digits := Nat.toDigits 16 n
  List.replicate (width - digits.length) '0' ++ digits

/-- The decimal numeral of a number, filled with zeros to `width`. -/
def padded (width n : Nat) : Text :=
  let digits := ofNat n
  List.replicate (width - digits.length) '0' ++ digits

/-- What is left when `front` is taken off the beginning, if the text begins with it. -/
def dropFront? (front : Text) (text : Text) : Option Text :=
  if front.isPrefixOf text then some (text.drop front.length) else none

def lowerAscii (text : Text) : Text := text.map Char.toLower

/-- The number that a run of ASCII decimal digits writes; other characters are not looked for. -/
def digitsValue (digits : Text) : Nat :=
  digits.foldl (fun n c => 10 * n + (c.toNat - 48)) 0

end Text
end SessionReplay
