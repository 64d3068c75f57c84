import SessionReplay.Number.Shortest
import SessionReplay.Program.Naming
import SessionReplay.Text.Quoted
import SessionReplay.Value.Display

/-!
# Literals

The expression that writes a value in the program. It depends on the option that the value is set
to: the nearest key above it, looked for through lists. Texts of some options are members of an
enumeration, numbers of some are decimal, and the option names the class of an object.

Not every value has a literal; `LiteralFault` lists why.
-/

namespace SessionReplay.Program

inductive LiteralFault where
  /-- A decimal option is set to an infinity or to NaN. -/
  | notFinite (option : Text) (x : Double)
  /-- An integer is beyond all doubles. -/
  | tooLarge (n : Int)
  /-- The value is of a kind that the program cannot write. -/
  | noLiteral (kind : Text)
  /-- A key of a kind that has no first character names no property. -/
  | keyNotText (kind : Text)
  /-- A composite key begins with something that has no upper case. -/
  | keyWithoutCase (kind : Text)
  /-- A composite key begins with text, and its rest is no text. -/
  | keyNotJoined
  /-- A composite key begins with bytes, and its rest is none. -/
  | keyBytesNotJoined
deriving DecidableEq

def LiteralFault.message : LiteralFault → Text
  | .notFinite option x => option ++ " に有限でない値は指定できません: " ++ x.numeral
  | .tooLarge _ => "int too large to convert to float"
  | .noLiteral kind => "bad operand type for abs(): '" ++ kind ++ "'"
  | .keyNotText kind => "'" ++ kind ++ "' object is not subscriptable"
  | .keyWithoutCase kind => "'" ++ kind ++ "' object has no attribute 'upper'"
  | .keyNotJoined => "can only concatenate str (not \"tuple\") to str"
  | .keyBytesNotJoined => "can't concat tuple to bytes"

def maxLong : Nat := 2 ^ 63 - 1

/-- The greatest integer up to which every integer is a double. -/
def maxExact : Nat := 2 ^ 53

/-- The whole number that a double is, if it is one and is written as one. -/
def exactInt? (x : Double) : Option Int :=
  x.toInt?.filter fun n => n.natAbs ≤ maxExact

def doubleLiteral (x : Double) : Text :=
  match x with
  | .nan => "double.NaN"
  | .infinite negative => if negative then "double.NegativeInfinity" else "double.PositiveInfinity"
  | x => ((exactInt? x).map Text.ofInt).getD x.numeral

/-- The literal of an integer; outside the range of integers it is that of the nearest double. -/
def intLiteral (n : Int) : Except LiteralFault Text :=
  if n.natAbs ≤ maxLong then .ok (Text.ofInt n)
  else
    match Double.ofInt? n with
    | some x => .ok x.numeral
    | none => .error (.tooLarge n)

def numberSuffix (option : Text) : Text := if option ∈ decimalOptions then "m" else []

def textLiteral (option text : Text) : Text :=
  if option ∈ enumOptions then className option ++ "." ++ memberName text else text.quoted

def arrayLiteral : List Text → Text
  | [] => "new string[] \x7b \x7d"
  | items => "new[] \x7b " ++ Text.join ", " items ++ " \x7d"

/-- The expression for an object without properties. A name that ends in a bracket brings its
arguments along. -/
def emptyObject (option : Text) : Text :=
  if option = [] then []
  else if (className option).getLast? = some ')' then "new " ++ className option
  else "new " ++ className option ++ "()"

def objectLiteral (indent option : Text) : List Text → Text
  | [] => emptyObject option
  | settings =>
    let opening : Text := if option = [] then [] else "new " ++ className option ++ "\n"
    opening ++ "\x7b\n" ++ indent ++ Text.join ('\n' :: indent) settings ++ "\n" ++ indent ++ "\x7d"

/-- A key as the name of a property and as the option that the value under it is set to. An empty
key that is no text is shown and names no option. -/
def keyNames : Value → Except LiteralFault (Text × Text)
  | .text key => .ok (propertyName key, key)
  | key =>
    if key.isFalsy then .ok (key.display, [])
    else
      match key with
      | .bytes _ => .error (.keyWithoutCase (Value.int 0).kind)
      | .tuple (.text _ :: _) => .error .keyNotJoined
      | .tuple (.bytes _ :: _) => .error .keyBytesNotJoined
      | .tuple (first :: _) => .error (.keyWithoutCase first.kind)
      | other => .error (.keyNotText other.kind)

mutual

def literal (indent option : Text) : Value → Except LiteralFault Text
  | .text text => .ok (textLiteral option text)
  | .bool b => .ok (if b then "true".toList else "false".toList)
  | .null => .ok "null"
  | .list items | .tuple items => do .ok (arrayLiteral (← itemLiterals indent option items))
  | .dict entries | .ordered entries => do
    .ok (objectLiteral indent option (← settingLiterals indent entries))
  | .float x =>
    if option ∈ decimalOptions ∧ ¬ x.isFinite then .error (.notFinite option x)
    else .ok (doubleLiteral x ++ numberSuffix option)
  | .int n => do .ok ((← intLiteral n) ++ numberSuffix option)
  | .bytes data => .error (.noLiteral (Value.bytes data).kind)
  | .date day => .error (.noLiteral (Value.date day).kind)
  | .moment time => .error (.noLiteral (Value.moment time).kind)
  | .set items => .error (.noLiteral (Value.set items).kind)
termination_by structural value => value

def itemLiterals (indent option : Text) : List Value → Except LiteralFault (List Text)
  | [] => .ok []
  | item :: rest => do
    let first ← literal indent option item
    .ok (first :: (← itemLiterals indent option rest))
termination_by structural items => items

def settingLiterals (indent : Text) : List (Value × Value) → Except LiteralFault (List Text)
  | [] => .ok []
  | (key, value) :: rest => do
    let (property, option) ← keyNames key
    let expression ← literal indent option value
    let first : Text := property ++ " = " ++ expression ++ ","
    .ok (first :: (← settingLiterals indent rest))
termination_by structural entries => entries

end

def defaultIndent : Text := "    "

end SessionReplay.Program
