import SessionReplay.Device.Catalog
import SessionReplay.Program.Literal

/-!
# Why a program cannot be written
-/

namespace SessionReplay.Program

/-- Why a program, or a part of it, cannot be written. -/
inductive ProgramFault where
  | literal (fault : LiteralFault)
  | unknownDevice (name : Text)
  /-- Opening a page is no call on a page. -/
  | openingIsNoCall
deriving DecidableEq

def ProgramFault.message : ProgramFault → Text
  | .literal fault => fault.message
  | .unknownDevice name => Device.unknownMessage name
  | .openingIsNoCall => "openPage は呼び出し式に変換できません"

def expression (option : Text) (value : Value) : Except ProgramFault Text :=
  (literal defaultIndent option value).mapError .literal

end SessionReplay.Program
