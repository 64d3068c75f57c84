import SessionReplay.Text.Blank
import SessionReplay.Text.UpperCase

/-!
# Names in the program

The class, property and member names that stand for the names of browser options. A name begins
with a capital; a few options have a class or a property of a different name.
-/

namespace SessionReplay.Program

/-- Classes that are not named as the option they describe. -/
def classNames : List (Text × Text) :=
  [("viewport", "ViewportSize"), ("proxy", "ProxySettings"), ("permissions", "ContextPermission"),
    ("modifiers", "KeyboardModifier"), ("button", "MouseButton")]

def propertyNames : List (Text × Text) :=
  [("storageState", "StorageStatePath"), ("viewport", "ViewportSize")]

def className (option : Text) : Text := (classNames.lookup option).getD (Text.capitalize option)

def propertyName (option : Text) : Text :=
  (propertyNames.lookup option).getD (Text.capitalize option)

/-- Options whose texts name the members of an enumeration. -/
def enumOptions : List Text := ["permissions", "colorScheme", "modifiers", "button"]

def decimalOptions : List Text := ["latitude", "longitude"]

def isWordBreak (c : Char) : Bool := c == '-' || c == '_' || Text.isBlank c

/-- The words of a name: the longest pieces without a word break. -/
def words (name : Text) : List Text := (name.splitOnP isWordBreak).filter (!·.isEmpty)

def memberName (name : Text) : Text := (words name).flatMap Text.capitalize

end SessionReplay.Program
