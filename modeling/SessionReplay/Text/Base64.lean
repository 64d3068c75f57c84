import SessionReplay.Text.Basic

/-!
# Base64

Bytes written with 64 characters, six bits each, in groups of four. Characters outside of the
alphabet are passed over. Equals signs that fill up the last group end the data, whatever follows.
-/

namespace SessionReplay.Text

def sextet? (c : Char) : Option Nat :=
  if 'A' ≤ c ∧ c ≤ 'Z' then some (c.toNat - 'A'.toNat)
  else if 'a' ≤ c ∧ c ≤ 'z' then some (c.toNat - 'a'.toNat + 26)
  else if c.isDigit then some (c.toNat - '0'.toNat + 52)
  else if c = '+' then some 62
  else if c = '/' then some 63
  else none

/-- The whole bytes in a group of sextets: one fewer than there are sextets. -/
def sextetBytes : List Nat → List UInt8
  | a :: b :: rest => (a * 4 + b / 16).toUInt8 :: (match rest with
    | [] => []
    | c :: rest => (b % 16 * 16 + c / 4).toUInt8 :: (match rest with
      | [] => []
      | d :: _ => [(c % 4 * 64 + d).toUInt8]))
  | _ => []

/-- The bytes from here on: `group` holds the sextets of the group that has begun, `fill` counts the
equals signs that have just filled it up. Nothing, if a group is left open. -/
def base64From (group : List Nat) (fill : Nat) : Text → Option (List UInt8)
  | [] => if group.isEmpty then some [] else none
  | c :: rest =>
    if c = '=' then
      let fill := if 2 ≤ group.length then fill + 1 else fill
      if 2 ≤ group.length ∧ 4 ≤ group.length + fill then some (sextetBytes group)
      else base64From group fill rest
    else
      match sextet? c with
      | none => base64From group fill rest
      | some bits =>
        let group := group ++ [bits]
        if group.length = 4 then (base64From [] 0 rest).map (sextetBytes group ++ ·)
        else base64From group 0 rest

def ofBase64? (text : Text) : Option (List UInt8) := base64From [] 0 text

example : ofBase64? "aGVsbG8=" = some ("hello".toList.map fun c => c.toNat.toUInt8) := by decide

end SessionReplay.Text
