import SessionReplay.Text.Base64
import SessionReplay.Text.LowerCase
import SessionReplay.Yaml.Node.Basic

/-!
# The data of scalars

What a scalar stands for, as its tag says. A mapping may have a value that stands for it as a whole,
under the key `=`; then it can be a scalar too.
-/

namespace SessionReplay.Yaml

def Graph.scalarText (graph : Graph) : Nat → NodeId → Except Fault Text
  | 0, _ => .error (.data .endless)
  | depth + 1, id =>
    let node := graph.node id
    match node.content with
    | .scalar text => .ok text
    | .sequence _ => .error (.syntaxAt node.mark)
    | .mapping entries =>
      match entries.find? fun entry => (graph.node entry.1).tag = .standIn with
      | some entry => graph.scalarText depth entry.2
      | none => .error (.syntaxAt node.mark)

def boolOf (text : Text) : Except DataFault Bool :=
  let name := Text.lower text
  if ["yes", "y", "true", "on"].any (·.toList = name) then .ok true
  else if ["no", "n", "false", "off"].any (·.toList = name) then .ok false
  else .error (.notBool name)

def bytesOf (mark : Mark) (text : Text) : Except Fault (List UInt8) :=
  match Text.ofBase64? text with
  | some bytes =>
    if text.all (·.toNat < 0x80) then .ok bytes else .error (.syntaxAt mark)
  | none => .error (.syntaxAt mark)

def Node.time (node : Node) : Except Fault Value :=
  match node.content with
  | .scalar text =>
    match WrittenTime.ofText? (dropFinalBreak text) with
    | some written => written.value.mapError .data
    | none => .error (.syntaxAt node.mark)
  | _ => .error (.syntaxAt node.mark)

end SessionReplay.Yaml
