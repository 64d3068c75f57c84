import SessionReplay.Main
import SessionReplay.Schema.Describe
import SessionReplay.Proofs.Bracket.Program
import SessionReplay.Proofs.Program.SourceLine
import SessionReplay.Proofs.Recording.Variable
import SessionReplay.Proofs.Recording.Handler
import SessionReplay.Proofs.Text.Literal
import SessionReplay.Proofs.Program.Comment
import SessionReplay.Proofs.Number.Reading
import SessionReplay.Proofs.Program.Faithful
import SessionReplay.Proofs.Program.Fault
import SessionReplay.Proofs.Recording.SignalOrder
import SessionReplay.Proofs.Settings.Precedence
import SessionReplay.Proofs.Schema.Description
import SessionReplay.Proofs.Command.Validate
import SessionReplay.Proofs.Command.Generate
import SessionReplay.Proofs.Recording.Conflict
import SessionReplay.Proofs.Value.Equality
import SessionReplay.Proofs.Device.Difference
import SessionReplay.Proofs.Layout.Nesting
import SessionReplay.Proofs.Layout.Setting
import SessionReplay.Proofs.Layout.Expression
import SessionReplay.Proofs.Layout.Literal
import SessionReplay.Proofs.Layout.Block
import SessionReplay.Proofs.Layout.Header
import SessionReplay.Proofs.Layout.Edit
import SessionReplay.Proofs.Layout.Forest
import SessionReplay.Proofs.Layout.Indent
import SessionReplay.Proofs.Layout.Neutral
import SessionReplay.Proofs.Program.Integer
import SessionReplay.Proofs.Program.Member
