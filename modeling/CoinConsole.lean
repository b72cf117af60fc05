import CoinConsole.Instruction.Cursor
import CoinConsole.Main
import CoinConsole.Program.Inspect
import CoinConsole.Proofs.Text.Numerals
import CoinConsole.Proofs.Token.MaximalMunch
import CoinConsole.Proofs.Instruction.ViablePrefix
import CoinConsole.Proofs.Instruction.RoundTrip
import CoinConsole.Proofs.Game.Pipeline
import CoinConsole.Proofs.Save.Sessions
import CoinConsole.Proofs.Report.Pointing
import CoinConsole.Proofs.Game.Layout
import CoinConsole.Proofs.Program.Performance
import CoinConsole.Proofs.Instruction.Leftover
import CoinConsole.Proofs.Game.Ledger
import CoinConsole.Proofs.Game.Interleaving
import CoinConsole.Proofs.Console.Routing
import CoinConsole.Proofs.Console.Scrollback
import CoinConsole.Proofs.Program.Refusal
import CoinConsole.Proofs.Game.Resolution
import CoinConsole.Proofs.Instruction.Descent
import CoinConsole.Proofs.Token.FirstFault
import CoinConsole.Proofs.Token.Literal
import CoinConsole.Proofs.Token.Concatenation
import CoinConsole.Proofs.Token.Resumption
import CoinConsole.Proofs.Save.Flush
import CoinConsole.Proofs.Save.Acceptance
import CoinConsole.Proofs.Console.Capacity
import CoinConsole.Proofs.Console.Window
import CoinConsole.Proofs.Instruction.Restart
import CoinConsole.Proofs.Instruction.ArgumentRun
import CoinConsole.Proofs.Text.SelfDelimiting
import CoinConsole.Proofs.Token.ListedLines
import CoinConsole.Proofs.Save.Format
