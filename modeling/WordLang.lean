import WordLang.Text.CharRanges
import WordLang.Text.Blank
import WordLang.Text.LetterNumber
import WordLang.Text.WordChar
import WordLang.Text.Width
import WordLang.Text.Quote
import WordLang.Text.Grapheme
import WordLang.Syntax.Span
import WordLang.Syntax.Token
import WordLang.Syntax.Lexer
import WordLang.Syntax.Node
import WordLang.Syntax.Numeral
import WordLang.Syntax.Parser
import WordLang.Value
import WordLang.Eval.Error
import WordLang.Builtin
import WordLang.Env
import WordLang.Log.Event
import WordLang.Eval.Machine
import WordLang.Eval.Forms
import WordLang.Eval.Program
import WordLang.Diagnostic.SourceLines
import WordLang.Diagnostic.Render
import WordLang.Diagnostic.Errors
import WordLang.Log.Filter
import WordLang.Shell.History
import WordLang.Shell.LineReader
import WordLang.Shell.Process
import WordLang.Shell.Script
import WordLang.Shell.Repl
import WordLang.Main
import WordLang.Proofs.Keys
import WordLang.Proofs.Arena
import WordLang.Proofs.Exec
import WordLang.Proofs.Steady
import WordLang.Proofs.Forms
import WordLang.Proofs.Frames
import WordLang.Proofs.Reference
import WordLang.Proofs.Scanning
import WordLang.Proofs.Brackets
import WordLang.Proofs.Reading
import WordLang.Proofs.Segments
import WordLang.Proofs.Payloads
import WordLang.Proofs.CallLimit
import WordLang.Proofs.Sessions
import WordLang.Proofs.Printing
import WordLang.Proofs.Termination
import WordLang.Proofs.ScanFaults
import WordLang.Proofs.Bindings
import WordLang.Proofs.Blame
import WordLang.Proofs.ArityOrder
import WordLang.Proofs.Loops
import WordLang.Proofs.Assertions
