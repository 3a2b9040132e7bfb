import GreedyPattern.Unicode.Numeric
import GreedyPattern.Unicode.Alphabetic
import GreedyPattern.Unicode.Blank
import GreedyPattern.Unicode.DefaultIgnorable
import GreedyPattern.Unicode.GraphemeExtend
import GreedyPattern.Unicode.Unprintable
import GreedyPattern.Text.Basic
import GreedyPattern.Text.Lines
import GreedyPattern.Text.Cursor
import GreedyPattern.Text.Quoted
import GreedyPattern.CharClass
import GreedyPattern.Node.Basic
import GreedyPattern.Node.Outline
import GreedyPattern.CompileError
import GreedyPattern.Symbol
import GreedyPattern.Reading
import GreedyPattern.Compile
import GreedyPattern.Captures
import GreedyPattern.Match.Outcome
import GreedyPattern.Match.Node
import GreedyPattern.Match.Basic
import GreedyPattern.Match.Calls
import GreedyPattern.Pattern
import GreedyPattern.Search.Style
import GreedyPattern.Search.Basic
import GreedyPattern.Options
import GreedyPattern.Program
import GreedyPattern.Main
import GreedyPattern.Proofs.Run
import GreedyPattern.Proofs.Limit
import GreedyPattern.Proofs.Grammar
import GreedyPattern.Proofs.GrammarSound
import GreedyPattern.Proofs.GrammarComplete
import GreedyPattern.Proofs.Scan
import GreedyPattern.Proofs.Derivation
import GreedyPattern.Proofs.Words
import GreedyPattern.Proofs.Repetition
import GreedyPattern.Proofs.DisjointFollow
import GreedyPattern.Proofs.Calls
import GreedyPattern.Proofs.Sharing
import GreedyPattern.Proofs.Iterations
import GreedyPattern.Proofs.Rendering
import GreedyPattern.Proofs.Escapes
import GreedyPattern.Proofs.Depth
import GreedyPattern.Proofs.Openings
import GreedyPattern.Proofs.Entries
import GreedyPattern.Proofs.Visits
import GreedyPattern.Proofs.Renaming
import GreedyPattern.Proofs.Descent
import GreedyPattern.Proofs.Simulation
import GreedyPattern.Proofs.Concatenation
import GreedyPattern.Proofs.Continuation
import GreedyPattern.Proofs.Completion
import GreedyPattern.Proofs.Alternatives
import GreedyPattern.Proofs.Cuts
import GreedyPattern.Proofs.Flattening
import GreedyPattern.Proofs.Termination
import GreedyPattern.Proofs.Literals
import GreedyPattern.Proofs.Outlines
import GreedyPattern.Proofs.LineByLine
import GreedyPattern.Proofs.Filtering
import GreedyPattern.Proofs.Arguments
import GreedyPattern.Proofs.Quotations
import GreedyPattern.Proofs.Colors
import GreedyPattern.Proofs.Actions
import GreedyPattern.Proofs.Discipline
import GreedyPattern.Proofs.Walks
