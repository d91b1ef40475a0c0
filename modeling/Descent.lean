import Descent.Bounds
import Descent.Check
import Descent.Declarations
import Descent.Error
import Descent.Event
import Descent.Expected
import Descent.Furthest
import Descent.Grammar
import Descent.Grammar.Bytes
import Descent.Grammar.Named
import Descent.Grammar.Text
import Descent.Grammar.Tuple
import Descent.Keyed
import Descent.Leaf
import Descent.Lexer
import Descent.Lexer.Code
import Descent.Lexer.Words
import Descent.NameMap
import Descent.Parse
import Descent.Parser
import Descent.Parser.Repeat
import Descent.Parser.Routine
import Descent.Pattern.CharClass
import Descent.Pattern.Expr
import Descent.Pattern.Haystack
import Descent.Pattern.Program
import Descent.Pattern.Reader
import Descent.Pattern.Resolve
import Descent.Pattern.Search
import Descent.Pattern.Tree
import Descent.Position
import Descent.Proofs.AnyCheck
import Descent.Proofs.Budget
import Descent.Proofs.Composition
import Descent.Proofs.Fragment
import Descent.Proofs.GrammarErrors
import Descent.Proofs.Invariant
import Descent.Proofs.Outcome
import Descent.Proofs.Parallel
import Descent.Proofs.Record
import Descent.Proofs.Report
import Descent.Proofs.Sanity
import Descent.Proofs.Semilattice
import Descent.Proofs.Shift
import Descent.Proofs.Split
import Descent.Proofs.Tracking
import Descent.Proofs.Translation
import Descent.Proofs.Visits
import Descent.Session
import Descent.Step
import Descent.Stream
import Descent.Stream.Boundary
import Descent.Stream.Kinds
import Descent.Text.Quoted
import Descent.Text.Utf8
import Descent.Unicode.Age
import Descent.Unicode.Case
import Descent.Unicode.Category
import Descent.Unicode.CodeSet
import Descent.Unicode.GraphemeBreak
import Descent.Unicode.Property
import Descent.Unicode.Revised
import Descent.Unicode.Script
import Descent.Unicode.SentenceBreak
import Descent.Unicode.Table
import Descent.Unicode.WordBreak
import Descent.Proofs.Progress
import Descent.Proofs.Consumption
import Descent.Proofs.Termination
import Descent.Proofs.Unfolding
import Descent.Proofs.BracketText
import Descent.Proofs.Brackets
import Descent.Proofs.Collection
import Descent.Proofs.Counts
import Descent.Proofs.Regrouping
import Descent.Proofs.Passage
import Descent.Proofs.Verbatim
import Descent.Proofs.Transcripts
import Descent.Proofs.Sessions
import Descent.Proofs.Heeded
import Descent.Proofs.Lookahead
import Descent.Proofs.Repetition
import Descent.Proofs.Replies
import Descent.Proofs.Rows
import Descent.Proofs.Separation
import Descent.Proofs.Splitting
import Descent.Proofs.Alternatives
import Descent.Proofs.Sequences
import Descent.Proofs.WholeStreams
import Descent.Proofs.Places
import Descent.Proofs.Literals
import Descent.Proofs.Spellings
import Descent.Proofs.LongestFirst
import Descent.Proofs.Ranges
import Descent.Proofs.NamedParts
import Descent.Proofs.Cuts
import Descent.Proofs.Tiling
import Descent.Proofs.Lexing
import Descent.Proofs.Prose
import Descent.Proofs.Prefixes
import Descent.Proofs.Merging
import Descent.Proofs.Enumeration
