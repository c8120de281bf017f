import Backtrack.Unicode.RangeTable
import Backtrack.Unicode.Blank
import Backtrack.Unicode.GeneralCategory
import Backtrack.Unicode.Script
import Backtrack.Unicode.ScriptExtension
import Backtrack.Unicode.Age
import Backtrack.Unicode.BinaryProperty
import Backtrack.Unicode.BreakProperty
import Backtrack.Unicode.CaseFolding
import Backtrack.Unicode.GraphemeBreak
import Backtrack.Unicode.Unprintable
import Backtrack.Unicode.Alphabetic
import Backtrack.Text.Basic
import Backtrack.Unicode.WordCharacter
import Backtrack.Unicode.Property
import Backtrack.Pattern.Expr
import Backtrack.Pattern.Plan
import Backtrack.Pattern.Search
import Backtrack.Pattern.Flags
import Backtrack.Pattern.Escape
import Backtrack.Pattern.Bracket
import Backtrack.Pattern.Reader
import Backtrack.Text.Utf8
import Backtrack.Pattern.Shape
import Backtrack.Pattern.Footprint.Basic
import Backtrack.Pattern.Footprint.Members
import Backtrack.Pattern.Footprint.Literals
import Backtrack.Pattern.Footprint
import Backtrack.Text.Quoted
import Backtrack.Pattern
import Backtrack.Trace
import Backtrack.Text.Grapheme
import Backtrack.Behaviour
import Backtrack.ParseError
import Backtrack.Parser.Apply
import Backtrack.Parser.Renaming
import Backtrack.Main
import Backtrack.Proofs.Termination
import Backtrack.Proofs.Successes
import Backtrack.Proofs.Transparency
import Backtrack.Proofs.FixedPoint
import Backtrack.Proofs.Report
import Backtrack.Proofs.Tracing
import Backtrack.Proofs.WordCharacter
import Backtrack.Proofs.EnoughDepth
import Backtrack.Proofs.Lockstep
import Backtrack.Proofs.Respacing
import Backtrack.Proofs.CalculatorLexemes
import Backtrack.Proofs.Recognition
import Backtrack.Proofs.CalculatorLanguage
import Backtrack.Proofs.CalculatorRecognition
import Backtrack.Proofs.Repetition
import Backtrack.Proofs.Determinism
import Backtrack.Proofs.Rendering
import Backtrack.Proofs.CalculatorProgram
import Backtrack.Proofs.Ownership
import Backtrack.Proofs.Liveness
import Backtrack.Proofs.Acceptance
import Backtrack.Proofs.ItemLists
import Backtrack.Proofs.Greedy
import Backtrack.Proofs.LeftFold
import Backtrack.Proofs.Scoping
import Backtrack.Proofs.FreeNames
import Backtrack.Proofs.Record
import Backtrack.Proofs.Indentation
import Backtrack.Proofs.Sequencing
import Backtrack.Proofs.WhiteSpace
import Backtrack.Proofs.SeparatedLists
import Backtrack.Proofs.GraphemeRules
import Backtrack.Proofs.Splitting
import Backtrack.Proofs.MonadLaws
import Backtrack.Proofs.Choices
import Backtrack.Proofs.Parentheses
import Backtrack.Proofs.EscapedText
import Backtrack.Proofs.Messages
import Backtrack.Proofs.LoopBounds
import Backtrack.Proofs.Alternation
