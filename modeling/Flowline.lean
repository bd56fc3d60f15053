import Flowline.Flow.Intents
import Flowline.Flow.Router
import Flowline.Lexicon.Stock
import Flowline.Loose.Compile
import Flowline.Loose.Parse
import Flowline.Loose.Survey
import Flowline.Sample
import Flowline.Text.LowerTable
import Flowline.Text.Units
import Flowline.Script.Lexeme
import Flowline.Script.Read
import Flowline.Script.Run
import Flowline.CommandLine
import Flowline.Main
import Flowline.Editor.Analysis
import Flowline.Editor.Keyword
import Flowline.Editor.Document
import Flowline.Editor.Format
import Flowline.Editor.Navigation
import Flowline.Editor.Completion
import Flowline.Editor.Hover
import Flowline.Editor.Lens
import Flowline.Editor.Refactor
import Flowline.Editor.Watch
import Flowline.Editor.Command
import Flowline.Editor.Debug
import Flowline.Workload.Flow
import Flowline.Workload.Line
import Flowline.Workload.Source
import Flowline.Script.Placement
import Flowline.Script.Flaw
import Flowline.Script.Phrase
import Flowline.Proofs.Indentation
import Flowline.Proofs.Grammar
import Flowline.Proofs.LooseTokens
import Flowline.Proofs.Reading
import Flowline.Proofs.Agreement
import Flowline.Proofs.Boundaries
import Flowline.Proofs.LooseTrees
import Flowline.Proofs.Marks
import Flowline.Proofs.Quotation
import Flowline.Proofs.Words
import Flowline.Proofs.Digits
import Flowline.Proofs.Lexing
import Flowline.Proofs.StraightLine
import Flowline.Proofs.Phrases
import Flowline.Proofs.StraightReading
import Flowline.Proofs.Lexicons
import Flowline.Proofs.StraightCommand
import Flowline.Proofs.Edits
import Flowline.Proofs.Formatting
import Flowline.Proofs.Selection
import Flowline.Proofs.BlockBalance
import Flowline.Proofs.ShownLevels
import Flowline.Proofs.Records
import Flowline.Proofs.EngineRuns
import Flowline.Proofs.ClientRuns
import Flowline.Proofs.RobotRuns
import Flowline.Proofs.NodeSteps
import Flowline.Proofs.Arguments
import Flowline.Proofs.CommandReports
import Flowline.Proofs.FlowCommand
import Flowline.Proofs.LineScans
import Flowline.Proofs.PieceReading
import Flowline.Proofs.BlockReading
import Flowline.Proofs.CodeCharacters
import Flowline.Proofs.GeneratedLines
import Flowline.Proofs.Concatenation
import Flowline.Proofs.ProgramLayout
import Flowline.Proofs.LayoutFaults
import Flowline.Proofs.Publication
import Flowline.Proofs.Sessions
import Flowline.Proofs.NamedBlocks
import Flowline.Proofs.Reformatting
import Flowline.Proofs.Comments
import Flowline.Proofs.Conditions
import Flowline.Proofs.PrintedText
import Flowline.Proofs.NumberGrammar
import Flowline.Proofs.NumberLiterals
import Flowline.Proofs.Recompiling
import Flowline.Proofs.LexiconHistory
import Flowline.Proofs.RepeatedRuns
import Flowline.Proofs.ArrowFlows
import Flowline.Proofs.WordRanges
import Flowline.Proofs.References
import Flowline.Proofs.ReportPlaces
import Flowline.Proofs.Extraction
import Flowline.Proofs.Respacing
import Flowline.Proofs.Outlines
import Flowline.Proofs.Completions
import Flowline.Proofs.VariableExtraction
import Flowline.Proofs.Spellings
