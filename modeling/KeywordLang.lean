import KeywordLang.Brackets
import KeywordLang.Code
import KeywordLang.Command.Host
import KeywordLang.Command.Options
import KeywordLang.Command.Run
import KeywordLang.Compile
import KeywordLang.Dialect
import KeywordLang.Dialect.Load
import KeywordLang.Expression.Expr
import KeywordLang.Expression.Machine
import KeywordLang.Expression.Operator
import KeywordLang.Expression.Stack
import KeywordLang.Fault
import KeywordLang.Json
import KeywordLang.Lexeme
import KeywordLang.Main
import KeywordLang.Numeral
import KeywordLang.Program.Machine
import KeywordLang.Program.Phase
import KeywordLang.Scan
import KeywordLang.Scopes
import KeywordLang.Storage.FileTree
import KeywordLang.Storage.Files
import KeywordLang.Storage.Node
import KeywordLang.Storage.Path
import KeywordLang.Text.Alphabetic
import KeywordLang.Text.Decimal
import KeywordLang.Text.Printable
import KeywordLang.Text.Quoted
import KeywordLang.Text.RangeTable
import KeywordLang.Text.UpperCase
import KeywordLang.Text.WhiteSpace
import KeywordLang.Proofs.Characters
import KeywordLang.Proofs.LexemeCuts
import KeywordLang.Proofs.ExpressionGrammar
import KeywordLang.Proofs.ExpressionTrees
import KeywordLang.Proofs.ExpressionStack
import KeywordLang.Proofs.ExpressionReading
import KeywordLang.Proofs.ExpressionAcceptance
import KeywordLang.Proofs.ScopeChanges
import KeywordLang.Proofs.ScopeSeparation
import KeywordLang.Proofs.ProgramGrammar
import KeywordLang.Proofs.ProgramSteps
import KeywordLang.Proofs.ScopeFaults
import KeywordLang.Proofs.ProgramAtomicity
import KeywordLang.Proofs.ProgramCode
import KeywordLang.Proofs.ProgramDraft
import KeywordLang.Proofs.ProgramReading
import KeywordLang.Proofs.ProgramAcceptance
import KeywordLang.Proofs.ScanLayout
import KeywordLang.Proofs.Reader
import KeywordLang.Proofs.TokenPlaces
import KeywordLang.Proofs.SourceChanges
import KeywordLang.Proofs.ProgramDeclarations
import KeywordLang.Proofs.ProgramConcatenation
import KeywordLang.Proofs.ExpressionBodies
import KeywordLang.Proofs.FrontEndAgreement
import KeywordLang.Proofs.LetterCase
import KeywordLang.Proofs.TextConstants
import KeywordLang.Proofs.FragmentReading
import KeywordLang.Proofs.ProgramSpelling
import KeywordLang.Proofs.DigitGrouping
import KeywordLang.Proofs.ConstructorCapture
import KeywordLang.Proofs.Vocabulary
import KeywordLang.Proofs.ExpressionCode
import KeywordLang.Proofs.StorageChanges
import KeywordLang.Proofs.FailedRuns
import KeywordLang.Proofs.LexicalGrammar
import KeywordLang.Proofs.GrammarReading
import KeywordLang.Proofs.CanonicalDialect
import KeywordLang.Proofs.UsableVocabulary
import KeywordLang.Proofs.NumericConstants
import KeywordLang.Proofs.ExpressionLayers
import KeywordLang.Proofs.ExpressionRuns
