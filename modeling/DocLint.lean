import DocLint.Assoc
import DocLint.Check
import DocLint.Checker
import DocLint.Comment
import DocLint.Comment.Reader
import DocLint.Comment.Tag
import DocLint.Decimal
import DocLint.Fault
import DocLint.Host
import DocLint.Lexeme
import DocLint.Lexeme.Layout
import DocLint.Literal.Escape
import DocLint.Literal.Evaluation
import DocLint.Literal.Expression
import DocLint.Literal.Expression.OfSymbols
import DocLint.Literal.Field
import DocLint.Literal.Name
import DocLint.Literal.NameRanges
import DocLint.Literal.Numeral
import DocLint.Literal.Parameter
import DocLint.Literal.Quotation
import DocLint.Literal.Quote
import DocLint.Literal.Symbol
import DocLint.ParserPath
import DocLint.Proofs.Checker
import DocLint.Proofs.Comment.Dedent
import DocLint.Proofs.Comment.Description
import DocLint.Proofs.Comment.DescriptionSpan
import DocLint.Proofs.Comment.Margin
import DocLint.Proofs.Comment.ParamForms
import DocLint.Proofs.Comment.ParamText
import DocLint.Proofs.Comment.Reindent
import DocLint.Proofs.Comment.Rereading
import DocLint.Proofs.Comment.TagSegments
import DocLint.Proofs.Comment.Written
import DocLint.Proofs.Lexeme.CompleteFunction
import DocLint.Proofs.Lexeme.Depth
import DocLint.Proofs.Lexeme.DocString
import DocLint.Proofs.Lexeme.Header
import DocLint.Proofs.Lexeme.Padding
import DocLint.Proofs.Lexeme.Scope
import DocLint.Proofs.Lexeme.Suite
import DocLint.Proofs.Lexeme.SuiteLayout
import DocLint.Proofs.Literal.LineFeeds
import DocLint.Proofs.Literal.Quoted
import DocLint.Proofs.Registry
import DocLint.Proofs.Registry.Declared
import DocLint.Proofs.Rule.BlankFile
import DocLint.Proofs.Rule.BlankLines
import DocLint.Proofs.Rule.Capital
import DocLint.Proofs.Rule.Clean
import DocLint.Proofs.Rule.Copy
import DocLint.Proofs.Rule.Erasure
import DocLint.Proofs.Rule.Extension
import DocLint.Proofs.Rule.Finding
import DocLint.Proofs.Rule.Inversion
import DocLint.Proofs.Rule.LineOrder
import DocLint.Proofs.Rule.LineRange
import DocLint.Proofs.Rule.Locality
import DocLint.Proofs.Rule.Opening
import DocLint.Proofs.Rule.Padding
import DocLint.Proofs.Rule.ParamVerdict
import DocLint.Proofs.Rule.ReturnSearch
import DocLint.Proofs.Rule.Shape
import DocLint.Proofs.Rule.Spacing
import DocLint.Proofs.Rule.Total
import DocLint.Proofs.Search
import DocLint.Proofs.Session
import DocLint.Proofs.Settings
import DocLint.Proofs.Settings.Lookup
import DocLint.Proofs.Steps
import DocLint.Proofs.Text.Template
import DocLint.Proofs.Text.Trim
import DocLint.Proofs.Token.Bodiless
import DocLint.Proofs.Token.BodyStart
import DocLint.Proofs.Token.Copy
import DocLint.Proofs.Token.DocComment
import DocLint.Proofs.Token.InnerBrackets
import DocLint.Proofs.Token.Nearest
import DocLint.Proofs.Token.Padding
import DocLint.Proofs.Token.ParameterList
import DocLint.Proofs.Token.ParameterScan
import DocLint.Proofs.Token.Placement
import DocLint.Proofs.Token.Scopes
import DocLint.Proofs.Token.Sequence
import DocLint.Proofs.Token.Structure
import DocLint.Proofs.Value
import DocLint.Registry
import DocLint.Registry.Packaged
import DocLint.Rule.EndOfFile
import DocLint.Rule.FunctionComment.Baseline
import DocLint.Rule.FunctionComment.Extended
import DocLint.Rule.FunctionComment.Subject
import DocLint.Search
import DocLint.Session
import DocLint.Settings
import DocLint.Settings.Lookup
import DocLint.Text.Blank
import DocLint.Text.CaseRanges
import DocLint.Text.Lowercase
import DocLint.Text.Quoted
import DocLint.Text.Template
import DocLint.Text.UnprintableRanges
import DocLint.Text.Word
import DocLint.Token
import DocLint.Token.OfLexemes
import DocLint.Token.Sequence
import DocLint.Token.Signature
import DocLint.Value
import DocLint.Violation
