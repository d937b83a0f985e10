import DocQuery.Text.Normal.Basic
import DocQuery.Text.Quoted
import DocQuery.Text.Units
import DocQuery.Text.Identifier
import DocQuery.Decimal.Binary64
import DocQuery.Decimal.Integer
import DocQuery.Decimal.Shortest
import DocQuery.Digest.Sha256
import DocQuery.Value.Basic
import DocQuery.Value.Bson
import DocQuery.Value.Bytes
import DocQuery.Value.Canonical
import DocQuery.Value.Indent
import DocQuery.Value.Indexed
import DocQuery.Yaml.Emitter
import DocQuery.Expr.Basic
import DocQuery.Expr.Leaves
import DocQuery.Json.Basic
import DocQuery.Json.Reader
import DocQuery.Json.Writer
import DocQuery.Expr.Decode
import DocQuery.Expr.Encode
import DocQuery.Expr.Walk
import DocQuery.Expr.Visitor
import DocQuery.Tables.Basic
import DocQuery.Tables.Indexed
import DocQuery.Tables.Standard
import DocQuery.Compile.Basic
import DocQuery.Script.Error
import DocQuery.Script.Number
import DocQuery.Script.StringText
import DocQuery.Script.Lexer
import DocQuery.Script.State
import DocQuery.Script.Function
import DocQuery.Script.Expression
import DocQuery.Script.Convert
import DocQuery.Config.Basic
import DocQuery.Config.Reader
import DocQuery.Tables.Load
import DocQuery.Command.Arguments
import DocQuery.Command.Log
import DocQuery.Command.Run
import DocQuery.Main
import DocQuery.Proofs.Compiler
import DocQuery.Proofs.ConfigReading
import DocQuery.Proofs.ConfigTokens
import DocQuery.Proofs.FilterMeaning
import DocQuery.Proofs.UpdateChain
import DocQuery.Proofs.JsonGrammar
import DocQuery.Proofs.Acceptance
import DocQuery.Proofs.TreeStrings
import DocQuery.Proofs.WrittenJson
import DocQuery.Proofs.TreeFormat
import DocQuery.Proofs.TreeRoundTrip
import DocQuery.Proofs.KeyOrder
import DocQuery.Proofs.JsonMeaning
import DocQuery.Proofs.StrictReader
import DocQuery.Proofs.ValueText
import DocQuery.Proofs.CanonicalForm
import DocQuery.Proofs.ByteStrings
import DocQuery.Proofs.CanonicalBytes
import DocQuery.Proofs.CanonicalText
import DocQuery.Proofs.Renderers
import DocQuery.Proofs.CompileRuns
import DocQuery.Proofs.CompiledDocuments
import DocQuery.Proofs.Regrouping
import DocQuery.Proofs.ChainOrder
import DocQuery.Proofs.Spelling
import DocQuery.Proofs.ScriptLiterals
import DocQuery.Proofs.Scanning
import DocQuery.Proofs.Reading
import DocQuery.Proofs.ReadingOperators
import DocQuery.Proofs.ReadingOperands
import DocQuery.Proofs.SpellingRoundTrip
import DocQuery.Proofs.Envelopes
import DocQuery.Proofs.ErrorPlaces
import DocQuery.Proofs.Subtrees
import DocQuery.Proofs.TableChecks
import DocQuery.Proofs.Blame
import DocQuery.Proofs.TableFiles
import DocQuery.Proofs.TableUse
import DocQuery.Proofs.TreeCodec
import DocQuery.Proofs.Walking
import DocQuery.Proofs.Visitors
import DocQuery.Proofs.Nesting
import DocQuery.Proofs.NumberTexts
import DocQuery.Proofs.RadixLiterals
import DocQuery.Proofs.TokenRuns
import DocQuery.Proofs.LiteralOrder
import DocQuery.Proofs.ParsedTrees
import DocQuery.Proofs.IndexedDocuments
import DocQuery.Proofs.ConjunctionDocuments
import DocQuery.Proofs.MethodOperands
import DocQuery.Proofs.DoubleRange
import DocQuery.Proofs.RefusedValues
import DocQuery.Proofs.IndentedText
import DocQuery.Proofs.NumberValues
import DocQuery.Proofs.DriverValues
import DocQuery.Proofs.IndexedTables
import DocQuery.Proofs.SeparatorEscapes
import DocQuery.Proofs.LeafLoop
import DocQuery.Proofs.SourcePlaces
