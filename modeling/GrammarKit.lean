import GrammarKit.Assoc
import GrammarKit.Blob.Codec
import GrammarKit.Compile.Flow
import GrammarKit.Compile.Grammar
import GrammarKit.Compile.Journal
import GrammarKit.Compile.ListRules
import GrammarKit.Compile.Nullable
import GrammarKit.Compile.TokenSets
import GrammarKit.Compile.Variant
import GrammarKit.Compile.VariantRules
import GrammarKit.Declaration
import GrammarKit.Ebnf
import GrammarKit.Fault
import GrammarKit.Grammar
import GrammarKit.Grammar.Blob
import GrammarKit.Grammar.Listing
import GrammarKit.Kind
import GrammarKit.Language
import GrammarKit.Lexing.Event
import GrammarKit.Lexing.Indentation
import GrammarKit.Lexing.Layout
import GrammarKit.Lexing.Lexed
import GrammarKit.Lexing.Lexer
import GrammarKit.Lexing.LiteralSet
import GrammarKit.Lexing.Matcher
import GrammarKit.Lexing.Piece
import GrammarKit.Pattern.Expr
import GrammarKit.Pattern.Pattern
import GrammarKit.Pattern.Program
import GrammarKit.Pattern.Reader
import GrammarKit.Proofs.Blob.Codec
import GrammarKit.Proofs.Compile.Ending
import GrammarKit.Proofs.Compile.Flow
import GrammarKit.Proofs.Compile.Generation
import GrammarKit.Proofs.Compile.Grammar
import GrammarKit.Proofs.Compile.ListForms
import GrammarKit.Proofs.Compile.ListRules
import GrammarKit.Proofs.Compile.ListWords
import GrammarKit.Proofs.Compile.Nullable
import GrammarKit.Proofs.Compile.Provenance
import GrammarKit.Proofs.Compile.Seeds
import GrammarKit.Proofs.Compile.Starting
import GrammarKit.Proofs.Compile.Storable
import GrammarKit.Proofs.Compile.Variant
import GrammarKit.Proofs.Compile.VariantRules
import GrammarKit.Proofs.Derivation
import GrammarKit.Proofs.Fault
import GrammarKit.Proofs.Generation
import GrammarKit.Proofs.Grammar.Blob
import GrammarKit.Proofs.Grammar.Listing
import GrammarKit.Proofs.Kind
import GrammarKit.Proofs.Language
import GrammarKit.Proofs.Lexing.Blocks
import GrammarKit.Proofs.Lexing.Construction
import GrammarKit.Proofs.Lexing.Newlines
import GrammarKit.Proofs.Lexing.Pieces
import GrammarKit.Proofs.Lexing.Recognition
import GrammarKit.Proofs.Lexing.Tiling
import GrammarKit.Proofs.Rank
import GrammarKit.Proofs.Token.Descendants
import GrammarKit.Proofs.Token.Table
import GrammarKit.Proofs.TokenSet
import GrammarKit.Rank
import GrammarKit.Report.ParseError
import GrammarKit.Report.Row
import GrammarKit.Report.Snippet
import GrammarKit.Report.Source
import GrammarKit.Report.Window
import GrammarKit.Rule
import GrammarKit.Span
import GrammarKit.Text.Basic
import GrammarKit.Text.Blank
import GrammarKit.Text.Casing
import GrammarKit.Text.Casing.Table
import GrammarKit.Text.CharSet
import GrammarKit.Text.Property
import GrammarKit.Text.Property.Age
import GrammarKit.Text.Property.Binary
import GrammarKit.Text.Property.Boundary
import GrammarKit.Text.Property.Category
import GrammarKit.Text.Property.Class
import GrammarKit.Text.Property.Script
import GrammarKit.Text.Property.ScriptExtension
import GrammarKit.Text.Quoted
import GrammarKit.Text.Width
import GrammarKit.Token.Decl
import GrammarKit.Token.Descendants
import GrammarKit.Token.Table
import GrammarKit.TokenSet
import GrammarKit.Proofs.Lexing.Lexed
import GrammarKit.Proofs.Token.Lineage
import GrammarKit.Proofs.Lexing.Scan
import GrammarKit.Proofs.Declaration
import GrammarKit.Proofs.Compile.Numbering
import GrammarKit.Proofs.Compile.Sources
import GrammarKit.Proofs.Compile.Reached
import GrammarKit.Proofs.Compile.Checked
import GrammarKit.Proofs.Compile.WellFormed
import GrammarKit.Proofs.Lexing.Refinement
import GrammarKit.Proofs.Compile.Substitution
import GrammarKit.Proofs.Lexing.Margins
import GrammarKit.Proofs.Pattern.Program
import GrammarKit.Proofs.Compile.Validity
import GrammarKit.Proofs.Text.Casing
import GrammarKit.Proofs.Lexing.FirstChars
import GrammarKit.Proofs.Lexing.Covers
import GrammarKit.Proofs.Report.ParseError
import GrammarKit.Proofs.Lexing.LinePositions
import GrammarKit.Proofs.Lexing.Crlf
import GrammarKit.Proofs.Lexing.LineEndings
import GrammarKit.Proofs.Token.Ancestry
import GrammarKit.Proofs.Token.Validity
import GrammarKit.Proofs.Lexing.LongestLiteral
import GrammarKit.Proofs.Lexing.LongestMatch
import GrammarKit.Proofs.Blob.Delimited
import GrammarKit.Proofs.Grammar.Truncation
import GrammarKit.Proofs.RankHistory
import GrammarKit.Proofs.Compile.Initial
import GrammarKit.Proofs.Compile.LongLists
import GrammarKit.Proofs.Compile.Enumeration
import GrammarKit.Proofs.Lexing.StrayRuns
import GrammarKit.Proofs.Token.Preorder
import GrammarKit.Proofs.Lexing.Indentation
import GrammarKit.Proofs.Lexing.Positions
import GrammarKit.Proofs.Report.Snap
import GrammarKit.Proofs.Compile.Propagation
import GrammarKit.Proofs.Lexing.SlashRegex
import GrammarKit.Proofs.Assoc
import GrammarKit.Proofs.Ebnf
import GrammarKit.Proofs.Lexing.Trace
import GrammarKit.Proofs.Compile.Emptiness
import GrammarKit.Proofs.Compile.SharedPairs
import GrammarKit.Proofs.Interning
