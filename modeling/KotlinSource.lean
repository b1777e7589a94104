import KotlinSource.Code.Basic
import KotlinSource.Code.Expansion
import KotlinSource.Code.Flow
import KotlinSource.Decimal.Binary
import KotlinSource.Decimal.Reading
import KotlinSource.Decimal.Shortest
import KotlinSource.Declaration.Basic
import KotlinSource.Declaration.Building
import KotlinSource.Declaration.Error
import KotlinSource.Declaration.Validity
import KotlinSource.Diagnostic
import KotlinSource.Document.Entry
import KotlinSource.Document.Options
import KotlinSource.Document.Quoted
import KotlinSource.File.Basic
import KotlinSource.File.Rendering
import KotlinSource.Imports.Line
import KotlinSource.Imports.Table
import KotlinSource.Layout.Filling
import KotlinSource.Layout.Options
import KotlinSource.Layout.Writer
import KotlinSource.Lexical.Identifier
import KotlinSource.Lexical.Keyword
import KotlinSource.Lexical.NamePool
import KotlinSource.Lexical.StringLiteral
import KotlinSource.Modifier
import KotlinSource.Name.Class
import KotlinSource.Name.Error
import KotlinSource.Name.Member
import KotlinSource.Name.Standard
import KotlinSource.Name.Type
import KotlinSource.Naming.Spelling
import KotlinSource.Naming.Token
import KotlinSource.Output.Path
import KotlinSource.Output.SourceFile
import KotlinSource.Output.Tree
import KotlinSource.Printing.Code
import KotlinSource.Printing.Declaration
import KotlinSource.Printing.Members
import KotlinSource.Printing.Type
import KotlinSource.Proofs.Code.Induction
import KotlinSource.Proofs.Declaration.Pieces
import KotlinSource.Proofs.File.Aliases
import KotlinSource.Proofs.Imports.Table
import KotlinSource.Proofs.Layout.BreakPlacement
import KotlinSource.Proofs.Lexical.Backticks
import KotlinSource.Proofs.Naming.Bodies
import KotlinSource.Proofs.Naming.Lookup
import KotlinSource.Proofs.Printing.Closure
import KotlinSource.Proofs.Template.Acceptance
import KotlinSource.Proofs.Template.Grammar
import KotlinSource.Template.Error
import KotlinSource.Template.Interpretation
import KotlinSource.Template.Piece
import KotlinSource.Text.Entries
import KotlinSource.Text.Separated
import KotlinSource.Text.Sorted
import KotlinSource.Unicode.Alphabetic
import KotlinSource.Unicode.Blank
import KotlinSource.Unicode.Character
import KotlinSource.Unicode.Lowercase
import KotlinSource.Unicode.Numeric
import KotlinSource.Unicode.Ranges
import KotlinSource.Unicode.Uppercase
import KotlinSource.Proofs.Imports.Exactness
import KotlinSource.Proofs.Layout.BreakDecisions
import KotlinSource.Proofs.Layout.WrittenGlyphs
import KotlinSource.Proofs.Printing.Spacing
import KotlinSource.Proofs.File.ColumnLimit
import KotlinSource.Proofs.Naming.Capture
import KotlinSource.Proofs.Naming.Shadowing
import KotlinSource.Proofs.Imports.LineOrder
import KotlinSource.Proofs.Naming.AliasTargets
import KotlinSource.Proofs.Layout.CommentLines
import KotlinSource.Proofs.File.Comments
import KotlinSource.Proofs.Layout.Levels
import KotlinSource.Proofs.Printing.Nesting
import KotlinSource.Proofs.Imports.Sets
import KotlinSource.Proofs.Template.Bindings
import KotlinSource.Proofs.File.MemberOrder
import KotlinSource.Proofs.Printing.Outline
import KotlinSource.Proofs.Lexical.NamePool
import KotlinSource.Proofs.Imports.MemberGroups
import KotlinSource.Proofs.Printing.Literals
import KotlinSource.Proofs.Printing.TextRuns
import KotlinSource.Proofs.Template.Composition
import KotlinSource.Proofs.Layout.WholeLines
import KotlinSource.Proofs.Layout.LineStarts
import KotlinSource.Proofs.Layout.Modes
import KotlinSource.Proofs.Layout.Indentation
import KotlinSource.Proofs.Printing.Modes
import KotlinSource.Proofs.Code.CallTrees
import KotlinSource.Proofs.Code.ControlFlow
import KotlinSource.Proofs.Printing.Lines
import KotlinSource.Proofs.Printing.BodyParts
import KotlinSource.Proofs.Printing.PartLines
import KotlinSource.Proofs.Printing.MemberLines
import KotlinSource.Proofs.Name.Guessing
import KotlinSource.Proofs.Declaration.Rebuilding
import KotlinSource.Proofs.Layout.BlankLines
import KotlinSource.Proofs.Printing.FunctionBodies
import KotlinSource.Proofs.Imports.QualifiedOrder
import KotlinSource.Proofs.Printing.DetachedTypes
import KotlinSource.Proofs.File.Paths
import KotlinSource.Proofs.Layout.Columns
import KotlinSource.Proofs.File.ImportLines
import KotlinSource.Proofs.File.LevelWords
