import DefectScan.Analysis
import DefectScan.Arguments
import DefectScan.Bodies
import DefectScan.Calendar
import DefectScan.CodeView
import DefectScan.Command.Options
import DefectScan.Command.Run
import DefectScan.Directory
import DefectScan.FileTree
import DefectScan.Format
import DefectScan.Grammar.Action
import DefectScan.Grammar.Automaton
import DefectScan.Grammar.C.Declarations
import DefectScan.Grammar.C.Directives
import DefectScan.Grammar.C.Expressions
import DefectScan.Grammar.C.Lexemes
import DefectScan.Grammar.C.Statements
import DefectScan.Grammar.Item
import DefectScan.Grammar.Language
import DefectScan.Grammar.Lexeme
import DefectScan.Grammar.Pattern
import DefectScan.Grammar.Piece
import DefectScan.Grammar.Production
import DefectScan.Grammar.Reader
import DefectScan.Grammar.Readings
import DefectScan.Grammar.Recovery
import DefectScan.Grammar.Reduction
import DefectScan.Grammar.Scan
import DefectScan.Grammar.Shape
import DefectScan.Grammar.Standing
import DefectScan.Grammar.State
import DefectScan.Headers
import DefectScan.Issue
import DefectScan.LineCheck
import DefectScan.LineSites
import DefectScan.Log
import DefectScan.Main
import DefectScan.Number.Binary64
import DefectScan.Number.Literal
import DefectScan.Outcome
import DefectScan.Proofs.ArgumentLists
import DefectScan.Proofs.ArgumentViews
import DefectScan.Proofs.BodyStack
import DefectScan.Proofs.BraceDepth
import DefectScan.Proofs.Braces
import DefectScan.Proofs.ClosestDeclarations
import DefectScan.Proofs.CodeView
import DefectScan.Proofs.Coherence
import DefectScan.Proofs.CommentInfluence
import DefectScan.Proofs.ConversionRuns
import DefectScan.Proofs.DeclarationBlocks
import DefectScan.Proofs.Declarators
import DefectScan.Proofs.Decomment
import DefectScan.Proofs.DirectoryReport
import DefectScan.Proofs.DocumentOrder
import DefectScan.Proofs.EditScripts
import DefectScan.Proofs.Entries
import DefectScan.Proofs.FaultContainment
import DefectScan.Proofs.FirstError
import DefectScan.Proofs.FunctionHeaders
import DefectScan.Proofs.HeaderSuggestions
import DefectScan.Proofs.IncludeReaders
import DefectScan.Proofs.InputTargets
import DefectScan.Proofs.InsertedLines
import DefectScan.Proofs.JoinedLines
import DefectScan.Proofs.Lexemes
import DefectScan.Proofs.MissingHeaders
import DefectScan.Proofs.NestedDeclarations
import DefectScan.Proofs.NodePositions
import DefectScan.Proofs.PrintedDeclarations
import DefectScan.Proofs.PrunedTrees
import DefectScan.Proofs.RepeatedCheck
import DefectScan.Proofs.Report
import DefectScan.Proofs.Rescan
import DefectScan.Proofs.Rows
import DefectScan.Proofs.RuleEntries
import DefectScan.Proofs.ScopeFlow
import DefectScan.Proofs.ScopeGroups
import DefectScan.Proofs.ScopeStack
import DefectScan.Proofs.SeededParameters
import DefectScan.Proofs.StarredNames
import DefectScan.Proofs.StructMembers
import DefectScan.Proofs.Tables
import DefectScan.Proofs.TextLines
import DefectScan.Proofs.TreeComments
import DefectScan.Proofs.TreeFlow
import DefectScan.Proofs.UnsetReads
import DefectScan.Proofs.UsageOrder
import DefectScan.Proofs.Utf8
import DefectScan.Proofs.Verdicts
import DefectScan.Proofs.WildPointers
import DefectScan.Proofs.Words
import DefectScan.Proofs.WrappedText
import DefectScan.Report
import DefectScan.RuleFile
import DefectScan.Scope.Basic
import DefectScan.Scope.Check
import DefectScan.Scope.Tracking
import DefectScan.Settings.Basic
import DefectScan.Settings.Bindings
import DefectScan.Settings.Load
import DefectScan.Setup
import DefectScan.Site
import DefectScan.SourceFile
import DefectScan.Suppression
import DefectScan.Text.Base64
import DefectScan.Text.Blank
import DefectScan.Text.CaseTable
import DefectScan.Text.Cluster
import DefectScan.Text.Digit
import DefectScan.Text.EditDistance
import DefectScan.Text.Glob
import DefectScan.Text.Glyph
import DefectScan.Text.HiddenTable
import DefectScan.Text.Lines
import DefectScan.Text.LowerCase
import DefectScan.Text.Page
import DefectScan.Text.Path
import DefectScan.Text.PictogramTable
import DefectScan.Text.Quoted
import DefectScan.Text.Utf8
import DefectScan.Text.Width
import DefectScan.Text.WidthTable
import DefectScan.Text.Word
import DefectScan.Text.WordTable
import DefectScan.Text.Wrap
import DefectScan.Tree.Basic
import DefectScan.Tree.Check
import DefectScan.Tree.Extract
import DefectScan.Tree.Node
import DefectScan.Variable
import DefectScan.Yaml.Cursor
import DefectScan.Yaml.Fault
import DefectScan.Yaml.Lexeme
import DefectScan.Yaml.Meaning
import DefectScan.Yaml.Node
import DefectScan.Yaml.ScalarText
import DefectScan.Yaml.SetOrder
import DefectScan.Yaml.Tag
import DefectScan.Yaml.Token
import DefectScan.Yaml.TokenStream
import DefectScan.Yaml.Value
