import TagIndex.CommandLine.Argument
import TagIndex.CommandLine.Given
import TagIndex.CommandLine.Parse
import TagIndex.CommandLine.UsageError
import TagIndex.Data.Fixpoint
import TagIndex.Data.SmallSet
import TagIndex.Error
import TagIndex.Files.Editing
import TagIndex.Files.FileSystem
import TagIndex.Files.Follow
import TagIndex.Files.Location
import TagIndex.Files.Node
import TagIndex.Files.Path
import TagIndex.Files.Relative
import TagIndex.Files.Walk
import TagIndex.Go.Declarations
import TagIndex.Go.Expressions
import TagIndex.Go.Language
import TagIndex.Go.Parser
import TagIndex.Go.Statements
import TagIndex.Go.Tokens
import TagIndex.Go.Types
import TagIndex.Grammar.Pattern
import TagIndex.Grammar.Production
import TagIndex.Grammar.Rule
import TagIndex.Lexing.Alphabet
import TagIndex.Lexing.Overlap
import TagIndex.Lexing.Recognizer
import TagIndex.Lexing.Scanner
import TagIndex.Main
import TagIndex.Options
import TagIndex.Parsing.Mark
import TagIndex.Parsing.Parser
import TagIndex.Parsing.Recovery
import TagIndex.Parsing.Stack
import TagIndex.Parsing.Subtree
import TagIndex.Parsing.Token
import TagIndex.Parsing.Version
import TagIndex.Parsing.View
import TagIndex.Program
import TagIndex.Proofs.CommandLine.Collecting
import TagIndex.Proofs.CommandLine.Interleaving
import TagIndex.Proofs.CommandLine.Items
import TagIndex.Proofs.CommandLine.Verbosity
import TagIndex.Proofs.CommandLine.Words
import TagIndex.Proofs.Data.Splitting
import TagIndex.Proofs.Data.Traversal
import TagIndex.Proofs.Files.Below
import TagIndex.Proofs.Files.Editing
import TagIndex.Proofs.Files.Relative
import TagIndex.Proofs.Files.Rewriting
import TagIndex.Proofs.Files.Walk
import TagIndex.Proofs.Files.Writing
import TagIndex.Proofs.Go.Identifier
import TagIndex.Proofs.Go.Phrases
import TagIndex.Proofs.Go.Shape
import TagIndex.Proofs.Go.Words
import TagIndex.Proofs.Grammar.Derivation
import TagIndex.Proofs.Grammar.Pattern
import TagIndex.Proofs.Grammar.Reading
import TagIndex.Proofs.Grammar.Starting
import TagIndex.Proofs.Printing.Files
import TagIndex.Proofs.Printing.Functions
import TagIndex.Proofs.Printing.Groups
import TagIndex.Proofs.Printing.Imports
import TagIndex.Proofs.Printing.Layout
import TagIndex.Proofs.Printing.Lines
import TagIndex.Proofs.Printing.Outline
import TagIndex.Proofs.Printing.RoundTrip
import TagIndex.Proofs.Printing.Trees
import TagIndex.Proofs.Run.AllOrNothing
import TagIndex.Proofs.Run.ByName
import TagIndex.Proofs.Run.Exclusion
import TagIndex.Proofs.Run.Exit
import TagIndex.Proofs.Run.Expansion
import TagIndex.Proofs.Run.Explicit
import TagIndex.Proofs.Run.Gathering
import TagIndex.Proofs.Run.Log
import TagIndex.Proofs.Run.ReadBack
import TagIndex.Proofs.Run.Reordering
import TagIndex.Proofs.Run.Rerun
import TagIndex.Proofs.Run.TagFile
import TagIndex.Proofs.Source.Acceptance
import TagIndex.Proofs.Source.BlankLines
import TagIndex.Proofs.Source.Comments
import TagIndex.Proofs.Source.Decoding
import TagIndex.Proofs.Source.Names
import TagIndex.Proofs.Source.Positions
import TagIndex.Proofs.Source.Snippets
import TagIndex.Proofs.Source.TopLevel
import TagIndex.Proofs.Tag.Entries
import TagIndex.Proofs.Tag.Recovery
import TagIndex.Proofs.Tag.Sending
import TagIndex.Proofs.Tag.Sites
import TagIndex.Proofs.Tag.Writing
import TagIndex.Proofs.Text.CharSet
import TagIndex.Proofs.Text.Lines
import TagIndex.Proofs.Text.Offsets
import TagIndex.Proofs.Text.Order
import TagIndex.Proofs.Text.Sequences
import TagIndex.Proofs.Text.Utf8
import TagIndex.Proofs.Tree.FirstError
import TagIndex.Proofs.Tree.Places
import TagIndex.Proofs.Tree.Preorder
import TagIndex.Run.Attempt
import TagIndex.Run.Event
import TagIndex.Run.Host
import TagIndex.Run.Inputs
import TagIndex.Run.Outcome
import TagIndex.Run.Scan
import TagIndex.Source.Decl
import TagIndex.Source.Diagnostic
import TagIndex.Source.Reading
import TagIndex.Table.Canonical
import TagIndex.Table.Item
import TagIndex.Table.Merge
import TagIndex.Table.ParseTable
import TagIndex.Table.State
import TagIndex.Table.TokenSets
import TagIndex.Tag.Basic
import TagIndex.Tag.Extraction
import TagIndex.Tag.File
import TagIndex.Text.Blank
import TagIndex.Text.CharSet
import TagIndex.Text.IdentifierRanges
import TagIndex.Text.Lowercase
import TagIndex.Text.LowercaseRanges
import TagIndex.Text.Order
import TagIndex.Text.Position
import TagIndex.Text.Similarity
import TagIndex.Text.Utf8
import TagIndex.Tree
