import DeclTree.Json.Reader
import DeclTree.Json.Writer
import DeclTree.Node
import DeclTree.Kind
import DeclTree.KindTable
import DeclTree.Normal
import DeclTree.Normalize
import DeclTree.SourceText
import DeclTree.Name
import DeclTree.Decl
import DeclTree.Scope
import DeclTree.Language
import DeclTree.Event
import DeclTree.Statement
import DeclTree.Walk
import DeclTree.Members
import DeclTree.Outline
import DeclTree.Cst.Decode
import DeclTree.Lower.Program
import DeclTree.Settings
import DeclTree.Load
import DeclTree.Cli.Run
import DeclTree.Main
import DeclTree.Proofs.Contribution
import DeclTree.Proofs.History
import DeclTree.Proofs.Position
import DeclTree.Proofs.Unnoticed
import DeclTree.Proofs.SymbolicKinds
import DeclTree.Proofs.Metadata
import DeclTree.Proofs.Scoping
import DeclTree.Proofs.DepthLimit
import DeclTree.Proofs.Entries
import DeclTree.Proofs.Reading
import DeclTree.Proofs.PrintedParts
import DeclTree.Proofs.EscapedText
import DeclTree.Proofs.PlainStatements
import DeclTree.Proofs.Wrappers
import DeclTree.Proofs.DottedNames
import DeclTree.Proofs.PrintedDrafts
import DeclTree.Proofs.PrintedTerms
import DeclTree.Proofs.PrintBack
import DeclTree.Proofs.CommentTransparency
import DeclTree.Proofs.Ranges
import DeclTree.Proofs.ReadBack
import DeclTree.Proofs.Conversion
import DeclTree.Proofs.HiddenText
import DeclTree.Proofs.NormalForm
import DeclTree.Proofs.Accounting
import DeclTree.Proofs.Layering
import DeclTree.Proofs.NumberNames
import DeclTree.Proofs.MemberLookup
import DeclTree.Proofs.Serialization
import DeclTree.Proofs.OutlineListing
import DeclTree.Proofs.ArrayBinding
import DeclTree.Proofs.NodeUpdates
import DeclTree.Proofs.QuotedText
import DeclTree.Proofs.PrintedMembers
import DeclTree.Proofs.Brackets
import DeclTree.Proofs.Operands
import DeclTree.Proofs.MisspeltVariables
