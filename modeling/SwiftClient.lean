import SwiftClient.Classification
import SwiftClient.Code.Api
import SwiftClient.Code.Basic
import SwiftClient.Code.Declaration
import SwiftClient.Code.Model
import SwiftClient.Code.Package
import SwiftClient.Code.Security
import SwiftClient.Code.Support
import SwiftClient.Configuration
import SwiftClient.Decimal.Binary64
import SwiftClient.Decimal.Literal
import SwiftClient.Decimal.Shortest
import SwiftClient.Document.Basic
import SwiftClient.Document.Lookup
import SwiftClient.Document.Reading
import SwiftClient.Document.Validation
import SwiftClient.Document.Wire
import SwiftClient.Document.Writing
import SwiftClient.Failure
import SwiftClient.FileTree
import SwiftClient.Generator.Basic
import SwiftClient.Generator.Emission
import SwiftClient.Generator.Plan
import SwiftClient.Json.Basic
import SwiftClient.Json.Draft
import SwiftClient.Json.Fault
import SwiftClient.Json.Lexeme
import SwiftClient.Json.Number
import SwiftClient.Json.Reader
import SwiftClient.Json.Text
import SwiftClient.Literal.Basic
import SwiftClient.Literal.Escape
import SwiftClient.Naming.Basic
import SwiftClient.Naming.Reserved
import SwiftClient.Naming.Unique
import SwiftClient.Naming.Words
import SwiftClient.Options
import SwiftClient.Path
import SwiftClient.Proofs.Code.Alike
import SwiftClient.Proofs.Code.Comments
import SwiftClient.Proofs.Code.Documentation
import SwiftClient.Proofs.Code.StringLiterals
import SwiftClient.Proofs.Code.ValueLiterals
import SwiftClient.Proofs.Correspondence
import SwiftClient.Proofs.Document.Extended
import SwiftClient.Proofs.Document.ExtendedDocuments
import SwiftClient.Proofs.Document.ExtendedRecords
import SwiftClient.Proofs.Document.Location
import SwiftClient.Proofs.Document.Lookup
import SwiftClient.Proofs.Document.Mentions
import SwiftClient.Proofs.Document.Positions
import SwiftClient.Proofs.Document.Reading
import SwiftClient.Proofs.Document.Reordered
import SwiftClient.Proofs.Document.RoundTrip
import SwiftClient.Proofs.Document.Shapes
import SwiftClient.Proofs.Document.Undescribed
import SwiftClient.Proofs.Document.Validity
import SwiftClient.Proofs.FileTree
import SwiftClient.Proofs.Generator.Cleaning
import SwiftClient.Proofs.Generator.Comments
import SwiftClient.Proofs.Generator.Declared
import SwiftClient.Proofs.Generator.Emission
import SwiftClient.Proofs.Generator.Outputs
import SwiftClient.Proofs.Generator.Priority
import SwiftClient.Proofs.Generator.Written
import SwiftClient.Proofs.Json.Drafting
import SwiftClient.Proofs.Json.Lexing
import SwiftClient.Proofs.Json.Reading
import SwiftClient.Proofs.Json.Rearranged
import SwiftClient.Proofs.Json.Records
import SwiftClient.Proofs.Json.Spelling
import SwiftClient.Proofs.Literal.Contexts
import SwiftClient.Proofs.Literal.Escaping
import SwiftClient.Proofs.Literal.Forms
import SwiftClient.Proofs.Literal.Missing
import SwiftClient.Proofs.Literal.ReadBack
import SwiftClient.Proofs.Literal.Unescaping
import SwiftClient.Proofs.Naming.ClassName
import SwiftClient.Proofs.Naming.Identifiers
import SwiftClient.Proofs.Naming.NamedTwice
import SwiftClient.Proofs.Naming.Namesakes
import SwiftClient.Proofs.Naming.Numbered
import SwiftClient.Proofs.Naming.Search
import SwiftClient.Proofs.Naming.Unique
import SwiftClient.Proofs.Naming.WordBreaks
import SwiftClient.Proofs.Naming.Words
import SwiftClient.Proofs.Options
import SwiftClient.Proofs.Outcome
import SwiftClient.Proofs.Path
import SwiftClient.Proofs.Resolution.CaseIdentifiers
import SwiftClient.Proofs.Resolution.EnumCases
import SwiftClient.Proofs.Resolution.Expressions
import SwiftClient.Proofs.Resolution.Failures
import SwiftClient.Proofs.Resolution.Independent
import SwiftClient.Proofs.Resolution.Inheritance
import SwiftClient.Proofs.Resolution.Kept
import SwiftClient.Proofs.Resolution.Mappings
import SwiftClient.Proofs.Resolution.MemberNames
import SwiftClient.Proofs.Resolution.NamedAgain
import SwiftClient.Proofs.Resolution.NamedDocument
import SwiftClient.Proofs.Resolution.Names
import SwiftClient.Proofs.Resolution.Overrides
import SwiftClient.Proofs.Resolution.References
import SwiftClient.Proofs.Resolution.ScopedNames
import SwiftClient.Proofs.Resolution.Scopes
import SwiftClient.Proofs.Resolution.Typing
import SwiftClient.Proofs.Resolution.Undescribed
import SwiftClient.Proofs.Settings
import SwiftClient.Proofs.Sorted
import SwiftClient.Proofs.Text.LetterCase
import SwiftClient.Resolution.Document
import SwiftClient.Resolution.Groups
import SwiftClient.Resolution.MemberNames
import SwiftClient.Resolution.Properties
import SwiftClient.Resolution.Resolved
import SwiftClient.Resolution.Schemas
import SwiftClient.Resolution.SwiftTyping
import SwiftClient.Resolution.Writing
import SwiftClient.Sorted
import SwiftClient.Strategy
import SwiftClient.SwiftType
import SwiftClient.Template.Context
import SwiftClient.Template.Library
import SwiftClient.Template.Page
import SwiftClient.Template.Plain
import SwiftClient.Text.Blank
import SwiftClient.Text.Letter
import SwiftClient.Text.LetterCase
import SwiftClient.Text.Quoted
import SwiftClient.Text.Span
import SwiftClient.Text.Word
import SwiftClient.Traced
