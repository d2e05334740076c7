import AnnotatedApi.Assoc
import AnnotatedApi.Build
import AnnotatedApi.CommandLine.Arguments
import AnnotatedApi.CommandLine.Run
import AnnotatedApi.Comment.Basic
import AnnotatedApi.Comment.Grouping
import AnnotatedApi.Config
import AnnotatedApi.Content
import AnnotatedApi.Decimal.Binary64
import AnnotatedApi.Decimal.Reader
import AnnotatedApi.Decimal.Shortest
import AnnotatedApi.Decimal.Style
import AnnotatedApi.Directive.Attribute
import AnnotatedApi.Directive.GeneralInfo
import AnnotatedApi.Directive.Line
import AnnotatedApi.Directive.Operation
import AnnotatedApi.Directive.Parameter
import AnnotatedApi.Directive.Route
import AnnotatedApi.Disk.Basic
import AnnotatedApi.Disk.Load
import AnnotatedApi.Disk.Path
import AnnotatedApi.Disk.Scan
import AnnotatedApi.Document.Basic
import AnnotatedApi.Document.Encoding
import AnnotatedApi.Document.Validity
import AnnotatedApi.GoSource.Declaration
import AnnotatedApi.GoSource.Grammar.Expression
import AnnotatedApi.GoSource.Grammar.File
import AnnotatedApi.GoSource.Grammar.Phrase
import AnnotatedApi.GoSource.Grammar.Statement
import AnnotatedApi.GoSource.Grammar.Type
import AnnotatedApi.GoSource.Layout
import AnnotatedApi.GoSource.Reader
import AnnotatedApi.GoSource.Rule
import AnnotatedApi.GoSource.Token
import AnnotatedApi.GoSource.Tree
import AnnotatedApi.Json.Basic
import AnnotatedApi.Json.Field
import AnnotatedApi.Json.Number
import AnnotatedApi.Json.Reader
import AnnotatedApi.Json.Writer
import AnnotatedApi.Main
import AnnotatedApi.Naming
import AnnotatedApi.Proofs.Build.Frame
import AnnotatedApi.Proofs.Build.Routes
import AnnotatedApi.Proofs.Document.FirstProblem
import AnnotatedApi.Proofs.Document.Schemas
import AnnotatedApi.Proofs.Schema.Parts
import AnnotatedApi.Proofs.Schema.Skeleton
import AnnotatedApi.Proofs.Text
import AnnotatedApi.Resolution
import AnnotatedApi.Schema.Basic
import AnnotatedApi.Schema.Coercion
import AnnotatedApi.Schema.Encoding
import AnnotatedApi.StructTag.Basic
import AnnotatedApi.StructTag.Rules
import AnnotatedApi.Text.Alphanumeric
import AnnotatedApi.Text.Blank
import AnnotatedApi.Text.Boundary
import AnnotatedApi.Text.Case
import AnnotatedApi.Text.Integer
import AnnotatedApi.Text.Split
import AnnotatedApi.Text.Word
import AnnotatedApi.TypeExpr.Basic
import AnnotatedApi.TypeExpr.Reader
import AnnotatedApi.Yaml.Scalar
import AnnotatedApi.Yaml.Writer
import AnnotatedApi.Proofs.Resolution.References
import AnnotatedApi.Proofs.Directive.Steps
import AnnotatedApi.Proofs.Directive.Schemas
import AnnotatedApi.Proofs.Build.References
import AnnotatedApi.Proofs.Build.GeneralInfo
import AnnotatedApi.Proofs.Build.Order
import AnnotatedApi.Proofs.Build.BareNames
import AnnotatedApi.Proofs.Json.Record
import AnnotatedApi.Proofs.Schema.Encoding
import AnnotatedApi.Proofs.Decimal
import AnnotatedApi.Proofs.Json.Reader
import AnnotatedApi.Proofs.Document.Encoding
import AnnotatedApi.Proofs.Schema.Decoration
import AnnotatedApi.Proofs.Directive.Values
import AnnotatedApi.Proofs.Build.Encoding
import AnnotatedApi.Proofs.Directive.Groups
import AnnotatedApi.Proofs.Directive.Shape
import AnnotatedApi.Proofs.Directive.Headers
import AnnotatedApi.Proofs.Directive.Pattern
import AnnotatedApi.Proofs.Directive.Dispatch
import AnnotatedApi.Proofs.Build.Filters
import AnnotatedApi.Proofs.Resolution.Dropped
import AnnotatedApi.Proofs.TypeExpr
import AnnotatedApi.Proofs.Resolution.Vocabularies
import AnnotatedApi.Proofs.Disk.Path
import AnnotatedApi.Proofs.Disk.Tree
import AnnotatedApi.Proofs.Disk.Changes
import AnnotatedApi.Proofs.Disk.Unread
import AnnotatedApi.Proofs.CommandLine.Run
import AnnotatedApi.Proofs.Resolution.Contributions
import AnnotatedApi.Proofs.Resolution.RequiredNames
import AnnotatedApi.Proofs.StructTag.Pairs
import AnnotatedApi.Proofs.StructTag.Required
import AnnotatedApi.Proofs.Resolution.Replacement
import AnnotatedApi.Proofs.TypeExpr.Reader
import AnnotatedApi.Proofs.Resolution.IllFormed
import AnnotatedApi.Proofs.Schema.Height
import AnnotatedApi.Proofs.Resolution.DepthLimit
import AnnotatedApi.Proofs.Directive.Readers
import AnnotatedApi.Proofs.Directive.Attributes
import AnnotatedApi.Proofs.Directive.DeclaredTypes
import AnnotatedApi.Proofs.Directive.ParamLines
import AnnotatedApi.Proofs.Directive.ResponseLines
import AnnotatedApi.Proofs.Directive.MediaTypes
import AnnotatedApi.Proofs.Comment.Grouping
import AnnotatedApi.Proofs.Directive.TagsAndServers
import AnnotatedApi.Proofs.GoSource.FunctionDocs
import AnnotatedApi.Proofs.GoSource.Grammar
import AnnotatedApi.Proofs.GoSource.ReadTree
import AnnotatedApi.Proofs.Comment.Styles
import AnnotatedApi.Proofs.Directive.Detection
import AnnotatedApi.Proofs.Disk.Scan
import AnnotatedApi.Proofs.StructTag.Frame
import AnnotatedApi.Proofs.Directive.AttributeTexts
import AnnotatedApi.Proofs.Naming
