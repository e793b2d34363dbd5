import StructuredData.Assoc
import StructuredData.Calendar.Moment
import StructuredData.Calendar.Reader
import StructuredData.Command.Arguments
import StructuredData.Command.Console
import StructuredData.Command.Perform
import StructuredData.Content.Basic
import StructuredData.Content.Entity
import StructuredData.Content.Lineage
import StructuredData.Content.Origin
import StructuredData.Content.Source
import StructuredData.Document.Render
import StructuredData.Document.Script
import StructuredData.Facts.Collect
import StructuredData.Facts.Entity
import StructuredData.Facts.Sheet
import StructuredData.Fault
import StructuredData.Field.Basic
import StructuredData.Field.Defaults
import StructuredData.Field.Insert
import StructuredData.Json.Printer
import StructuredData.Json.Reader
import StructuredData.Json.Token
import StructuredData.Main
import StructuredData.Notice
import StructuredData.Number.Integer
import StructuredData.Number.Shortest
import StructuredData.Page.Basic
import StructuredData.Page.Trail
import StructuredData.Proofs.Assoc
import StructuredData.Proofs.Content.Lineage
import StructuredData.Proofs.Content.Records
import StructuredData.Proofs.Content.Served
import StructuredData.Proofs.Document.Addition
import StructuredData.Proofs.Document.Entries
import StructuredData.Proofs.Document.Extending
import StructuredData.Proofs.Document.Failing
import StructuredData.Proofs.Document.Links
import StructuredData.Proofs.Document.Nodes
import StructuredData.Proofs.Document.Notices
import StructuredData.Proofs.Document.Script
import StructuredData.Proofs.Document.Shape
import StructuredData.Proofs.Document.Trail
import StructuredData.Proofs.Document.User
import StructuredData.Proofs.Facts.Body
import StructuredData.Proofs.Facts.Collect
import StructuredData.Proofs.Facts.Reference
import StructuredData.Proofs.Facts.Trail
import StructuredData.Proofs.Facts.User
import StructuredData.Proofs.Fault
import StructuredData.Proofs.Field.Defaults
import StructuredData.Proofs.Field.Insert
import StructuredData.Proofs.Json.ClosingTag
import StructuredData.Proofs.Json.Occurrence
import StructuredData.Proofs.Json.RoundTrip
import StructuredData.Proofs.Json.Tokens
import StructuredData.Proofs.Page.Trail
import StructuredData.Proofs.Registry.Build
import StructuredData.Proofs.Registry.Catalog
import StructuredData.Proofs.Registry.Operation
import StructuredData.Proofs.Registry.Session
import StructuredData.Proofs.Rule.Groups
import StructuredData.Proofs.Rule.Narrowing
import StructuredData.Proofs.Rule.Options
import StructuredData.Proofs.Rule.PostType
import StructuredData.Proofs.Rule.Scope
import StructuredData.Proofs.Rule.Specific
import StructuredData.Proofs.Schema.Identity
import StructuredData.Proofs.Schema.Links
import StructuredData.Proofs.Schema.Node
import StructuredData.Proofs.Schema.NodeType
import StructuredData.Proofs.Schema.NormalForm
import StructuredData.Proofs.Schema.OwnId
import StructuredData.Proofs.Schema.Slug
import StructuredData.Proofs.Schema.Stored
import StructuredData.Proofs.Template.Balance
import StructuredData.Proofs.Template.Budget
import StructuredData.Proofs.Template.Cut
import StructuredData.Proofs.Template.Interpolation
import StructuredData.Proofs.Template.Limit
import StructuredData.Proofs.Template.Lookup
import StructuredData.Proofs.Template.Nesting
import StructuredData.Proofs.Template.Placeholder
import StructuredData.Proofs.Template.Quiet
import StructuredData.Proofs.Template.Reading
import StructuredData.Proofs.Template.Run
import StructuredData.Proofs.Template.Sharing
import StructuredData.Proofs.Template.Success
import StructuredData.Proofs.Template.Termination
import StructuredData.Proofs.Text.Clean
import StructuredData.Proofs.Text.Escape
import StructuredData.Proofs.Text.Excerpt
import StructuredData.Proofs.Text.Slug
import StructuredData.Proofs.Text.SlugOfSlug
import StructuredData.Proofs.Value.Clean
import StructuredData.Proofs.Value.Leaves
import StructuredData.Proofs.Value.Texts
import StructuredData.Registry.Basic
import StructuredData.Registry.Catalog
import StructuredData.Registry.Extension
import StructuredData.Registry.Session
import StructuredData.Registry.Site
import StructuredData.Rule.Basic
import StructuredData.Rule.Match
import StructuredData.Rule.Options
import StructuredData.Schema.Basic
import StructuredData.Schema.Identity
import StructuredData.Schema.Node
import StructuredData.Schema.Visibility
import StructuredData.SchemaType.Agent
import StructuredData.SchemaType.Basic
import StructuredData.SchemaType.Builtin
import StructuredData.SchemaType.Declared
import StructuredData.SchemaType.Load
import StructuredData.SchemaType.Property
import StructuredData.SchemaType.Site
import StructuredData.SchemaType.Work
import StructuredData.Settings.Basic
import StructuredData.Settings.Initial
import StructuredData.Settings.Load
import StructuredData.Settings.Stored
import StructuredData.StandIn.EntityTable
import StructuredData.StandIn.LatinTable
import StructuredData.StandIn.Notation
import StructuredData.StandIn.Slugify
import StructuredData.Template.Basic
import StructuredData.Template.Expand
import StructuredData.Template.Limit
import StructuredData.Template.Path
import StructuredData.Template.Variables
import StructuredData.Text.Blank
import StructuredData.Text.Case
import StructuredData.Text.CaseTable
import StructuredData.Text.Clean
import StructuredData.Text.Digit
import StructuredData.Text.Printable
import StructuredData.Text.Runs
import StructuredData.Text.Slug
import StructuredData.Value.Basic
import StructuredData.Value.Compare
import StructuredData.Value.Leaves
import StructuredData.Value.Prune
import StructuredData.Value.Record
import StructuredData.Value.Route
import StructuredData.Value.Scalar
import StructuredData.Value.Text
import StructuredData.Value.Texts
import StructuredData.Workspace.Basic
