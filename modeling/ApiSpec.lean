import ApiSpec.Number.Binary64
import ApiSpec.Number.Reading
import ApiSpec.Json.Value
import ApiSpec.Json.Text
import ApiSpec.Data.Node
import ApiSpec.Json.Reader
import ApiSpec.Text.Ranges
import ApiSpec.Text.Blank
import ApiSpec.Text.Letter
import ApiSpec.Text.Ident
import ApiSpec.Text.Printable
import ApiSpec.Text.Case
import ApiSpec.Text.Quote
import ApiSpec.Decode.Basic
import ApiSpec.Source.Basic
import ApiSpec.Source.Shape
import ApiSpec.Source.Decode
import ApiSpec.Source.Json
import ApiSpec.Text.Basic
import ApiSpec.Text.Words
import ApiSpec.Route.Path
import ApiSpec.Category
import ApiSpec.Http
import ApiSpec.Role
import ApiSpec.Config
import ApiSpec.Schema.Component
import ApiSpec.Constraint
import ApiSpec.Schema.Basic
import ApiSpec.Log
import ApiSpec.Resolve.Descriptor
import ApiSpec.Example
import ApiSpec.Resolve.Resolver
import ApiSpec.Resolve.Json
import ApiSpec.Extract.Route
import ApiSpec.Extract.Controller
import ApiSpec.Extract.Json
import ApiSpec.Schema.Generator
import ApiSpec.Document.Basic
import ApiSpec.Document.Build
import ApiSpec.Pipeline
import ApiSpec.Store
import ApiSpec.Yaml.Emit
import ApiSpec.Rust.Token
import ApiSpec.Rust.Lex
import ApiSpec.Rust.Syntax
import ApiSpec.Rust.Parse.Basic
import ApiSpec.Rust.Parse.Type
import ApiSpec.Rust.Parse.Expr
import ApiSpec.Rust.Parse.Pat
import ApiSpec.Rust.Parse.Item
import ApiSpec.Rust.Parse.File
import ApiSpec.Rust.Load
import ApiSpec.Yaml.Scan
import ApiSpec.Yaml.Parse
import ApiSpec.Yaml.Read
import ApiSpec.Decode.Text
import ApiSpec.Cli.PathText
import ApiSpec.Cli.Host
import ApiSpec.Cli.Disk
import ApiSpec.Cli.Args
import ApiSpec.Cli.Parse
import ApiSpec.Cli.Run
import ApiSpec.Main
import ApiSpec.Proofs.Resolve.Semantics
import ApiSpec.Proofs.Resolve.Divergence
import ApiSpec.Proofs.Resolve.Termination
import ApiSpec.Proofs.Resolve.References
import ApiSpec.Proofs.Extract.Termination
import ApiSpec.Proofs.Extract.References
import ApiSpec.Proofs.Resolve.History
import ApiSpec.Proofs.Schema.References
import ApiSpec.Proofs.Document.Closure
import ApiSpec.Proofs.Document.OperationIds
import ApiSpec.Proofs.Resolve.Substitution
import ApiSpec.Proofs.Resolve.SubstitutedOnce
import ApiSpec.Store.Concurrent
import ApiSpec.Proofs.Store.Generations
import ApiSpec.Proofs.Category.Anchor
import ApiSpec.Proofs.Resolve.Wrappers
import ApiSpec.Proofs.Schema.Semantics
import ApiSpec.Proofs.Schema.Termination
import ApiSpec.Proofs.Schema.Naming
import ApiSpec.Proofs.Constraint.Override
import ApiSpec.Proofs.Resolve.Parameter
import ApiSpec.Proofs.Document.Examples
import ApiSpec.Proofs.Text.Trim
import ApiSpec.Proofs.Route.Combine
import ApiSpec.Proofs.Constraint.Membership
import ApiSpec.Proofs.Category.Collapse
import ApiSpec.Proofs.Rust.Merge
import ApiSpec.Proofs.Resolve.Restore
import ApiSpec.Proofs.Rust.Optional
import ApiSpec.Proofs.Resolve.Canonical
import ApiSpec.Proofs.Schema.Transfer
import ApiSpec.Proofs.Extract.Folded
import ApiSpec.Proofs.Document.Transfer
import ApiSpec.Proofs.Resolve.Frame
import ApiSpec.Proofs.Extract.Dropped
import ApiSpec.Proofs.Schema.Denotation
import ApiSpec.Proofs.Extract.Reorder
import ApiSpec.Proofs.Document.Reorder
