import Stencil.Decimal.Binary64
import Stencil.Decimal.Digits
import Stencil.Decimal.Layout
import Stencil.Decimal.Reader
import Stencil.Decimal.Shortest
import Stencil.Document
import Stencil.Files
import Stencil.Json.Basic
import Stencil.Json.Printer
import Stencil.Json.Reader
import Stencil.Json.Token
import Stencil.Leaf.Basic
import Stencil.Leaf.Render
import Stencil.Leaf.Scan
import Stencil.Log.Event
import Stencil.Log.Filter
import Stencil.Log.Logged
import Stencil.Log.Tracing
import Stencil.Members
import Stencil.Path
import Stencil.Proofs.AcceptedIds
import Stencil.Proofs.AuditTrail
import Stencil.Proofs.BatchOutcomes
import Stencil.Proofs.BindingNames
import Stencil.Proofs.ByteOrder
import Stencil.Proofs.CanonicalText
import Stencil.Proofs.Compilation
import Stencil.Proofs.Concatenation
import Stencil.Proofs.Conversion
import Stencil.Proofs.Delimiters
import Stencil.Proofs.DocumentOrder
import Stencil.Proofs.DotEnvVariables
import Stencil.Proofs.Extension
import Stencil.Proofs.Faults
import Stencil.Proofs.Filling
import Stencil.Proofs.JsonRoundTrips
import Stencil.Proofs.JsonTrees
import Stencil.Proofs.KeyWalks
import Stencil.Proofs.Layering
import Stencil.Proofs.LeafGrammar
import Stencil.Proofs.MapOrders
import Stencil.Proofs.ObservationalEquality
import Stencil.Proofs.PathTexts
import Stencil.Proofs.Placeholders
import Stencil.Proofs.ReaderOrder
import Stencil.Proofs.Reloading
import Stencil.Proofs.Resolution
import Stencil.Proofs.Rewriting
import Stencil.Proofs.Scanning
import Stencil.Proofs.Separation
import Stencil.Proofs.SettingsPrecedence
import Stencil.Proofs.Shape
import Stencil.Proofs.StoreHistory
import Stencil.Proofs.StoreWrites
import Stencil.Proofs.StrictRendering
import Stencil.Proofs.Traversal
import Stencil.Rendered
import Stencil.Settings.Basic
import Stencil.Settings.Config
import Stencil.Settings.Decode
import Stencil.Settings.DotEnv
import Stencil.Settings.Extract
import Stencil.Settings.KeyPath
import Stencil.Settings.Load
import Stencil.Settings.MapOrder
import Stencil.Settings.Record
import Stencil.Surroundings
import Stencil.Template.Basic
import Stencil.Template.Batch
import Stencil.Template.Engine
import Stencil.Template.Error
import Stencil.Template.Id
import Stencil.Template.Store
import Stencil.Text.Alphanumeric
import Stencil.Text.Blank
import Stencil.Text.Cased
import Stencil.Text.CharClass
import Stencil.Text.Lowercase
import Stencil.Text.Printable
import Stencil.Text.Quoted
import Stencil.Text.Split
import Stencil.Tree
