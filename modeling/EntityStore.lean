import EntityStore.Accessor
import EntityStore.Bag
import EntityStore.Comparison
import EntityStore.Config
import EntityStore.Config.Store
import EntityStore.Error
import EntityStore.Index.Declaration
import EntityStore.Index.Definition
import EntityStore.Index.Sorted
import EntityStore.Item
import EntityStore.Item.Lifecycle
import EntityStore.Json.Document
import EntityStore.Json.Mismatch
import EntityStore.Json.Reader
import EntityStore.Model
import EntityStore.Model.KeyTemplate
import EntityStore.Number.Binary64
import EntityStore.Number.Power
import EntityStore.Number.Reader
import EntityStore.Number.Shortest
import EntityStore.Pattern
import EntityStore.Pattern.Bracket
import EntityStore.Pattern.CategoryTable
import EntityStore.Pattern.CharClass
import EntityStore.Pattern.Expr
import EntityStore.Pattern.FoldTable
import EntityStore.Pattern.PropertyTable
import EntityStore.Pattern.Reader
import EntityStore.Pattern.ScriptTable
import EntityStore.Pipeline
import EntityStore.Proofs.Bag
import EntityStore.Proofs.Index.Current
import EntityStore.Proofs.Index.Inherited
import EntityStore.Proofs.Index.Lookup
import EntityStore.Proofs.Index.Rebuild
import EntityStore.Proofs.Item.Alteration
import EntityStore.Proofs.Item.Canonical
import EntityStore.Proofs.Item.Changes
import EntityStore.Proofs.Item.Checked
import EntityStore.Proofs.Item.Code
import EntityStore.Proofs.Item.Conflict
import EntityStore.Proofs.Item.Moments
import EntityStore.Proofs.Item.Outcome
import EntityStore.Proofs.Item.Path
import EntityStore.Proofs.Item.Saved
import EntityStore.Proofs.Item.Sound
import EntityStore.Proofs.Item.Stages
import EntityStore.Proofs.KeyTemplate
import EntityStore.Proofs.KeyTemplate.Marked
import EntityStore.Proofs.KeyTemplate.Segments
import EntityStore.Proofs.Members
import EntityStore.Proofs.Model
import EntityStore.Proofs.Number.Finite
import EntityStore.Proofs.Pipeline
import EntityStore.Proofs.Pipeline.RoundTrip
import EntityStore.Proofs.Population
import EntityStore.Proofs.ScalarType.Canonical
import EntityStore.Proofs.ScalarType.Shape
import EntityStore.Proofs.ScalarType.StoredDate
import EntityStore.Proofs.Schema.Apart
import EntityStore.Proofs.Schema.Names
import EntityStore.Proofs.Schema.Typed
import EntityStore.Proofs.Storage.Key
import EntityStore.Proofs.Storage.Memory
import EntityStore.Proofs.Storage.Mirror
import EntityStore.Proofs.Text.Blank
import EntityStore.Proofs.Text.CaseMap
import EntityStore.Proofs.Time.Calendar
import EntityStore.Proofs.Time.Text
import EntityStore.Proofs.Uuid
import EntityStore.Property
import EntityStore.Property.Document
import EntityStore.Registry
import EntityStore.ScalarType
import EntityStore.ScalarType.Coerce
import EntityStore.ScalarType.Definition
import EntityStore.ScalarType.Order
import EntityStore.ScalarType.Storage
import EntityStore.ScalarType.Validate
import EntityStore.Schema
import EntityStore.Schema.Draft
import EntityStore.Schema.LifecycleEvent
import EntityStore.Schema.Normalized
import EntityStore.Schema.Options
import EntityStore.Schema.Problem
import EntityStore.Schema.Section
import EntityStore.Script
import EntityStore.Session
import EntityStore.Storage.Adapter
import EntityStore.Storage.Depot
import EntityStore.Storage.Files
import EntityStore.Storage.Folder
import EntityStore.Storage.Key
import EntityStore.Storage.Memory
import EntityStore.Text.Blank
import EntityStore.Text.CaseMap
import EntityStore.Text.CaseTable
import EntityStore.Text.Cased
import EntityStore.Text.CodeSet
import EntityStore.Text.Quoted
import EntityStore.Text.Visible
import EntityStore.Time.Calendar
import EntityStore.Time.Instant
import EntityStore.Time.Reader
import EntityStore.Uuid
import EntityStore.Value
import EntityStore.Value.Document
import EntityStore.Proofs.Inheritance
import EntityStore.Proofs.Index.Listed
import EntityStore.Proofs.Item.Alike
import EntityStore.Proofs.Transparency
import EntityStore.Proofs.Storage.Folder
import EntityStore.Proofs.Storage.Listing
import EntityStore.Proofs.Json.Reader
import EntityStore.Proofs.Value.Record
import EntityStore.Proofs.Storage.Files
import EntityStore.Proofs.Storage.Refinement
import EntityStore.Proofs.Storage.History
import EntityStore.Proofs.Storage.Depot
import EntityStore.Proofs.Registry
import EntityStore.Proofs.Index.Observed
import EntityStore.Proofs.Comparison
import EntityStore.Proofs.ScalarType.Order
import EntityStore.Proofs.Index.Failure
import EntityStore.Proofs.Item.Reload
import EntityStore.Proofs.Item.Attempt
import EntityStore.Proofs.Item.Unread
import EntityStore.Proofs.Item.Loading
import EntityStore.Proofs.Tally
import EntityStore.Proofs.ScalarType.Sort
import EntityStore.Proofs.Index.Sorted
import EntityStore.Proofs.Index.Mixed
import EntityStore.Proofs.Schema.Accepted
import EntityStore.Proofs.Index.Accepted
import EntityStore.Proofs.Number.Whole
import EntityStore.Proofs.ScalarType.Limits
import EntityStore.Proofs.ScalarType.Violations
import EntityStore.Proofs.Schema.NormalForm
import EntityStore.Proofs.Item.Distributed
import EntityStore.Proofs.Storage.Interference
import EntityStore.Proofs.Uuid.Spelling
import EntityStore.Proofs.Value.Identity
import EntityStore.Proofs.Value.Codec
import EntityStore.Proofs.Pipeline.Pointwise
import EntityStore.Proofs.KeyTemplate.Spelled
import EntityStore.Proofs.Storage.Directory
import EntityStore.Proofs.Index.Counted
import EntityStore.Proofs.Text.Words
import EntityStore.Proofs.ScalarType.NormalText
