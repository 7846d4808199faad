import CollectionSchema.Attempt
import CollectionSchema.Collection.Container
import CollectionSchema.Collection.Definition
import CollectionSchema.Collection.Draft
import CollectionSchema.Collection.Row
import CollectionSchema.Collection.Source
import CollectionSchema.Collection.Validation
import CollectionSchema.Config
import CollectionSchema.Dictionary
import CollectionSchema.Field.Basic
import CollectionSchema.Field.Document
import CollectionSchema.Field.Marking
import CollectionSchema.Field.Role
import CollectionSchema.Field.Type
import CollectionSchema.Json
import CollectionSchema.Log
import CollectionSchema.Number.Binary
import CollectionSchema.Proofs.Collection.Building
import CollectionSchema.Proofs.Collection.Containers
import CollectionSchema.Proofs.Collection.Documents
import CollectionSchema.Proofs.Collection.Extraction
import CollectionSchema.Proofs.Collection.Format
import CollectionSchema.Proofs.Collection.Lookups
import CollectionSchema.Proofs.Collection.RoundTrip
import CollectionSchema.Proofs.Collection.Validity
import CollectionSchema.Proofs.Collection.Violations
import CollectionSchema.Proofs.Configuration
import CollectionSchema.Proofs.Dictionary
import CollectionSchema.Proofs.Field.Dimensions
import CollectionSchema.Proofs.Field.Extraction
import CollectionSchema.Proofs.Field.Format
import CollectionSchema.Proofs.Field.Marking
import CollectionSchema.Proofs.Field.Reading
import CollectionSchema.Proofs.Field.Restatement
import CollectionSchema.Proofs.Field.RoundTrip
import CollectionSchema.Proofs.Record.Batches
import CollectionSchema.Proofs.Record.Binding
import CollectionSchema.Proofs.Record.Fitting
import CollectionSchema.Proofs.Record.Outcome
import CollectionSchema.Proofs.Record.Reading
import CollectionSchema.Proofs.Record.Reloading
import CollectionSchema.Proofs.Record.Rereading
import CollectionSchema.Proofs.Record.RowChecks
import CollectionSchema.Proofs.Record.Writing
import CollectionSchema.Proofs.Registry.Bookkeeping
import CollectionSchema.Proofs.Registry.Isolation
import CollectionSchema.Proofs.Registry.Machine
import CollectionSchema.Proofs.Registry.Operations
import CollectionSchema.Proofs.Registry.Reports
import CollectionSchema.Proofs.Registry.Thresholds
import CollectionSchema.Proofs.Registry.WrittenOnce
import CollectionSchema.Proofs.Sequence
import CollectionSchema.Proofs.Text.Numeral
import CollectionSchema.Proofs.Updates
import CollectionSchema.Proofs.Value.Representation
import CollectionSchema.Proofs.Value.Shapes
import CollectionSchema.Proofs.Value.Storage
import CollectionSchema.Record.Basic
import CollectionSchema.Record.Mapper
import CollectionSchema.Registry.Basic
import CollectionSchema.Registry.Program
import CollectionSchema.Status
import CollectionSchema.Text.Basic
import CollectionSchema.Text.Decimal
import CollectionSchema.Text.Flag
import CollectionSchema.Value.Codec
import CollectionSchema.Value.Type
