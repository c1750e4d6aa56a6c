import WideColumn.Catalog.Memory
import WideColumn.Config.Toml
import WideColumn.Record.Declared
import WideColumn.ScriptedStore
import WideColumn.Session.Delete
import WideColumn.Session.Insert
import WideColumn.Session.Update
import WideColumn.Proofs.Outcome
import WideColumn.Proofs.Query.Positions
import WideColumn.Proofs.Plan.Grouping
import WideColumn.Proofs.Plan.PerColumn
import WideColumn.Proofs.Number.Rounding
import WideColumn.Proofs.Value.Equality
import WideColumn.Proofs.Value.Sorting
import WideColumn.Proofs.Value.Coercion
import WideColumn.Proofs.Value.Within
import WideColumn.Proofs.Value.CanonicalOrder
import WideColumn.Proofs.Value.Rearrangement
import WideColumn.Proofs.Value.Idempotence
import WideColumn.Proofs.Value.CanonicalForm
import WideColumn.Proofs.Value.LooseOrder
import WideColumn.Proofs.Value.SetEquality
import WideColumn.Proofs.Plan.Reading
import WideColumn.Proofs.Plan.Completeness
import WideColumn.Proofs.Plan.Soundness
import WideColumn.Proofs.Query.Verdicts
import WideColumn.Proofs.Session.Action
import WideColumn.Proofs.Session.Fetch
import WideColumn.Proofs.Session.Keyed
import WideColumn.Proofs.Session.Change
import WideColumn.Proofs.Session.Calls
import WideColumn.Proofs.Session.Batch
import WideColumn.Proofs.Session.BestEffort
import WideColumn.Proofs.Session.Tables
import WideColumn.Proofs.Row.Lookup
import WideColumn.Proofs.Session.Native
import WideColumn.Proofs.Session.OwnKeys
import WideColumn.Proofs.Record.Lawful
import WideColumn.Proofs.Record.Materialized
import WideColumn.Proofs.Session.Records
import WideColumn.Proofs.Session.WriteBack
import WideColumn.Proofs.Session.Limit
import WideColumn.Proofs.Session.Planned
import WideColumn.Proofs.Session.Failure
import WideColumn.Proofs.Naming.Padding
import WideColumn.Proofs.Session.PlannedTable
import WideColumn.Proofs.Record.Encoding
import WideColumn.Proofs.Record.Restored
import WideColumn.Proofs.Session.ReadBack
import WideColumn.Proofs.Session.Issued
import WideColumn.Proofs.Session.WrittenColumns
import WideColumn.Proofs.Session.PostEvaluation
import WideColumn.Proofs.Session.RecordEvaluation
import WideColumn.Proofs.Session.ProjectedMaps
import WideColumn.Proofs.Session.ProjectedRecords
import WideColumn.Proofs.Session.Updated
import WideColumn.Proofs.Session.UpdateModes
import WideColumn.Proofs.Layer.Begin
import WideColumn.Proofs.Layer.LifeCycle
import WideColumn.Proofs.Layer.ColumnTables
import WideColumn.Proofs.Statement.Inlined
import WideColumn.Proofs.Naming.Idempotence
import WideColumn.Proofs.Row.Denormalized
import WideColumn.Proofs.Plan.Failures
import WideColumn.Proofs.Plan.Conditions
import WideColumn.Proofs.Record.RoundTrip
import WideColumn.Proofs.Value.TotalOrder
import WideColumn.Proofs.Value.StrictOrder
import WideColumn.Proofs.Record.Assigned
import WideColumn.Proofs.Catalog.ResolvedKeys
