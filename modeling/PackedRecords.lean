import PackedRecords.Bytes
import PackedRecords.Cache.Basic
import PackedRecords.Cache.Codec
import PackedRecords.Cache.Entry
import PackedRecords.Cache.Operation
import PackedRecords.Cbor.Head
import PackedRecords.Cbor.Item
import PackedRecords.Command.Arguments
import PackedRecords.Command.Basic
import PackedRecords.Command.Error
import PackedRecords.Command.Program
import PackedRecords.Device.Basic
import PackedRecords.Device.Error
import PackedRecords.Device.Faulty
import PackedRecords.Device.Memory
import PackedRecords.Device.Operation
import PackedRecords.Device.Traced
import PackedRecords.Device.Unbuffered
import PackedRecords.Disk.Basic
import PackedRecords.Disk.OpenFile
import PackedRecords.Disk.Path
import PackedRecords.Disk.SparseBytes
import PackedRecords.Disk.Workspace
import PackedRecords.EntityId
import PackedRecords.EntityId.Text
import PackedRecords.Main
import PackedRecords.Proofs.Bytes
import PackedRecords.Proofs.Cache.CleanEntries
import PackedRecords.Proofs.Cache.FailedOperations
import PackedRecords.Proofs.Cache.Locality
import PackedRecords.Proofs.Cache.Offline
import PackedRecords.Proofs.Cache.Outcomes
import PackedRecords.Proofs.Cache.Reconciliation
import PackedRecords.Proofs.Cache.Shutdown
import PackedRecords.Proofs.Cache.ShutdownSaves
import PackedRecords.Proofs.Cache.Steps
import PackedRecords.Proofs.Cache.StorageAccess
import PackedRecords.Proofs.Cache.StoreCalls
import PackedRecords.Proofs.Cache.StoredPart
import PackedRecords.Proofs.Cache.Transparency
import PackedRecords.Proofs.Cache.UntrackedChanges
import PackedRecords.Proofs.Cbor.Lengths
import PackedRecords.Proofs.Cbor.RoundTrip
import PackedRecords.Proofs.Command.RecordFile
import PackedRecords.Proofs.Command.Refinement
import PackedRecords.Proofs.Command.Reports
import PackedRecords.Proofs.Device.Faithful
import PackedRecords.Proofs.Device.Guarded
import PackedRecords.Proofs.Device.Interrupted
import PackedRecords.Proofs.Device.Logged
import PackedRecords.Proofs.Device.PlainBytes
import PackedRecords.Proofs.Disk.Files
import PackedRecords.Proofs.Disk.Locks
import PackedRecords.Proofs.Disk.OpenFile
import PackedRecords.Proofs.Disk.Paths
import PackedRecords.Proofs.EntityId.NumericOrder
import PackedRecords.Proofs.EntityId.WrittenForm
import PackedRecords.Proofs.Guards
import PackedRecords.Proofs.Interruption
import PackedRecords.Proofs.Record.Grammar
import PackedRecords.Proofs.Record.Header
import PackedRecords.Proofs.Record.LastRecords
import PackedRecords.Proofs.Reference.Check
import PackedRecords.Proofs.Reference.Exactness
import PackedRecords.Proofs.Reference.PayloadMap
import PackedRecords.Proofs.Reference.Trial
import PackedRecords.Proofs.Report.FileVerification
import PackedRecords.Proofs.Report.Readback
import PackedRecords.Proofs.Report.ShownSizes
import PackedRecords.Proofs.Report.Verification
import PackedRecords.Proofs.Roles.CanonicalForm
import PackedRecords.Proofs.Roles.StoredForm
import PackedRecords.Proofs.Roles.Transparency
import PackedRecords.Proofs.Roles.UntrackedGrants
import PackedRecords.Proofs.Simulation
import PackedRecords.Proofs.Store.BytesWritten
import PackedRecords.Proofs.Store.Closed
import PackedRecords.Proofs.Store.CompletedShifts
import PackedRecords.Proofs.Store.Confinement
import PackedRecords.Proofs.Store.CopyRounds
import PackedRecords.Proofs.Store.Counters
import PackedRecords.Proofs.Store.Described
import PackedRecords.Proofs.Store.FailedAppend
import PackedRecords.Proofs.Store.FailedRemoval
import PackedRecords.Proofs.Store.FailedWrite
import PackedRecords.Proofs.Store.FileMedium
import PackedRecords.Proofs.Store.Following
import PackedRecords.Proofs.Store.Guarded
import PackedRecords.Proofs.Store.HeaderWrites
import PackedRecords.Proofs.Store.History
import PackedRecords.Proofs.Store.InMemory
import PackedRecords.Proofs.Store.Index
import PackedRecords.Proofs.Store.Interrupted
import PackedRecords.Proofs.Store.Ledger
import PackedRecords.Proofs.Store.LedgerRun
import PackedRecords.Proofs.Store.LedgerSession
import PackedRecords.Proofs.Store.LoggedHistory
import PackedRecords.Proofs.Store.OpenPath
import PackedRecords.Proofs.Store.Opening
import PackedRecords.Proofs.Store.Oversized
import PackedRecords.Proofs.Store.Planned
import PackedRecords.Proofs.Store.Plans
import PackedRecords.Proofs.Store.Reading
import PackedRecords.Proofs.Store.Removal
import PackedRecords.Proofs.Store.Reopening
import PackedRecords.Proofs.Store.Retained
import PackedRecords.Proofs.Store.Room
import PackedRecords.Proofs.Store.Served
import PackedRecords.Proofs.Store.SessionPayloads
import PackedRecords.Proofs.Store.Sessions
import PackedRecords.Proofs.Store.Shadowing
import PackedRecords.Proofs.Store.ShiftedBytes
import PackedRecords.Proofs.Store.Statistics
import PackedRecords.Proofs.Store.SyncedWrites
import PackedRecords.Proofs.Store.TailShift
import PackedRecords.Proofs.Store.WriteParts
import PackedRecords.Proofs.Text.JsonReading
import PackedRecords.Proofs.Text.LossyText
import PackedRecords.Proofs.Text.Split
import PackedRecords.Proofs.Text.Words
import PackedRecords.Record.Header
import PackedRecords.Record.Image
import PackedRecords.Reference.Check
import PackedRecords.Reference.PayloadMap
import PackedRecords.Reference.Trial
import PackedRecords.Report.Listing
import PackedRecords.Report.SizeText
import PackedRecords.Report.Summary
import PackedRecords.Report.Verification
import PackedRecords.Roles.Program
import PackedRecords.Roles.RoleLines
import PackedRecords.Roles.RoleSet
import PackedRecords.Store.Basic
import PackedRecords.Store.Config
import PackedRecords.Store.Error
import PackedRecords.Store.Index
import PackedRecords.Store.Medium
import PackedRecords.Store.Opening
import PackedRecords.Store.Operation
import PackedRecords.Store.Stats
import PackedRecords.Store.TailShift
import PackedRecords.Text.Columns
import PackedRecords.Text.Fields
import PackedRecords.Text.Hex
import PackedRecords.Text.Hundredths
import PackedRecords.Text.Json
import PackedRecords.Text.Quoted
import PackedRecords.Text.Split
import PackedRecords.Text.Unprinted
import PackedRecords.Text.Utf8
