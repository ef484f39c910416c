import AnKla.Json.Ascii
import AnKla.Policy.Dict
import AnKla.Policy.Proposals
import AnKla.Policy.Decimal
import AnKla.Policy.Calendar
import AnKla.Policy.Checkpoint
import AnKla.WriteCommit
import AnKla.Checkpoints
import AnKla.Refutations
import AnKla.Initialization
import AnKla.Compaction.Commit
import AnKla.Crypto.Table
import AnKla.Snapshot.Reads
import AnKla.Guarantees.Segments
import AnKla.Frame.Filed
import AnKla.Frame.Agrees
import AnKla.Frame.Spares
import AnKla.Readers.Vigency
import AnKla.Sealed.Opens
import AnKla.Governed
import AnKla.Transactions.Move
import AnKla.Transactions.Base
import AnKla.Guarantees.Updates
import AnKla.Guarantees.Verdicts
import AnKla.Transactions.Policies
import AnKla.Transactions.Publish
import AnKla.Transactions.Sound
import AnKla.Revisions.Watermark
import AnKla.Frame.Beside
import AnKla.Frame.Alike
import AnKla.Guarantees.Watermark
import AnKla.Guarantees.Roots
import AnKla.Guarantees.Durability
import AnKla.Guarantees.Plans
import AnKla.Guarantees.Attestation
import AnKla.Guarantees.Authority
import AnKla.Export.Bundle
import AnKla.Export.Tamper
import AnKla.Export.Refines
import AnKla.Export.RoundTrip
import AnKla.Guarantees.Availability
import AnKla.Readers.Payload
import AnKla.Readers.Assembly
import AnKla.Readers.View
import AnKla.Readers.Cursor
import AnKla.Readers.Resume
import AnKla.Guarantees.Retrieval
import AnKla.Guarantees.Reachable
import AnKla.Guarantees.Packing
import AnKla.Guarantees.Minimum
import AnKla.Guarantees.Pagination
import AnKla.Guarantees.Resume
import AnKla.Json.Extend
import AnKla.HookRuns
import AnKla.Guarantees.HookRuns
import AnKla.Guarantees.Temporal
import AnKla.Guarantees.Checkpoints
import AnKla.Guarantees.Chain
import AnKla.PlanGuard
import AnKla.Guarantees.Guard
import AnKla.Guarantees.Twins
import AnKla.Guarantees.Replay
import AnKla.Guarantees.Inventory
import AnKla.Guarantees.Lineage
import AnKla.Revisions.Walk
import AnKla.Context.Block
import AnKla.Guarantees.Blocks
import AnKla.Json.Indent
import AnKla.Context.Install
import AnKla.Guarantees.Install
import AnKla.Guarantees.Sizing
import AnKla.Json.Hole
import AnKla.Json.Python
import AnKla.HookReads
import AnKla.Snapshot.Recursion
import AnKla.Guarantees.HookReads
import AnKla.Guarantees.Recursion
import AnKla.Readers.Evaluation
import AnKla.Guarantees.Evaluation
import AnKla.Guarantees.Relocation
import AnKla.Guarantees.RelocateBack
