import MemoryRepair.Main
import MemoryRepair.Platform.Scripted
import MemoryRepair.Proofs.Conversation
import MemoryRepair.Proofs.RepairCourse
import MemoryRepair.Proofs.RepairSearch
import MemoryRepair.Proofs.RepairRun
import MemoryRepair.Proofs.RepairSafety
import MemoryRepair.Proofs.RepairOutcome
import MemoryRepair.Proofs.LedgerRecord
import MemoryRepair.Proofs.LedgerSize
import MemoryRepair.Proofs.RingItems
import MemoryRepair.Proofs.SectionCodec
import MemoryRepair.Proofs.StandardTrace
import MemoryRepair.Proofs.PageRefinement
import MemoryRepair.Proofs.PageReading
import MemoryRepair.Proofs.StoreOperations
import MemoryRepair.Proofs.AttributeBracket
import MemoryRepair.Proofs.LedgerRun
import MemoryRepair.Proofs.SlotLog
import MemoryRepair.Proofs.SlotIdentity
import MemoryRepair.Proofs.Handling
import MemoryRepair.Proofs.Classification
import MemoryRepair.Proofs.RecordEffect
import MemoryRepair.Proofs.Lockstep
import MemoryRepair.Proofs.Noninterference
import MemoryRepair.Proofs.AddressCodec
import MemoryRepair.Proofs.LedgerQuota
import MemoryRepair.Proofs.FilePaths
import MemoryRepair.Proofs.Listening
import MemoryRepair.Proofs.Dispatch
import MemoryRepair.Proofs.IsolationThreshold
import MemoryRepair.Proofs.SectionBytes
import MemoryRepair.Proofs.RegisterLayout
import MemoryRepair.Proofs.PageMarks
import MemoryRepair.Proofs.PageTime
import MemoryRepair.Proofs.PageLoading
import MemoryRepair.Proofs.CommitMonotone
import MemoryRepair.Proofs.PageIteration
import MemoryRepair.Proofs.RecordDecoding
import MemoryRepair.Proofs.TextPieces
import MemoryRepair.Proofs.FormatText
import MemoryRepair.Proofs.HeaderPlaces
import MemoryRepair.Proofs.Numerals
import MemoryRepair.Proofs.ReportMessage
import MemoryRepair.Proofs.LedgerReading
import MemoryRepair.Proofs.AddressText
import MemoryRepair.Proofs.ListeningEntries
import MemoryRepair.Proofs.MonitorSession
import MemoryRepair.Proofs.DriverCleanup
