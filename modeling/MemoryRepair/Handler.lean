import MemoryRepair.Ledger
import MemoryRepair.Repair

/-!
What is done with an error event. A valid repair request is recorded in the
ledger first, whatever comes of that; a request for flat memory is then repaired
online, while one for memory in use as a cache is only recorded.
-/
namespace MemoryRepair

/-- The parts that handle a request, all working on one outside world. -/
structure Handler (σ δ : Type) where
  vars : VariableStore σ
  platform : Platform σ δ
  notifier : Notifier σ
  /-- The most corrupted memory, in KiB, at which pages are still isolated. -/
  threshold : UInt64

structure Disposition where
  mode : Mode
  recorded : Bool
  outcome : Option Outcome
  deriving DecidableEq, Repr

namespace Handler

/-- Record the fault; a failure is logged and changes nothing else. -/
def recordFault (handler : Handler σ δ) (ledger : Ledger) (s : Section) :
    Act σ (Bool × Ledger) := do
  let (result, ledger) ← ledger.record handler.vars s
  match result with
  | .ok _ => pure (true, ledger)
  | .error failure =>
    Act.warn ("Write HBM fault info to flash failed: " ++ failure.message)
    pure (false, ledger)

def repairFault (handler : Handler σ δ) (s : Section) (mode : Mode) :
    Act σ (Option Outcome) :=
  if s.isFlat then Repair.run handler.platform handler.notifier handler.threshold s mode
  else do
    Act.info "HBM is used as cache, the fault is recorded only"
    pure none

def handleSection (handler : Handler σ δ) (ledger : Ledger) (s : Section) :
    Act σ (Option Disposition × Ledger) := do
  Act.writeLines s.validationLog
  match s.validate with
  | .error _ => pure (none, ledger)
  | .ok mode =>
    let (recorded, ledger) ← handler.recordFault ledger s
    let outcome ← handler.repairFault s mode
    pure (some ⟨mode, recorded, outcome⟩, ledger)

def handlePayload (handler : Handler σ δ) (ledger : Ledger) (payload : Bytes) :
    Act σ (Option Disposition × Ledger) :=
  match Section.ofBytes payload with
  | .error malformed => do
    Act.writeLines malformed.log
    Act.warn ("HiSilicon common section is truncated (" ++ Text.decimal payload.length ++
      " bytes)")
    pure (none, ledger)
  | .ok s => handler.handleSection ledger s

def handleEvent (handler : Handler σ δ) (ledger : Ledger) (event : Trace.Event) :
    Act σ Ledger :=
  if event.sectionType = Trace.Guid.repairSection then do
    let (_, ledger) ← handler.handlePayload ledger event.payload
    pure ledger
  else do
    Act.debug ("Ignoring section " ++ event.sectionType.render)
    pure ledger

end Handler

end MemoryRepair
