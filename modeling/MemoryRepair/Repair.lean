import MemoryRepair.Journal
import MemoryRepair.Section

/-!
Online repair of faults in flat memory. The pages of a request are taken offline,
the repair device that knows the address repairs it, and the pages come back
online, or are removed for good if the repair failed. Every repair that is tried
ends with one report of its outcome.
-/
namespace MemoryRepair

/-- Receives a report, with what it logs on the way. -/
structure Notifier (σ : Type) where
  notify : Report → σ → Reply σ Unit

/-- Takes reports without a word. -/
def Notifier.silent : Notifier σ where
  notify _ state := ⟨(), state, []⟩

namespace Repair

def pageSizeKb : UInt64 := 4

/-- Kibibytes that a request takes offline. -/
def requiredKb (mode : Mode) : UInt64 :=
  UInt64.ofNat mode.addressCount * pageSizeKb

def succeeded : Except IoError Nat → Bool
  | .ok count => 0 < count
  | .error _ => false

/-- The answer of a device that does not hold the address. -/
def isElsewhere : Except IoError Nat → Bool
  | .error (.os errno) => errno == Errno.noDevice
  | _ => false

def request (call : PlatformCall) (f : σ → Reply σ α) : Act σ α := do
  Act.write (.call call)
  Act.ask f

def page (platform : Platform σ δ) (action : PageAction) (address : UInt64) :
    Act σ (Except IoError Unit) :=
  request (.page action address) (platform.page action address)

def command (platform : Platform σ δ) (device : δ) (what : RepairCommand) (address : UInt64) :
    Act σ (Except IoError Nat) :=
  request (.command what (platform.deviceName device) address)
    (platform.command device what address)

/-- Take every page offline and count the failures. A failure stops nothing. -/
def offlineAll (platform : Platform σ δ) (mode : Mode) : List UInt64 → Act σ Nat
  | [] => pure 0
  | address :: rest => do
    match ← page platform .offline address with
    | .ok () => offlineAll platform mode rest
    | .error err =>
      Act.warn ("HBM: " ++ mode.name ++ " offline failed, address is " ++
        Text.hexMarked address.toNat ++ ": " ++ err.message)
      return (← offlineAll platform mode rest) + 1

/-- Take the pages of a request offline, if the threshold allows it. -/
def isolate (platform : Platform σ δ) (threshold : UInt64) (mode : Mode)
    (addresses : List UInt64) : Act σ (Except Outcome Unit) := do
  match ← request .corrupted platform.corrupted with
  | .error failure =>
    Act.error ("Page isolate failed: cannot get HardwareCorrupted size: " ++ failure.message)
    pure (.error .isolateFailedOther)
  | .ok corrupted =>
    let sum ← Act.checked (Word64.add (requiredKb mode) corrupted)
    if threshold < sum then
      Act.info ("Page isolate failed: the isolation resource is not enough (" ++
        Text.decimal corrupted.toNat ++ "KB isolated, " ++
        Text.decimal (requiredKb mode).toNat ++ "KB required, threshold " ++
        Text.decimal threshold.toNat ++ "KB)")
      pure (.error .isolateFailedOverThreshold)
    else
      let failures ← offlineAll platform mode addresses
      if 0 < failures ∨ addresses = [] then pure (.error .isolateFailedOther)
      else pure (.ok ())

/-- Bring pages back after a repair; true if every page came online. -/
def onlineAll (platform : Platform σ δ) (mode : Mode) : List UInt64 → Act σ Bool
  | [] => pure true
  | address :: rest => do
    match ← page platform .online address with
    | .ok () =>
      Act.info ("HBM " ++ mode.name ++ ": Page (" ++ Text.hexMarked address.toNat ++
        ") repair and online success")
      onlineAll platform mode rest
    | .error err =>
      Act.warn ("HBM " ++ mode.name ++ ": Page (" ++ Text.hexMarked address.toNat ++
        ") online failed: " ++ err.message)
      let _ ← onlineAll platform mode rest
      pure false

/-- Give pages up after a failed repair. -/
def removeAll (platform : Platform σ δ) (mode : Mode) : List UInt64 → Act σ Unit
  | [] => pure ()
  | address :: rest => do
    Act.warn ("HBM " ++ mode.name ++ ": Keep page (" ++ Text.hexMarked address.toNat ++
      ") offline")
    match ← page platform .remove address with
    | .ok () => pure ()
    | .error err =>
      Act.warn ("HBM " ++ mode.name ++ ": Cannot remove page (" ++
        Text.hexMarked address.toNat ++ "): " ++ err.message)
    removeAll platform mode rest

/-- Repair on the device that knows the first address. -/
def repairOn (platform : Platform σ δ) (mode : Mode) (what : RepairCommand) (device : δ)
    (first : UInt64) (addresses : List UInt64) : Act σ Outcome := do
  let result ← command platform device what first
  if succeeded result then
    if ← onlineAll platform mode addresses then pure .success else pure .onlineFailed
  else
    removeAll platform mode addresses
    pure (Outcome.ofFailedCommand result)

/-- Query the devices in order. Only a device that says it does not hold the
address passes the search on; found tells whether any was of the right type. -/
def search (platform : Platform σ δ) (mode : Mode) (commands : RepairCommand × RepairCommand)
    (errorType : UInt32) (first : UInt64) (addresses : List UInt64) (found : Bool) :
    List δ → Act σ Outcome
  | [] =>
    if found then do
      Act.error ("Err addr is not in device, skip error, error_type is " ++
        Text.decimal errorType.toNat)
      pure .repairFailedInvalidParam
    else do
      Act.error ("No HBM device memory type found, skip error, error_type is " ++
        Text.decimal errorType.toNat)
      pure .repairFailedOther
  | device :: rest => do
    let name := platform.deviceName device
    match ← request (.memoryType name) (platform.memoryType device) with
    | .error failure =>
      Act.warn ("HBM: Unknown memory type for " ++ name ++ ": " ++ failure.message)
      search platform mode commands errorType first addresses found rest
    | .ok .ddr | .ok .unknown =>
      search platform mode commands errorType first addresses found rest
    | .ok .hbm =>
      let result ← command platform device commands.1 first
      if succeeded result then repairOn platform mode commands.2 device first addresses
      else if isElsewhere result then
        Act.debug ("HBM: Address " ++ Text.hexMarked first.toNat ++ " is not in " ++ name)
        search platform mode commands errorType first addresses true rest
      else
        Act.warn ("HBM: Address " ++ Text.hexMarked first.toNat ++ " is not supported to " ++
          mode.name ++ " repair")
        pure (Outcome.ofFailedCommand result)

/-- Find the device of a request whose pages are offline and repair it there. -/
def repair (platform : Platform σ δ) (s : Section) (mode : Mode)
    (commands : RepairCommand × RepairCommand) (first : UInt64) (addresses : List UInt64) :
    Act σ Outcome := do
  match ← request .devices platform.devices with
  | .error failure =>
    Act.warn ("Cannot list the HBM repair devices: " ++ failure.message)
    pure .repairFailedOther
  | .ok [] =>
    Act.error ("Repair driver is not loaded, skip error, error_type is " ++
      Text.decimal s.repairType.toNat)
    pure .repairFailedOther
  | .ok devices => search platform mode commands s.repairType first addresses false devices

/-- Isolate, then repair. -/
def attempt (platform : Platform σ δ) (threshold : UInt64) (s : Section) (mode : Mode)
    (commands : RepairCommand × RepairCommand) : Act σ Outcome := do
  let addresses := s.addresses mode
  match ← isolate platform threshold mode addresses with
  | .error outcome => pure outcome
  | .ok () =>
    match addresses with
    | [] => pure .isolateFailedOther
    | first :: _ => repair platform s mode commands first addresses

def report (s : Section) (outcome : Outcome) : Report :=
  ⟨s.repairType, outcome, s.fault.getD FaultAddress.zero⟩

/-- Repair the fault of a section and report the outcome. Cache mode has nothing
to repair and does nothing. -/
def run (platform : Platform σ δ) (notifier : Notifier σ) (threshold : UInt64) (s : Section)
    (mode : Mode) : Act σ (Option Outcome) :=
  match RepairCommand.ofMode mode with
  | none => pure none
  | some commands => do
    Act.debug ("Received " ++ mode.name ++ " flat mode repair request, try to repair")
    let outcome ← attempt platform threshold s mode commands
    Act.write (.report (report s outcome))
    Act.ask (notifier.notify (report s outcome))
    pure (some outcome)

end Repair

end MemoryRepair
