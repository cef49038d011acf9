import MemoryRepair.CommandLine
import MemoryRepair.Handler
import MemoryRepair.Json
import MemoryRepair.Machine.Service
import MemoryRepair.Machine.Sysfs
import MemoryRepair.Trace.Instance

/-!
The commands of the program. The monitor loads the kernel drivers, turns the
tracepoint on, listens until something ends it, turns the tracepoint off and
unloads the drivers; what happens in the clean-up does not change its result.
-/
namespace MemoryRepair.Monitor

/-- How an external program ends: it cannot be run, it exits with a status, or a
signal ends it. A program that has run leaves an error output. -/
inductive Exit
  | cannotRun (error : IoError)
  | status (code : Nat) (errors : List Char)
  | signal (number : Nat) (dumped : Bool) (errors : List Char)
  deriving DecidableEq, Repr

/-- The signals by their numbers, from one on. -/
def signalNames : List String :=
  ["HUP", "INT", "QUIT", "ILL", "TRAP", "ABRT", "BUS", "FPE", "KILL", "USR1", "SEGV", "USR2",
   "PIPE", "ALRM", "TERM", "STKFLT", "CHLD", "CONT", "STOP", "TSTP", "TTIN", "TTOU", "URG",
   "XCPU", "XFSZ", "VTALRM", "PROF", "WINCH", "IO", "PWR", "SYS"]

def signalText (number : Nat) (dumped : Bool) : String :=
  let name :=
    match number with
    | 0 => ""
    | index + 1 => (signalNames[index]?.map fun name => " (SIG" ++ name ++ ")").getD ""
  "signal: " ++ Text.decimal number ++ name ++ if dumped then " (core dumped)" else ""

/-- What loading and unloading a driver would answer, by its name. -/
structure Drivers where
  load : String → Exit
  unload : String → Exit

def driverNames : List String := ["hisi_mem_ras", "page_eject"]

def program (load : Bool) : String := if load then "modprobe" else "rmmod"

def handleDriver (drivers : Drivers) (load : Bool) (name : String) :
    Act Machine (Except Failure Unit) := do
  let action := (if load then "load " else "unload ") ++ name
  match if load then drivers.load name else drivers.unload name with
  | .cannotRun err =>
    Act.write (.driver load name false)
    Act.error ("Cannot run " ++ program load ++ ": " ++ err.message)
    pure (.error (.io err))
  | .status 0 _ =>
    Act.write (.driver load name true)
    Act.debug (action ++ " success")
    pure (.ok ())
  | .status code errors => failed action ("exit status: " ++ Text.decimal code) errors
  | .signal number dumped errors => failed action (signalText number dumped) errors
where
  /-- The program has run without success. -/
  failed (action ending : String) (errors : List Char) : Act Machine (Except Failure Unit) := do
    Act.write (.driver load name true)
    Act.error (action ++ " failed (" ++ ending ++ "): " ++ String.ofList (Text.trimEnd errors))
    pure (.error (.io (.other (program load ++ " " ++ name ++ " failed"))))

/-- Load or unload drivers in order, up to the first failure. -/
def handleDrivers (drivers : Drivers) (load : Bool) :
    List String → Act Machine (Except Failure Unit)
  | [] => pure (.ok ())
  | name :: rest => do
    match ← handleDriver drivers load name with
    | .error failure => pure (.error failure)
    | .ok () => handleDrivers drivers load rest

/-- What the monitor needs to know beside its settings. -/
structure Surroundings where
  drivers : Drivers
  /-- How many CPUs are online. -/
  cpus : Nat
  /-- Signals that are pending when listening starts. -/
  signals : List Nat

def paths (settings : Settings) : Machine.PlatformPaths :=
  ⟨settings.meminfo, settings.pageEject, settings.platformDevices⟩

def handler (settings : Settings) : Handler Machine String where
  vars := Machine.variableStore settings.variableDirectory
  platform := Machine.platform (paths settings)
  notifier := Machine.notifier settings.serviceSocket
  threshold := settings.threshold

def stopLine : Trace.Source.Stop → LogLine
  | .signal number => ⟨.info, "Stopped by signal " ++ Text.decimal number⟩
  | _ => ⟨.warn, "Stopped: no trace stream is readable"⟩

/-- Open the ledger and handle events until listening ends. -/
def listen (settings : Settings) (around : Surroundings) (inst : Trace.Instance) :
    Act Machine (Except Failure Unit) := do
  let parts := handler settings
  let ledger ← Ledger.load parts.vars settings.capacity
  match ← inst.source with
  | .error failure => pure (.error failure)
  | .ok source =>
    let (result, _) ← inst.listen source around.cpus around.signals parts.handleEvent ledger
    match result with
    | .error err => pure (.error (.io err))
    | .ok stop =>
      Act.write (.log (stopLine stop))
      pure (.ok ())

/-- Listen with the tracepoint on. It is turned off however listening ends. -/
def trace (settings : Settings) (around : Surroundings) : Act Machine (Except Failure Unit) := do
  match ← Trace.Instance.create settings.mounts with
  | .error failure => pure (.error failure)
  | .ok inst =>
    match ← inst.toggle Trace.eventGroup Trace.eventName true with
    | .error failure =>
      Act.warn ("Unable to enable " ++ Trace.eventGroup ++ ":" ++ Trace.eventName)
      pure (.error failure)
    | .ok () =>
      let result ← listen settings around inst
      match ← inst.toggle Trace.eventGroup Trace.eventName false with
      | .ok () => pure ()
      | .error _ =>
        Act.warn ("Unable to disable " ++ Trace.eventGroup ++ ":" ++ Trace.eventName)
      pure result

def run (settings : Settings) (around : Surroundings) (skipDrivers : Bool) :
    Act Machine (Except Failure Unit) :=
  if skipDrivers then trace settings around
  else do
    match ← handleDrivers around.drivers true driverNames with
    | .error failure => pure (.error failure)
    | .ok () =>
      let result ← trace settings around
      match ← handleDrivers around.drivers false driverNames with
      | .ok () => pure ()
      | .error failure =>
        Act.warn ("Unable to unload the drivers: " ++ failure.message)
      pure result

end MemoryRepair.Monitor

namespace MemoryRepair.CommandLine

/-- The output of the decode command. -/
def decodeOutput (address : String) : Except Failure String :=
  (FaultAddress.parse address).map fun fault => (Json.ofFault fault).pretty

/-- The output of the ledger command. -/
def ledgerOutput (settings : Settings) : Act Machine (Except Failure String) := do
  let vars := Machine.variableStore settings.variableDirectory
  let ledger ← Ledger.load vars settings.capacity
  match Ledger.readAll vars (vars.directory (← Act.state)) with
  | .error failure => pure (.error failure)
  | .ok contents => pure (.ok (Json.ofLedger ledger contents).pretty)

/-- Run a command; the answer holds its output. -/
def Command.run (settings : Settings) (around : Monitor.Surroundings) :
    Command → Act Machine (Except Failure String)
  | monitor skipDrivers => do
    pure ((← Monitor.run settings around skipDrivers).map fun () => "")
  | decode address => pure (decodeOutput address)
  | ledger => ledgerOutput settings

end MemoryRepair.CommandLine
