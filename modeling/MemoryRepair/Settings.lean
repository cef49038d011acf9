import MemoryRepair.Failure
import MemoryRepair.Log
import MemoryRepair.Text.Numeral

/-!
Settings of the monitor. Two of them come from the environment; one that is
missing or wrong keeps its default, and the failure says which was ignored.
-/
namespace MemoryRepair

inductive Verbosity
  | debug
  | info
  | warning
  | error
  deriving DecidableEq, Repr

namespace Verbosity

def name : Verbosity → String
  | debug => "Debug"
  | info => "Info"
  | warning => "Warning"
  | error => "Error"

/-- The least severe level that is logged. -/
def filter : Verbosity → Level
  | debug => .debug
  | info => .info
  | warning => .warn
  | error => .error

def ofNumber : Int → Option Verbosity
  | 0 => some debug
  | 1 => some info
  | 2 => some warning
  | 3 => some error
  | _ => none

end Verbosity

structure Settings where
  verbosity : Verbosity
  /-- The most corrupted memory, in KiB, at which pages are still isolated. -/
  threshold : UInt64
  /-- The most bytes that fault records may take. -/
  capacity : UInt64
  variableDirectory : String
  pageEject : String
  platformDevices : String
  meminfo : String
  mounts : String
  serviceSocket : String
  deriving DecidableEq, Repr

namespace Settings

def initial : Settings where
  verbosity := .info
  threshold := 3355443
  capacity := 128 * 1024
  variableDirectory := "/sys/firmware/efi/efivars"
  pageEject := "/sys/kernel/page_eject"
  platformDevices := "/sys/devices/platform"
  meminfo := "/proc/meminfo"
  mounts := "/proc/mounts"
  serviceSocket := "/var/run/sysSentry/bmc.sock"

def verbosityName : String := "HBM_ONLINE_REPAIR_LOG_LEVEL"
def thresholdName : String := "PAGE_ISOLATION_THRESHOLD"

/-- The number that a variable states; a variable that is not set is empty. -/
def number (name : String) (value : Option String) : Except Failure Int :=
  let text := value.getD ""
  match Text.readInt32 text.toList with
  | .ok n => .ok n
  | .error _ => .error (.setting name text)

def readVerbosity (value : Option String) : Except Failure Verbosity :=
  match number verbosityName value with
  | .error failure => .error failure
  | .ok n =>
    match Verbosity.ofNumber n with
    | some verbosity => .ok verbosity
    | none => .error (.setting verbosityName (Text.signedDecimal n))

def readThreshold (value : Option String) : Except Failure UInt64 :=
  match number thresholdName value with
  | .error failure => .error failure
  | .ok n =>
    if 0 ≤ n then .ok (UInt64.ofNat n.toNat)
    else .error (.setting thresholdName (Text.signedDecimal n))

/-- The settings of an environment, and what was wrong with it. -/
def ofEnvironment (lookup : String → Option String) : Settings × List Failure :=
  let (settings, failures) :=
    match readVerbosity (lookup verbosityName) with
    | .ok verbosity => ({ initial with verbosity }, [])
    | .error failure => (initial, [failure])
  match readThreshold (lookup thresholdName) with
  | .ok threshold => ({ settings with threshold }, failures)
  | .error failure => (settings, failures ++ [failure])

def render (settings : Settings) : String :=
  "log level: " ++ settings.verbosity.name ++ ", page isolation threshold: " ++
    Text.decimal settings.threshold.toNat ++ "KB, flash capacity: " ++
    Text.decimal (settings.capacity.toNat / 1024) ++ "KB"

end Settings

end MemoryRepair
