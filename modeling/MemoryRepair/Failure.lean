import MemoryRepair.Errno
import MemoryRepair.Text.Quoted
import MemoryRepair.Text.Utf8

/-!
What can go wrong, by cause, and the text of each cause. An I/O error carries the
system's error number unless it arose without one.
-/
namespace MemoryRepair

inductive IoError
  | os (errno : Errno)
  | invalidText
  | writeZero
  | other (text : String)
  deriving DecidableEq, Repr

namespace IoError

def message : IoError → String
  | os errno => errno.text ++ " (os error " ++ Text.signedDecimal errno ++ ")"
  | invalidText => "stream did not contain valid UTF-8"
  | writeZero => "write zero"
  | other text => text

def errno? : IoError → Option Errno
  | os errno => some errno
  | _ => none

end IoError

inductive Failure
  | internal
  | noDebugFs
  | traceInstance (path : String)
  | headerPage
  | eventFormat (event : String)
  | toggleEvent (event : String)
  | setting (name value : String)
  | slot (processor errorType : UInt32)
  | ledgerFull (total capacity : UInt64)
  | storedVariable (path : String)
  | meminfoEntry
  | faultAddress (text : String)
  | utf8 (fault : Text.Utf8.Fault)
  | numeral (error : Text.NumeralError)
  | io (error : IoError)
  deriving DecidableEq, Repr

namespace Failure

def message : Failure → String
  | internal => "Internal error in the HBM repair library"
  | noDebugFs => "No debugfs mount point could be found"
  | traceInstance path => "Unable to create trace instance at " ++ path
  | headerPage => "Invalid trace header page"
  | eventFormat event => "Cannot parse event format of " ++ event
  | toggleEvent event => "Cannot toggle " ++ event ++ " tracing"
  | setting name value => "Invalid value for " ++ name ++ ": " ++ Text.quote value
  | slot processor errorType =>
    "No flash slot for processor " ++ Text.decimal processor.toNat ++ " and error type " ++
      Text.decimal errorType.toNat
  | ledgerFull total capacity =>
    "Fault info storage is full (" ++ Text.decimal total.toNat ++ " bytes used, " ++
      Text.decimal capacity.toNat ++ " bytes available)"
  | storedVariable path => "Invalid firmware variable: " ++ path
  | meminfoEntry => "HardwareCorrupted entry not found in meminfo"
  | faultAddress text => "Invalid fault address: " ++ Text.quote text
  | utf8 fault => "UTF8 Error: " ++ fault.message
  | numeral error => "Error while parsing integer: " ++ error.message
  | io error => "Encountered IO error: " ++ error.message

end Failure

end MemoryRepair
