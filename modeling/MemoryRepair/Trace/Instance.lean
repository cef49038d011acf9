import MemoryRepair.Machine
import MemoryRepair.Trace.Delivery

/-!
A trace instance: a directory whose files switch tracepoints, describe pages and
events, and stream the raw buffer of each CPU. Requests are appended to their
files, each in a single write.
-/
namespace MemoryRepair.Trace

structure Instance where
  path : String
  deriving DecidableEq, Repr

namespace Instance

def toolName : String := "hbm_online_repair"

/-- The mount point of the first debugfs in a table of mounts. -/
def debugfs? (mounts : List Char) : Option String :=
  (Text.lines mounts).findSome? fun line =>
    match Text.words line with
    | _ :: path :: kind :: _ =>
      if String.ofList kind = "debugfs" then some (String.ofList path) else none
    | _ => none

/-- Make the instance below the debugfs of a mount table, or use the one there. -/
def create (mounts : String) : Act Machine (Except Failure Instance) := do
  match (← Act.state).files.readText mounts with
  | .error err =>
    Act.info ("Cannot open " ++ mounts ++ ": " ++ err.message)
    pure (.error (.io err))
  | .ok text =>
    match debugfs? text with
    | none => pure (.error .noDebugFs)
    | some debugfs =>
      let path := Path.join (Path.join debugfs "tracing/instances") toolName
      match ← makeDirectory path with
      | .ok () =>
        Act.debug ("Created trace instance " ++ path)
        pure (.ok ⟨path⟩)
      | .error err =>
        if err = .os Errno.fileExists then pure (.ok ⟨path⟩)
        else
          Act.info ("Unable to create " ++ toolName ++ " instance at " ++ path ++ ": " ++
            err.message)
          pure (.error (.traceInstance path))
where
  makeDirectory (path : String) : Act Machine (Except IoError Unit) :=
    Act.step fun machine =>
      match machine.files.makeDirectory path with
      | .error err => (.error err, machine)
      | .ok files => (.ok (), { machine with files })

/-- Append a request to a file of the instance. -/
def write (inst : Instance) (name value : String) : Act Machine (Except IoError Unit) := do
  let path := Path.join inst.path name
  match (← Act.state).files.openWrite path with
  | .error err =>
    Act.warn ("Cannot open " ++ path ++ ": " ++ err.message)
    pure (.error err)
  | .ok (place, node) =>
    let taken ← Act.step fun machine =>
      let (taken, files) :=
        machine.files.writeOpened .finish place node (Text.Utf8.encode value)
      (taken, { machine with files })
    match taken with
    | .error err => pure (.error err)
    | .ok 0 => pure (.error .writeZero)
    | .ok _ => pure (.ok ())

/-- Turn a tracepoint on or off. -/
def toggle (inst : Instance) (group event : String) (enable : Bool) :
    Act Machine (Except Failure Unit) := do
  let name := group ++ ":" ++ event
  let action := if enable then "enable" else "disable"
  let result ← inst.write "set_event" ((if enable then "" else "!") ++ name ++ "\n")
  Act.write (.tracepoint enable result.toOption.isSome)
  match result with
  | .error err =>
    Act.error ("Can't " ++ action ++ " " ++ name ++ " tracing: " ++ err.message)
    pure (.error (.toggleEvent name))
  | .ok () =>
    Act.info (name ++ " event " ++ action ++ "d")
    pure (.ok ())

/-- Set how full a buffer has to be before its readers wake up. -/
def setBufferPercent (inst : Instance) (percent : UInt32) :
    Act Machine (Except Failure Unit) := do
  pure ((← inst.write "buffer_percent" (Text.decimal percent.toNat)).mapError .io)

def headerPage (inst : Instance) : Act Machine (Except Failure HeaderPage) := do
  match (← Act.state).files.readText (Path.join inst.path "events/header_page") with
  | .error err =>
    Act.warn ("Read event header page failed: " ++ err.message)
    pure (.error (.io err))
  | .ok text =>
    match HeaderPage.parse text with
    | none => pure (.error .headerPage)
    | some header => pure (.ok header)

def eventFormat (inst : Instance) (group event : String) :
    Act Machine (Except Failure EventFormat) := do
  let path := Path.join (Path.join (Path.join (Path.join inst.path "events") group) event) "format"
  match (← Act.state).files.readText path with
  | .error err =>
    Act.error ("Can't get " ++ group ++ ":" ++ event ++
      " traces. Perhaps this feature is not supported on your system: " ++ err.message)
    pure (.error (.io err))
  | .ok text =>
    match EventFormat.parse text with
    | none => pure (.error (.eventFormat (group ++ ":" ++ event)))
    | some format => pure (.ok format)

def streamOf : Node → Except IoError Stream
  | .file content => .ok (.file content)
  | .directory => .ok (.broken [] (.os Errno.isDirectory))
  | .pipe content => .ok (.pipe content)
  | .socket _ => .error (.os Errno.noDevice)
  | .fullDevice => .ok (.pipe [])
  | .faulty content errno => .ok (.broken content (.os errno))

def streamPath (inst : Instance) (cpu : Nat) : String :=
  Path.join inst.path ("per_cpu/cpu" ++ Text.decimal cpu ++ "/trace_pipe_raw")

/-- The raw stream of a CPU, as it would be opened. -/
def streamAt (inst : Instance) (machine : Machine) (cpu : Nat) : Except IoError Stream :=
  match machine.files.find (inst.streamPath cpu) with
  | .error err => .error err
  | .ok (_, node) => streamOf node

/-- Open the raw stream of a CPU. -/
def openCpu (inst : Instance) (cpu : Nat) : Act Machine (Except IoError Stream) := do
  match inst.streamAt (← Act.state) cpu with
  | .error err =>
    Act.warn ("Cannot open " ++ inst.streamPath cpu ++ ": " ++ err.message)
    pure (.error err)
  | .ok stream => pure (.ok stream)

/-- Open the streams of the CPUs from the given number on, up to the first failure. -/
def openCpus (inst : Instance) (cpu : Nat) : Nat → Act Machine (Except IoError (List Stream))
  | 0 => pure (.ok [])
  | count + 1 => do
    match ← inst.openCpu cpu with
    | .error err =>
      Act.error ("Can't open trace_pipe_raw of cpu " ++ Text.decimal cpu)
      pure (.error err)
    | .ok stream =>
      match ← inst.openCpus (cpu + 1) count with
      | .error err => pure (.error err)
      | .ok streams => pure (.ok (stream :: streams))

/-- Read how pages are laid out and how the events are found in them. -/
def source (inst : Instance) : Act Machine (Except Failure Source) := do
  match ← inst.headerPage with
  | .error failure =>
    Act.error ("Cannot read trace header_page: " ++ failure.message)
    pure (.error failure)
  | .ok header =>
    match ← inst.eventFormat eventGroup eventName with
    | .error failure => pure (.error failure)
    | .ok format =>
      match Decoder.ofFormat format with
      | .error failure => pure (.error failure)
      | .ok decoder =>
        Act.info ("Registered handler for " ++ eventGroup ++ ":" ++ eventName)
        pure (.ok ⟨header, decoder⟩)

/-- Have readers woken up by any data; a failure is only logged. -/
def wakeEarly (inst : Instance) : Act Machine Unit := do
  match ← inst.setBufferPercent 0 with
  | .ok () => pure ()
  | .error failure => Act.warn ("Set buffer_percent failed: " ++ failure.message)

/-- Listen on the streams of the first CPUs until something ends it. -/
def listen (inst : Instance) (source : Source) (cpus : Nat) (signals : List Nat)
    (handle : β → Event → Act Machine β) (acc : β) :
    Act Machine (Except IoError Source.Stop × β) := do
  inst.wakeEarly
  match ← inst.openCpus 0 cpus with
  | .error err => pure (.error err, acc)
  | .ok streams =>
    Act.info ("Listening to events for cpus 0 to " ++ Text.decimal (cpus - 1))
    source.serve signals streams handle acc

end Instance

end MemoryRepair.Trace
