import MemoryRepair.Monitor

/-!
The program. It takes a snapshot of the files that a command works on, runs the
command on the snapshot, and writes back the files that the command changed. It
starts no other program, so the monitor has to be told to skip the drivers.
-/
namespace MemoryRepair.Main

def usage : String :=
  "Usage: memory-repair [OPTIONS] [COMMAND]\n\n" ++
  "Commands:\n" ++
  "  monitor [--skip-drivers]  Listen to memory faults and repair them (default)\n" ++
  "  decode <ADDRESS>          Decode a packed fault address\n" ++
  "  ledger                    Show the recorded faults\n\n" ++
  "Options:\n" ++
  "  -v, --verbose             Log more; up to four times\n" ++
  String.join (CommandLine.Key.all.map fun key => "      --" ++ key.long ++ " <VALUE>\n") ++
  "  -h, --help                Show this text\n" ++
  "  -V, --version             Show the version"

def version : String := "memory-repair 0.1.0"

def placeOf (path : String) : Place :=
  (Path.parts path).filter (! ·.isEmpty)

/-- Add what stands at a path: a file that can be read, or else a directory. -/
def take (files : FileTree) (path : String) : IO FileTree := do
  try
    let content ← IO.FS.readBinFile path
    pure (files.graft (placeOf path) (some (.file content.toList)))
  catch _ =>
    try
      let _ ← IO.FS.realPath path
      pure (files.graft (placeOf path) (some .directory))
    catch _ => pure files

def takeAll (files : FileTree) (paths : List String) : IO FileTree :=
  paths.foldlM take files

/-- Repair devices are numbered with two hexadecimal digits. -/
def devicePaths (settings : Settings) : List String :=
  (List.range 16).map fun n =>
    Path.join settings.platformDevices (Machine.deviceMark ++ ":" ++ Text.hexPadded 2 n)

/-- The directories of the settings come before the files in them. -/
def settingPaths (settings : Settings) : List String :=
  [settings.meminfo, settings.mounts, settings.serviceSocket, settings.variableDirectory,
   settings.pageEject, settings.platformDevices] ++
  Slot.all.map (fun slot => Path.join settings.variableDirectory slot.fileName) ++
  PageAction.all.map (fun action => Path.join settings.pageEject action.fileName) ++
  (devicePaths settings).flatMap fun device =>
    ("memory_type" :: RepairCommand.all.map (·.fileName)).map (Path.join device)

def instancePaths (debugfs : String) : List String :=
  let instances := Path.join debugfs "tracing/instances"
  let own := Path.join instances Trace.Instance.toolName
  instances :: ["set_event", "buffer_percent", "events/header_page",
    "events/ras/non_standard_event/format"].map (Path.join own)

/-- Add the streams of the CPUs and count them. -/
def takeStreams (files : FileTree) (debugfs : String) : IO (FileTree × Nat) := do
  let own := Path.join (Path.join debugfs "tracing/instances") Trace.Instance.toolName
  let mut all := files
  let mut cpus := 0
  for cpu in [0:4096] do
    let path := Path.join own ("per_cpu/cpu" ++ Text.decimal cpu ++ "/trace_pipe_raw")
    let more ← take all path
    if (more.find path).toOption.isNone then break
    all := more
    cpus := cpu + 1
  pure (all, cpus)

def snapshot (settings : Settings) : IO (FileTree × Nat) := do
  let files ← takeAll {} (settingPaths settings)
  match (files.readText settings.mounts).toOption.bind Trace.Instance.debugfs? with
  | none => pure (files, 0)
  | some debugfs => takeStreams (← takeAll files (instancePaths debugfs)) debugfs

/-- Write one change back. -/
def commit (change : Place × Option Node) : IO Unit := do
  let path := String.join (change.1.map ("/" ++ ·))
  match change.2 with
  | some (.file content) => IO.FS.writeBinFile path ⟨content.toArray⟩
  | some .directory => IO.FS.createDir path
  | _ => pure ()

def unavailable (_ : String) : Monitor.Exit := .cannotRun (.os Errno.noEntry)

/-- Run a command; the answer is the status that the program exits with. -/
def runCommand (options : CommandLine.Options) (command : CommandLine.Command) : IO UInt32 := do
  let verbosity ← IO.getEnv Settings.verbosityName
  let threshold ← IO.getEnv Settings.thresholdName
  let lookup (name : String) : Option String :=
    if name = Settings.verbosityName then verbosity else threshold
  let (environment, failures) := Settings.ofEnvironment lookup
  let settings := options.apply environment
  let tell (line : LogLine) : IO Unit := do
    if (options.level settings).shows line.level then IO.eprintln line.render
  for failure in failures do
    tell ⟨.warn, failure.message ++ ", using the default value"⟩
  tell ⟨.info, settings.render⟩
  let (files, cpus) ← snapshot settings
  let machine : Machine := { files, script := { inodes := true } }
  let around : Monitor.Surroundings := ⟨⟨unavailable, unavailable⟩, cpus, []⟩
  let ran := (command.run settings around).run machine
  (ran.journal.filterMap Entry.line?).forM tell
  (files.changes ran.state.files).forM commit
  match ran.value with
  | .error overflow =>
    IO.eprintln overflow.message
    pure 101
  | .ok (.error failure) =>
    tell ⟨.error, "Fatal Error: " ++ failure.message⟩
    pure 1
  | .ok (.ok output) =>
    IO.print output
    pure 0

end MemoryRepair.Main

def main (args : List String) : IO UInt32 := do
  match MemoryRepair.CommandLine.parse args with
  | .ok (options, command) => MemoryRepair.Main.runCommand options command
  | .error .displayHelp =>
    IO.println MemoryRepair.Main.usage
    pure 0
  | .error .displayVersion =>
    IO.println MemoryRepair.Main.version
    pure 0
  | .error refusal =>
    IO.eprintln ("error: " ++ refusal.name)
    pure 2
