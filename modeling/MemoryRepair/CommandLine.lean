import MemoryRepair.Settings

/-!
The command line. Options come before the command, and each command has options
of its own. Arguments are judged from left to right; an option's value is only
judged when the next option is met or the arguments end, and the arguments after
a command are judged before a value that is still open.
-/
namespace MemoryRepair.CommandLine

/-- Why a command line is not run. Help and version are requests and not mistakes. -/
inductive Refusal
  | unknownArgument
  | invalidSubcommand
  | missingRequiredArgument
  | invalidValue
  | valueValidation
  | argumentConflict
  | tooManyValues
  | displayHelp
  | displayVersion
  deriving DecidableEq, Repr

namespace Refusal

def name : Refusal → String
  | unknownArgument => "UnknownArgument"
  | invalidSubcommand => "InvalidSubcommand"
  | missingRequiredArgument => "MissingRequiredArgument"
  | invalidValue => "InvalidValue"
  | valueValidation => "ValueValidation"
  | argumentConflict => "ArgumentConflict"
  | tooManyValues => "TooManyValues"
  | displayHelp => "DisplayHelp"
  | displayVersion => "DisplayVersion"

end Refusal

/-- Options with a value. -/
inductive Key
  | flashCapacity
  | efivarsDir
  | pageEjectDir
  | platformDevicesDir
  | meminfo
  | mounts
  | bmcSocket
  deriving DecidableEq, Repr

namespace Key

def all : List Key :=
  [flashCapacity, efivarsDir, pageEjectDir, platformDevicesDir, meminfo, mounts, bmcSocket]

def long : Key → String
  | flashCapacity => "flash-capacity"
  | efivarsDir => "efivars-dir"
  | pageEjectDir => "page-eject-dir"
  | platformDevicesDir => "platform-devices-dir"
  | meminfo => "meminfo"
  | mounts => "mounts"
  | bmcSocket => "bmc-socket"

def ofLong (name : String) : Option Key := all.find? (·.long == name)

/-- A capacity is a number of 64 bits and a path is not empty. -/
def check (key : Key) (value : String) : Except Refusal Unit :=
  match key with
  | flashCapacity =>
    match Text.readWord64 10 value.toList with
    | .ok _ => .ok ()
    | .error _ => .error .valueValidation
  | _ => if value.isEmpty then .error .invalidValue else .ok ()

end Key

inductive Command
  | monitor (skipDrivers : Bool)
  | decode (address : String)
  | ledger
  deriving DecidableEq, Repr

structure Options where
  /-- How often more output was asked for, up to 255. -/
  verbosity : Nat
  values : List (Key × String)
  deriving DecidableEq, Repr

namespace Options

def initial : Options := ⟨0, []⟩

def raise (options : Options) : Options :=
  { options with verbosity := min 255 (options.verbosity + 1) }

/-- Take an option's value; each option counts once. -/
def put (options : Options) (key : Key) (value : String) : Except Refusal Options :=
  if (options.values.lookup key).isSome then .error .argumentConflict
  else
    match key.check value with
    | .error refusal => .error refusal
    | .ok () => .ok { options with values := (key, value) :: options.values }

end Options

/-- An option whose value is not judged yet, with the value if it was met. -/
abbrev Open := Option (Key × Option String)

/-- Judge the open option. -/
def settle (options : Options) : Open → Except Refusal Options
  | none => .ok options
  | some (_, none) => .error .invalidValue
  | some (key, some value) => options.put key value

/-- The name and the attached value of an argument that starts with two dashes. -/
def long? (arg : String) : Option (String × Option String) :=
  match arg.toList with
  | '-' :: '-' :: rest =>
    match rest.span (· != '=') with
    | (name, []) => some (String.ofList name, none)
    | (name, _ :: value) => some (String.ofList name, some (String.ofList value))
  | _ => none

/-- The letters of an argument that starts with one dash. -/
def short? (arg : String) : Option (List Char) :=
  match arg.toList with
  | '-' :: '-' :: _ => none
  | ['-'] => none
  | '-' :: letters => some letters
  | _ => none

/-- Letters before a command: more output, help and version. -/
def readLetters (options : Options) (opened : Open) :
    List Char → Except Refusal (Options × Open)
  | [] => .ok (options, opened)
  | c :: rest =>
    if c = 'v' ∨ c = 'h' ∨ c = 'V' then
      match settle options opened with
      | .error refusal => .error refusal
      | .ok options =>
        if c = 'h' then .error .displayHelp
        else if c = 'V' then .error .displayVersion
        else readLetters options.raise none rest
    else .error .unknownArgument

/-- Letters after a command: help only. -/
def readCommandLetters : List Char → Except Refusal Unit
  | [] => .ok ()
  | c :: _ => if c = 'h' then .error .displayHelp else .error .unknownArgument

/-- An option after a command, other than the command's own. -/
def refuseLong : String × Option String → Refusal
  | ("help", none) => .displayHelp
  | ("help", some _) => .tooManyValues
  | _ => .unknownArgument

/-- The arguments of the monitor command; trailing means that two dashes were met. -/
def readMonitor (skip trailing : Bool) : List String → Except Refusal Command
  | [] => .ok (.monitor skip)
  | arg :: rest =>
    if trailing then .error .unknownArgument
    else if arg = "--" then readMonitor skip true rest
    else
      match long? arg with
      | some ("skip-drivers", none) =>
        if skip then .error .argumentConflict else readMonitor true false rest
      | some ("skip-drivers", some _) => .error .tooManyValues
      | some other => .error (refuseLong other)
      | none =>
        match short? arg with
        | some letters =>
          match readCommandLetters letters with
          | .error refusal => .error refusal
          | .ok () => readMonitor skip false rest
        | none => .error .unknownArgument

/-- The arguments of the decode command. -/
def readDecode (address : Option String) (trailing : Bool) : List String → Except Refusal Command
  | [] =>
    match address with
    | some address => .ok (.decode address)
    | none => .error .missingRequiredArgument
  | arg :: rest =>
    let positional :=
      match address with
      | some _ => .error .unknownArgument
      | none => readDecode (some arg) trailing rest
    if trailing then positional
    else if arg = "--" then readDecode address true rest
    else
      match long? arg with
      | some other => .error (refuseLong other)
      | none =>
        match short? arg with
        | some letters =>
          match readCommandLetters letters with
          | .error refusal => .error refusal
          | .ok () => readDecode address false rest
        | none => positional

/-- The arguments of the ledger command. -/
def readLedger (trailing : Bool) : List String → Except Refusal Command
  | [] => .ok .ledger
  | arg :: rest =>
    if trailing then .error .unknownArgument
    else if arg = "--" then readLedger true rest
    else
      match long? arg with
      | some other => .error (refuseLong other)
      | none =>
        match short? arg with
        | some letters =>
          match readCommandLetters letters with
          | .error refusal => .error refusal
          | .ok () => readLedger false rest
        | none => .error .unknownArgument

def commandNames : List String := ["monitor", "decode", "ledger", "help"]

/-- Help on commands: the names after it have to lead to one. -/
def readHelp : List String → Refusal
  | [] => .displayHelp
  | [name] => if commandNames.contains name then .displayHelp else .invalidSubcommand
  | _ => .invalidSubcommand

/-- The command with a name, and its arguments. -/
def readCommand? (name : String) (rest : List String) : Option (Except Refusal Command) :=
  match name with
  | "monitor" => some (readMonitor false false rest)
  | "decode" => some (readDecode none false rest)
  | "ledger" => some (readLedger false rest)
  | "help" => some (.error (readHelp rest))
  | _ => none

/-- All arguments. Without a command the monitor runs. -/
def read (options : Options) (opened : Open) (trailing : Bool) :
    List String → Except Refusal (Options × Command)
  | [] => (settle options opened).map fun options => (options, .monitor false)
  | arg :: rest =>
    let awaited :=
      match opened with
      | some (key, none) => some key
      | _ => none
    let command? := if awaited.isSome then none else readCommand? arg rest
    if trailing then
      if commandNames.contains arg then .error .unknownArgument else .error .invalidSubcommand
    else
      match command? with
      | some (.error refusal) => .error refusal
      | some (.ok command) => (settle options opened).map fun options => (options, command)
      | none =>
        if arg = "--" then read options opened true rest
        else
          match long? arg, short? arg with
          | some (name, value), _ =>
            if name = "verbose" ∨ name = "help" ∨ name = "version" then
              if value.isSome then .error .tooManyValues
              else
                match settle options opened with
                | .error refusal => .error refusal
                | .ok options =>
                  if name = "verbose" then read options.raise none false rest
                  else if name = "help" then .error .displayHelp
                  else .error .displayVersion
            else
              match Key.ofLong name with
              | none => .error .unknownArgument
              | some key =>
                match settle options opened with
                | .error refusal => .error refusal
                | .ok options =>
                  match value with
                  | none => read options (some (key, none)) false rest
                  | some value =>
                    match options.put key value with
                    | .error refusal => .error refusal
                    | .ok options => read options none false rest
          | none, some letters =>
            match readLetters options opened letters with
            | .error refusal => .error refusal
            | .ok (options, opened) => read options opened false rest
          | none, none =>
            match awaited with
            | some key => read options (some (key, some arg)) false rest
            | none => .error .invalidSubcommand

def parse (args : List String) : Except Refusal (Options × Command) :=
  read Options.initial none false args

namespace Options

/-- Settings with the values of the options in place of their own. -/
def apply (options : Options) (settings : Settings) : Settings :=
  let path (key : Key) (current : String) : String := (options.values.lookup key).getD current
  { settings with
    capacity :=
      match options.values.lookup .flashCapacity with
      | some value => (Text.readWord64 10 value.toList).toOption.getD settings.capacity
      | none => settings.capacity
    variableDirectory := path .efivarsDir settings.variableDirectory
    pageEject := path .pageEjectDir settings.pageEject
    platformDevices := path .platformDevicesDir settings.platformDevices
    meminfo := path .meminfo settings.meminfo
    mounts := path .mounts settings.mounts
    serviceSocket := path .bmcSocket settings.serviceSocket }

/-- The level in force: that of the settings unless more output was asked for. -/
def level (options : Options) (settings : Settings) : Level :=
  match options.verbosity with
  | 0 => settings.verbosity.filter
  | 1 => .warn
  | 2 => .info
  | 3 => .debug
  | _ => .trace

end Options

end MemoryRepair.CommandLine
