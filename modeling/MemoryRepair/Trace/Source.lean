import MemoryRepair.Trace.Event

/-!
From pages to events. A page yields items in the order of its records: events of
the decoder, and log lines for everything else. A time that overflows is an item
too, the last one that counts. Per-CPU streams yield pages; they are read in
rounds, one page of each stream that has data, until a round finds none. All reads
go to one page buffer.
-/
namespace MemoryRepair.Trace

structure Source where
  header : HeaderPage
  decoder : Decoder
  deriving DecidableEq, Repr

inductive Item
  | note (line : LogLine)
  | event (event : Event)
  /-- The time left its 64 bits; no item after this one is delivered. -/
  | overflow (overflow : Overflow)
  deriving DecidableEq

namespace Item

def event? : Item → Option Event
  | event e => some e
  | _ => none

end Item

namespace Source

/-- The items of one record. -/
def readRecord (source : Source) (record : Record) : List Item :=
  match recordId record.data with
  | none => [.note ⟨.debug, "Skipping record of event None"⟩]
  | some id =>
    if id = source.decoder.id then
      let result := source.decoder.decode record.timestamp record.data
      let notes := (Decoder.decodeLog result).map Item.note
      match result with
      | .ok event => notes ++ [.event event]
      | .error _ => notes
    else
      [.note ⟨.debug, "Skipping record of event Some(" ++ Text.decimal id.toNat ++ ")"⟩]

/-- The items of one page. -/
def readPage (source : Source) (page : Bytes) : List Item :=
  match Cursor.ofPage page source.header with
  | .error overflow => [.overflow overflow]
  | .ok none => [.note ⟨.error, "Invalid ring buffer page, discard"⟩]
  | .ok (some cursor) =>
    let reading := cursor.readAll
    reading.records.flatMap source.readRecord ++
      match reading.final with
      | .error overflow => [.overflow overflow]
      | .ok _ => []

end Source

/-- An opened stream of one CPU. -/
inductive Stream
  /-- A file is always readable, at its end with nothing. -/
  | file (rest : Bytes)
  /-- A pipe is readable only while it holds data. -/
  | pipe (rest : Bytes)
  /-- A readable stream whose reads fail at the end of what it holds. -/
  | broken (rest : Bytes) (error : IoError)
  deriving DecidableEq, Repr

namespace Stream

def isReadable : Stream → Bool
  | file _ => true
  | pipe rest => !rest.isEmpty
  | broken _ _ => true

def pending : Stream → Nat
  | file rest | pipe rest | broken rest _ => rest.length

def pageSize : Nat := 4096

/-- What one read yields, and the stream after it. -/
def read : Stream → Except IoError (Bytes × Stream)
  | file rest => .ok (rest.take pageSize, file (rest.drop pageSize))
  | pipe rest => .ok (rest.take pageSize, pipe (rest.drop pageSize))
  | broken [] error => .error error
  | broken rest error => .ok (rest.take pageSize, broken (rest.drop pageSize) error)

/-- The page buffer before the first read. -/
def blankPage : Bytes := List.replicate pageSize 0

/-- The page buffer after a read: what was read stands at its front, and what is left of
its former content is set to zero. -/
def fill (buffer bytes : Bytes) : Bytes :=
  bytes ++ (buffer.drop bytes.length).map fun _ => 0

end Stream

/-- What one round over the streams yields. -/
structure Round where
  items : List Item
  streams : List Stream
  /-- The page buffer after the last read. -/
  buffer : Bytes
  /-- Whether any stream had data. -/
  progress : Bool
  failure : Option IoError

namespace Round

def empty (buffer : Bytes) : Round := ⟨[], [], buffer, false, none⟩

/-- Put a stream in front that had no data. -/
def keep (round : Round) (stream : Stream) : Round :=
  { round with streams := stream :: round.streams }

end Round

namespace Source

/-- Read every readable stream once, from the CPU with the given number on. A read
that fails ends the round. -/
def readRound (source : Source) (cpu : Nat) (buffer : Bytes) : List Stream → Round
  | [] => Round.empty buffer
  | stream :: rest =>
    if stream.isReadable then
      match stream.read with
      | .error err =>
        ⟨[.note ⟨.warn, "Read page failed on cpu " ++ Text.decimal cpu ++ ": " ++
          err.message⟩], stream :: rest, buffer, false, some err⟩
      | .ok ([], _) => (source.readRound (cpu + 1) buffer rest).keep stream
      | .ok (bytes, after) =>
        let page := Stream.fill buffer bytes
        let round := source.readRound (cpu + 1) page rest
        let note := Item.note ⟨.debug, "cpu " ++ Text.decimal cpu ++ " received " ++
          Text.decimal bytes.length ++ " bytes of data"⟩
        ⟨note :: source.readPage page ++ round.items, after :: round.streams, round.buffer,
          true, round.failure⟩
    else (source.readRound (cpu + 1) buffer rest).keep stream

/-- How listening ends. -/
inductive Stop
  | signal (number : Nat)
  | noCpuReady
  | failed (error : IoError)
  /-- Nothing is readable and nothing more will come: the wait has no end. -/
  | waiting
  deriving DecidableEq, Repr

def totalPending (streams : List Stream) : Nat :=
  streams.foldr (fun stream total => stream.pending + total) 0

/-- Rounds until one ends the loop. Each round with data takes some of it, so as
many rounds as there are pending bytes, and one more, always suffice. -/
def readRounds (source : Source) : Nat → Bytes → List Stream → List Item × Stop
  | 0, _, _ => ([], .waiting)
  | fuel + 1, buffer, streams =>
    if streams.any Stream.isReadable then
      let round := source.readRound 0 buffer streams
      match round.failure with
      | some err => (round.items, .failed err)
      | none =>
        if round.progress then
          let (items, stop) := source.readRounds fuel round.buffer round.streams
          (round.items ++ items, stop)
        else
          (round.items ++ [.note ⟨.error, "No cpu fd in POLLIN state, stop running"⟩],
            .noCpuReady)
    else ([], .waiting)

/-- The signals that end listening. -/
def watchedSignals : List Nat := [1, 2, 3, 15]

/-- All that the streams yield, unless a watched signal is pending: then it ends
the loop before anything is read, the lowest number first. -/
def listen (source : Source) (signals : List Nat) (streams : List Stream) : List Item × Stop :=
  match watchedSignals.find? signals.contains with
  | some number =>
    ([.note ⟨.info, "Received signal=" ++ Text.decimal number⟩], .signal number)
  | none => source.readRounds (totalPending streams + 1) Stream.blankPage streams

end Source

end MemoryRepair.Trace
