import MemoryRepair.Proofs.FilePaths
import MemoryRepair.Proofs.Lockstep
import MemoryRepair.Proofs.PageRefinement
import MemoryRepair.Proofs.StreamPages
import MemoryRepair.Trace.Instance

/-!
Listening on the streams of the CPUs. The request that has readers woken up early changes
no stream. Then the streams are opened in order, and what listening does besides is to hand
the events of their pages to the handler. It ends when all streams are at their ends, or
with the error of a stream that cannot be opened or of a read that fails.
-/
namespace MemoryRepair

variable {σ α β : Type}

def Entry.isLog : Entry → Bool
  | .log _ => true
  | _ => false

namespace Act

/-- From the state the computations end alike and in the same state, and write the same
journal but for log lines. -/
def Matches (act other : Act σ α) (state : σ) : Prop :=
  InStep (fun entry => !entry.isLog) Eq Eq act other state state

namespace Matches

variable {act other : Act σ α} {state : σ}

theorem refl (act : Act σ α) (state : σ) : Matches act act state := by
  refine ⟨?_, rfl, rfl⟩
  cases (act.run state).value with
  | error overflow => exact .overflow overflow
  | ok value => exact .value rfl

theorem bind {next otherNext : α → Act σ β} (h : Matches act other state)
    (hnext : ∀ value, (act.run state).value = .ok value →
      Matches (next value) (otherNext value) (act.run state).state) :
    Matches (act >>= next) (other >>= otherNext) state := by
  refine InStep.bind h ?_
  rintro value _ hvalue - rfl hstate
  rw [← hstate]
  exact hnext value hvalue

/-- What only logs and yields a value makes no difference before what follows. -/
theorem after_notes {value : α} {next : α → Act σ β} {last : Act σ β}
    (h : Matches act (Pure.pure value) state) (hnext : Matches (next value) last state) :
    Matches (act >>= next) last state := by
  obtain ⟨hvalues, hstates, hjournals⟩ := h
  have hstate : (act.run state).state = state := hstates
  have hvalue : (act.run state).value = .ok value := by
    rw [run_pure] at hvalues
    generalize hact : (act.run state).value = result at hvalues
    cases hvalues with
    | value h => rw [h]
  have hjournal : (act.run state).journal.filter (fun entry => !entry.isLog) = [] := hjournals
  refine ⟨?_, ?_, ?_⟩
  all_goals rw [run_bind_ok hvalue, hstate]
  · exact hnext.values
  · exact hnext.states
  · rw [List.filter_append, hjournal, List.nil_append]
    exact hnext.journals

theorem log (line : LogLine) (state : σ) :
    Matches (Act.write (.log line)) (Pure.pure ()) state :=
  ⟨.value rfl, rfl, rfl⟩

theorem state_bind {next : σ → Act σ α} (h : Matches (next state) other state) :
    Matches (Act.state >>= next) other state :=
  ⟨h.values, h.states, h.journals⟩

end Matches

end Act

namespace Trace

open MemoryRepair.Trace.Stream

/-- Hand events to a handler, one after the other. -/
def handOver (handle : β → Event → Act σ β) (acc : β) : List Event → Act σ β
  | [] => pure acc
  | event :: rest => do
    Act.write (.event event)
    handOver handle (← handle acc event) rest

/-- Of items without an overflow only the events are handed over. -/
theorem deliver_matches (handle : β → Event → Act σ β) (items : List Item)
    (htime : ∀ overflow, .overflow overflow ∉ items) (acc : β) (state : σ) :
    Act.Matches (deliver handle acc items)
      (handOver handle acc (items.filterMap Item.event?)) state := by
  induction items generalizing acc state with
  | nil => exact .refl _ state
  | cons item rest ih =>
    have hrest : ∀ overflow, .overflow overflow ∉ rest := fun overflow hmem =>
      htime overflow (List.mem_cons_of_mem _ hmem)
    cases item with
    | note line => exact .after_notes (.log line state) (ih hrest acc state)
    | event event =>
      refine Act.Matches.bind (.refl _ state) fun _ _ => ?_
      exact Act.Matches.bind (.refl _ _) fun next _ => ih hrest next _
    | overflow overflow => exact absurd List.mem_cons_self (htime overflow)

/-- Serving streams is handing over the events that their reading yields. -/
theorem Source.serve_matches (source : Source) {signals : List Nat} {streams : List Stream}
    {items : List Item} {stop : Source.Stop}
    (hlisten : source.listen signals streams = (items, stop))
    (htime : ∀ overflow, .overflow overflow ∉ items) (handle : β → Event → Act σ β) (acc : β)
    (state : σ) {answer : Except IoError Source.Stop}
    (hanswer : answer = match stop with | .failed err => .error err | stop => .ok stop) :
    Act.Matches (source.serve signals streams handle acc)
      (do
        let acc ← handOver handle acc (items.filterMap Item.event?)
        pure (answer, acc)) state := by
  rw [Source.serve, hlisten]
  refine (deliver_matches handle items htime acc state).bind fun last _ => ?_
  subst hanswer
  cases stop <;> exact .refl _ _

namespace Instance

/-- What became of the files: nothing, or the file at a path has another content. -/
inductive Rewritten (path : String) (before : FileTree) : FileTree → Prop
  | same : Rewritten path before before
  | replaced {place : Place} {old node : Node} (hplace : before.resolve path = .ok place)
      (hold : before.lookup place = some old) (holdFile : old ≠ .directory)
      (hnodeFile : node ≠ .directory) : Rewritten path before (before.set place node)

theorem rewritten_writeOpened {files : FileTree} {path : String} {place : Place} {node : Node}
    (h : files.openWrite path = .ok (place, node)) (side : FileTree.WriteAt) (bytes : Bytes) :
    Rewritten path files (files.writeOpened side place node bytes).2 := by
  obtain ⟨hplace, hlookup, hfile⟩ := FileTree.openWrite_eq_ok h
  cases node with
  | file content => exact .replaced hplace hlookup hfile fun h => nomatch h
  | pipe content => exact .replaced hplace hlookup hfile fun h => nomatch h
  | _ => exact .same

theorem write_ends (inst : Instance) (name value : String) (machine : Machine) :
    Act.Ends (inst.write name value) machine fun _ after =>
      Rewritten (Path.join inst.path name) machine.files after.files := by
  refine .state_bind ?_
  cases hopen : machine.files.openWrite (Path.join inst.path name) with
  | error err => exact .write_bind (.pure .same)
  | ok opened =>
    obtain ⟨place, node⟩ := opened
    have hwritten := rewritten_writeOpened hopen .finish (Text.Utf8.encode value)
    refine Act.Ends.bind (show Act.Ends _ machine fun _ after =>
      Rewritten (Path.join inst.path name) machine.files after.files from .step hwritten)
      fun taken after hafter => ?_
    rcases taken with err | count
    · exact .pure hafter
    · cases count <;> exact .pure hafter

theorem wakeEarly_ends (inst : Instance) (machine : Machine) :
    Act.Ends inst.wakeEarly machine fun _ after =>
      Rewritten (Path.join inst.path "buffer_percent") machine.files after.files := by
  have hset : Act.Ends (inst.setBufferPercent 0) machine fun _ after =>
      Rewritten (Path.join inst.path "buffer_percent") machine.files after.files :=
    Act.Ends.bind (inst.write_ends "buffer_percent" _ machine) fun _ _ h => .pure h
  refine Act.Ends.bind hset fun result after hafter => ?_
  cases result with
  | ok => exact .pure hafter
  | error failure => exact .write hafter

theorem getLast?_streamPath (inst : Instance) (cpu : Nat) :
    (inst.streamPath cpu).toList.getLast? = some 'w' := by
  apply Path.getLast?_join
  rw [String.toList_append, List.getLast?_append]
  rfl

/-- The streams are other files than the one that is written. -/
theorem streamAt_wakeEarly (inst : Instance) (machine : Machine) (cpu : Nat) :
    inst.streamAt (Act.run inst.wakeEarly machine).state cpu = inst.streamAt machine cpu := by
  obtain ⟨-, -, hrewritten⟩ := inst.wakeEarly_ends machine
  generalize (Act.run inst.wakeEarly machine).state = after at hrewritten
  unfold streamAt FileTree.find
  generalize hfiles : after.files = files at hrewritten
  cases hrewritten with
  | same => rfl
  | @replaced place old node hplace hold holdFile hnodeFile =>
    rw [FileTree.resolve_replace hold holdFile hnodeFile]
    cases hstream : machine.files.resolve (inst.streamPath cpu) with
    | error err => rfl
    | ok streamPlace =>
      have hpercent : (Path.join inst.path "buffer_percent").toList.getLast? = some 't' :=
        Path.getLast?_join inst.path rfl
      have hne : streamPlace ≠ place := FileTree.place_ne (inst.getLast?_streamPath cpu) hpercent
        (by decide) (by decide) (by decide) hstream hplace
      simp only [FileTree.lookup_set_of_ne _ hne]

/-- Opening a stream changes nothing. -/
theorem openCpu_matches (inst : Instance) (machine : Machine) (cpu : Nat) :
    Act.Matches (inst.openCpu cpu) (pure (inst.streamAt machine cpu)) machine := by
  refine .state_bind ?_
  cases inst.streamAt machine cpu with
  | error err => exact .after_notes (.log _ machine) (.refl _ machine)
  | ok stream => exact .refl _ machine

/-- The streams of the CPUs from the given number on are opened. -/
theorem openCpus_matches (inst : Instance) (machine : Machine) (streams : List Stream) (cpu : Nat)
    (h : ∀ i stream, streams[i]? = some stream → inst.streamAt machine (cpu + i) = .ok stream) :
    Act.Matches (inst.openCpus cpu streams.length) (pure (.ok streams)) machine := by
  induction streams generalizing cpu with
  | nil => exact .refl _ machine
  | cons stream rest ih =>
    have hopen := inst.openCpu_matches machine cpu
    rw [show inst.streamAt machine cpu = .ok stream from h 0 stream rfl] at hopen
    have hrest := ih (cpu + 1) fun i later hlater => by
      rw [Nat.add_right_comm]
      exact h (i + 1) later hlater
    exact .after_notes hopen (.after_notes hrest (.refl _ machine))

/-- The first stream that cannot be opened says why. -/
theorem openCpus_fails (inst : Instance) (machine : Machine) {bad : Nat} {err : IoError}
    (count cpu : Nat) (hlt : bad < count) (hbad : inst.streamAt machine (cpu + bad) = .error err)
    (hready : ∀ i < bad, ∃ stream, inst.streamAt machine (cpu + i) = .ok stream) :
    Act.Matches (inst.openCpus cpu count) (pure (.error err)) machine := by
  induction count generalizing cpu bad with
  | zero => exact absurd hlt (Nat.not_lt_zero bad)
  | succ count ih =>
    have hopen := inst.openCpu_matches machine cpu
    cases bad with
    | zero =>
      rw [show inst.streamAt machine cpu = .error err from hbad] at hopen
      exact .after_notes hopen (.after_notes (.log _ machine) (.refl _ machine))
    | succ bad =>
      obtain ⟨stream, hstream⟩ := hready 0 (Nat.succ_pos bad)
      rw [show inst.streamAt machine cpu = .ok stream from hstream] at hopen
      have hlater : inst.streamAt machine (cpu + 1 + bad) = .error err := by
        rw [Nat.add_right_comm]
        exact hbad
      have hrest := ih (cpu + 1) (Nat.lt_of_succ_lt_succ hlt) hlater fun i hi => by
        rw [Nat.add_right_comm]
        exact hready (i + 1) (Nat.succ_lt_succ hi)
      exact .after_notes hopen (.after_notes hrest (.refl _ machine))

/-- The streams that were read to their ends or up to a failure, as the handler sees it: it
is handed the events, and the answer follows. -/
def hear (inst : Instance) (handle : β → Event → Act Machine β) (acc : β) (events : List Event)
    (answer : Except IoError Source.Stop) : Act Machine (Except IoError Source.Stop × β) := do
  inst.wakeEarly
  let acc ← handOver handle acc events
  pure (answer, acc)

section Listen

variable (inst : Instance) (source : Source) {signals : List Nat} (machine : Machine)
  (handle : β → Event → Act Machine β) (acc : β)

theorem listen_opened {streams : List Stream} {items : List Item} {stop : Source.Stop}
    (hopened : ∀ i stream, streams[i]? = some stream → inst.streamAt machine i = .ok stream)
    (hlisten : source.listen signals streams = (items, stop))
    (htime : ∀ overflow, .overflow overflow ∉ items) {answer : Except IoError Source.Stop}
    (hanswer : answer = match stop with | .failed err => .error err | stop => .ok stop) :
    Act.Matches (inst.listen source streams.length signals handle acc)
      (inst.hear handle acc (items.filterMap Item.event?) answer) machine := by
  refine Act.Matches.bind (.refl _ machine) fun _ _ => ?_
  have hopen := inst.openCpus_matches (Act.run inst.wakeEarly machine).state streams 0
    fun i stream hstream => by
      rw [inst.streamAt_wakeEarly, Nat.zero_add]
      exact hopened i stream hstream
  exact .after_notes hopen (.after_notes (.log _ _)
    (source.serve_matches hlisten htime handle acc _ hanswer))

theorem listen_unopened {cpus bad : Nat} {err : IoError} (hlt : bad < cpus)
    (hbad : inst.streamAt machine bad = .error err)
    (hready : ∀ i < bad, ∃ stream, inst.streamAt machine i = .ok stream) :
    Act.Matches (inst.listen source cpus signals handle acc)
      (inst.hear handle acc [] (.error err)) machine := by
  refine Act.Matches.bind (.refl _ machine) fun _ _ => ?_
  refine .after_notes (inst.openCpus_fails _ cpus 0 hlt ?_ fun i hi => ?_) (.refl _ _)
  · rw [inst.streamAt_wakeEarly, Nat.zero_add]
    exact hbad
  · rw [inst.streamAt_wakeEarly, Nat.zero_add]
    exact hready i hi

/-- Listening while no watched signal is pending, on the streams of some CPUs. Files are
read to their ends, round by round, and the events that the records of their pages decode
to are handled in this order. A stream that cannot be opened ends it before any event is
handled, and a read that fails after the events of the reads before it. -/
theorem listen_reads (cpus : Nat) (hcpus : 1 ≤ cpus)
    (hsignals : ∀ signal ∈ Source.watchedSignals, signal ∉ signals) :
    (∀ pages : List Bytes, source.eventsOf pages =
      (pages.flatMap source.recordsOf).filterMap source.eventOf?) ∧
    (∀ (contents : List Bytes) (rounds : Nat), contents.length = cpus →
      (∀ cpu bytes, contents[cpu]? = some bytes →
        inst.streamAt machine cpu = .ok (.file bytes) ∧ bytes.length ≤ rounds * pageSize) →
      (∀ page ∈ pagesUpTo contents rounds, source.InTime page) →
      Act.Matches (inst.listen source cpus signals handle acc)
        (inst.hear handle acc (source.eventsOf (pagesUpTo contents rounds)) (.ok .noCpuReady))
        machine) ∧
    (∀ (bad : Nat) (err : IoError), bad < cpus → inst.streamAt machine bad = .error err →
      (∀ cpu < bad, ∃ stream, inst.streamAt machine cpu = .ok stream) →
      Act.Matches (inst.listen source cpus signals handle acc)
        (inst.hear handle acc [] (.error err)) machine) ∧
    (∀ (streams : List Stream) (round bad : Nat) (err : IoError), streams.length = cpus →
      (∀ cpu stream, streams[cpu]? = some stream →
        inst.streamAt machine cpu = .ok stream ∧ stream.Steady) →
      Source.FirstFailure streams round bad err →
      let pages := pagesUpTo (streams.map content) round ++
        roundPages ((streams.take bad).map content) round
      (∀ page ∈ pages, source.InTime page) →
      Act.Matches (inst.listen source cpus signals handle acc)
        (inst.hear handle acc (source.eventsOf pages) (.error err)) machine) := by
  refine ⟨source.eventsOf_eq, ?_, fun bad err hlt hbad hready => ?_, ?_⟩
  · rintro contents rounds rfl hcontents htime
    have hlengths : ∀ bytes ∈ contents, bytes.length ≤ rounds * pageSize := by
      intro bytes hmem
      obtain ⟨cpu, hcpu⟩ := List.getElem?_of_mem hmem
      exact (hcontents cpu bytes hcpu).2
    have hopened : ∀ cpu stream, (contents.map Stream.file)[cpu]? = some stream →
        inst.streamAt machine cpu = .ok stream := by
      intro cpu stream hstream
      rw [List.getElem?_map, Option.map_eq_some_iff] at hstream
      obtain ⟨bytes, hbytes, rfl⟩ := hstream
      exact (hcontents cpu bytes hbytes).1
    obtain ⟨items, hlisten, hgives⟩ := source.listen_files hsignals
      (List.ne_nil_of_length_pos hcpus) rounds hlengths
    have hmatches := inst.listen_opened source machine handle acc hopened hlisten
      (hgives.in_time htime) rfl
    rwa [List.length_map, hgives.events] at hmatches
  · exact inst.listen_unopened source machine handle acc hlt hbad hready
  · rintro streams round bad err rfl hstreams hfirst pages htime
    have hsteady : ∀ stream ∈ streams, stream.Steady := by
      intro stream hmem
      obtain ⟨cpu, hcpu⟩ := List.getElem?_of_mem hmem
      exact (hstreams cpu stream hcpu).2
    obtain ⟨items, hlisten, hgives⟩ := source.listen_fails hsignals hsteady hfirst
    have hmatches := inst.listen_opened source machine handle acc
      (fun cpu stream hcpu => (hstreams cpu stream hcpu).1) hlisten (hgives.in_time htime) rfl
    rwa [hgives.events] at hmatches

end Listen

/-- A machine with the streams of two CPUs. -/
def twoCpus (first second : Node) : Machine :=
  { files := ⟨[(["t"], .directory), (["t", "per_cpu"], .directory),
      (["t", "per_cpu", "cpu0"], .directory), (["t", "per_cpu", "cpu1"], .directory),
      (["t", "per_cpu", "cpu0", "trace_pipe_raw"], first),
      (["t", "per_cpu", "cpu1", "trace_pipe_raw"], second)]⟩ }

theorem streamAt_twoCpus (first second : Node) :
    streamAt ⟨"/t"⟩ (twoCpus first second) 0 = streamOf first ∧
      streamAt ⟨"/t"⟩ (twoCpus first second) 1 = streamOf second := by
  constructor <;> with_unfolding_all rfl

/-- A page that is not full, with two events. -/
def shortPage : Bytes := page 1000 220 (RingItem.encodeAll mixedItems) []

theorem pageAt_shortPage :
    pageAt shortPage 0 = some (padded shortPage) ∧ pageAt shortPage 1 = none := by
  have hlength : shortPage.length = 236 := by decide +kernel
  have hne : shortPage ≠ [] := List.ne_nil_of_length_pos (by omega)
  have hshort : shortPage.length ≤ pageSize := hlength ▸ by decide
  constructor
  · rw [pageAt_zero hne, List.take_of_length_le hshort]
  · exact if_neg (by omega)

theorem inTime_shortPage : Source.standard.InTime (padded shortPage) := by
  have hpadded : padded shortPage = page 1000 220 (RingItem.encodeAll mixedItems)
      (List.replicate (pageSize - shortPage.length) 0) := by
    simp only [padded, shortPage, page, List.append_assoc, List.nil_append]
  intro overflow hmem
  rw [hpadded, readPage_page mixedItems 1000 220 _ (by decide +kernel) ⟨by decide, by decide,
    by decide, by decide, by decide, by decide, by decide, trivial⟩] at hmem
  obtain ⟨record, -, hrecord⟩ := List.mem_flatMap.mp hmem
  exact Source.standard.overflow_not_mem_readRecord record overflow hrecord

/-- An empty stream beside one with a page that is not full, a stream that is no file, and
one whose second read fails. -/
theorem listen_reads_twoCpus :
    let act := listen ⟨"/t"⟩ .standard 2 [] machineHandler.handleEvent ⟨4096, 0⟩
    let heard := hear ⟨"/t"⟩ machineHandler.handleEvent ⟨4096, 0⟩
    let full := padded shortPage
    (1 ≤ 2 ∧ ∀ signal ∈ Source.watchedSignals, signal ∉ ([] : List Nat)) ∧
      Act.Matches act (heard (Source.standard.eventsOf [full]) (.ok .noCpuReady))
        (twoCpus (.file []) (.file shortPage)) ∧
      Act.Matches act (heard [] (.error (.os Errno.noDevice)))
        (twoCpus (.file shortPage) (.socket false)) ∧
      Act.Matches act (heard (Source.standard.eventsOf [full, full]) (.error (.os 5)))
        (twoCpus (.file shortPage) (.faulty shortPage 5)) := by
  intro act heard full
  have hcpus : 1 ≤ 2 := by decide
  have hsignals : ∀ signal ∈ Source.watchedSignals, signal ∉ ([] : List Nat) := by decide
  have hlength : shortPage.length ≤ 1 * pageSize := by decide +kernel
  have hreads := fun first second => listen_reads ⟨"/t"⟩ .standard (twoCpus first second)
    machineHandler.handleEvent ⟨4096, 0⟩ 2 hcpus hsignals
  obtain ⟨hfirst, hnext⟩ := pageAt_shortPage
  refine ⟨⟨hcpus, hsignals⟩, ?_, ?_, ?_⟩
  · have hpages : pagesUpTo [[], shortPage] 1 = [full] := by
      simp only [pagesUpTo_succ, roundPages_cons, pageAt_nil, hfirst]
      rfl
    obtain ⟨hopen, hlast⟩ := streamAt_twoCpus (.file []) (.file shortPage)
    have hmatches := (hreads (.file []) (.file shortPage)).2.1 [[], shortPage] 1 rfl
    rw [hpages] at hmatches
    refine hmatches (fun cpu bytes hbytes => ?_) (by simpa using inTime_shortPage)
    match cpu with
    | 0 => cases hbytes; exact ⟨hopen, Nat.zero_le _⟩
    | 1 => cases hbytes; exact ⟨hlast, hlength⟩
    | cpu + 2 => cases hbytes
  · obtain ⟨hopen, hlast⟩ := streamAt_twoCpus (.file shortPage) (.socket false)
    refine (hreads _ _).2.2.1 1 (.os Errno.noDevice) (by decide) hlast fun cpu hcpu => ?_
    obtain rfl : cpu = 0 := by omega
    exact ⟨_, hopen⟩
  · have hpages : pagesUpTo [shortPage, shortPage] 1 ++ roundPages [shortPage] 1 =
        [full, full] := by
      simp only [pagesUpTo_succ, roundPages_cons, hfirst, hnext]
      rfl
    obtain ⟨hopen, hlast⟩ := streamAt_twoCpus (.file shortPage) (.faulty shortPage 5)
    have hfailure :
        Source.FirstFailure [.file shortPage, .broken shortPage (.os 5)] 1 1 (.os 5) := by
      refine ⟨⟨_, rfl, shortPage, rfl, hlength⟩, ?_⟩
      rintro other earlier stream err hstream ⟨rest, rfl, hrest⟩
      match other with
      | 0 => cases hstream
      | 1 =>
        cases hstream
        have hne : 0 < shortPage.length := by decide +kernel
        cases earlier with
        | zero => omega
        | succ earlier => omega
      | other + 2 => cases hstream
    have hmatches := (hreads (.file shortPage) (.faulty shortPage 5)).2.2.2
      [.file shortPage, .broken shortPage (.os 5)] 1 1 (.os 5) rfl (fun cpu stream hstream => ?_)
      hfailure
    · simp only [List.map_cons, List.map_nil, List.take_succ_cons, List.take_zero, content,
        hpages] at hmatches
      exact hmatches (by simpa using inTime_shortPage)
    · match cpu with
      | 0 => cases hstream; exact ⟨hopen, .file _⟩
      | 1 => cases hstream; exact ⟨hlast, .broken _ _⟩
      | cpu + 2 => cases hstream

end Instance

end Trace

end MemoryRepair
