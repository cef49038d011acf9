import Mathlib.Data.List.Basic
import MemoryRepair.Trace.Source

/-!
The pages of the streams. In each round one page is read from every stream that has data
left: the next 4096 bytes, or what is left of them with zeros behind. The page buffer is
shared by all reads, but a page never shows what an earlier read left in it. Reading goes
on until every stream has come to its end, or up to the first read that fails.
-/
namespace MemoryRepair.Trace

namespace Stream

/-- What can be read from a stream. -/
def content : Stream → Bytes
  | file rest | pipe rest | broken rest _ => rest

/-- A stream after a page was read from it. -/
def advance : Stream → Stream
  | file rest => file (rest.drop pageSize)
  | pipe rest => pipe (rest.drop pageSize)
  | broken rest error => broken (rest.drop pageSize) error

/-- A stream that can be read at any time, though a read may fail. -/
inductive Steady : Stream → Prop
  | file (rest : Bytes) : Steady (file rest)
  | broken (rest : Bytes) (error : IoError) : Steady (broken rest error)

/-- The stream ends with an error, before its read in the given round. -/
def FailsAt (stream : Stream) (round : Nat) (error : IoError) : Prop :=
  ∃ rest, stream = broken rest error ∧ rest.length ≤ round * pageSize

/-- A page of full size that starts with the given bytes and has zeros behind them. -/
def padded (bytes : Bytes) : Bytes :=
  bytes ++ List.replicate (pageSize - bytes.length) 0

/-- The page that a round reads from a stream with the given content, which has none if
the rounds before it took everything. -/
def pageAt (content : Bytes) (round : Nat) : Option Bytes :=
  if round * pageSize < content.length then
    some (padded ((content.drop (round * pageSize)).take pageSize))
  else none

@[simp] theorem content_advance (stream : Stream) :
    stream.advance.content = stream.content.drop pageSize := by
  cases stream <;> rfl

theorem pending_eq (stream : Stream) : stream.pending = stream.content.length := by
  cases stream <;> rfl

theorem Steady.advance {stream : Stream} (h : stream.Steady) : stream.advance.Steady := by
  cases h with
  | file rest => exact .file _
  | broken rest error => exact .broken _ error

theorem Steady.isReadable {stream : Stream} (h : stream.Steady) : stream.isReadable = true := by
  cases h <;> rfl

theorem failsAt_advance {stream : Stream} {round : Nat} {error : IoError} :
    stream.advance.FailsAt round error ↔ stream.FailsAt (round + 1) error := by
  have hround : (round + 1) * pageSize = round * pageSize + pageSize := Nat.succ_mul _ _
  constructor
  · rintro ⟨rest, hrest, hlength⟩
    cases stream with
    | file rest => cases hrest
    | pipe rest => cases hrest
    | broken rest error =>
      cases hrest
      rw [List.length_drop] at hlength
      exact ⟨rest, rfl, by omega⟩
  · rintro ⟨rest, rfl, hlength⟩
    exact ⟨rest.drop pageSize, rfl, by rw [List.length_drop]; omega⟩

/-- A stream that does not fail in the first round is read there, and advances. -/
theorem Steady.read_eq {stream : Stream} (h : stream.Steady)
    (hfirst : ∀ error, ¬ stream.FailsAt 0 error) :
    stream.read = .ok (stream.content.take pageSize, stream.advance) := by
  cases h with
  | file rest => rfl
  | broken rest error =>
    cases rest with
    | nil => exact absurd ⟨[], rfl, Nat.zero_le _⟩ (hfirst error)
    | cons byte rest => rfl

theorem FailsAt.read_eq {stream : Stream} {error : IoError} (h : stream.FailsAt 0 error) :
    stream.read = .error error := by
  obtain ⟨rest, rfl, hlength⟩ := h
  obtain rfl : rest = [] := List.length_eq_zero_iff.mp (by omega)
  rfl

theorem FailsAt.content_ne_nil {stream : Stream} {round : Nat} {error : IoError}
    (h : stream.FailsAt (round + 1) error) (hfirst : ¬ stream.FailsAt 0 error) :
    stream.content ≠ [] := by
  obtain ⟨rest, rfl, -⟩ := h
  intro hnil
  obtain rfl : rest = [] := hnil
  exact hfirst ⟨[], rfl, Nat.zero_le _⟩

theorem length_blankPage : blankPage.length = pageSize := List.length_replicate

/-- Nothing of the former content of the buffer is left. -/
theorem fill_eq_padded {buffer bytes : Bytes} (hbuffer : buffer.length = pageSize) :
    fill buffer bytes = padded bytes := by
  rw [fill, padded, List.map_const', List.length_drop, hbuffer]

theorem length_padded {bytes : Bytes} (h : bytes.length ≤ pageSize) :
    (padded bytes).length = pageSize := by
  rw [padded, List.length_append, List.length_replicate]
  omega

@[simp] theorem pageAt_nil (round : Nat) : pageAt [] round = none :=
  if_neg (Nat.not_lt_zero _)

theorem pageAt_zero {content : Bytes} (h : content ≠ []) :
    pageAt content 0 = some (padded (content.take pageSize)) := by
  have hlength : 0 * pageSize < content.length := by
    rw [Nat.zero_mul]
    exact List.length_pos_iff.mpr h
  rw [pageAt, if_pos hlength, Nat.zero_mul, List.drop_zero]

theorem pageAt_drop (content : Bytes) (round : Nat) :
    pageAt (content.drop pageSize) round = pageAt content (round + 1) := by
  have hround : (round + 1) * pageSize = pageSize + round * pageSize := by
    rw [Nat.succ_mul, Nat.add_comm]
  have hlength : round * pageSize < (content.drop pageSize).length ↔
      (round + 1) * pageSize < content.length := by
    rw [List.length_drop]
    omega
  simp only [pageAt, hlength, List.drop_drop, hround]

/-- The pages of a round, in the order of the CPUs that have data left. -/
def roundPages (contents : List Bytes) (round : Nat) : List Bytes :=
  contents.filterMap fun content => pageAt content round

/-- The pages of the first rounds. -/
def pagesUpTo (contents : List Bytes) (rounds : Nat) : List Bytes :=
  (List.range rounds).flatMap (roundPages contents)

theorem roundPages_cons (content : Bytes) (contents : List Bytes) (round : Nat) :
    roundPages (content :: contents) round =
      (pageAt content round).toList ++ roundPages contents round := by
  rw [roundPages, List.filterMap_cons]
  cases pageAt content round <;> rfl

theorem roundPages_drop (contents : List Bytes) (round : Nat) :
    roundPages (contents.map fun content => content.drop pageSize) round =
      roundPages contents (round + 1) := by
  rw [roundPages, roundPages, List.filterMap_map]
  exact List.filterMap_congr fun content _ => pageAt_drop content round

theorem pagesUpTo_succ (contents : List Bytes) (rounds : Nat) :
    pagesUpTo contents (rounds + 1) = roundPages contents 0 ++
      pagesUpTo (contents.map fun content => content.drop pageSize) rounds := by
  have hrest : (List.range rounds).flatMap (fun round => roundPages contents (round + 1)) =
      pagesUpTo (contents.map fun content => content.drop pageSize) rounds :=
    List.flatMap_congr fun round _ => (roundPages_drop contents round).symm
  rw [pagesUpTo, List.range_succ_eq_map, List.flatMap_cons, List.flatMap_map, ← hrest]

theorem roundPages_eq_nil {contents : List Bytes} (h : ∀ content ∈ contents, content = [])
    (round : Nat) : roundPages contents round = [] := by
  refine List.filterMap_eq_nil_iff.mpr fun content hmem => ?_
  rw [h content hmem, pageAt_nil]

theorem pagesUpTo_eq_nil {contents : List Bytes} (h : ∀ content ∈ contents, content = [])
    (rounds : Nat) : pagesUpTo contents rounds = [] :=
  List.flatMap_eq_nil_iff.mpr fun round _ => roundPages_eq_nil h round

theorem map_content_advance (streams : List Stream) :
    (streams.map advance).map content =
      (streams.map content).map fun content => content.drop pageSize := by
  rw [List.map_map, List.map_map]
  exact List.map_congr_left fun stream _ => content_advance stream

end Stream

open MemoryRepair.Trace.Stream

theorem filterMap_notes (lines : List LogLine) :
    (lines.map Item.note).filterMap Item.event? = [] := by
  refine List.filterMap_eq_nil_iff.mpr fun item hmem => ?_
  obtain ⟨line, -, rfl⟩ := List.mem_map.mp hmem
  rfl

namespace Source

variable (source : Source)

/-- The events of pages, in order. -/
def eventsOf (pages : List Bytes) : List Event :=
  pages.flatMap fun page => (source.readPage page).filterMap Item.event?

/-- The records that are read from a page. A page that cannot be loaded has none. -/
def recordsOf (page : Bytes) : List Record :=
  match Cursor.ofPage page source.header with
  | .ok (some cursor) => cursor.readAll.records
  | _ => []

/-- The event of a record, if the record is one of the decoder's and is not rejected by it. -/
def eventOf? (record : Record) : Option Event :=
  if recordId record.data = some source.decoder.id then
    (source.decoder.decode record.timestamp record.data).toOption
  else none

theorem filterMap_readRecord (record : Record) :
    (source.readRecord record).filterMap Item.event? = (source.eventOf? record).toList := by
  unfold readRecord eventOf?
  cases hid : recordId record.data with
  | none => rfl
  | some id =>
    by_cases hown : id = source.decoder.id
    · simp only [if_pos hown, if_pos (congrArg some hown)]
      cases source.decoder.decode record.timestamp record.data with
      | error rejection => exact filterMap_notes _
      | ok event =>
        rw [List.filterMap_append, filterMap_notes]
        rfl
    · have hother : ¬ some id = some source.decoder.id := fun h => hown (Option.some.inj h)
      simp only [if_neg hown, if_neg hother]
      rfl

theorem filterMap_readPage (page : Bytes) :
    (source.readPage page).filterMap Item.event? =
      (source.recordsOf page).filterMap source.eventOf? := by
  unfold readPage recordsOf
  cases Cursor.ofPage page source.header with
  | error overflow => rfl
  | ok found =>
    cases found with
    | none => rfl
    | some cursor =>
      have hrecords : (cursor.readAll.records.flatMap source.readRecord).filterMap Item.event? =
          cursor.readAll.records.filterMap source.eventOf? := by
        rw [List.filterMap_flatMap, List.filterMap_eq_flatMap_toList]
        exact List.flatMap_congr fun record _ => source.filterMap_readRecord record
      simp only [List.filterMap_append, hrecords]
      cases cursor.readAll.final <;> exact List.append_nil _

/-- The events of pages are those that their records decode to. -/
theorem eventsOf_eq (pages : List Bytes) :
    source.eventsOf pages = (pages.flatMap source.recordsOf).filterMap source.eventOf? := by
  rw [eventsOf, List.filterMap_flatMap]
  exact List.flatMap_congr fun page _ => source.filterMap_readPage page

/-- The times of a page stay within their 64 bits. -/
def InTime (page : Bytes) : Prop :=
  ∀ overflow, .overflow overflow ∉ source.readPage page

/-- The items have the events of the pages, and overflow only where a page does. -/
structure Gives (items : List Item) (pages : List Bytes) : Prop where
  events : items.filterMap Item.event? = source.eventsOf pages
  overflow : ∀ overflow, .overflow overflow ∈ items → ∃ page ∈ pages, ¬ source.InTime page

section Gives

variable {source} {items more : List Item} {pages others : List Bytes}

theorem Gives.note (line : LogLine) : source.Gives [.note line] [] where
  events := rfl
  overflow := fun _ hmem => nomatch List.mem_singleton.mp hmem

theorem Gives.nil : source.Gives [] [] where
  events := rfl
  overflow := fun _ hmem => nomatch hmem

theorem Gives.page (page : Bytes) : source.Gives (source.readPage page) [page] where
  events := (List.append_nil _).symm
  overflow := fun overflow hmem => ⟨page, List.mem_singleton_self page, fun h => h overflow hmem⟩

theorem Gives.append (h : source.Gives items pages) (hmore : source.Gives more others) :
    source.Gives (items ++ more) (pages ++ others) where
  events := by
    rw [List.filterMap_append, h.events, hmore.events, eventsOf, eventsOf, eventsOf,
      List.flatMap_append]
  overflow := by
    intro overflow hmem
    rcases List.mem_append.mp hmem with hleft | hright
    · obtain ⟨page, hpage, hover⟩ := h.overflow overflow hleft
      exact ⟨page, List.mem_append_left _ hpage, hover⟩
    · obtain ⟨page, hpage, hover⟩ := hmore.overflow overflow hright
      exact ⟨page, List.mem_append_right _ hpage, hover⟩

theorem Gives.in_time (h : source.Gives items pages) (htime : ∀ page ∈ pages, source.InTime page)
    (overflow : Overflow) : .overflow overflow ∉ items := by
  intro hmem
  obtain ⟨page, hpage, hover⟩ := h.overflow overflow hmem
  exact hover (htime page hpage)

end Gives

/-- What the read of a first stream adds to a round over the others. -/
structure Extends (stream : Stream) (round whole : Round) : Prop where
  streams : whole.streams = stream.advance :: round.streams
  buffer : whole.buffer = round.buffer
  failure : whole.failure = round.failure
  progress : whole.progress = true ↔ stream.content ≠ [] ∨ round.progress = true
  items : ∀ pages, source.Gives round.items pages →
    source.Gives whole.items ((pageAt stream.content 0).toList ++ pages)

/-- A stream that can be read is read in its turn, whatever stands in the buffer. -/
theorem readRound_cons (cpu : Nat) {buffer : Bytes} (hbuffer : buffer.length = pageSize)
    {stream : Stream} (hsteady : stream.Steady) (hfirst : ∀ error, ¬ stream.FailsAt 0 error)
    (rest : List Stream) :
    ∃ next : Bytes, next.length = pageSize ∧
      source.Extends stream (source.readRound (cpu + 1) next rest)
        (source.readRound cpu buffer (stream :: rest)) := by
  have hread := hsteady.read_eq hfirst
  rw [readRound, if_pos hsteady.isReadable]
  by_cases hnil : stream.content = []
  · have htake : stream.content.take pageSize = [] := by rw [hnil, List.take_nil]
    have hsame : stream.advance = stream := by
      cases hsteady <;> (cases hnil; rfl)
    rw [htake] at hread
    refine ⟨buffer, hbuffer, ?_⟩
    simp only [hread]
    refine ⟨congrArg (· :: _) hsame.symm, rfl, rfl, ?_, fun pages hpages => ?_⟩
    · exact ⟨Or.inr, fun h => h.resolve_left fun hne => hne hnil⟩
    · rw [hnil, pageAt_nil]
      exact hpages
  · have hlength : (stream.content.take pageSize).length ≤ pageSize := List.length_take_le _ _
    have hpage := pageAt_zero hnil
    have hne : stream.content.take pageSize ≠ [] := by
      intro htake
      rcases List.take_eq_nil_iff.mp htake with hzero | hempty
      · cases hzero
      · exact hnil hempty
    obtain ⟨byte, bytes, htake⟩ := List.exists_cons_of_ne_nil hne
    rw [htake] at hread hlength hpage
    refine ⟨padded (byte :: bytes), length_padded hlength, ?_⟩
    simp only [hread, fill_eq_padded hbuffer]
    refine ⟨rfl, rfl, rfl, ⟨fun _ => Or.inl hnil, fun _ => rfl⟩, fun pages hpages => ?_⟩
    rw [hpage]
    exact (Gives.note _).append ((Gives.page _).append hpages)

/-- A round in which no read fails. -/
theorem readRound_whole (streams : List Stream) (cpu : Nat) {buffer : Bytes}
    (hbuffer : buffer.length = pageSize) (hsteady : ∀ stream ∈ streams, stream.Steady)
    (hfirst : ∀ stream ∈ streams, ∀ error, ¬ stream.FailsAt 0 error) :
    let round := source.readRound cpu buffer streams
    source.Gives round.items (roundPages (streams.map content) 0) ∧
      round.streams = streams.map advance ∧ round.buffer.length = pageSize ∧
      round.failure = none ∧
      (round.progress = true ↔ ∃ stream ∈ streams, stream.content ≠ []) := by
  induction streams generalizing cpu buffer with
  | nil => exact ⟨.nil, rfl, hbuffer, rfl, by simp [readRound, Round.empty]⟩
  | cons stream rest ih =>
    obtain ⟨next, hnext, hextends⟩ := source.readRound_cons cpu hbuffer
      (hsteady stream List.mem_cons_self) (hfirst stream List.mem_cons_self) rest
    obtain ⟨hitems, hstreams, hlast, hfailure, hprogress⟩ := ih (cpu + 1) hnext
      (fun other hmem => hsteady other (List.mem_cons_of_mem _ hmem))
      (fun other hmem => hfirst other (List.mem_cons_of_mem _ hmem))
    refine ⟨?_, ?_, ?_, ?_, ?_⟩
    · rw [List.map_cons, roundPages_cons]
      exact hextends.items _ hitems
    · rw [hextends.streams, hstreams, List.map_cons]
    · rw [hextends.buffer, hlast]
    · rw [hextends.failure, hfailure]
    · rw [hextends.progress, hprogress, List.exists_mem_cons_iff]

/-- A round that comes to a read that fails, with the pages of the reads before it. -/
theorem readRound_failing (ready : List Stream) (cpu : Nat) {buffer : Bytes}
    (hbuffer : buffer.length = pageSize) (hsteady : ∀ stream ∈ ready, stream.Steady)
    (hfirst : ∀ stream ∈ ready, ∀ error, ¬ stream.FailsAt 0 error) {failing : Stream}
    {error : IoError} (hfails : failing.FailsAt 0 error) (rest : List Stream) :
    let round := source.readRound cpu buffer (ready ++ failing :: rest)
    source.Gives round.items (roundPages (ready.map content) 0) ∧
      round.failure = some error := by
  induction ready generalizing cpu buffer with
  | nil =>
    have hreadable : failing.isReadable = true := by
      obtain ⟨content, rfl, -⟩ := hfails
      rfl
    rw [List.nil_append, readRound, if_pos hreadable]
    simp only [hfails.read_eq]
    exact ⟨.note _, trivial⟩
  | cons stream ready ih =>
    obtain ⟨next, hnext, hextends⟩ := source.readRound_cons cpu hbuffer
      (hsteady stream List.mem_cons_self) (hfirst stream List.mem_cons_self)
      (ready ++ failing :: rest)
    obtain ⟨hitems, hfailure⟩ := ih (cpu + 1) hnext
      (fun other hmem => hsteady other (List.mem_cons_of_mem _ hmem))
      (fun other hmem => hfirst other (List.mem_cons_of_mem _ hmem))
    refine ⟨?_, ?_⟩
    · rw [List.map_cons, roundPages_cons]
      exact hextends.items _ hitems
    · exact hextends.failure.trans hfailure

/-- Every round with data takes some of it. -/
theorem totalPending_advance_le (streams : List Stream) :
    totalPending (streams.map advance) ≤ totalPending streams := by
  induction streams with
  | nil => exact Nat.le_refl _
  | cons stream rest ih =>
    have hpending : stream.advance.pending ≤ stream.pending := by
      rw [pending_eq, pending_eq, content_advance, List.length_drop]
      omega
    exact Nat.add_le_add hpending ih

theorem totalPending_advance_lt {streams : List Stream}
    (h : ∃ stream ∈ streams, stream.content ≠ []) :
    totalPending (streams.map advance) < totalPending streams := by
  induction streams with
  | nil => simp at h
  | cons stream rest ih =>
    have hrest := totalPending_advance_le rest
    have hpending : stream.advance.pending = stream.pending - pageSize := by
      rw [pending_eq, pending_eq, content_advance, List.length_drop]
    have hsize : 0 < pageSize := by decide
    change stream.advance.pending + totalPending (rest.map advance) <
      stream.pending + totalPending rest
    by_cases hnil : stream.content = []
    · have hlater : ∃ stream ∈ rest, stream.content ≠ [] := by
        obtain ⟨other, hmem, hne⟩ := h
        rcases List.mem_cons.mp hmem with rfl | hother
        · exact absurd hnil hne
        · exact ⟨other, hother, hne⟩
      have hih := ih hlater
      omega
    · have hpos : 0 < stream.pending := by
        rw [pending_eq]
        exact List.length_pos_iff.mpr hnil
      omega

section Rounds

variable {source} {fuel : Nat} {buffer : Bytes} {streams : List Stream}

theorem any_isReadable (hsteady : ∀ stream ∈ streams, stream.Steady) (hne : streams ≠ []) :
    streams.any Stream.isReadable = true := by
  obtain ⟨stream, rest, rfl⟩ := List.exists_cons_of_ne_nil hne
  rw [List.any_cons, (hsteady stream List.mem_cons_self).isReadable, Bool.true_or]

theorem readRounds_failed (hreadable : streams.any Stream.isReadable = true) {error : IoError}
    (h : (source.readRound 0 buffer streams).failure = some error) :
    source.readRounds (fuel + 1) buffer streams =
      ((source.readRound 0 buffer streams).items, .failed error) := by
  simp only [readRounds, if_pos hreadable, h]

theorem readRounds_further (hreadable : streams.any Stream.isReadable = true) {round : Round}
    (hround : source.readRound 0 buffer streams = round) (hfailure : round.failure = none)
    (hprogress : round.progress = true) {items : List Item} {stop : Stop}
    (h : source.readRounds fuel round.buffer round.streams = (items, stop)) :
    source.readRounds (fuel + 1) buffer streams = (round.items ++ items, stop) := by
  simp only [readRounds, if_pos hreadable, hround, hfailure, if_pos hprogress, h]

theorem readRounds_idle (hreadable : streams.any Stream.isReadable = true) {round : Round}
    (hround : source.readRound 0 buffer streams = round) (hfailure : round.failure = none)
    (hprogress : ¬ round.progress = true) :
    source.readRounds (fuel + 1) buffer streams =
      (round.items ++ [.note ⟨.error, "No cpu fd in POLLIN state, stop running"⟩],
        .noCpuReady) := by
  simp only [readRounds, if_pos hreadable, hround, hfailure, if_neg hprogress]

end Rounds

/-- Streams that never fail are read to their ends. -/
theorem readRounds_exhausts (fuel rounds : Nat) (streams : List Stream) {buffer : Bytes}
    (hbuffer : buffer.length = pageSize) (hne : streams ≠ [])
    (hsteady : ∀ stream ∈ streams, stream.Steady)
    (hnever : ∀ stream ∈ streams, ∀ round error, ¬ stream.FailsAt round error)
    (hfuel : totalPending streams < fuel)
    (hrounds : ∀ stream ∈ streams, stream.content.length ≤ rounds * pageSize) :
    ∃ items, source.readRounds fuel buffer streams = (items, .noCpuReady) ∧
      source.Gives items (pagesUpTo (streams.map content) rounds) := by
  induction fuel generalizing rounds streams buffer with
  | zero => exact absurd hfuel (Nat.not_lt_zero _)
  | succ fuel ih =>
    obtain ⟨hitems, hstreams, hlast, hfailure, hprogress⟩ := source.readRound_whole streams 0
      hbuffer hsteady fun stream hmem error => hnever stream hmem 0 error
    have hreadable := any_isReadable hsteady hne
    by_cases hdata : ∃ stream ∈ streams, stream.content ≠ []
    · -- Some stream has data, so that there is a round left to read it in.
      obtain ⟨rounds, rfl⟩ : ∃ before, rounds = before + 1 := by
        obtain ⟨stream, hmem, hcontent⟩ := hdata
        have hlength := hrounds stream hmem
        have hpos : 0 < stream.content.length := List.length_pos_iff.mpr hcontent
        cases rounds with
        | zero => omega
        | succ before => exact ⟨before, rfl⟩
      have hlt := totalPending_advance_lt hdata
      have hsteadies : ∀ stream ∈ streams.map advance, stream.Steady :=
        List.forall_mem_map.mpr fun stream hmem => (hsteady stream hmem).advance
      have hnevers : ∀ stream ∈ streams.map advance, ∀ round error, ¬ stream.FailsAt round error :=
        List.forall_mem_map.mpr fun stream hmem round error hfails =>
          hnever stream hmem (round + 1) error (failsAt_advance.mp hfails)
      have hlengths : ∀ stream ∈ streams.map advance,
          stream.content.length ≤ rounds * pageSize := by
        refine List.forall_mem_map.mpr fun stream hmem => ?_
        have hlength := hrounds stream hmem
        rw [Nat.succ_mul] at hlength
        rw [content_advance, List.length_drop]
        omega
      obtain ⟨items, hread, hgives⟩ := ih rounds (streams.map advance) hlast
        (by simpa using hne) hsteadies hnevers (by omega) hlengths
      rw [← hstreams] at hread
      refine ⟨_, readRounds_further hreadable rfl hfailure (hprogress.mpr hdata) hread, ?_⟩
      rw [pagesUpTo_succ, ← map_content_advance]
      exact hitems.append hgives
    · have hnil : ∀ bytes ∈ streams.map content, bytes = [] :=
        List.forall_mem_map.mpr fun stream hmem =>
          Decidable.byContradiction fun h => hdata ⟨stream, hmem, h⟩
      refine ⟨_, readRounds_idle hreadable rfl hfailure fun h => hdata (hprogress.mp h), ?_⟩
      rw [roundPages_eq_nil hnil] at hitems
      rw [pagesUpTo_eq_nil hnil]
      exact hitems.append (.note _)

/-- The read of the stream with the given number in the given round is the first to fail. -/
structure FirstFailure (streams : List Stream) (round cpu : Nat) (error : IoError) : Prop where
  fails : ∃ stream, streams[cpu]? = some stream ∧ stream.FailsAt round error
  first : ∀ (other earlier : Nat) (stream : Stream) (err : IoError), streams[other]? = some stream →
    stream.FailsAt earlier err → round < earlier ∨ round = earlier ∧ cpu ≤ other

theorem FirstFailure.ne_nil {streams : List Stream} {round cpu : Nat} {error : IoError}
    (h : FirstFailure streams round cpu error) : streams ≠ [] := by
  obtain ⟨stream, hstream, -⟩ := h.fails
  exact List.ne_nil_of_mem (List.mem_of_getElem? hstream)

theorem FirstFailure.not_failsAt {streams : List Stream} {round cpu : Nat} {error : IoError}
    (h : FirstFailure streams (round + 1) cpu error) (stream : Stream) (hmem : stream ∈ streams)
    (err : IoError) : ¬ stream.FailsAt 0 err := by
  intro hfails
  obtain ⟨other, hother⟩ := List.getElem?_of_mem hmem
  have hfirst := h.first other 0 stream err hother hfails
  omega

theorem FirstFailure.advance {streams : List Stream} {round cpu : Nat} {error : IoError}
    (h : FirstFailure streams (round + 1) cpu error) :
    FirstFailure (streams.map Stream.advance) round cpu error := by
  obtain ⟨stream, hstream, hfails⟩ := h.fails
  refine ⟨⟨stream.advance, ?_, failsAt_advance.mpr hfails⟩, ?_⟩
  · rw [List.getElem?_map, hstream, Option.map_some]
  · intro other earlier later err hlater hearlier
    rw [List.getElem?_map, Option.map_eq_some_iff] at hlater
    obtain ⟨before, hbefore, rfl⟩ := hlater
    have hfirst := h.first other (earlier + 1) before err hbefore (failsAt_advance.mp hearlier)
    omega

/-- Up to the first read that fails everything is read. -/
theorem readRounds_fails (fuel round : Nat) (streams : List Stream) {cpu : Nat} {error : IoError}
    {buffer : Bytes} (hbuffer : buffer.length = pageSize)
    (hsteady : ∀ stream ∈ streams, stream.Steady) (hfuel : totalPending streams < fuel)
    (hfirst : FirstFailure streams round cpu error) :
    ∃ items, source.readRounds fuel buffer streams = (items, .failed error) ∧
      source.Gives items (pagesUpTo (streams.map content) round ++
        roundPages ((streams.take cpu).map content) round) := by
  induction round generalizing fuel streams buffer with
  | zero =>
    obtain ⟨fuel, rfl⟩ : ∃ before, fuel = before + 1 := ⟨fuel - 1, by omega⟩
    obtain ⟨failing, hfailing, hfails⟩ := hfirst.fails
    have hready : ∀ stream ∈ streams.take cpu, ∀ err, ¬ stream.FailsAt 0 err := by
      intro stream hmem err hstream
      obtain ⟨other, hother⟩ := List.getElem?_of_mem hmem
      rw [List.getElem?_take] at hother
      split at hother
      · next hlt =>
        have hearlier := hfirst.first other 0 stream err hother hstream
        omega
      · cases hother
    have hsplit : streams = streams.take cpu ++ failing :: streams.drop (cpu + 1) := by
      obtain ⟨hlt, rfl⟩ := List.getElem?_eq_some_iff.mp hfailing
      rw [← List.drop_eq_getElem_cons hlt, List.take_append_drop]
    obtain ⟨hitems, hfailure⟩ := source.readRound_failing (streams.take cpu) 0 hbuffer
      (fun stream hmem => hsteady stream (List.mem_of_mem_take hmem)) hready hfails
      (streams.drop (cpu + 1))
    rw [← hsplit] at hitems hfailure
    exact ⟨_, readRounds_failed (any_isReadable hsteady hfirst.ne_nil) hfailure, hitems⟩
  | succ round ih =>
    obtain ⟨fuel, rfl⟩ : ∃ before, fuel = before + 1 := ⟨fuel - 1, by omega⟩
    obtain ⟨failing, hfailing, hfails⟩ := hfirst.fails
    obtain ⟨hitems, hstreams, hlast, hfailure, hprogress⟩ :=
      source.readRound_whole streams 0 hbuffer hsteady hfirst.not_failsAt
    -- The stream that fails later has data now.
    have hmem : failing ∈ streams := List.mem_of_getElem? hfailing
    have hdata : ∃ stream ∈ streams, stream.content ≠ [] :=
      ⟨failing, hmem, hfails.content_ne_nil (hfirst.not_failsAt failing hmem error)⟩
    have hlt := totalPending_advance_lt hdata
    have hsteadies : ∀ stream ∈ streams.map advance, stream.Steady :=
      List.forall_mem_map.mpr fun stream hmem => (hsteady stream hmem).advance
    obtain ⟨items, hread, hgives⟩ :=
      ih fuel (streams.map advance) hlast hsteadies (by omega) hfirst.advance
    rw [← hstreams] at hread
    refine ⟨_, readRounds_further (any_isReadable hsteady hfirst.ne_nil) rfl hfailure
      (hprogress.mpr hdata) hread, ?_⟩
    rw [← List.map_take, map_content_advance, map_content_advance, roundPages_drop] at hgives
    rw [pagesUpTo_succ, List.append_assoc]
    exact hitems.append hgives

/-- Unless a watched signal is pending, listening is reading in rounds from a blank page. -/
theorem listen_unsignalled {signals : List Nat} (h : ∀ signal ∈ watchedSignals, signal ∉ signals)
    (streams : List Stream) :
    source.listen signals streams =
      source.readRounds (totalPending streams + 1) blankPage streams := by
  have hnone : watchedSignals.find? signals.contains = none :=
    List.find?_eq_none.mpr fun signal hmem hcontains =>
      h signal hmem (List.contains_iff_mem.mp hcontains)
  rw [listen, hnone]

/-- Files are read to their ends, a page of each that has data left in every round. -/
theorem listen_files {signals : List Nat} (hsignals : ∀ signal ∈ watchedSignals, signal ∉ signals)
    {contents : List Bytes} (hne : contents ≠ []) (rounds : Nat)
    (hrounds : ∀ bytes ∈ contents, bytes.length ≤ rounds * pageSize) :
    ∃ items, source.listen signals (contents.map .file) = (items, .noCpuReady) ∧
      source.Gives items (pagesUpTo contents rounds) := by
  have hsame : (contents.map Stream.file).map content = contents := by
    rw [List.map_map]
    exact List.map_id contents
  have hsteady : ∀ stream ∈ contents.map Stream.file, stream.Steady :=
    List.forall_mem_map.mpr fun bytes _ => .file bytes
  have hnever : ∀ stream ∈ contents.map Stream.file, ∀ round error,
      ¬ stream.FailsAt round error :=
    List.forall_mem_map.mpr fun bytes _ round error ⟨rest, heq, _⟩ => nomatch heq
  have hlengths : ∀ stream ∈ contents.map Stream.file,
      stream.content.length ≤ rounds * pageSize := List.forall_mem_map.mpr hrounds
  have hread := source.readRounds_exhausts _ rounds (contents.map Stream.file) length_blankPage
    (by simpa using hne) hsteady hnever (Nat.lt_add_one _) hlengths
  rwa [← source.listen_unsignalled hsignals, hsame] at hread

/-- A read that fails ends it, after the pages of the reads before it. -/
theorem listen_fails {signals : List Nat} (hsignals : ∀ signal ∈ watchedSignals, signal ∉ signals)
    {streams : List Stream} (hsteady : ∀ stream ∈ streams, stream.Steady) {round cpu : Nat}
    {error : IoError} (hfirst : FirstFailure streams round cpu error) :
    ∃ items, source.listen signals streams = (items, .failed error) ∧
      source.Gives items (pagesUpTo (streams.map content) round ++
        roundPages ((streams.take cpu).map content) round) := by
  have hread := source.readRounds_fails _ round streams length_blankPage hsteady
    (Nat.lt_add_one _) hfirst
  rwa [← source.listen_unsignalled hsignals] at hread

end Source

end MemoryRepair.Trace
