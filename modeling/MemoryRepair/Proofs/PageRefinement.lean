import MemoryRepair.Handler
import MemoryRepair.Machine.Sysfs
import MemoryRepair.Proofs.RepairRun
import MemoryRepair.Proofs.SectionCodec
import MemoryRepair.Proofs.StandardTrace
import MemoryRepair.Proofs.StreamPages
import MemoryRepair.Trace.Delivery

/-!
A page of the trace refines the handling of the sections that it carries. Two
computations are alike if they differ in nothing but what they log: they have the same
value and state, and do the same to the outside world in the same order. Handling a
page is alike to handling, one after the other, the sections of the repair requests
among its records, whatever else stands between them.
-/
namespace MemoryRepair

variable {σ δ α β : Type}

/-- An entry of the journal that is no mere note. -/
def Entry.isOutward : Entry → Bool
  | .log _ | .event _ => false
  | _ => true

namespace Act

def outward (journal : List Entry) : List Entry :=
  journal.filter Entry.isOutward

/-- From every state the computations have the same value and state, and do the same to
the outside world. An overflow comes at the same place. -/
def Alike (act other : Act σ α) : Prop :=
  ∀ state, (act.run state).value = (other.run state).value ∧
    (act.run state).state = (other.run state).state ∧
    outward (act.run state).journal = outward (other.run state).journal

/-- Nothing but notes. -/
def Silent (act : Act σ Unit) : Prop :=
  ∀ state, (act.run state).value = .ok () ∧ (act.run state).state = state ∧
    outward (act.run state).journal = []

theorem Alike.refl (act : Act σ α) : Alike act act :=
  fun _ => ⟨rfl, rfl, rfl⟩

theorem Alike.trans {first second third : Act σ α} (hfirst : Alike first second)
    (hsecond : Alike second third) : Alike first third := by
  intro state
  obtain ⟨hvalue, hstate, hjournal⟩ := hfirst state
  obtain ⟨hvalue', hstate', hjournal'⟩ := hsecond state
  exact ⟨hvalue.trans hvalue', hstate.trans hstate', hjournal.trans hjournal'⟩

theorem Alike.bind {act other : Act σ α} {next otherNext : α → Act σ β} (h : Alike act other)
    (hnext : ∀ value, Alike (next value) (otherNext value)) :
    Alike (act >>= next) (other >>= otherNext) := by
  intro state
  obtain ⟨hvalue, hstate, hjournal⟩ := h state
  cases hother : (other.run state).value with
  | error overflow =>
    rw [hother] at hvalue
    rw [run_bind_error hvalue, run_bind_error hother]
    exact ⟨rfl, hstate, hjournal⟩
  | ok value =>
    rw [hother] at hvalue
    obtain ⟨hlast, hlastState, hlastJournal⟩ := hnext value (other.run state).state
    rw [run_bind_ok hvalue, run_bind_ok hother, hstate]
    refine ⟨hlast, hlastState, ?_⟩
    rw [outward, outward, List.filter_append, List.filter_append]
    change outward _ ++ outward _ = outward _ ++ outward _
    rw [hjournal, hlastJournal]

/-- Notes in front of a computation make no difference. -/
theorem Silent.bind_alike {act : Act σ Unit} {next : Unit → Act σ α} (h : Silent act) :
    Alike (act >>= next) (next ()) := by
  intro state
  obtain ⟨hvalue, hstate, hjournal⟩ := h state
  rw [run_bind_ok hvalue, hstate]
  refine ⟨rfl, rfl, ?_⟩
  rw [outward, List.filter_append]
  rw [outward] at hjournal
  rw [hjournal, List.nil_append]
  rfl

theorem silent_log (line : LogLine) : Silent (write (.log line) : Act σ Unit) :=
  fun _ => ⟨rfl, rfl, rfl⟩

theorem silent_event (event : Trace.Event) : Silent (write (.event event) : Act σ Unit) :=
  fun _ => ⟨rfl, rfl, rfl⟩

end Act

namespace Handler

/-- Handle sections one after the other. -/
def handleSections (handler : Handler σ δ) (ledger : Ledger) : List Section → Act σ Ledger
  | [] => pure ledger
  | s :: rest => do
    let (_, ledger) ← handler.handleSection ledger s
    handler.handleSections ledger rest

end Handler

namespace Trace

/-- A record of the event whose section is of another type. -/
structure OtherSection (data : Bytes) : Prop where
  id : data.slice 0 2 = some (LittleEndian.ofWord16 Decoder.standard.id)
  decodes : ∃ time event, Decoder.standard.decode time data = .ok event ∧
    event.sectionType ≠ Guid.repairSection

theorem Describes.otherSection {data payload : Bytes} {sectionType : Guid}
    (h : Describes data sectionType payload) (hother : sectionType ≠ Guid.repairSection) :
    OtherSection data :=
  ⟨h.id, 0, _, h.decode_eq 0, hother⟩

/-- A record that is no event: too short for an identifier, of another event, or
rejected by the decoder. -/
inductive NoEvent (data : Bytes) : Prop
  | short (h : data.length < 2)
  | foreign {id : UInt16} (hid : data.slice 0 2 = some (LittleEndian.ofWord16 id))
      (hne : id ≠ Decoder.standard.id)
  | rejected {time : UInt64} {rejection : Decoder.Rejection}
      (h : Decoder.standard.decode time data = .error rejection)

/-- The items of a page carry the sections of its repair requests, in order. The last
index counts the events, those of other sections included. -/
inductive Carries : List RingItem → List Section → Nat → Prop
  | nil : Carries [] [] 0
  | request {item : RingItem} {items : List RingItem} {data : Bytes} {s : Section}
      {sections : List Section} {count : Nat} (hdata : item.data? = some data)
      (hdescribes : Describes data Guid.repairSection s.toBytes)
      (rest : Carries items sections count) :
      Carries (item :: items) (s :: sections) (count + 1)
  | other {item : RingItem} {items : List RingItem} {data : Bytes} {sections : List Section}
      {count : Nat} (hdata : item.data? = some data) (hother : OtherSection data)
      (rest : Carries items sections count) : Carries (item :: items) sections (count + 1)
  | noEvent {item : RingItem} {items : List RingItem} {data : Bytes} {sections : List Section}
      {count : Nat} (hdata : item.data? = some data) (hnone : NoEvent data)
      (rest : Carries items sections count) : Carries (item :: items) sections count
  | noRecord {item : RingItem} {items : List RingItem} {sections : List Section} {count : Nat}
      (hdata : item.data? = none) (rest : Carries items sections count) :
      Carries (item :: items) sections count

theorem recordId_eq {data : Bytes} {id : UInt16}
    (h : data.slice 0 2 = some (LittleEndian.ofWord16 id)) : recordId data = some id := by
  rw [recordId, h, Option.map_some, LittleEndian.toWord16_ofWord16]

/-- An accepted record yields its event after notes. -/
theorem readRecord_event {data : Bytes} {time : UInt64} {event : Event}
    (hid : data.slice 0 2 = some (LittleEndian.ofWord16 Decoder.standard.id))
    (hdecode : Decoder.standard.decode time data = .ok event) :
    ∃ lines : List LogLine, Source.standard.readRecord ⟨time, data⟩ =
      lines.map Item.note ++ [.event event] := by
  refine ⟨Decoder.decodeLog (.ok event), ?_⟩
  unfold Source.readRecord
  simp only [recordId_eq hid]
  rw [if_pos (show Decoder.standard.id = Source.standard.decoder.id from rfl),
    show Source.standard.decoder = Decoder.standard from rfl, hdecode]

/-- Any other record yields notes alone. -/
theorem readRecord_noEvent {data : Bytes} (h : NoEvent data) (time : UInt64) :
    ∃ lines : List LogLine, Source.standard.readRecord ⟨time, data⟩ = lines.map Item.note := by
  unfold Source.readRecord
  cases hid : recordId data with
  | none => exact ⟨[_], rfl⟩
  | some id =>
    by_cases hown : id = Source.standard.decoder.id
    · cases h with
      | short hshort =>
        obtain ⟨piece, hpiece, -⟩ := Option.map_eq_some_iff.mp hid
        have hreach := (Bytes.slice_eq_some_iff.mp hpiece).1
        omega
      | foreign hforeign hne =>
        rw [recordId_eq hforeign] at hid
        cases hid
        exact absurd hown hne
      | @rejected other rejection hrejected =>
        have hdecode := Decoder.standard.decode_at time other data
        rw [hrejected] at hdecode
        refine ⟨Decoder.decodeLog (.error rejection), ?_⟩
        simp only [if_pos hown]
        rw [show Source.standard.decoder = Decoder.standard from rfl, hdecode]
        rfl
    · exact ⟨[_], if_neg hown⟩

theorem events_event {data : Bytes} {time : UInt64} {event : Event}
    (hid : data.slice 0 2 = some (LittleEndian.ofWord16 Decoder.standard.id))
    (hdecode : Decoder.standard.decode time data = .ok event) :
    (Source.standard.readRecord ⟨time, data⟩).filterMap Item.event? = [event] := by
  obtain ⟨lines, hread⟩ := readRecord_event hid hdecode
  rw [hread, List.filterMap_append, filterMap_notes]
  rfl

theorem events_noEvent {data : Bytes} (h : NoEvent data) (time : UInt64) :
    (Source.standard.readRecord ⟨time, data⟩).filterMap Item.event? = [] := by
  obtain ⟨lines, hread⟩ := readRecord_noEvent h time
  rw [hread, filterMap_notes]

section Deliver

variable {handle : β → Event → Act σ β}

theorem deliver_notes (acc : β) (lines : List LogLine) (items : List Item) :
    Act.Alike (deliver handle acc (lines.map .note ++ items)) (deliver handle acc items) := by
  induction lines with
  | nil => exact .refl _
  | cons line rest ih => exact (Act.silent_log line).bind_alike.trans ih

/-- A record of the event hands its event over, and its notes make no difference. -/
theorem deliver_event {data : Bytes} {time : UInt64} {event : Event}
    (hid : data.slice 0 2 = some (LittleEndian.ofWord16 Decoder.standard.id))
    (hdecode : Decoder.standard.decode time data = .ok event) (acc : β) (items : List Item) :
    Act.Alike (deliver handle acc (Source.standard.readRecord ⟨time, data⟩ ++ items))
      (handle acc event >>= fun acc => deliver handle acc items) := by
  obtain ⟨lines, hread⟩ := readRecord_event hid hdecode
  rw [hread, List.append_assoc]
  exact (deliver_notes acc lines _).trans (Act.silent_event event).bind_alike

theorem deliver_noEvent {data : Bytes} (h : NoEvent data) (time : UInt64) (acc : β)
    (items : List Item) :
    Act.Alike (deliver handle acc (Source.standard.readRecord ⟨time, data⟩ ++ items))
      (deliver handle acc items) := by
  obtain ⟨lines, hread⟩ := readRecord_noEvent h time
  rw [hread]
  exact deliver_notes acc lines items

end Deliver

variable (handler : Handler σ δ)

/-- The event of a repair request is handled by handling its section. -/
theorem handleEvent_request (ledger : Ledger) (time : UInt64) (length : UInt32) (s : Section)
    (hsize : s.registers.length * 4 < UInt32.size) :
    handler.handleEvent ledger ⟨time, Guid.repairSection, length, s.toBytes⟩ =
      (do
        let (_, ledger) ← handler.handleSection ledger s
        pure ledger) := by
  have hread : Section.ofBytes s.toBytes = .ok s := by
    have h := s.ofBytes_toBytes_append [] hsize
    rwa [List.append_nil] at h
  have hpayload : handler.handlePayload ledger s.toBytes = handler.handleSection ledger s := by
    unfold Handler.handlePayload
    rw [hread]
  unfold Handler.handleEvent
  rw [if_pos rfl, hpayload]

/-- The event of another section is only noted. -/
theorem handleEvent_other (ledger : Ledger) {event : Event}
    (hother : event.sectionType ≠ Guid.repairSection) :
    Act.Alike (handler.handleEvent ledger event) (pure ledger) := by
  unfold Handler.handleEvent
  rw [if_neg hother]
  exact (Act.silent_log _).bind_alike

/-- The registers of a described section have a size of sixteen bits. -/
theorem Describes.registers_lt {data : Bytes} {sectionType : Guid} {s : Section}
    (h : Describes data sectionType s.toBytes) : s.registers.length * 4 < UInt32.size := by
  obtain ⟨offset, -, hlength, -⟩ := h.buffer
  rw [s.length_toBytes] at hlength
  simp only [UInt16.size, UInt32.size] at hlength ⊢
  omega

/-- A record of another section decodes so at every time. -/
theorem OtherSection.exists_event {data : Bytes} (h : OtherSection data) (time : UInt64) :
    ∃ event, Decoder.standard.decode time data = .ok event ∧
      event.sectionType ≠ Guid.repairSection := by
  obtain ⟨other, event, hdecode, htype⟩ := h.decodes
  refine ⟨{ event with timestamp := time }, ?_, htype⟩
  rw [Decoder.standard.decode_at time other data, hdecode]
  rfl

/-- The records of items are delivered as their sections are handled. -/
theorem deliver_carries {items : List RingItem} {sections : List Section} {count : Nat}
    (h : Carries items sections count) (time : Nat) (ledger : Ledger) :
    Act.Alike
      (deliver handler.handleEvent ledger
        ((RingItem.records time items).flatMap Source.standard.readRecord))
      (handler.handleSections ledger sections) := by
  induction h generalizing time ledger with
  | nil => exact .refl _
  | @request item items data s sections count hdata hdescribes rest ih =>
    have hdecode := hdescribes.decode_eq (UInt64.ofNat (item.advance time))
    have hhandled := handleEvent_request handler ledger (UInt64.ofNat (item.advance time))
      (UInt32.ofNat s.toBytes.length) s hdescribes.registers_lt
    simp only [RingItem.records, hdata, List.flatMap_cons]
    refine (deliver_event hdescribes.id hdecode ledger _).trans ?_
    rw [hhandled, Act.bind_assoc]
    exact (Act.Alike.refl _).bind fun result => ih (item.advance time) result.2
  | @other item items data sections count hdata hother rest ih =>
    obtain ⟨event, hdecode, htype⟩ := hother.exists_event (UInt64.ofNat (item.advance time))
    have hignored := (handleEvent_other handler ledger htype).bind fun ledger =>
      .refl (deliver handler.handleEvent ledger
        ((RingItem.records (item.advance time) items).flatMap Source.standard.readRecord))
    simp only [RingItem.records, hdata, List.flatMap_cons]
    exact (deliver_event hother.id hdecode ledger _).trans
      (hignored.trans (ih (item.advance time) ledger))
  | @noEvent item items data sections count hdata hnone rest ih =>
    simp only [RingItem.records, hdata, List.flatMap_cons]
    exact (deliver_noEvent hnone _ ledger _).trans (ih (item.advance time) ledger)
  | @noRecord item items sections count hdata rest ih =>
    simp only [RingItem.records, hdata]
    exact ih (item.advance time) ledger

/-- The events among the records of items, those of other sections included. -/
theorem length_events_carries {items : List RingItem} {sections : List Section} {count : Nat}
    (h : Carries items sections count) (time : Nat) :
    (((RingItem.records time items).flatMap Source.standard.readRecord).filterMap
      Item.event?).length = count := by
  induction h generalizing time with
  | nil => rfl
  | @request item items data s sections count hdata hdescribes rest ih =>
    have hdecode := hdescribes.decode_eq (UInt64.ofNat (item.advance time))
    simp only [RingItem.records, hdata, List.flatMap_cons, List.filterMap_append,
      events_event hdescribes.id hdecode, List.length_append, ih]
    exact Nat.add_comm 1 count
  | @other item items data sections count hdata hother rest ih =>
    obtain ⟨event, hdecode, -⟩ := hother.exists_event (UInt64.ofNat (item.advance time))
    simp only [RingItem.records, hdata, List.flatMap_cons, List.filterMap_append,
      events_event hother.id hdecode, List.length_append, ih]
    exact Nat.add_comm 1 count
  | @noEvent item items data sections count hdata hnone rest ih =>
    simp only [RingItem.records, hdata, List.flatMap_cons, List.filterMap_append,
      events_noEvent hnone, List.nil_append, ih]
  | @noRecord item items sections count hdata rest ih =>
    simp only [RingItem.records, hdata, ih]

/-- Handling a page is alike to handling the sections of its repair requests one after
the other, and counts the events. -/
theorem handlePage_alike {source : Source} (hsource : source.IsStandard) (ledger : Ledger)
    {items : List RingItem} {sections : List Section} {count : Nat}
    (hcarries : Carries items sections count) (time commit : UInt64) (tail : Bytes)
    (hcommit : commit.toNat % Cursor.deltaLimit = (RingItem.encodeAll items).length)
    (htime : RingItem.InTime time.toNat items) :
    Act.Alike
      (source.handlePage handler.handleEvent ledger
        (page time commit (RingItem.encodeAll items) tail))
      (do
        let ledger ← handler.handleSections ledger sections
        pure (count, ledger)) := by
  have hstandard : source = .standard := Source.isStandard_iff.mp hsource
  subst hstandard
  have hpage := readPage_page items time commit tail hcommit htime
  have halike := deliver_carries handler hcarries time.toNat ledger
  have hcount := length_events_carries hcarries time.toNat
  unfold Source.handlePage
  simp only [hpage, hcount]
  exact halike.bind fun ledger => .refl _

/-- A record of the event with another section, between time, padding and records that
are no event, and a repair request. -/
def mixedItems : List RingItem :=
  [.extend ⟨5, by decide⟩ 1,
   .short ⟨3, by decide⟩ (recordOf ⟨List.replicate 16 0, rfl⟩ [1, 2, 3, 4]) rfl (by decide),
   .padding ⟨1, by decide⟩ [0, 0, 0, 0] (by decide) (by decide),
   .short ⟨0, by decide⟩ [7, 0, 0, 0] rfl (by decide),
   .stamp ⟨9, by decide⟩ 2,
   .long ⟨2, by decide⟩ 4 [] (by decide),
   .short ⟨1, by decide⟩ (recordOf Guid.repairSection Repair.onePage.toBytes) rfl (by decide)]

theorem carries_mixedItems : Carries mixedItems [Repair.onePage] 2 := by
  have hother := describes_recordOf ⟨List.replicate 16 0, rfl⟩
    (show ([1, 2, 3, 4] : Bytes).length < UInt16.size by decide)
  have hrequest := describes_recordOf Guid.repairSection
    (show Repair.onePage.toBytes.length < UInt16.size by decide)
  refine .noRecord rfl ?_
  refine .other rfl (hother.otherSection (by decide)) ?_
  refine .noRecord rfl ?_
  refine .noEvent rfl (.foreign (rfl : _ = some (LittleEndian.ofWord16 7)) (by decide)) ?_
  refine .noRecord rfl ?_
  refine .noEvent rfl (.short (by decide)) ?_
  exact .request rfl hrequest .nil

/-- A handler on a machine whose platform finds no device. -/
def machineHandler : Handler Machine ScriptedDevice where
  vars := Machine.variableStore "/efi"
  platform := ScriptedPlatform.toPlatform ⟨some 8, .ok [], []⟩
  notifier := .silent
  threshold := 64

theorem handlePage_alike_mixedItems :
    Act.Alike
      (Source.standard.handlePage machineHandler.handleEvent ⟨4096, 0⟩
        (page 1000 220 (RingItem.encodeAll mixedItems) []))
      (do
        let ledger ← machineHandler.handleSections ⟨4096, 0⟩ [Repair.onePage]
        pure (2, ledger)) :=
  handlePage_alike machineHandler (Source.isStandard_iff.mpr rfl) ⟨4096, 0⟩ carries_mixedItems
    1000 220 [] (by decide +kernel) ⟨by decide, by decide, by decide, by decide, by decide,
      by decide, by decide, trivial⟩

end Trace

end MemoryRepair
