import MemoryRepair.Proofs.AddressCodec
import MemoryRepair.Proofs.IsolationThreshold
import MemoryRepair.Proofs.Numerals

/-!
The message of a report. A written number can be longer than the width of its field, and
everything behind it would then be out of its place. No code and no coordinate of an unpacked
address is so large: the message has 71 characters, every field is read off a place that is
the same in all messages, and what is read there says all that the message reports.
-/
namespace MemoryRepair

section Fields

open Text

/-- The fields, each with its place when the first of them begins at the given one. -/
def placed (start : Nat) : List (Nat × Nat) → List (Nat × Nat × Nat)
  | [] => []
  | (width, n) :: rest => (start, width, n) :: placed (start + width) rest

/-- The characters of fields written one after the other. -/
def written (fields : List (Nat × Nat)) : List Char :=
  fields.flatMap fun (width, n) => (hexPadded width n).toList

/-- The number can be written in the width. -/
def Fitting (field : Nat × Nat) : Prop := 0 < field.1 ∧ field.2 < 16 ^ field.1

theorem Fitting.length_eq {width n : Nat} (h : Fitting (width, n)) :
    (hexPadded width n).toList.length = width :=
  length_hexPadded h.1 h.2

theorem length_written {fields : List (Nat × Nat)} (h : ∀ field ∈ fields, Fitting field) :
    (written fields).length = (fields.map (·.1)).sum := by
  rw [written, List.length_flatMap]
  exact congrArg List.sum (List.map_congr_left fun field hmem => (h field hmem).length_eq)

/-- Where all numbers fit, each of them is found in its place. -/
theorem take_drop_written {fields : List (Nat × Nat)} (h : ∀ field ∈ fields, Fitting field)
    (front : List Char) {start width n : Nat}
    (hplace : (start, width, n) ∈ placed front.length fields) :
    ((front ++ written fields).drop start).take width = (hexPadded width n).toList := by
  induction fields generalizing front with
  | nil => cases hplace
  | cons field rest ih =>
    obtain ⟨w, m⟩ := field
    have hlength : (hexPadded w m).toList.length = w := (h _ List.mem_cons_self).length_eq
    have hwritten : written ((w, m) :: rest) = (hexPadded w m).toList ++ written rest := rfl
    rw [hwritten]
    rcases List.mem_cons.mp hplace with hfirst | hlater
    · cases hfirst
      rw [List.drop_left, List.take_left' hlength]
    · rw [← List.append_assoc]
      refine ih (fun other hmem => h other (List.mem_cons_of_mem _ hmem)) _ ?_
      rwa [List.length_append, hlength]

end Fields

theorem Outcome.code_injective {outcome other : Outcome} (h : outcome.code = other.code) :
    outcome = other := by
  cases outcome <;> cases other <;> first | rfl | cases h

namespace Report

/-- A place of a message: where it begins, how many characters it has, and the number of a
report that stands there. -/
structure Place where
  start : Nat
  width : Nat
  number : Report → Nat

/-- The places of a message, one behind the other. -/
def places : List Place :=
  [⟨5, 2, fun report => report.codes.1.toNat⟩, ⟨7, 2, fun report => report.outcome.code.toNat⟩,
   ⟨9, 2, fun report => report.codes.2.toNat⟩, ⟨11, 16, fun _ => 0⟩,
   ⟨27, 2, coordinate .processor⟩, ⟨29, 2, coordinate .die⟩, ⟨31, 2, coordinate .stack⟩,
   ⟨33, 2, fun _ => 0⟩, ⟨35, 2, coordinate .sid⟩, ⟨37, 2, fun _ => 0⟩,
   ⟨39, 2, coordinate .channel⟩, ⟨41, 2, coordinate .bankGroup⟩, ⟨43, 2, coordinate .bank⟩,
   ⟨45, 8, coordinate .row⟩, ⟨53, 8, coordinate .column⟩, ⟨61, 10, fun _ => 0⟩]
where
  coordinate (c : Coordinate) (report : Report) : Nat := (report.fault.get c).toNat

/-- The coordinates that a message tells. -/
def told : List Coordinate :=
  [.processor, .die, .stack, .sid, .channel, .bankGroup, .bank, .row, .column]

def size : Nat := 71

theorem placed_fields (report : Report) :
    placed 5 report.fields =
      places.map fun place => (place.start, place.width, place.number report) := rfl

theorem toList_message (report : Report) :
    report.message.toList = "REP00".toList ++ written report.fields := by
  rw [message, String.toList_append, String.toList_join, List.flatMap_map]
  rfl

/-- The fault of the report was unpacked from an address. -/
def Decoded (report : Report) : Prop :=
  ∃ raw, report.fault = .decode raw

/-- Four bits of a coordinate fit one digit. -/
theorem Decoded.coordinate_fitting {report : Report} (h : report.Decoded) (c : Coordinate)
    (digits : Nat) (hwidth : 0 < digits ∧ FaultAddress.width c ≤ 4 * digits) :
    Fitting (digits, (report.fault.get c).toNat) := by
  obtain ⟨raw, hfault⟩ := h
  refine ⟨hwidth.1, ?_⟩
  calc (report.fault.get c).toNat
      < 2 ^ FaultAddress.width c := by
        rw [hfault]
        exact FaultAddress.fits_iff.mp (FaultAddress.decode_fits raw) c
    _ ≤ 2 ^ (4 * digits) := Nat.pow_le_pow_right (by decide) hwidth.2
    _ = 16 ^ digits := Nat.pow_mul 2 4 digits

theorem Decoded.fitting {report : Report} (h : report.Decoded) :
    ∀ field ∈ report.fields, Fitting field := by
  have hcode : ∀ code : UInt8, Fitting (2, code.toNat) := fun code =>
    ⟨Nat.two_pos, code.toNat_lt⟩
  have hzero : ∀ width, Fitting (width + 1, 0) := fun width =>
    ⟨Nat.succ_pos width, Nat.pow_pos (by decide)⟩
  simp only [fields, List.forall_mem_cons]
  refine ⟨hcode _, hcode _, hcode _, hzero 15, ?_, ?_, ?_, hzero 1, ?_, hzero 1, ?_, ?_, ?_, ?_,
    ?_, hzero 9, List.forall_mem_nil _⟩
  · exact h.coordinate_fitting .processor 2 (by decide)
  · exact h.coordinate_fitting .die 2 (by decide)
  · exact h.coordinate_fitting .stack 2 (by decide)
  · exact h.coordinate_fitting .sid 2 (by decide)
  · exact h.coordinate_fitting .channel 2 (by decide)
  · exact h.coordinate_fitting .bankGroup 2 (by decide)
  · exact h.coordinate_fitting .bank 2 (by decide)
  · exact h.coordinate_fitting .row 8 (by decide)
  · exact h.coordinate_fitting .column 8 (by decide)

theorem Decoded.length_message {report : Report} (h : report.Decoded) :
    report.message.toList.length = size := by
  rw [toList_message, List.length_append, length_written h.fitting]
  simp only [fields, List.map_cons, List.map_nil, List.sum_cons, List.sum_nil]
  rfl

/-- A message is read at the places that all messages have. -/
theorem Decoded.denotes {report : Report} (h : report.Decoded) {place : Place}
    (hplace : place ∈ places) :
    Text.Denotes 16 ((report.message.toList.drop place.start).take place.width)
      (place.number report) := by
  have hplaced : (place.start, place.width, place.number report) ∈
      placed "REP00".toList.length report.fields := by
    rw [show "REP00".toList.length = 5 from rfl, placed_fields]
    exact List.mem_map_of_mem hplace
  rw [toList_message, take_drop_written h.fitting _ hplaced]
  exact Text.denotes_hexPadded _ _

theorem toNat_lt_of_mem_message {report : Report} {c : Char} (h : c ∈ report.message.toList) :
    c.toNat < 128 := by
  rw [toList_message] at h
  rcases List.mem_append.mp h with hmark | hfield
  · have hall : ("REP00".toList.all fun c => c.toNat < 128) = true := by decide
    exact of_decide_eq_true (List.all_eq_true.mp hall c hmark)
  · obtain ⟨⟨width, n⟩, -, hdigit⟩ := List.mem_flatMap.mp hfield
    obtain ⟨d, hd, rfl⟩ := Text.exists_digitChar_of_mem_hexPadded hdigit
    exact (by decide : ∀ d < 16, d.digitChar.toNat < 128) d hd

/-- The reports have the same codes, the same outcome and the same coordinates. -/
structure Agrees (report other : Report) : Prop where
  codes : report.codes = other.codes
  outcome : report.outcome = other.outcome
  coordinates : ∀ c ∈ told, report.fault.get c = other.fault.get c

theorem agrees_of_places {report other : Report}
    (h : ∀ place ∈ places, place.number report = place.number other) : report.Agrees other := by
  simp only [places, List.forall_mem_cons] at h
  obtain ⟨hrepair, houtcome, hisolation, -, hprocessor, hdie, hstack, -, hsid, -, hchannel,
    hbankGroup, hbank, hrow, hcolumn, -, -⟩ := h
  refine ⟨Prod.ext (UInt8.toNat_inj.mp hrepair) (UInt8.toNat_inj.mp hisolation),
    Outcome.code_injective (UInt8.toNat_inj.mp houtcome), ?_⟩
  have hcoordinates : ∀ c ∈ told, places.coordinate c report = places.coordinate c other := by
    simp only [told, List.forall_mem_cons]
    exact ⟨hprocessor, hdie, hstack, hsid, hchannel, hbankGroup, hbank, hrow, hcolumn,
      List.forall_mem_nil _⟩
  exact fun c hc => UInt32.toNat_inj.mp (hcoordinates c hc)

theorem Decoded.agrees {report other : Report} (h : report.Decoded) (hother : other.Decoded)
    (hsame : report.message = other.message) : report.Agrees other := by
  refine agrees_of_places fun place hplace => ?_
  have hread := hother.denotes hplace
  rw [← hsame] at hread
  exact (h.denotes hplace).unique (by decide) hread

theorem decoded_report (s : Section) (outcome : Outcome) :
    (Repair.report s outcome).Decoded := by
  have hzero : FaultAddress.zero = .decode 0 := by decide
  unfold Repair.report Section.fault
  cases s.rawFault with
  | none => exact ⟨0, hzero⟩
  | some raw => exact ⟨raw, rfl⟩

theorem decoded_of_mem_reports {σ δ : Type} {platform : Platform σ δ} {notifier : Notifier σ}
    {threshold : UInt64} {s : Section} {mode : Mode} {state : σ} {report : Report}
    (h : report ∈ (Act.run (Repair.run platform notifier threshold s mode) state).reports) :
    report.Decoded := by
  cases hmode : RepairCommand.ofMode mode with
  | none =>
    unfold Repair.run at h
    rw [hmode] at h
    cases h
  | some commands =>
    obtain ⟨talk, result, -, hholds, -⟩ :=
      Repair.holds_attempt platform threshold s mode commands state
    cases result with
    | error overflow =>
      rw [Repair.reports_run_of_overflow notifier hmode hholds] at h
      cases h
    | ok outcome =>
      have hreported := Repair.reported_run platform notifier threshold s hmode hholds
      rw [Ran.reports, hreported.reports, List.mem_singleton] at h
      rw [h]
      exact decoded_report s outcome

/-- What a repair reports is a decoded fault, and the message of a decoded fault has a fixed
width: its numbers are read at fixed places, so that equal messages tell the same. -/
theorem message_tells {σ δ : Type} (platform : Platform σ δ) (notifier : Notifier σ)
    (threshold : UInt64) (s : Section) (mode : Mode) (state : σ) :
    (∀ report ∈ (Act.run (Repair.run platform notifier threshold s mode) state).reports,
      ∃ raw, report.fault = .decode raw) ∧
    ∀ (repairType : UInt32) (outcome : Outcome) (raw : UInt64),
      let report : Report := ⟨repairType, outcome, .decode raw⟩
      let text := report.message.toList
      text.length = 71 ∧ (∀ c ∈ text, c.toNat < 128) ∧ "REP00".toList <+: text ∧
      (∀ place ∈ places, Text.Denotes 16 ((text.drop place.start).take place.width)
        (place.number report)) ∧
      ∀ (otherType : UInt32) (otherOutcome : Outcome) (otherRaw : UInt64),
        let other : Report := ⟨otherType, otherOutcome, .decode otherRaw⟩
        report.message = other.message → report.Agrees other := by
  refine ⟨fun report hmem => decoded_of_mem_reports hmem, fun repairType outcome raw => ?_⟩
  intro report text
  have hdecoded : report.Decoded := ⟨raw, rfl⟩
  have hmark : text = "REP00".toList ++ written report.fields := report.toList_message
  refine ⟨hdecoded.length_message, fun _ => toNat_lt_of_mem_message, ⟨_, hmark.symm⟩,
    fun place hplace => hdecoded.denotes hplace, fun otherType otherOutcome otherRaw => ?_⟩
  intro other hsame
  exact hdecoded.agrees ⟨otherRaw, rfl⟩ hsame

/-- A reported repair, and a request with a bit beside the one that decides the codes and an
address with another checksum: the message has neither of them. -/
theorem message_tells_sameFields :
    let ran := Act.run (Repair.run Repair.lastRepairs .silent 12 Repair.onePage .acls) ()
    let report : Report := ⟨1, .success, .decode 0x03FFABCD15A2BD⟩
    let other : Report := ⟨17, .success, .decode 0xA503FFABCD15A2BD⟩
    (∃ reported ∈ ran.reports, ∃ raw, reported.fault = .decode raw) ∧
    report.message = other.message ∧ report.Agrees other := by
  obtain ⟨hdecoded, htells⟩ := message_tells Repair.lastRepairs .silent 12 Repair.onePage .acls ()
  have hreported : Repair.report Repair.onePage .success ∈
      (Act.run (Repair.run Repair.lastRepairs .silent 12 Repair.onePage .acls) ()).reports :=
    List.mem_singleton.mpr rfl
  have hsame : (⟨1, .success, .decode 0x03FFABCD15A2BD⟩ : Report).message =
      (⟨17, .success, .decode 0xA503FFABCD15A2BD⟩ : Report).message := by decide +kernel
  obtain ⟨-, -, -, -, hagrees⟩ := htells 1 .success 0x03FFABCD15A2BD
  exact ⟨⟨_, hreported, hdecoded _ hreported⟩, hsame, hagrees 17 .success 0xA503FFABCD15A2BD hsame⟩

/-- A channel of nine bits would be written with three digits. -/
example :
    let report : Report := ⟨1, .success, { FaultAddress.zero with channel := 256 }⟩
    report.message.toList.length = 72 := by decide +kernel

end Report

end MemoryRepair
