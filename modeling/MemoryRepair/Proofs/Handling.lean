import MemoryRepair.Handler
import MemoryRepair.Proofs.AttributeBracket
import MemoryRepair.Proofs.LedgerSize
import MemoryRepair.Proofs.PageRefinement

/-!
What is done with one section. An accepted request is recorded first and then repaired,
unless it has a cache bit. A record whose sum fits 64 bits ends whatever its store answers
and writes no more than notes and uses of the attribute, so that all requests to the
platform and the one report are those of the repair. A record whose sum overflows leaves
the repair undone.
-/
namespace MemoryRepair

variable {σ δ α β : Type}

namespace Act

/-- From every state all entries of the journal are of the kind. -/
def Writes (kind : Entry → Prop) (act : Act σ α) : Prop :=
  ∀ state, ∀ entry ∈ (act.run state).journal, kind entry

namespace Writes

variable {kind : Entry → Prop}

theorem pure (value : α) : Writes kind (Pure.pure value : Act σ α) :=
  fun _ _ hmem => nomatch hmem

theorem write {entry : Entry} (h : kind entry) : Writes kind (Act.write entry : Act σ Unit) := by
  intro state other hmem
  rw [List.mem_singleton.mp hmem]
  exact h

theorem step (f : σ → α × σ) : Writes kind (Act.step f) :=
  fun _ _ hmem => nomatch hmem

theorem checked (result : Except Overflow α) : Writes kind (Act.checked result : Act σ α) :=
  fun _ _ hmem => nomatch hmem

theorem bind {act : Act σ α} {next : α → Act σ β} (hfirst : Writes kind act)
    (hnext : ∀ value, Writes kind (next value)) : Writes kind (act >>= next) := by
  intro state entry hmem
  cases hvalue : (act.run state).value with
  | error overflow =>
    rw [run_bind_error hvalue] at hmem
    exact hfirst state entry hmem
  | ok value =>
    rw [run_bind_ok hvalue] at hmem
    rcases List.mem_append.mp hmem with hmem | hmem
    · exact hfirst state entry hmem
    · exact hnext value _ entry hmem

theorem state_bind {next : σ → Act σ β} (hnext : ∀ state, Writes kind (next state)) :
    Writes kind (Act.state >>= next) :=
  bind (fun _ _ hmem => nomatch hmem) hnext

end Writes

end Act

/-- A note or a use of the immutable attribute. -/
def Entry.IsRecording (entry : Entry) : Prop :=
  entry.line?.isSome ∨ entry.flag?.isSome

theorem Entry.report?_eq_none (entry : Entry) (h : entry.IsRecording) : entry.report? = none := by
  cases entry <;> simp_all [IsRecording, line?, flag?, report?]

theorem Entry.call?_eq_none (entry : Entry) (h : entry.IsRecording) : entry.call? = none := by
  cases entry <;> simp_all [IsRecording, line?, flag?, call?]

namespace Ledger

variable (vars : VariableStore σ)

theorem writes_readFlag (slot : Slot) : Act.Writes Entry.IsRecording (readFlag vars slot) :=
  .bind (.write (Or.inr rfl)) fun _ => .step _

theorem writes_writeFlag (slot : Slot) (immutable : Bool) :
    Act.Writes Entry.IsRecording (writeFlag vars slot immutable) :=
  .bind (.write (Or.inr rfl)) fun _ => .step _

theorem writes_restoreFlag (slot : Slot) :
    Act.Writes Entry.IsRecording (restoreFlag vars slot) := by
  refine .bind (writes_writeFlag vars slot true) fun answer => ?_
  cases answer with
  | ok => exact .pure ()
  | error err => exact .write (Or.inl rfl)

theorem writes_whileWritable (slot : Slot) {act : Act σ (Except IoError α)}
    (hact : Act.Writes Entry.IsRecording act) :
    Act.Writes Entry.IsRecording (whileWritable vars slot act) := by
  refine .bind (writes_readFlag vars slot) fun flag => ?_
  rcases flag with err | immutable
  · exact .pure _
  cases immutable with
  | false => exact hact
  | true =>
    refine .bind (writes_writeFlag vars slot false) fun cleared => ?_
    have hrestore : ∀ result : Except IoError α, Act.Writes Entry.IsRecording
        (do restoreFlag vars slot; pure result) :=
      fun result => .bind (writes_restoreFlag vars slot) fun _ => .pure result
    cases cleared with
    | error err => exact hrestore _
    | ok => exact .bind hact hrestore

theorem writes_writeChunk (slot : Slot) (create : Bool) (bytes : Bytes) :
    Act.Writes Entry.IsRecording (writeChunk vars slot create bytes) := by
  refine .bind (.step _) fun opened => ?_
  cases opened with
  | error err => exact .pure _
  | ok =>
    refine .bind (.step _) fun written => ?_
    cases written with
    | error err => exact .pure _
    | ok taken => exact .pure _

theorem writes_append (slot : Slot) (raw : UInt64) :
    Act.Writes Entry.IsRecording (append vars slot raw) := by
  refine .state_bind fun state => ?_
  split
  · exact .bind (writes_writeChunk vars slot true _) fun _ => .pure _
  · split
    · exact .pure _
    · split
      · exact .pure _
      · exact .bind (writes_whileWritable vars slot (writes_writeChunk vars slot false _))
          fun _ => .pure _

theorem writes_record (ledger : Ledger) (s : Section) :
    Act.Writes Entry.IsRecording (record vars ledger s) := by
  cases records vars ledger s with
  | unrouted failure _ _ heq => rw [heq]; exact .pure _
  | overflown _ _ heq => rw [heq]; exact .checked _
  | full _ _ _ heq => rw [heq]; exact .pure _
  | @kept raw slot _ _ heq =>
    rw [heq]
    refine .bind (writes_append vars slot raw) fun answer => ?_
    cases answer with
    | error failure => exact .pure _
    | ok => exact .bind (.write (Or.inl rfl)) fun _ => .pure _

end Ledger

/-- The count can take a record of the section, if the section is accepted at all. -/
def Ledger.CanCountRequest (ledger : Ledger) (s : Section) : Prop :=
  ∀ mode, s.validate = .ok mode → ledger.CanCount s

namespace Section

/-- A request that is accepted has a bit of its mode and an array of its length. -/
theorem asksFor_of_validate {s : Section} {mode : Mode} (h : s.validate = .ok mode) :
    s.asksFor mode = true := by
  unfold validate at h
  split at h
  · cases h
  split at h
  · cases h
  split at h
  · cases h
  · next found hfind =>
    cases h
    exact List.find?_some hfind

theorem bit_of_validate {s : Section} {mode : Mode} (h : s.validate = .ok mode) :
    s.repairType &&& mode.requestBits ≠ 0 := by
  have hasks := asksFor_of_validate h
  simp only [asksFor, Bool.and_eq_true, bne_iff_ne] at hasks
  exact hasks.1

theorem isFlat_iff {s : Section} : s.isFlat = true ↔ s.repairType &&& Mode.cache.requestBits = 0 :=
  beq_iff_eq

/-- No request for flat memory is accepted in cache mode. -/
theorem ne_cache_of_isFlat {s : Section} {mode : Mode} (h : s.validate = .ok mode)
    (hflat : s.isFlat = true) : mode ≠ .cache := by
  rintro rfl
  exact bit_of_validate h (isFlat_iff.mp hflat)

theorem exists_commands {s : Section} {mode : Mode} (h : s.validate = .ok mode)
    (hflat : s.isFlat = true) : ∃ commands, RepairCommand.ofMode mode = some commands := by
  cases mode with
  | acls => exact ⟨_, rfl⟩
  | sppr => exact ⟨_, rfl⟩
  | cache => exact absurd rfl (ne_cache_of_isFlat h hflat)

end Section

namespace Repair

/-- Where the memory to take offline can be added to the corrupted memory, a run is
reported. -/
theorem exists_reported (platform : Platform σ δ) (notifier : Notifier σ) (threshold : UInt64)
    (s : Section) {mode : Mode} {commands : RepairCommand × RepairCommand}
    (hmode : RepairCommand.ofMode mode = some commands) (state : σ)
    (hfits : ∀ kb, (platform.corrupted state).value = .ok kb →
      4 * mode.addressCount + kb.toNat < UInt64.size) :
    ∃ talk outcome, Reported platform s state talk outcome
      (Act.run (run platform notifier threshold s mode) state) := by
  obtain ⟨talk, result, hcourse, hholds, -⟩ :=
    holds_attempt platform threshold s mode commands state
  obtain ⟨outcome, rfl⟩ := hcourse.exists_outcome hholds.answered hfits
  exact ⟨talk, outcome, reported_run platform notifier threshold s hmode hholds⟩

/-- Log lines and requests are no reports. -/
theorem filterMap_report?_eq_nil {journal : List Entry}
    (h : ∀ entry ∈ journal, entry.line?.isSome ∨ entry.call?.isSome) :
    journal.filterMap Entry.report? = [] :=
  List.filterMap_eq_nil_iff.mpr fun entry hmem => by
    rcases h entry hmem with hline | hcall
    · cases entry <;> simp_all [Entry.line?, Entry.report?]
    · cases entry <;> simp_all [Entry.call?, Entry.report?]

theorem Reported.reports {platform : Platform σ δ} {s : Section} {state : σ}
    {talk : List (Exchange δ)} {outcome : Outcome} {ran : Ran σ (Option Outcome)}
    (h : Reported platform s state talk outcome ran) :
    ran.journal.filterMap Entry.report? = [report s outcome] := by
  obtain ⟨requests, ending, hjournal, hrequests, hending⟩ := h.reported
  have hafter : ending.filterMap Entry.report? = [] :=
    filterMap_report?_eq_nil fun entry hmem => Or.inl (hending entry hmem)
  rw [hjournal, List.filterMap_append, filterMap_report?_eq_nil hrequests, List.filterMap_cons,
    hafter]
  rfl

end Repair

namespace Handler

variable (handler : Handler σ δ)

theorem writes_recordFault (ledger : Ledger) (s : Section) :
    Act.Writes Entry.IsRecording (handler.recordFault ledger s) := by
  refine .bind (Ledger.writes_record handler.vars ledger s) fun recorded => ?_
  obtain ⟨result, last⟩ := recorded
  cases result with
  | ok slot => exact .pure _
  | error failure => exact .bind (.write (Or.inl rfl)) fun _ => .pure _

theorem recordFault_ends {ledger : Ledger} {s : Section} (hcount : ledger.CanCount s)
    (state : σ) :
    ∃ recorded last,
      (Act.run (handler.recordFault ledger s) state).value = .ok (recorded, last) := by
  obtain ⟨operations, ⟨result, last⟩, hoperates, -⟩ :=
    Ledger.record_lifts handler.vars hcount state
  unfold recordFault
  rw [Act.run_bind_ok hoperates.value_eq]
  cases result with
  | ok slot => exact ⟨true, last, rfl⟩
  | error failure => exact ⟨false, last, rfl⟩

/-- A count that overflows ends the handling before the repair. -/
theorem run_handleSection_overflown {ledger : Ledger} {s : Section} {mode : Mode}
    (hvalid : s.validate = .ok mode) (hover : ¬ ledger.CanCount s) (state : σ) :
    Act.run (handler.handleSection ledger s) state =
      ⟨.error .addition, state, s.validationLog.map .log⟩ := by
  have hrecord := Ledger.run_record_overflown handler.vars hover state
  have hstored : Act.run (handler.recordFault ledger s) state = ⟨.error .addition, state, []⟩ := by
    unfold recordFault
    rw [Act.run_bind_error (congrArg Ran.value hrecord), hrecord]
  have hwritten : (Act.run (Act.writeLines s.validationLog) state).value = .ok () := rfl
  unfold handleSection
  rw [Act.run_bind_ok hwritten]
  simp only [hvalid, Act.run_writeLines]
  rw [Act.run_bind_error (congrArg Ran.value hstored), hstored, List.append_nil]

/-- An accepted request is recorded, and then repaired from the state after that. -/
theorem run_handleSection {ledger last : Ledger} {s : Section} {mode : Mode}
    (hvalid : s.validate = .ok mode) {state : σ} {recorded : Bool}
    (hrecorded : (Act.run (handler.recordFault ledger s) state).value = .ok (recorded, last)) :
    let stored := Act.run (handler.recordFault ledger s) state
    let repaired := Act.run (handler.repairFault s mode) stored.state
    Act.run (handler.handleSection ledger s) state =
      ⟨repaired.value.map fun outcome => (some ⟨mode, recorded, outcome⟩, last), repaired.state,
        s.validationLog.map .log ++ (stored.journal ++ repaired.journal)⟩ := by
  intro stored repaired
  have hwritten : (Act.run (Act.writeLines s.validationLog) state).value = .ok () := rfl
  unfold handleSection
  rw [Act.run_bind_ok hwritten]
  simp only [hvalid, Act.run_writeLines]
  rw [Act.run_bind_ok hrecorded]
  cases hrepaired : repaired.value with
  | error overflow =>
    rw [Act.run_bind_error hrepaired]
    rfl
  | ok outcome =>
    rw [Act.run_bind_ok hrepaired, Act.run_pure, List.append_nil]
    rfl

/-- The memory that a repair takes offline can be added to the corrupted memory that the
platform states once the fault is recorded. -/
def RepairFits (ledger : Ledger) (s : Section) (state : σ) : Prop :=
  ∀ mode kb, s.validate = .ok mode → s.isFlat = true →
    (handler.platform.corrupted
      (Act.run (handler.recordFault ledger s) state).state).value = .ok kb →
    4 * mode.addressCount + kb.toNat < UInt64.size

/-- No sum of the handling overflows, neither that of the ledger nor that of the repair. -/
structure Fits (ledger : Ledger) (s : Section) (state : σ) : Prop where
  counts : ledger.CanCountRequest s
  repairs : handler.RepairFits ledger s state

/-- A request takes 16 pages of 4 KiB offline at most. -/
theorem repairFits_of_corrupted_lt (hsmall : ∀ state kb,
    (handler.platform.corrupted state).value = .ok kb → 64 + kb.toNat < UInt64.size)
    (ledger : Ledger) (s : Section) (state : σ) : handler.RepairFits ledger s state := by
  intro mode kb _ _ hkb
  have haddresses : mode.addressCount ≤ 16 := by cases mode <;> decide
  have hfits := hsmall _ kb hkb
  omega

/-- A request with a cache bit is noted and nothing else. -/
theorem run_repairFault_cached {s : Section} (hcached : s.isFlat = false) (mode : Mode)
    (state : σ) :
    Act.run (handler.repairFault s mode) state =
      ⟨.ok none, state, [.log ⟨.info, "HBM is used as cache, the fault is recorded only"⟩]⟩ := by
  unfold repairFault
  rw [if_neg (by rw [hcached]; exact Bool.false_ne_true)]
  rfl

theorem repairFault_reported {ledger : Ledger} {s : Section} {mode : Mode}
    (hvalid : s.validate = .ok mode) (hflat : s.isFlat = true) {state : σ}
    (hfits : handler.Fits ledger s state) :
    let stored := Act.run (handler.recordFault ledger s) state
    ∃ talk outcome, Repair.Reported handler.platform s stored.state talk outcome
      (Act.run (handler.repairFault s mode) stored.state) := by
  obtain ⟨commands, hmode⟩ := Section.exists_commands hvalid hflat
  unfold repairFault
  rw [if_pos hflat]
  exact Repair.exists_reported handler.platform handler.notifier handler.threshold s hmode _
    fun kb => hfits.repairs mode kb hvalid hflat

/-- Whatever a record does not write is written by the repair. -/
theorem filterMap_handleSection {f : Entry → Option β}
    (hf : ∀ entry : Entry, entry.IsRecording → f entry = none) {ledger : Ledger} {s : Section}
    {mode : Mode} (hvalid : s.validate = .ok mode) (hcount : ledger.CanCount s) (state : σ) :
    (Act.run (handler.handleSection ledger s) state).journal.filterMap f =
      (Act.run (handler.repairFault s mode)
        (Act.run (handler.recordFault ledger s) state).state).journal.filterMap f := by
  obtain ⟨recorded, last, hrecorded⟩ := handler.recordFault_ends hcount state
  have hlog := filterMap_lines (fun line => hf (.log line) (Or.inl rfl)) s.validationLog
  have hstored :
      (Act.run (handler.recordFault ledger s) state).journal.filterMap f = [] :=
    List.filterMap_eq_nil_iff.mpr fun entry hmem =>
      hf entry (handler.writes_recordFault ledger s state entry hmem)
  rw [congrArg Ran.journal (handler.run_handleSection hvalid hrecorded), List.filterMap_append,
    List.filterMap_append, hlog, hstored, List.nil_append, List.nil_append]

/-- What the handling of an accepted request leaves. -/
structure Handled (s : Section) (mode : Mode) (ran : Ran σ (Option Disposition × Ledger))
    (recorded : Bool) (outcome : Option Outcome) (last : Ledger) : Prop where
  value_eq : ran.value = .ok (some ⟨mode, recorded, outcome⟩, last)
  repaired : outcome.isSome = s.isFlat
  reports : ran.journal.filterMap Entry.report? = (outcome.map (Repair.report s)).toList
  idle : outcome = none → ran.journal.filterMap Entry.call? = []

theorem handleSection_handled (ledger : Ledger) {s : Section} {mode : Mode}
    (hvalid : s.validate = .ok mode) {state : σ} (hfits : handler.Fits ledger s state) :
    ∃ recorded outcome last, Handled s mode (Act.run (handler.handleSection ledger s) state)
      recorded outcome last := by
  have hcount := hfits.counts mode hvalid
  obtain ⟨recorded, last, hrecorded⟩ := handler.recordFault_ends hcount state
  have hvalue := congrArg Ran.value (handler.run_handleSection hvalid hrecorded)
  have hreports := handler.filterMap_handleSection Entry.report?_eq_none hvalid hcount state
  have hcalls := handler.filterMap_handleSection Entry.call?_eq_none hvalid hcount state
  cases hflat : s.isFlat with
  | false =>
    rw [handler.run_repairFault_cached hflat] at hvalue hreports hcalls
    exact ⟨recorded, none, last, hvalue, hflat.symm, hreports, fun _ => hcalls⟩
  | true =>
    obtain ⟨talk, outcome, hreported⟩ := handler.repairFault_reported hvalid hflat hfits
    rw [hreported.value_eq] at hvalue
    rw [hreported.reports] at hreports
    exact ⟨recorded, some outcome, last, hvalue, hflat.symm, hreports, nofun⟩

/-- An accepted request is repaired, and the repair reported once, exactly if it is none of
cache mode and has no cache bit. Any other is recorded without a request or a report. Where
the count of the ledger overflows, the handling ends there. -/
theorem handleSection_attempts (ledger : Ledger) {s : Section} {mode : Mode}
    (hvalid : s.validate = .ok mode) (state : σ) :
    let ran := Act.run (handler.handleSection ledger s) state
    (s.isFlat = true → mode ≠ .cache) ∧
    (handler.Fits ledger s state →
      ∃ recorded outcome last, ran.value = .ok (some ⟨mode, recorded, outcome⟩, last) ∧
        (outcome.isSome = true ↔
          mode ≠ .cache ∧ s.repairType &&& Mode.cache.requestBits = 0) ∧
        ran.journal.filterMap Entry.report? = (outcome.map (Repair.report s)).toList ∧
        (outcome = none → ran.journal.filterMap Entry.call? = [])) ∧
    (¬ ledger.CanCount s → ran.value = .error .addition ∧ ran.state = state ∧
      ran.journal.filterMap Entry.report? = [] ∧ ran.journal.filterMap Entry.call? = []) := by
  intro ran
  have hflat : s.isFlat = true → mode ≠ .cache := Section.ne_cache_of_isFlat hvalid
  refine ⟨hflat, fun hfits => ?_, fun hover => ?_⟩
  · obtain ⟨recorded, outcome, last, h⟩ := handler.handleSection_handled ledger hvalid hfits
    refine ⟨recorded, outcome, last, h.value_eq, ?_, h.reports, h.idle⟩
    rw [h.repaired, ← Section.isFlat_iff]
    exact ⟨fun hyes => ⟨hflat hyes, hyes⟩, And.right⟩
  · have hrun : ran = _ := handler.run_handleSection_overflown hvalid hover state
    rw [hrun]
    exact ⟨rfl, rfl, filterMap_lines (fun _ => rfl) _, filterMap_lines (fun _ => rfl) _⟩

/-- A handler in a world that is nothing but the variables. Its platform states the given
corrupted memory and has one device, which repairs what it is asked for. -/
def plain (corrupted : UInt64) : Handler VariableDirectory ScriptedDevice where
  vars := Ledger.plainStore
  platform := ScriptedPlatform.toPlatform
    ⟨some corrupted, .ok [⟨"node0", .ok .hbm, .ok 1, .ok 1⟩], []⟩
  notifier := .silent
  threshold := 1024

theorem plain_fits {corrupted : UInt64} (hsmall : 64 + corrupted.toNat < UInt64.size)
    {ledger : Ledger} (hgrow : ledger.CanGrow) (s : Section) (directory : VariableDirectory) :
    (plain corrupted).Fits ledger s directory := by
  refine ⟨fun _ _ => hgrow.canCount s, ?_⟩
  refine repairFits_of_corrupted_lt _ (fun state kb hkb => ?_) ledger s directory
  cases hkb
  exact hsmall

theorem handleSection_attempts_onePage :
    let empty : VariableDirectory := .present fun _ => none
    let ran := Act.run ((plain 8).handleSection ⟨64, 0⟩ Repair.onePage) empty
    Repair.onePage.validate = .ok .acls ∧ (plain 8).Fits ⟨64, 0⟩ Repair.onePage empty ∧
    ∃ recorded outcome last, ran.value = .ok (some ⟨.acls, recorded, outcome⟩, last) ∧
      outcome.isSome = true ∧
      ran.journal.filterMap Entry.report? =
        (outcome.map (Repair.report Repair.onePage)).toList := by
  intro empty ran
  have hfits : (plain 8).Fits ⟨64, 0⟩ Repair.onePage empty :=
    plain_fits (by decide) (by decide) _ _
  obtain ⟨-, hends, -⟩ :=
    handleSection_attempts (plain 8) ⟨64, 0⟩ (show Repair.onePage.validate = .ok .acls from rfl)
      empty
  obtain ⟨recorded, outcome, last, hvalue, hattempted, hreports, -⟩ := hends hfits
  exact ⟨rfl, hfits, recorded, outcome, last, hvalue, hattempted.mpr ⟨by decide, rfl⟩, hreports⟩

/-- A request for one page with a cache bit beside its own is accepted, recorded and not
repaired, and nothing is reported. Without the cache bit it is not reported either if the
sum of the memory overflows, or the count of the ledger. -/
theorem handleSection_cacheBit :
    let cached : Section := { Repair.onePage with registers := [0x11, 0x1000, 0, 0, 0] }
    let empty : VariableDirectory := .present fun _ => none
    let ran := Act.run ((plain 8).handleSection ⟨64, 0⟩ cached) empty
    let overflown := Act.run ((plain 0xFFFFFFFFFFFFFFFF).handleSection ⟨64, 0⟩ Repair.onePage) empty
    let uncounted :=
      Act.run ((plain 8).handleSection ⟨64, 0xFFFFFFFFFFFFFFF8⟩ Repair.onePage) empty
    (cached.validate = .ok .acls ∧ cached.isFlat = false ∧
      ran.value = .ok (some ⟨.acls, true, none⟩, ⟨64, 8⟩) ∧
      ran.journal.filterMap Entry.report? = [] ∧ ran.journal.filterMap Entry.call? = []) ∧
    (Repair.onePage.validate = .ok .acls ∧ Repair.onePage.isFlat = true ∧
      overflown.value = .error .addition ∧ overflown.journal.filterMap Entry.report? = [] ∧
      uncounted.value = .error .addition ∧ uncounted.journal.filterMap Entry.report? = []) := by
  refine ⟨⟨?_, ?_, ?_, ?_, ?_⟩, ?_, ?_, ?_, ?_, ?_, ?_⟩ <;> rfl

end Handler

end MemoryRepair
