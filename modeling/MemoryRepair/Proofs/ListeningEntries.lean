import MemoryRepair.Proofs.LedgerReading
import MemoryRepair.Proofs.Listening

/-!
What listening notes. It uses the ledger, asks the platform, reports and hands over events;
neither the tracepoint nor a driver is touched by it, whatever comes of a file, a stream or a
request.
-/
namespace MemoryRepair

variable {σ δ α β : Type}

/-- An entry that is neither a use of the tracepoint nor one of a driver. -/
def Entry.IsWork : Entry → Prop
  | .tracepoint _ _ | .driver _ _ _ => False
  | _ => True

theorem Entry.IsRecording.isWork {entry : Entry} (h : entry.IsRecording) : entry.IsWork := by
  cases entry <;> simp_all [Entry.IsRecording, Entry.IsWork, Entry.line?, Entry.flag?]

namespace Act.Writes

variable {kind other : Entry → Prop}

theorem mono {act : Act σ α} (h : Writes kind act) (himp : ∀ entry, kind entry → other entry) :
    Writes other act :=
  fun state entry hmem => himp entry (h state entry hmem)

theorem writeLines (h : ∀ line, kind (.log line)) (lines : List LogLine) :
    Writes kind (Act.writeLines lines : Act σ Unit) := by
  intro state entry hmem
  obtain ⟨line, -, rfl⟩ := List.mem_map.mp hmem
  exact h line

theorem ask (h : ∀ line, kind (.log line)) (f : σ → Reply σ α) : Writes kind (Act.ask f) := by
  intro state entry hmem
  obtain ⟨line, -, rfl⟩ := List.mem_map.mp hmem
  exact h line

end Act.Writes

namespace Repair

theorem writes_attempt (platform : Platform σ δ) (threshold : UInt64) (s : Section) (mode : Mode)
    (commands : RepairCommand × RepairCommand) :
    Act.Writes Entry.IsWork (attempt platform threshold s mode commands) := by
  intro state entry hmem
  obtain ⟨talk, result, -, hholds, -⟩ := holds_attempt platform threshold s mode commands state
  have hentry := hholds.quiet entry hmem
  cases entry <;> simp_all [Entry.IsWork, Entry.line?, Entry.call?]

theorem writes_run (platform : Platform σ δ) (notifier : Notifier σ) (threshold : UInt64)
    (s : Section) (mode : Mode) :
    Act.Writes Entry.IsWork (run platform notifier threshold s mode) := by
  unfold run
  split
  · exact .pure none
  · exact .bind (.write trivial) fun _ => .bind (writes_attempt platform threshold s mode _)
      fun outcome => .bind (.write trivial) fun _ => .bind (.ask (fun _ => trivial) _)
      fun _ => .pure _

end Repair

namespace Handler

variable (handler : Handler σ δ)

theorem writes_handleSection (ledger : Ledger) (s : Section) :
    Act.Writes Entry.IsWork (handler.handleSection ledger s) := by
  refine .bind (.writeLines (fun _ => trivial) _) fun _ => ?_
  split
  · exact .pure _
  · next mode _ =>
    have hrecord := (handler.writes_recordFault ledger s).mono fun _ => Entry.IsRecording.isWork
    have hrepair : Act.Writes Entry.IsWork (handler.repairFault s mode) := by
      unfold repairFault
      split
      · exact Repair.writes_run _ _ _ _ _
      · exact .bind (.write trivial) fun _ => .pure _
    exact .bind hrecord fun _ => .bind hrepair fun _ => .pure _

theorem writes_handleEvent (ledger : Ledger) (event : Trace.Event) :
    Act.Writes Entry.IsWork (handler.handleEvent ledger event) := by
  unfold handleEvent
  split
  · refine .bind ?_ fun _ => .pure _
    unfold handlePayload
    split
    · exact .bind (.writeLines (fun _ => trivial) _) fun _ => .bind (.write trivial)
        fun _ => .pure _
    · exact handler.writes_handleSection ledger _
  · exact .bind (.write trivial) fun _ => .pure _

end Handler

namespace Trace

theorem writes_deliver {handle : β → Event → Act σ β}
    (h : ∀ acc event, Act.Writes Entry.IsWork (handle acc event)) (acc : β) (items : List Item) :
    Act.Writes Entry.IsWork (deliver handle acc items) := by
  induction items generalizing acc with
  | nil => exact .pure acc
  | cons item rest ih =>
    cases item with
    | note line => exact .bind (.write trivial) fun _ => ih acc
    | event event => exact .bind (.write trivial) fun _ => .bind (h acc event) ih
    | overflow overflow => exact .checked _

namespace Instance

variable (inst : Instance)

theorem writes_write (name value : String) :
    Act.Writes Entry.IsWork (inst.write name value) := by
  refine .state_bind fun machine => ?_
  split
  · exact .bind (.write trivial) fun _ => .pure _
  · refine .bind (.step _) fun taken => ?_
    split <;> exact .pure _

theorem writes_wakeEarly : Act.Writes Entry.IsWork inst.wakeEarly := by
  refine .bind (.bind (inst.writes_write _ _) fun _ => .pure _) fun result => ?_
  split
  · exact .pure _
  · exact .write trivial

theorem writes_openCpus (count cpu : Nat) :
    Act.Writes Entry.IsWork (inst.openCpus cpu count) := by
  induction count generalizing cpu with
  | zero => exact .pure _
  | succ count ih =>
    have hopen : Act.Writes Entry.IsWork (inst.openCpu cpu) := by
      refine .state_bind fun machine => ?_
      split
      · exact .bind (.write trivial) fun _ => .pure _
      · exact .pure _
    refine .bind hopen fun stream => ?_
    split
    · exact .bind (.write trivial) fun _ => .pure _
    · refine .bind (ih (cpu + 1)) fun streams => ?_
      split <;> exact .pure _

theorem writes_listen (source : Source) (cpus : Nat) (signals : List Nat)
    {handle : β → Event → Act Machine β}
    (h : ∀ acc event, Act.Writes Entry.IsWork (handle acc event)) (acc : β) :
    Act.Writes Entry.IsWork (inst.listen source cpus signals handle acc) := by
  refine .bind inst.writes_wakeEarly fun _ => .bind (inst.writes_openCpus cpus 0) fun opened => ?_
  split
  · exact .pure _
  · refine .bind (.write trivial) fun _ => .bind (writes_deliver h acc _) fun last => ?_
    split <;> exact .pure _

theorem writes_source : Act.Writes Entry.IsWork inst.source := by
  have hheader : Act.Writes Entry.IsWork inst.headerPage := by
    refine .state_bind fun machine => ?_
    split
    · exact .bind (.write trivial) fun _ => .pure _
    · split <;> exact .pure _
  have hformat : ∀ group event, Act.Writes Entry.IsWork (inst.eventFormat group event) := by
    intro group event
    refine .state_bind fun machine => ?_
    split
    · exact .bind (.write trivial) fun _ => .pure _
    · split <;> exact .pure _
  refine .bind hheader fun header => ?_
  split
  · exact .bind (.write trivial) fun _ => .pure _
  · refine .bind (hformat _ _) fun format => ?_
    split
    · exact .pure _
    · split
      · exact .pure _
      · exact .bind (.write trivial) fun _ => .pure _

end Instance

end Trace

namespace Monitor

/-- Listening leaves the tracepoint and the drivers alone. -/
theorem writes_listen (settings : Settings) (around : Surroundings) (inst : Trace.Instance) :
    Act.Writes Entry.IsWork (listen settings around inst) := by
  have hload : Act.Writes Entry.IsWork
      (Ledger.load (handler settings).vars settings.capacity) := by
    refine (Ledger.writes_load _ _).mono fun entry hentry => ?_
    cases entry <;> simp_all [Entry.IsWork, Entry.line?]
  refine .bind hload fun ledger => .bind inst.writes_source fun source => ?_
  split
  · exact .pure _
  · refine .bind (inst.writes_listen _ _ _ (handler settings).writes_handleEvent ledger)
      fun ended => ?_
    split
    split
    · exact .pure _
    · exact .bind (.write trivial) fun _ => .pure _

end Monitor

end MemoryRepair
