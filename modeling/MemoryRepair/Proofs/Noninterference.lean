import MemoryRepair.Proofs.Handling
import MemoryRepair.Proofs.LedgerQuota
import MemoryRepair.Proofs.Lockstep

/-!
The ledger and the repair of a handler do not interfere. Over a sequence of requests the
repair takes the same course whatever ledger stands beside it, and the ledger whatever
repair does, as long as no sum of the part that may differ overflows. Two handlers are set
side by side in related worlds. They are alike in the part in question; the other part may
differ as it likes, but is kept from what the relation tells. A ledger whose count
overflows ends the sequence there, with nothing done for the request in question.
-/
namespace MemoryRepair

variable {σ τ δ ε α β : Type}

/-- The condition holds on after every request to the store. -/
structure VariableStore.Preserves (vars : VariableStore σ) (kept : σ → Prop) : Prop where
  openFile : ∀ slot create state, kept state → kept (vars.openFile slot create state).2
  write : ∀ slot bytes state, kept state → kept (vars.write slot bytes state).2
  isImmutable : ∀ slot state, kept state → kept (vars.isImmutable slot state).2
  setImmutable : ∀ slot immutable state, kept state →
    kept (vars.setImmutable slot immutable state).2

/-- The condition holds on after every request to the platform. -/
structure Platform.Preserves (platform : Platform σ δ) (kept : σ → Prop) : Prop where
  corrupted : ∀ state, kept state → kept (platform.corrupted state).state
  page : ∀ action address state, kept state → kept (platform.page action address state).state
  devices : ∀ state, kept state → kept (platform.devices state).state
  memoryType : ∀ device state, kept state → kept (platform.memoryType device state).state
  command : ∀ device what address state, kept state →
    kept (platform.command device what address state).state

def Notifier.Preserves (notifier : Notifier σ) (kept : σ → Prop) : Prop :=
  ∀ report state, kept state → kept (notifier.notify report state).state

theorem VariableStore.Preserves.undergoes {vars : VariableStore σ} {kept : σ → Prop}
    (h : vars.Preserves kept) {state after : σ} {operations : List Operation}
    (hundergone : vars.Undergoes state operations after) (hkept : kept state) : kept after := by
  induction hundergone with
  | nil => exact hkept
  | cons head tail ih =>
    apply ih
    cases head with
    | get slot => exact h.isImmutable slot _ hkept
    | change slot immutable => exact h.setImmutable slot immutable _ hkept
    | openFile slot create => exact h.openFile slot create _ hkept
    | write slot bytes => exact h.write slot bytes _ hkept

theorem Platform.Preserves.converses {platform : Platform σ δ} {kept : σ → Prop}
    (h : platform.Preserves kept) {state after : σ} {talk : List (Exchange δ)}
    (hanswered : platform.Converses state talk after) (hkept : kept state) : kept after := by
  induction hanswered with
  | nil => exact hkept
  | cons head tail ih =>
    apply ih
    cases head with
    | corrupted => exact h.corrupted _ hkept
    | page action address => exact h.page action address _ hkept
    | devices => exact h.devices _ hkept
    | memoryType device => exact h.memoryType device _ hkept
    | command device what address => exact h.command device what address _ hkept

namespace Act

/-- From the state the computation ends with a value, writes nothing that is watched, and
leaves the condition in force. -/
structure Unnoticed (watched : Entry → Bool) (kept : σ → Prop) (act : Act σ α) (state : σ) :
    Prop where
  ends : ∃ value, (act.run state).value = .ok value
  journal : (act.run state).journal.filter watched = []
  keeps : kept (act.run state).state

/-- Computations that go unnoticed keep in step, whatever they compute. -/
theorem InStep.of_unnoticed {watched : Entry → Bool} {rel : σ → τ → Prop} {act : Act σ α}
    {other : Act τ β} {state : σ} {twin : τ} (h : Unnoticed watched (rel · twin) act state)
    (hother : Unnoticed watched (rel (act.run state).state) other twin) :
    InStep watched rel (fun _ _ => True) act other state twin := by
  obtain ⟨value, hvalue⟩ := h.ends
  obtain ⟨result, hresult⟩ := hother.ends
  refine ⟨?_, hother.keeps, h.journal.trans hother.journal.symm⟩
  rw [hvalue, hresult]
  exact .value trivial

end Act

namespace Handler

section Parts

variable {handler : Handler σ δ} {kept : σ → Prop}

/-- A record that can be counted does not touch what its store leaves alone. -/
theorem recordFault_unnoticed (hvars : handler.vars.Preserves kept) {ledger : Ledger}
    {s : Section} (hcount : ledger.CanCount s) {state : σ} (hkept : kept state) :
    Act.Unnoticed Entry.isRepairing kept (handler.recordFault ledger s) state := by
  refine ⟨?_, ?_, ?_⟩
  · obtain ⟨recorded, last, hvalue⟩ := handler.recordFault_ends hcount state
    exact ⟨_, hvalue⟩
  · rw [List.filter_eq_nil_iff]
    intro entry hmem
    have hrecording := handler.writes_recordFault ledger s state entry hmem
    rw [Entry.isRepairing, entry.call?_eq_none hrecording, entry.report?_eq_none hrecording]
    exact Bool.false_ne_true
  · obtain ⟨operations, ⟨result, last⟩, hoperates, -⟩ :=
      Ledger.record_lifts handler.vars hcount state
    have hrecorded := hvars.undergoes hoperates.undergone hkept
    unfold recordFault
    rw [Act.run_bind_ok hoperates.value_eq]
    cases result with
    | ok slot => exact hrecorded
    | error failure => exact hrecorded

/-- A repair whose sums fit does not touch what its platform and its notifier leave alone. -/
theorem repairFault_unnoticed (hplatform : handler.platform.Preserves kept)
    (hnotifier : handler.notifier.Preserves kept) {s : Section} {mode : Mode}
    (hvalid : s.validate = .ok mode) {state : σ}
    (hfits : s.isFlat = true → ∀ kb, (handler.platform.corrupted state).value = .ok kb →
      4 * mode.addressCount + kb.toNat < UInt64.size) (hkept : kept state) :
    Act.Unnoticed Entry.isFlagCall kept (handler.repairFault s mode) state := by
  cases hflat : s.isFlat with
  | false =>
    have hrun := handler.run_repairFault_cached hflat mode state
    exact ⟨⟨none, congrArg Ran.value hrun⟩, by rw [hrun]; rfl, by rw [hrun]; exact hkept⟩
  | true =>
    obtain ⟨commands, hmode⟩ := Section.exists_commands hvalid hflat
    obtain ⟨talk, result, hcourse, hholds, -⟩ :=
      Repair.holds_attempt handler.platform handler.threshold s mode commands state
    obtain ⟨outcome, rfl⟩ := hcourse.exists_outcome hholds.answered (hfits hflat)
    have hrun := Repair.run_eq_of_attempt handler.platform handler.notifier handler.threshold s
      hmode state hholds.value_eq
    rw [repairFault, if_pos hflat]
    refine ⟨⟨some outcome, congrArg Ran.value hrun⟩, ?_, ?_⟩
    · have hquiet : (Act.run (Repair.attempt handler.platform handler.threshold s mode commands)
          state).journal.filter Entry.isFlagCall = [] := by
        rw [List.filter_eq_nil_iff]
        intro entry hmem
        have hentry := hholds.quiet entry hmem
        cases entry <;> simp_all [Entry.line?, Entry.call?, Entry.isFlagCall, Entry.flag?]
      rw [congrArg Ran.journal hrun, List.filter_cons_of_neg (by exact Bool.false_ne_true),
        List.filter_append, hquiet, List.filter_cons_of_neg (by exact Bool.false_ne_true),
        filter_lines (fun _ => rfl)]
      rfl
    · rw [congrArg Ran.state hrun]
      exact hnotifier _ _ (hplatform.converses hholds.answered hkept)

end Parts

end Handler

/-- What a disposition tells of the repair. -/
def Disposition.repairPart (disposition : Disposition) : Mode × Option Outcome :=
  (disposition.mode, disposition.outcome)

/-- What a disposition tells of the ledger. -/
def Disposition.ledgerPart (disposition : Disposition) : Mode × Bool :=
  (disposition.mode, disposition.recorded)

namespace Handler

/-- The repairs of two handlers are alike, and neither store touches what relates the worlds. -/
structure RepairsAlike (rel : σ → τ → Prop) (handler : Handler σ δ) (other : Handler τ δ) :
    Prop where
  platform : handler.platform.Alike rel other.platform
  notifier : handler.notifier.Alike rel other.notifier
  threshold : handler.threshold = other.threshold
  store : ∀ twin, handler.vars.Preserves (rel · twin)
  otherStore : ∀ state, other.vars.Preserves (rel state)

/-- The stores of two handlers are alike, and no platform and no notifier touches what
relates the worlds. -/
structure LedgersAlike (rel : σ → τ → Prop) (handler : Handler σ δ) (other : Handler τ ε) :
    Prop where
  store : handler.vars.Alike rel other.vars
  platform : ∀ twin, handler.platform.Preserves (rel · twin)
  notifier : ∀ twin, handler.notifier.Preserves (rel · twin)
  otherPlatform : ∀ state, other.platform.Preserves (rel state)
  otherNotifier : ∀ state, other.notifier.Preserves (rel state)

section Alike

variable {rel : σ → τ → Prop}

theorem RepairsAlike.lockstep_repairFault {handler : Handler σ δ} {other : Handler τ δ}
    (halike : RepairsAlike rel handler other) (s : Section) (mode : Mode) :
    Act.Lockstep Entry.isRepairing rel (handler.repairFault s mode)
      (other.repairFault s mode) := by
  unfold repairFault
  rw [halike.threshold]
  cases s.isFlat with
  | true => exact Repair.lockstep_run halike.platform halike.notifier other.threshold s mode
  | false => exact .bind (.write _) fun _ => .pure none

theorem LedgersAlike.lockstep_recordFault {handler : Handler σ δ} {other : Handler τ ε}
    (halike : LedgersAlike rel handler other) (ledger : Ledger) (s : Section) :
    Act.Lockstep Entry.isFlagCall rel (handler.recordFault ledger s)
      (other.recordFault ledger s) := by
  refine .bind (Ledger.lockstep_record halike.store ledger s) fun recorded => ?_
  obtain ⟨result, last⟩ := recorded
  cases result with
  | ok slot => exact .pure _
  | error failure => exact .bind (.write _) fun _ => .pure _

/-- One request: the repair is the same beside two ledgers that can count it. -/
theorem RepairsAlike.inStep_handleSection {handler : Handler σ δ} {other : Handler τ δ}
    (halike : RepairsAlike rel handler other) {ledger otherLedger : Ledger} {s : Section}
    (hcount : ledger.CanCountRequest s) (hotherCount : otherLedger.CanCountRequest s)
    {state : σ} {twin : τ} (hrel : rel state twin) :
    Act.InStep Entry.isRepairing rel
      (fun result otherResult =>
        result.1.map Disposition.repairPart = otherResult.1.map Disposition.repairPart)
      (handler.handleSection ledger s) (other.handleSection otherLedger s) state twin := by
  unfold handleSection
  refine (Act.Lockstep.writeLines s.validationLog state twin hrel).bind fun _ _ _ _ _ hrel => ?_
  cases hvalid : s.validate with
  | error refusal => exact .pure rfl hrel
  | ok mode =>
    -- The two records may end differently, but they end, and the worlds stay related.
    have hfirst := recordFault_unnoticed (halike.store _) (hcount mode hvalid) hrel
    have hsecond :=
      recordFault_unnoticed (halike.otherStore _) (hotherCount mode hvalid) hfirst.keeps
    refine (Act.InStep.of_unnoticed hfirst hsecond).bind fun _ _ _ _ _ hrel => ?_
    refine (halike.lockstep_repairFault s mode _ _ hrel).bind ?_
    rintro outcome _ - - rfl hrel
    exact .pure rfl hrel

/-- One request: the ledger is the same beside two repairs. -/
theorem LedgersAlike.inStep_handleSection {handler : Handler σ δ} {other : Handler τ ε}
    (halike : LedgersAlike rel handler other) (ledger : Ledger) (s : Section) {state : σ}
    {twin : τ} (hrel : rel state twin) (hfits : handler.RepairFits ledger s state)
    (hotherFits : other.RepairFits ledger s twin) :
    Act.InStep Entry.isFlagCall rel
      (fun result otherResult => result.1.map Disposition.ledgerPart =
        otherResult.1.map Disposition.ledgerPart ∧ result.2 = otherResult.2)
      (handler.handleSection ledger s) (other.handleSection ledger s) state twin := by
  unfold handleSection
  refine (Act.Lockstep.writeLines s.validationLog state twin hrel).bind fun _ _ _ _ _ hrel => ?_
  cases hvalid : s.validate with
  | error refusal => exact .pure ⟨rfl, rfl⟩ hrel
  | ok mode =>
    refine (halike.lockstep_recordFault ledger s _ _ hrel).bind ?_
    rintro recorded _ - - rfl hrel
    -- The two repairs may end differently, but where the sums fit both come to an end.
    have hfirst := repairFault_unnoticed (halike.platform _) (halike.notifier _) hvalid
      (fun hflat kb => hfits mode kb hvalid hflat) hrel
    have hsecond := repairFault_unnoticed (halike.otherPlatform _) (halike.otherNotifier _) hvalid
      (fun hflat kb => hotherFits mode kb hvalid hflat) hfirst.keeps
    refine (Act.InStep.of_unnoticed hfirst hsecond).bind fun _ _ _ _ _ hrel => ?_
    exact .pure ⟨rfl, rfl⟩ hrel

end Alike

/-- Handle one section after the other with the ledger that the one before leaves. -/
def handleEach (handler : Handler σ δ) (ledger : Ledger) :
    List Section → Act σ (List (Option Disposition) × Ledger)
  | [] => pure ([], ledger)
  | s :: rest => do
    let (done, next) ← handler.handleSection ledger s
    let (others, last) ← handler.handleEach next rest
    pure (done :: others, last)

/-- The condition holds before each of the sections, as long as those before it are handled
to their end. -/
def Throughout (handler : Handler σ δ) (condition : Ledger → Section → σ → Prop)
    (ledger : Ledger) : List Section → σ → Prop
  | [], _ => True
  | s :: rest, state =>
    condition ledger s state ∧
      ∀ done next, (Act.run (handler.handleSection ledger s) state).value = .ok (done, next) →
        handler.Throughout condition next rest
          (Act.run (handler.handleSection ledger s) state).state

/-- Along the run of the sections the count of the ledger does not overflow. -/
def CountsAll (handler : Handler σ δ) : Ledger → List Section → σ → Prop :=
  handler.Throughout fun ledger s _ => ledger.CanCountRequest s

/-- Along the run of the sections no sum of a repair overflows. -/
def RepairFitsAll (handler : Handler σ δ) : Ledger → List Section → σ → Prop :=
  handler.Throughout handler.RepairFits

section Throughout

variable {handler : Handler σ δ} {condition : Ledger → Section → σ → Prop}

theorem Throughout.of_forall (h : ∀ ledger s state, condition ledger s state) (ledger : Ledger)
    (sections : List Section) (state : σ) :
    handler.Throughout condition ledger sections state := by
  induction sections generalizing ledger state with
  | nil => trivial
  | cons s rest ih => exact ⟨h ledger s state, fun _ next _ => ih next _⟩

end Throughout

section Each

variable {rel : σ → τ → Prop}

/-- Handlers that keep in step over one section keep in step over all of them, as long as
the conditions of a step hold. -/
theorem inStep_handleEach {handler : Handler σ δ} {other : Handler τ ε} {watched : Entry → Bool}
    (part : Disposition → α) (same : Ledger → Ledger → Prop)
    (condition : Ledger → Section → σ → Prop) (otherCondition : Ledger → Section → τ → Prop)
    (hstep : ∀ ledger otherLedger s state twin, same ledger otherLedger →
      condition ledger s state → otherCondition otherLedger s twin → rel state twin →
      Act.InStep watched rel (fun result otherResult =>
          result.1.map part = otherResult.1.map part ∧ same result.2 otherResult.2)
        (handler.handleSection ledger s) (other.handleSection otherLedger s) state twin)
    (sections : List Section) {ledger otherLedger : Ledger} {state : σ} {twin : τ}
    (hsame : same ledger otherLedger)
    (hcondition : handler.Throughout condition ledger sections state)
    (hother : other.Throughout otherCondition otherLedger sections twin) (hrel : rel state twin) :
    Act.InStep watched rel (fun result otherResult =>
        result.1.map (Option.map part) = otherResult.1.map (Option.map part) ∧
          same result.2 otherResult.2)
      (handler.handleEach ledger sections) (other.handleEach otherLedger sections) state twin := by
  induction sections generalizing ledger otherLedger state twin with
  | nil => exact .pure ⟨rfl, hsame⟩ hrel
  | cons s rest ih =>
    obtain ⟨hhere, hnext⟩ := hcondition
    obtain ⟨hotherHere, hotherNext⟩ := hother
    refine (hstep _ _ s _ _ hsame hhere hotherHere hrel).bind ?_
    rintro ⟨done, next⟩ ⟨otherDone, otherLedger⟩ hvalue hotherValue ⟨hdone, hsame⟩ hrel
    refine (ih hsame (hnext _ _ hvalue) (hotherNext _ _ hotherValue) hrel).bind ?_
    rintro ⟨others, last⟩ ⟨otherOthers, otherLast⟩ - - ⟨hothers, hsame⟩ hrel
    exact .pure ⟨congrArg₂ List.cons hdone hothers, hsame⟩ hrel

theorem RepairsAlike.inStep_handleEach {handler : Handler σ δ} {other : Handler τ δ}
    (halike : RepairsAlike rel handler other) (sections : List Section)
    {ledger otherLedger : Ledger} {state : σ} {twin : τ}
    (hcounts : handler.CountsAll ledger sections state)
    (hotherCounts : other.CountsAll otherLedger sections twin) (hrel : rel state twin) :
    Act.InStep Entry.isRepairing rel
      (fun result otherResult => result.1.map (Option.map Disposition.repairPart) =
        otherResult.1.map (Option.map Disposition.repairPart))
      (handler.handleEach ledger sections) (other.handleEach otherLedger sections) state twin := by
  refine (Handler.inStep_handleEach Disposition.repairPart (fun _ _ => True) _ _ ?_ sections trivial
    hcounts hotherCounts hrel).mono fun _ _ => And.left
  intro ledger otherLedger s state twin _ hcount hotherCount hrel
  exact (halike.inStep_handleSection hcount hotherCount hrel).mono fun _ _ hpart =>
    ⟨hpart, trivial⟩

theorem LedgersAlike.inStep_handleEach {handler : Handler σ δ} {other : Handler τ ε}
    (halike : LedgersAlike rel handler other) (sections : List Section) {ledger : Ledger}
    {state : σ} {twin : τ} (hfits : handler.RepairFitsAll ledger sections state)
    (hotherFits : other.RepairFitsAll ledger sections twin) (hrel : rel state twin) :
    Act.InStep Entry.isFlagCall rel
      (fun result otherResult => result.1.map (Option.map Disposition.ledgerPart) =
        otherResult.1.map (Option.map Disposition.ledgerPart) ∧ result.2 = otherResult.2)
      (handler.handleEach ledger sections) (other.handleEach ledger sections) state twin := by
  refine Handler.inStep_handleEach Disposition.ledgerPart Eq _ _ ?_ sections rfl hfits
    hotherFits hrel
  rintro ledger _ s state twin rfl hfit hotherFit hrel
  exact halike.inStep_handleSection ledger s hrel hfit hotherFit

variable {handler : Handler σ δ} {sections : List Section} {ledger : Ledger} {state : σ}

end Each

end Handler

section Apart

variable {ω ω' π π' : Type}

/-- The store of a world that has another part beside it. -/
def VariableStore.beside (π : Type) (vars : VariableStore ω) : VariableStore (ω × π) where
  directory world := vars.directory world.1
  path := vars.path
  openFile slot create world :=
    ((vars.openFile slot create world.1).1, (vars.openFile slot create world.1).2, world.2)
  write slot bytes world :=
    ((vars.write slot bytes world.1).1, (vars.write slot bytes world.1).2, world.2)
  isImmutable slot world :=
    ((vars.isImmutable slot world.1).1, (vars.isImmutable slot world.1).2, world.2)
  setImmutable slot immutable world :=
    ((vars.setImmutable slot immutable world.1).1,
      (vars.setImmutable slot immutable world.1).2, world.2)

/-- The reply of the second part of a world. -/
def Reply.beside (other : ω) (reply : Reply π α) : Reply (ω × π) α :=
  ⟨reply.value, (other, reply.state), reply.log⟩

def Platform.beside (ω : Type) (platform : Platform π δ) : Platform (ω × π) δ where
  corrupted world := (platform.corrupted world.2).beside world.1
  page action address world := (platform.page action address world.2).beside world.1
  devices world := (platform.devices world.2).beside world.1
  deviceName := platform.deviceName
  memoryType device world := (platform.memoryType device world.2).beside world.1
  command device what address world := (platform.command device what address world.2).beside world.1

def Notifier.beside (ω : Type) (notifier : Notifier π) : Notifier (ω × π) where
  notify report world := (notifier.notify report world.2).beside world.1

namespace Handler

/-- A handler whose variables are in one part of the world, and the rest in the other. -/
def apart (vars : VariableStore ω) (platform : Platform π δ) (notifier : Notifier π)
    (threshold : UInt64) : Handler (ω × π) δ where
  vars := vars.beside π
  platform := platform.beside ω
  notifier := notifier.beside ω
  threshold := threshold

end Handler

end Apart

end MemoryRepair
