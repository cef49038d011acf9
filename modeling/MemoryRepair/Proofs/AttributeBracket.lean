import MemoryRepair.Proofs.MachineStore

/-!
The immutable attribute around a record. Only a file that answers to be immutable has its
attribute changed, and then it is cleared once and set once, with the opening and the write
between the two; the attribute is set again also if the file could not be cleared, opened
or written. The store is arbitrary: a request may fail after it did its work, a write may
fail or take a part of its bytes, and a file may change its nature while it is writable.
-/
namespace MemoryRepair

variable {σ : Type} {vars : VariableStore σ}

namespace Ledger

/-- A try to put bytes at the end of a file: it cannot be opened, the write fails or is
short, or the bytes are written. -/
inductive Attempt (slot : Slot) (create : Bool) (bytes : Bytes) :
    List Operation → Except IoError Unit → Prop
  | unopened (err : IoError) :
      Attempt slot create bytes [.openFile slot create (.error err)] (.error err)
  | failed (err : IoError) :
      Attempt slot create bytes
        [.openFile slot create (.ok ()), .write slot bytes (.error err)] (.error err)
  | short {n : Nat} (hn : n ≠ bytes.length) :
      Attempt slot create bytes [.openFile slot create (.ok ()), .write slot bytes (.ok n)]
        (.error .writeZero)
  | written :
      Attempt slot create bytes
        [.openFile slot create (.ok ()), .write slot bytes (.ok bytes.length)] (.ok ())

/-- The ways to try while the attribute is lifted. -/
inductive Lifted (slot : Slot) (bytes : Bytes) : List Operation → Except IoError Unit → Prop
  | unread (err : IoError) : Lifted slot bytes [.get slot (.error err)] (.error err)
  | writable {operations : List Operation} {answer : Except IoError Unit}
      (h : Attempt slot false bytes operations answer) :
      Lifted slot bytes (.get slot (.ok false) :: operations) answer
  | uncleared (err : IoError) (restored : Except IoError Unit) :
      Lifted slot bytes [.get slot (.ok true), .clear slot (.error err), .set slot restored]
        (.error err)
  | cleared {operations : List Operation} {answer : Except IoError Unit}
      (h : Attempt slot false bytes operations answer) (restored : Except IoError Unit) :
      Lifted slot bytes
        (.get slot (.ok true) :: .clear slot (.ok ()) :: (operations ++ [.set slot restored]))
        answer

/-- A write to an opened file ends a try. -/
theorem attempt_writeOnce (vars : VariableStore σ) (slot : Slot) (create : Bool) (bytes : Bytes)
    (state : σ) :
    ∃ written answer,
      Act.Operates vars (writeOnce vars slot bytes) state [.write slot bytes written] answer ∧
        Attempt slot create bytes
          [.openFile slot create (.ok ()), .write slot bytes written] answer := by
  obtain ⟨written, hwrite⟩ := operates_write vars slot bytes state
  refine ⟨written, ?_⟩
  cases written with
  | error err => exact ⟨_, hwrite.bind_idle (.pure _ _), .failed err⟩
  | ok n =>
    refine ⟨_, hwrite.bind_idle (.pure _ _), ?_⟩
    by_cases hall : n = bytes.length
    · rw [if_pos hall, hall]
      exact .written
    · rw [if_neg hall]
      exact .short hall

theorem attempt_writeChunk (vars : VariableStore σ) (slot : Slot) (create : Bool) (bytes : Bytes)
    (state : σ) :
    ∃ operations answer,
      Act.Operates vars (writeChunk vars slot create bytes) state operations answer ∧
        Attempt slot create bytes operations answer := by
  obtain ⟨opened, hopen⟩ := operates_openFile vars slot create state
  rcases opened with err | ⟨⟩
  · exact ⟨_, _, hopen.bind_idle (.pure _ _), .unopened err⟩
  · obtain ⟨written, answer, hwrite, hattempt⟩ := attempt_writeOnce vars slot create bytes
      (Act.run (Act.step (vars.openFile slot create)) state).state
    exact ⟨_, answer, hopen.bind hwrite, hattempt⟩

theorem lifted_whileWritable {slot : Slot} {bytes : Bytes} {act : Act σ (Except IoError Unit)}
    (hact : ∀ state, ∃ operations answer, Act.Operates vars act state operations answer ∧
      Attempt slot false bytes operations answer) (state : σ) :
    ∃ operations answer,
      Act.Operates vars (whileWritable vars slot act) state operations answer ∧
        Lifted slot bytes operations answer := by
  obtain ⟨flag, hread⟩ := operates_readFlag vars slot state
  rcases flag with err | immutable
  · exact ⟨_, _, hread.bind_idle (.pure _ _), .unread err⟩
  cases immutable with
  | false =>
    obtain ⟨operations, answer, hoperates, hattempt⟩ :=
      hact (Act.run (readFlag vars slot) state).state
    exact ⟨_, _, hread.bind hoperates, .writable hattempt⟩
  | true =>
    -- The attribute is set again in the same way after both ends of the try.
    have hrestored : ∀ (answer : Except IoError Unit) (last : σ), ∃ restored,
        Act.Operates vars (do restoreFlag vars slot; pure answer) last [.set slot restored]
          answer := by
      intro answer last
      obtain ⟨restored, hset⟩ := operates_restoreFlag vars slot last
      exact ⟨restored, hset.bind_idle (.pure _ _)⟩
    obtain ⟨cleared, hclear⟩ := operates_writeFlag vars slot false
      (Act.run (readFlag vars slot) state).state
    rcases cleared with err | ⟨⟩
    · obtain ⟨restored, hset⟩ := hrestored (.error err) _
      exact ⟨_, _, hread.bind (hclear.bind hset), .uncleared err restored⟩
    · obtain ⟨operations, answer, hoperates, hattempt⟩ := hact _
      obtain ⟨restored, hset⟩ := hrestored answer _
      exact ⟨_, _, hread.bind (hclear.bind (hoperates.bind hset)), .cleared hattempt restored⟩

/-- The record goes to a file that exists: there is room for it, and the file of its slot
states its attributes. -/
def ExtendsFile (ledger : Ledger) (s : Section) (directory : VariableDirectory) (slot : Slot) :
    Prop :=
  ∃ raw content attributes, Routed s raw slot ∧ ledger.HasRoom ∧
    directory.get slot = some (.file content) ∧ attributes? content = some attributes

/-- Operations that use no immutable attribute. -/
def Flagless (operations : List Operation) : Prop :=
  ∀ operation ∈ operations, operation.flag? = none

theorem Flagless.nil : Flagless [] :=
  fun _ hmem => nomatch hmem

theorem Attempt.flagless {slot : Slot} {create : Bool} {bytes : Bytes}
    {operations : List Operation} {answer : Except IoError Unit}
    (h : Attempt slot create bytes operations answer) : Flagless operations := by
  cases h <;> simp [Flagless, Operation.flag?]

theorem Flagless.no_calls {operations : List Operation} (h : Flagless operations) :
    operations.filterMap Operation.flag? = [] :=
  List.filterMap_eq_nil_iff.mpr h

theorem Flagless.no_change {operations : List Operation} (h : Flagless operations)
    (slot : Slot) (immutable : Bool) (answer : Except IoError Unit) :
    .change slot immutable answer ∉ operations := by
  intro hmem
  cases immutable <;> cases h _ hmem

theorem Flagless.no_get {operations : List Operation} (h : Flagless operations) (slot : Slot)
    (answer : Except IoError Bool) : .get slot answer ∉ operations := by
  intro hmem
  cases h _ hmem

theorem operates_reported {act : Act σ (Except IoError Unit)} {state : σ}
    {operations : List Operation} {answer : Except IoError Unit}
    (h : Act.Operates vars act state operations answer) :
    Act.Operates vars (reported act) state operations (answer.mapError .io) :=
  h.bind_idle (.pure _ _)

/-- An address is stored in a file that exists while the attribute is lifted, and in any
other case without a use of the attribute. -/
theorem append_lifts (vars : VariableStore σ) (slot : Slot) (raw : UInt64) (state : σ) :
    ∃ operations answer, Act.Operates vars (append vars slot raw) state operations answer ∧
      ((∃ content attributes bytes lifted,
          (vars.directory state).get slot = some (.file content) ∧
            attributes? content = some attributes ∧ Lifted slot bytes operations lifted) ∨
        (∀ content, (vars.directory state).get slot = some (.file content) →
          attributes? content = none) ∧ Flagless operations) := by
  cases appends vars slot raw state with
  | created hget hrun =>
    obtain ⟨operations, answer, hoperates, hattempt⟩ :=
      attempt_writeChunk vars slot true (chunk baseAttributes raw) state
    refine ⟨operations, _, .of_run_eq hrun (operates_reported hoperates),
      Or.inr ⟨fun content hfile => ?_, hattempt.flagless⟩⟩
    cases hget.symm.trans hfile
  | extended hget hattributes hrun =>
    obtain ⟨operations, answer, hoperates, hlifted⟩ :=
      lifted_whileWritable (attempt_writeChunk vars slot false _) state
    exact ⟨operations, _, .of_run_eq hrun (operates_reported hoperates),
      Or.inl ⟨_, _, _, answer, hget, hattributes, hlifted⟩⟩
  | refused failure hunread _ hrun =>
    exact ⟨[], _, .of_run_eq hrun (.pure _ _), Or.inr ⟨hunread, .nil⟩⟩

/-- An address that is kept uses the store as storing it does. -/
theorem operates_keep (ledger : Ledger) {slot : Slot} {raw : UInt64} {state : σ}
    {operations : List Operation} {answer : Except Failure Unit}
    (h : Act.Operates vars (append vars slot raw) state operations answer) :
    ∃ last, Act.Operates vars (keep vars ledger slot raw) state operations
      (answer.map fun _ => slot, last) := by
  cases answer with
  | error failure => exact ⟨ledger, h.bind_idle (.pure _ _)⟩
  | ok => exact ⟨ledger.grown, h.bind_idle ((Act.Operates.log _ _).bind_idle (.pure _ _))⟩

theorem record_lifts (vars : VariableStore σ) {ledger : Ledger} {s : Section}
    (hcount : ledger.CanCount s) (state : σ) :
    ∃ operations result, Act.Operates vars (record vars ledger s) state operations result ∧
      ((∃ slot bytes lifted, ExtendsFile ledger s (vars.directory state) slot ∧
          Lifted slot bytes operations lifted) ∨
        (∀ slot, ¬ ExtendsFile ledger s (vars.directory state) slot) ∧ Flagless operations) := by
  cases records vars ledger s with
  | unrouted failure hrefused _ heq =>
    rw [heq]
    refine ⟨[], _, .pure _ _, Or.inr ⟨?_, .nil⟩⟩
    rintro slot ⟨raw, -, -, hrouted, -⟩
    exact not_routed hrefused raw slot hrouted
  | overflown hrouted hover heq => exact absurd (hcount _ _ hrouted) hover
  | full hrouted hgrow hfull heq =>
    rw [heq]
    refine ⟨[], _, .pure _ _, Or.inr ⟨?_, .nil⟩⟩
    rintro slot ⟨-, -, -, -, hroom, -⟩
    exact hfull hroom
  | @kept raw slot hrouted hroom heq =>
    rw [heq]
    obtain ⟨operations, answer, hoperates, hways⟩ := append_lifts vars slot raw state
    obtain ⟨last, hkept⟩ := operates_keep ledger hoperates
    refine ⟨operations, _, hkept, ?_⟩
    rcases hways with ⟨content, attributes, bytes, lifted, hget, hattributes, hlifted⟩ |
      ⟨hnone, hflagless⟩
    · exact Or.inl ⟨slot, bytes, lifted,
        ⟨raw, content, attributes, hrouted, hroom, hget, hattributes⟩, hlifted⟩
    · refine Or.inr ⟨?_, hflagless⟩
      rintro other ⟨otherRaw, content, attributes, hother, -, hget, hattributes⟩
      obtain ⟨rfl, rfl⟩ := hrouted.unique hother
      cases hattributes.symm.trans (hnone content hget)

/-- The flag calls of a lifted attribute start with a question. -/
theorem Lifted.calls_ne_nil {slot : Slot} {bytes : Bytes} {operations : List Operation}
    {answer : Except IoError Unit} (h : Lifted slot bytes operations answer) :
    operations.filterMap Operation.flag? ≠ [] := by
  cases h <;> simp [Operation.flag?]

/-- What stands between clearing an attribute and setting it again: nothing if it could
not be cleared, and one try to write if it could. -/
inductive Between (slot : Slot) : Except IoError Unit → List Operation → Prop
  | uncleared (err : IoError) : Between slot (.error err) []
  | cleared {bytes : Bytes} {tries : List Operation} {answer : Except IoError Unit}
      (h : Attempt slot false bytes tries answer) : Between slot (.ok ()) tries

theorem Between.flagless {slot : Slot} {cleared : Except IoError Unit} {tries : List Operation}
    (h : Between slot cleared tries) : Flagless tries := by
  cases h with
  | uncleared err => exact .nil
  | cleared hattempt => exact hattempt.flagless

/-- After the question that finds a file immutable comes the request to clear the
attribute, and last the request to set it again. -/
def Bracket (slot : Slot) (operations : List Operation) : Prop :=
  ∃ cleared tries restored, Between slot cleared tries ∧
    operations = .get slot (.ok true) :: .clear slot cleared :: (tries ++ [.set slot restored])

/-- Either the attribute is bracketed, or nothing changes it. -/
theorem Lifted.bracket_or {slot : Slot} {bytes : Bytes} {operations : List Operation}
    {answer : Except IoError Unit} (h : Lifted slot bytes operations answer) :
    Bracket slot operations ∨
      (∀ k, .get k (.ok true) ∉ operations) ∧
        ∀ k immutable answer, .change k immutable answer ∉ operations := by
  cases h with
  | uncleared err restored => exact Or.inl ⟨_, _, restored, .uncleared err, rfl⟩
  | cleared hattempt restored => exact Or.inl ⟨_, _, restored, .cleared hattempt, rfl⟩
  | unread err =>
    refine Or.inr ⟨fun k hmem => ?_, fun k immutable answer hmem => ?_⟩
    · cases List.mem_singleton.mp hmem
    · cases immutable <;> cases List.mem_singleton.mp hmem
  | writable hattempt =>
    refine Or.inr ⟨fun k hmem => ?_, fun k immutable answer hmem => ?_⟩
    · rcases List.mem_cons.mp hmem with heq | hrest
      · cases heq
      · exact hattempt.flagless.no_get k _ hrest
    · rcases List.mem_cons.mp hmem with heq | hrest
      · cases immutable <;> cases heq
      · exact hattempt.flagless.no_change k immutable answer hrest

/-- The use of the immutable attributes by a record. -/
structure Bracketed (flag : σ → Slot → Bool) (extended : Slot → Prop) (before after : σ)
    (operations : List Operation) : Prop where
  /-- All attributes are as before, unless one could not be set again. -/
  restored : (∀ slot err, .set slot (.error err) ∉ operations) → flag after = flag before
  /-- Only the attribute of a file that answered to be immutable is changed. -/
  changed : ∀ slot immutable answer, .change slot immutable answer ∈ operations →
    .get slot (.ok true) ∈ operations
  bracket : ∀ slot, .get slot (.ok true) ∈ operations → Bracket slot operations
  /-- An attribute is used at all only to extend a file. -/
  called : operations.filterMap Operation.flag? ≠ [] ↔ ∃ slot, extended slot

theorem Bracket.eq_of_get {slot k : Slot} {operations : List Operation}
    (h : Bracket slot operations) {answer : Except IoError Bool}
    (hmem : .get k answer ∈ operations) : k = slot := by
  obtain ⟨cleared, tries, restored, hbetween, rfl⟩ := h
  have hnone := hbetween.flagless.no_get k answer
  simp_all

theorem Bracket.eq_of_change {slot k : Slot} {operations : List Operation}
    (h : Bracket slot operations) {immutable : Bool} {answer : Except IoError Unit}
    (hmem : .change k immutable answer ∈ operations) : k = slot := by
  obtain ⟨cleared, tries, restored, hbetween, rfl⟩ := h
  have hnone := hbetween.flagless.no_change k immutable answer
  cases immutable <;> simp_all [Operation.change]

/-- What is bracketed is as before if it could be set again. -/
theorem Bracket.restored {flag : σ → Slot → Bool} (hflag : vars.Flagged flag) {slot : Slot}
    {operations : List Operation} (h : Bracket slot operations) {state after : σ}
    (hundergone : vars.Undergoes state operations after)
    (hset : ∀ err, .set slot (.error err) ∉ operations) : flag after slot = flag state slot := by
  obtain ⟨cleared, tries, restored, -, rfl⟩ := h
  have hbefore := hflag.of_get hundergone
  rcases restored with err | ⟨⟩
  · exact absurd (by simp) (hset err)
  · rw [hbefore]
    rw [← List.cons_append, ← List.cons_append] at hundergone
    exact hflag.of_set hundergone

section Bracketed

variable {flag : σ → Slot → Bool} {extended : Slot → Prop} {state after : σ}
  {operations : List Operation}

theorem Bracket.bracketed (hflag : vars.Flagged flag) {slot : Slot}
    (hbracket : Bracket slot operations) (hundergone : vars.Undergoes state operations after)
    (hcalled : operations.filterMap Operation.flag? ≠ [] ↔ ∃ slot, extended slot) :
    Bracketed flag extended state after operations := by
  have hmem : .get slot (.ok true) ∈ operations := by
    obtain ⟨cleared, tries, restored, -, rfl⟩ := hbracket
    exact List.mem_cons_self
  refine ⟨fun hset => ?_, fun k immutable answer hchange => ?_, fun k hk => ?_, hcalled⟩
  · funext k
    by_cases hk : k = slot
    · subst hk
      exact hbracket.restored hflag hundergone (hset k)
    · exact hflag.keeps hundergone fun immutable answer hchange =>
        hk (hbracket.eq_of_change hchange)
  · rw [hbracket.eq_of_change hchange]
    exact hmem
  · rw [hbracket.eq_of_get hk]
    exact hbracket

theorem bracketed_of_unchanged (hflag : vars.Flagged flag)
    (hundergone : vars.Undergoes state operations after)
    (hget : ∀ k, .get k (.ok true) ∉ operations)
    (hchange : ∀ k immutable answer, .change k immutable answer ∉ operations)
    (hcalled : operations.filterMap Operation.flag? ≠ [] ↔ ∃ slot, extended slot) :
    Bracketed flag extended state after operations := by
  refine ⟨fun _ => ?_, fun k immutable answer h => ?_, fun k hk => ?_, hcalled⟩
  · funext k
    exact hflag.keeps hundergone (hchange k)
  · exact absurd h (hchange k immutable answer)
  · exact absurd hk (hget k)

end Bracketed

/-- Every record that returns brackets the immutable attribute, whatever comes of its
requests. It returns unless its sum overflows, and then nothing was done. -/
theorem record_brackets (vars : VariableStore σ) (flag : σ → Slot → Bool)
    (hflag : vars.Flagged flag) (ledger : Ledger) (s : Section) (state : σ) :
    (ledger.CanCount s →
      ∃ operations result, Act.Operates vars (record vars ledger s) state operations result ∧
        Bracketed flag (ExtendsFile ledger s (vars.directory state)) state
          (Act.run (record vars ledger s) state).state operations) ∧
    (¬ ledger.CanCount s →
      Act.run (record vars ledger s) state = ⟨.error .addition, state, []⟩) := by
  refine ⟨fun hcount => ?_, fun hover => run_record_overflown vars hover state⟩
  obtain ⟨operations, result, hoperates, hways⟩ := record_lifts vars hcount state
  refine ⟨operations, result, hoperates, ?_⟩
  rcases hways with ⟨slot, bytes, lifted, hextends, hlifted⟩ | ⟨hnone, hflagless⟩
  · have hcalled : operations.filterMap Operation.flag? ≠ [] ↔
        ∃ slot, ExtendsFile ledger s (vars.directory state) slot :=
      ⟨fun _ => ⟨slot, hextends⟩, fun _ => hlifted.calls_ne_nil⟩
    rcases hlifted.bracket_or with hbracket | ⟨hget, hchange⟩
    · exact hbracket.bracketed hflag hoperates.undergone hcalled
    · exact bracketed_of_unchanged hflag hoperates.undergone hget hchange hcalled
  · refine bracketed_of_unchanged hflag hoperates.undergone (fun k => hflagless.no_get k _)
      hflagless.no_change ?_
    rw [hflagless.no_calls]
    exact ⟨fun h => absurd rfl h, fun ⟨slot, hextends⟩ => absurd hextends (hnone slot)⟩

/-- A file that becomes a directory as soon as its attribute is cleared: the record fails,
and the attribute is set again. -/
theorem record_brackets_sabotage :
    let vars := Machine.variableStore "/efi"
    let machine : Machine :=
      { files := ⟨[(["efi"], .directory),
          (["efi", Slot.fileName 0], .file [7, 0, 0, 0])]⟩, script := { sabotage := true } }
    let fault : Section := .ofHeader [] [0, 0]
    let act := record vars ⟨64, 4⟩ fault
    vars.Flagged Machine.immutableAt ∧ CanCount ⟨64, 4⟩ fault ∧
      ∃ operations result, act.Operates vars machine operations result ∧
        Bracketed Machine.immutableAt
          (ExtendsFile ⟨64, 4⟩ fault (vars.directory machine)) machine
          (act.run machine).state operations := by
  intro vars machine fault act
  have hcount : CanCount ⟨64, 4⟩ fault := CanGrow.canCount (by decide) fault
  exact ⟨Machine.flagged_variableStore "/efi", hcount,
    (record_brackets (Machine.variableStore "/efi") Machine.immutableAt
      (Machine.flagged_variableStore "/efi") ⟨64, 4⟩ fault machine).1 hcount⟩

end Ledger

end MemoryRepair
