import MemoryRepair.Ledger

/-!
What one record does to the variables. The store is any that keeps its directory to
itself: a write puts the bytes that it takes at the end of its slot's file, and a request
about the immutable attribute changes no content. Then a record stores one chunk at the
end of one slot and counts it, or it counts nothing. Without a chunk the directory is as
before, unless the file failed while it was written: it may then be new and empty, or end
with the first part of the chunk.
-/
namespace MemoryRepair

variable {σ : Type}

/-- From the state the computation ends without an overflow, with a value and a state
of which the condition holds. -/
def Act.Ends {α : Type} (act : Act σ α) (state : σ) (post : α → σ → Prop) : Prop :=
  ∃ value, (act.run state).value = .ok value ∧ post value (act.run state).state

namespace Act.Ends

variable {α β : Type} {state : σ}

theorem pure {value : α} {post : α → σ → Prop} (h : post value state) :
    Ends (Pure.pure value) state post :=
  ⟨value, rfl, h⟩

theorem write {entry : Entry} {post : Unit → σ → Prop} (h : post () state) :
    Ends (Act.write entry) state post :=
  ⟨(), rfl, h⟩

theorem step {f : σ → α × σ} {post : α → σ → Prop} (h : post (f state).1 (f state).2) :
    Ends (Act.step f) state post :=
  ⟨(f state).1, rfl, h⟩

theorem step_eq (f : σ → α × σ) :
    Ends (Act.step f) state fun value after => (value, after) = f state :=
  step rfl

theorem bind {act : Act σ α} {next : α → Act σ β} {mid : α → σ → Prop} {post : β → σ → Prop}
    (hfirst : Ends act state mid)
    (hsecond : ∀ value after, mid value after → Ends (next value) after post) :
    Ends (act >>= next) state post := by
  obtain ⟨value, hvalue, hmid⟩ := hfirst
  obtain ⟨result, hresult, hpost⟩ := hsecond value _ hmid
  refine ⟨result, ?_, ?_⟩
  · rw [Act.run_bind_ok hvalue]
    exact hresult
  · rw [Act.run_bind_ok hvalue]
    exact hpost

theorem write_bind {entry : Entry} {next : Unit → Act σ β} {post : β → σ → Prop}
    (h : Ends (next ()) state post) : Ends (Act.write entry >>= next) state post :=
  h

theorem state_bind {next : σ → Act σ β} {post : β → σ → Prop} (h : Ends (next state) state post) :
    Ends (Act.state >>= next) state post :=
  h

theorem of_run_eq {act other : Act σ α} {post : α → σ → Prop}
    (hrun : act.run state = other.run state) (h : Ends other state post) : Ends act state post := by
  unfold Ends
  rw [hrun]
  exact h

theorem mono {act : Act σ α} {mid post : α → σ → Prop} (h : Ends act state mid)
    (himp : ∀ value after, mid value after → post value after) : Ends act state post := by
  obtain ⟨value, hvalue, hmid⟩ := h
  exact ⟨value, hvalue, himp value _ hmid⟩

theorem of_value {act : Act σ α} {post : α → σ → Prop} (h : Ends act state post) {value : α}
    (hvalue : (act.run state).value = .ok value) : post value (act.run state).state := by
  obtain ⟨other, hother, hpost⟩ := h
  cases hvalue.symm.trans hother
  exact hpost

end Act.Ends

namespace VariableDirectory

/-- What opening a slot's file answers, and the directory after it. Only a file that is
made changes the directory. -/
inductive Opened (slot : Slot) :
    VariableDirectory → Except IoError Unit → VariableDirectory → Prop
  | unreachable (err : IoError) : Opened slot (.unreachable err) (.error err) (.unreachable err)
  | refused (slots : Slot → Option Variable) (err : IoError) :
      Opened slot (.present slots) (.error err) (.present slots)
  | made {slots : Slot → Option Variable} (hget : slots slot = none) :
      Opened slot (.present slots) (.ok ()) (put (.present slots) slot (some (.file [])))
  | found {slots : Slot → Option Variable} {content : Bytes}
      (hget : slots slot = some (.file content)) :
      Opened slot (.present slots) (.ok ()) (.present slots)

/-- What a write at the end of a slot's file answers, and the directory after it. As many
of the first bytes are in the file as the answer says. -/
inductive Written (slot : Slot) (bytes : Bytes) (before : VariableDirectory) :
    Except IoError Nat → VariableDirectory → Prop
  | refused (err : IoError) : Written slot bytes before (.error err) before
  | taken {content : Bytes} {n : Nat} (hget : before.get slot = some (.file content))
      (hn : n ≤ bytes.length) :
      Written slot bytes before (.ok n) (before.put slot (some (.file (content ++ bytes.take n))))

end VariableDirectory

namespace VariableStore

/-- In quiet states nothing changes the directory but files that are made and bytes that
are written. Which answers are given is open. -/
structure Faithful (vars : VariableStore σ) (quiet : σ → Prop) : Prop where
  open_directory : ∀ state slot create, quiet state →
    (∀ v, (vars.directory state).get slot = some v → ∃ content, v = .file content) →
    (vars.directory state).Opened slot (vars.openFile slot create state).1
      (vars.directory (vars.openFile slot create state).2)
  open_quiet : ∀ state slot create, quiet state → quiet (vars.openFile slot create state).2
  write_directory : ∀ state slot bytes content, quiet state →
    (vars.directory state).get slot = some (.file content) →
    (vars.directory state).Written slot bytes (vars.write slot bytes state).1
      (vars.directory (vars.write slot bytes state).2)
  write_quiet : ∀ state slot bytes, quiet state → quiet (vars.write slot bytes state).2
  isImmutable_directory : ∀ state slot, quiet state →
    vars.directory (vars.isImmutable slot state).2 = vars.directory state
  isImmutable_quiet : ∀ state slot, quiet state → quiet (vars.isImmutable slot state).2
  setImmutable_directory : ∀ state slot immutable, quiet state →
    vars.directory (vars.setImmutable slot immutable state).2 = vars.directory state
  setImmutable_quiet : ∀ state slot immutable, quiet state →
    quiet (vars.setImmutable slot immutable state).2

/-- A write to a file takes all its bytes. -/
def WritesWhole (vars : VariableStore σ) (quiet : σ → Prop) : Prop :=
  ∀ state slot bytes content, quiet state →
    (vars.directory state).get slot = some (.file content) →
    (vars.write slot bytes state).1 = .ok bytes.length

end VariableStore

/-- How a slot's file is opened, by what stands there, and the bytes that it starts with. -/
inductive Variable.Starts : Option Variable → (create : Bool) → Bytes → Prop
  | made : Starts none true []
  | found (content : Bytes) : Starts (some (.file content)) false content

/-- No file fails: each is opened or made, and takes what is written. -/
structure VariableStore.Serves (vars : VariableStore σ) (quiet : σ → Prop) : Prop where
  opens : ∀ state slot slots create front, quiet state → vars.directory state = .present slots →
    Variable.Starts (slots slot) create front → (vars.openFile slot create state).1 = .ok ()
  whole : vars.WritesWhole quiet

/-- The refusal of a record for want of room. -/
def Failure.IsFull : Failure → Prop
  | ledgerFull _ _ => True
  | _ => False

theorem Variable.eq_file_of_read {v : Variable} {content : Bytes} (h : v.read = .ok content) :
    v = .file content := by
  cases v <;> cases h
  rfl

/-- The paths of the slots lead somewhere. -/
def VariableDirectory.Reached (directory : VariableDirectory) : Prop :=
  ∃ slots, directory = present slots

theorem VariableDirectory.Reached.of_get {directory : VariableDirectory} {slot : Slot}
    {v : Variable} (h : directory.get slot = some v) : directory.Reached := by
  cases directory with
  | unreachable err => cases h
  | present slots => exact ⟨slots, rfl⟩

namespace Ledger

/-- A file has attributes once it has four bytes. -/
theorem exists_attributes_iff {content : Bytes} :
    (∃ attributes, attributes? content = some attributes) ↔ 4 ≤ content.length := by
  simp only [attributes?, LittleEndian.word32At, Option.map_eq_some_iff,
    Bytes.slice_eq_some_iff, Nat.zero_add]
  constructor
  · rintro ⟨attributes, piece, ⟨hlength, -⟩, -⟩
    exact hlength
  · exact fun hlength => ⟨_, _, ⟨hlength, rfl⟩, rfl⟩

theorem attributes_eq_none {content : Bytes} (h : content.length < 4) :
    attributes? content = none :=
  Option.eq_none_iff_forall_ne_some.mpr fun attributes hsome =>
    Nat.not_le.mpr h (exists_attributes_iff.mp ⟨attributes, hsome⟩)

/-- The bytes that a record adds to the file of its slot. -/
def chunkSize : Nat := 12

theorem length_chunk (attributes : UInt32) (raw : UInt64) :
    (chunk attributes raw).length = chunkSize := by
  simp [chunk, chunkSize, LittleEndian.ofWord32, LittleEndian.ofWord64]

theorem length_chunk_pos (attributes : UInt32) (raw : UInt64) :
    0 < (chunk attributes raw).length := by
  rw [length_chunk]
  exact Nat.succ_pos 11

/-- The bytes of a slot's file after a packed address was stored: a first chunk with the
base attributes, or one more chunk with those of the file. -/
inductive Stored (raw : UInt64) : Option Variable → Bytes → Prop
  | created : Stored raw none (chunk baseAttributes raw)
  | appended {content : Bytes} {attributes : UInt32} (h : attributes? content = some attributes) :
      Stored raw (some (.file content)) (content ++ chunk (attributes ||| appendAttribute) raw)

/-- The bytes of a slot's file after the chunk of an address was cut short. -/
inductive Cut (raw : UInt64) : Option Variable → Bytes → Prop
  | created {n : Nat} (hn : n < (chunk baseAttributes raw).length) :
      Cut raw none ((chunk baseAttributes raw).take n)
  | appended {content : Bytes} {attributes : UInt32} {n : Nat}
      (h : attributes? content = some attributes)
      (hn : n < (chunk (attributes ||| appendAttribute) raw).length) :
      Cut raw (some (.file content))
        (content ++ (chunk (attributes ||| appendAttribute) raw).take n)

/-- A record of eight bytes fits the capacity. -/
def HasRoom (ledger : Ledger) : Prop :=
  ledger.total.toNat + recordSize ≤ ledger.capacity.toNat

/-- One more record can be added to the count in 64 bits. -/
def CanGrow (ledger : Ledger) : Prop :=
  ledger.total.toNat + recordSize < UInt64.size

instance (ledger : Ledger) : Decidable ledger.HasRoom :=
  inferInstanceAs (Decidable (_ ≤ _))

instance (ledger : Ledger) : Decidable ledger.CanGrow :=
  inferInstanceAs (Decidable (_ < _))

/-- The ledger that counts one more record. -/
def grown (ledger : Ledger) : Ledger :=
  { ledger with total := ledger.total + .ofNat recordSize }

@[simp] theorem capacity_grown (ledger : Ledger) : ledger.grown.capacity = ledger.capacity := rfl

theorem HasRoom.canGrow {ledger : Ledger} (h : ledger.HasRoom) : ledger.CanGrow :=
  Nat.lt_of_le_of_lt h ledger.capacity.toNat_lt

theorem CanGrow.toNat_total_grown {ledger : Ledger} (h : ledger.CanGrow) :
    ledger.grown.total.toNat = ledger.total.toNat + recordSize := by
  rw [grown, UInt64.toNat_add]
  exact Nat.mod_eq_of_lt h

theorem CanGrow.add_eq_ok {ledger : Ledger} (h : ledger.CanGrow) :
    Word64.add ledger.total (.ofNat recordSize) = .ok ledger.grown.total :=
  Word64.add_eq_ok _ _ h

/-- The packed address of a section and the slot that keeps it. -/
def Routed (s : Section) (raw : UInt64) (slot : Slot) : Prop :=
  s.rawFault = some raw ∧ Slot.ofFault (FaultAddress.decode raw) = .ok slot

theorem Routed.unique {s : Section} {raw other : UInt64} {slot k : Slot} (h : Routed s raw slot)
    (hother : Routed s other k) : other = raw ∧ k = slot := by
  obtain rfl : raw = other := Option.some.inj (h.1.symm.trans hother.1)
  exact ⟨rfl, Except.ok.inj (hother.2.symm.trans h.2)⟩

/-- A section with no address, or with one that is refused a slot, is not routed. -/
theorem not_routed {s : Section} {failure : Failure}
    (h : ∀ raw, s.rawFault = some raw → Slot.ofFault (FaultAddress.decode raw) = .error failure)
    (raw : UInt64) (slot : Slot) : ¬ Routed s raw slot := by
  rintro ⟨hraw, hslot⟩
  cases (h raw hraw).symm.trans hslot

theorem not_isFull_of_ofFault {fault : FaultAddress} {failure : Failure}
    (h : Slot.ofFault fault = .error failure) : ¬ failure.IsFull := by
  unfold Slot.ofFault Slot.ofPair at h
  split at h
  · cases h
  · cases h
    exact id

/-- The count can take a record of the section, if the section is routed at all. -/
def CanCount (ledger : Ledger) (s : Section) : Prop :=
  ∀ raw slot, Routed s raw slot → ledger.CanGrow

theorem CanGrow.canCount {ledger : Ledger} (h : ledger.CanGrow) (s : Section) :
    ledger.CanCount s :=
  fun _ _ _ => h

section Ways

variable (vars : VariableStore σ)

/-- The answer of the system as an answer of the ledger. -/
def reported (act : Act σ (Except IoError Unit)) : Act σ (Except Failure Unit) := do
  pure ((← act).mapError .io)

/-- The attribute of the slot's file can be read and, where it is set, cleared. -/
def Writable (slot : Slot) (state : σ) : Prop :=
  (vars.isImmutable slot state).1 = .ok false ∨
    (vars.isImmutable slot state).1 = .ok true ∧
      (vars.setImmutable slot false (vars.isImmutable slot state).2).1 = .ok ()

/-- The answer that keeps the slot's file from being written. -/
inductive Locked (slot : Slot) (state : σ) : IoError → Prop
  | unread {err : IoError} (h : (vars.isImmutable slot state).1 = .error err) :
      Locked slot state err
  | uncleared {err : IoError} (hset : (vars.isImmutable slot state).1 = .ok true)
      (h : (vars.setImmutable slot false (vars.isImmutable slot state).2).1 = .error err) :
      Locked slot state err

theorem writable_or_locked (slot : Slot) (state : σ) :
    Writable vars slot state ∨ ∃ err, Locked vars slot state err := by
  cases hget : (vars.isImmutable slot state).1 with
  | error err => exact Or.inr ⟨err, .unread hget⟩
  | ok immutable =>
    cases immutable with
    | false => exact Or.inl (Or.inl hget)
    | true =>
      cases hclear : (vars.setImmutable slot false (vars.isImmutable slot state).2).1 with
      | error err => exact Or.inr ⟨err, .uncleared hget hclear⟩
      | ok => exact Or.inl (Or.inr ⟨hget, hclear⟩)

variable {vars} in
theorem Locked.not_writable {slot : Slot} {state : σ} {err : IoError}
    (h : Locked vars slot state err) : ¬ Writable vars slot state := by
  cases h with
  | unread h => simp [Writable, h]
  | uncleared hset h => simp [Writable, hset, h]

variable {vars} in
theorem Locked.unique {slot : Slot} {state : σ} {err other : IoError}
    (h : Locked vars slot state err) (hother : Locked vars slot state other) : other = err := by
  cases h with
  | unread h =>
    cases hother with
    | unread h' => simpa [h] using h'.symm
    | uncleared hset h' => simp [h] at hset
  | uncleared hset h =>
    cases hother with
    | unread h' => simp [hset] at h'
    | uncleared hset' h' => simpa [h] using h'.symm

/-- The slot takes an address: nothing stands there and the directory is reached, or there
is a file that has attributes and can be made writable. -/
inductive Admits (slot : Slot) (state : σ) : Prop
  | absent (hget : (vars.directory state).get slot = none)
      (hreached : (vars.directory state).Reached)
  | file {content : Bytes} (hget : (vars.directory state).get slot = some (.file content))
      (hlength : 4 ≤ content.length) (hwritable : Writable vars slot state)

/-- Why the slot takes no address. -/
inductive Denies (slot : Slot) (state : σ) : Failure → Prop
  | unreachable {err : IoError} (hdirectory : vars.directory state = .unreachable err) :
      Denies slot state (.io err)
  | unread {v : Variable} {err : IoError} (hget : (vars.directory state).get slot = some v)
      (hread : v.read = .error err) : Denies slot state (.io err)
  | short {content : Bytes} (hget : (vars.directory state).get slot = some (.file content))
      (hlength : content.length < 4) : Denies slot state (.storedVariable (vars.path slot))
  | locked {content : Bytes} {err : IoError}
      (hget : (vars.directory state).get slot = some (.file content))
      (hlength : 4 ≤ content.length) (hlocked : Locked vars slot state err) :
      Denies slot state (.io err)

theorem admits_or_denies (slot : Slot) (state : σ) :
    Admits vars slot state ∨ ∃ failure, Denies vars slot state failure := by
  cases hget : (vars.directory state).get slot with
  | none =>
    cases hdirectory : vars.directory state with
    | unreachable err => exact Or.inr ⟨.io err, .unreachable hdirectory⟩
    | present slots => exact Or.inl (.absent hget ⟨slots, hdirectory⟩)
  | some v =>
    cases hread : v.read with
    | error err => exact Or.inr ⟨.io err, .unread hget hread⟩
    | ok content =>
      obtain rfl := Variable.eq_file_of_read hread
      by_cases hlength : 4 ≤ content.length
      · rcases writable_or_locked vars slot state with hwritable | ⟨err, hlocked⟩
        · exact Or.inl (.file hget hlength hwritable)
        · exact Or.inr ⟨.io err, .locked hget hlength hlocked⟩
      · exact Or.inr ⟨.storedVariable (vars.path slot), .short hget (Nat.lt_of_not_le hlength)⟩

variable {vars} in
theorem Admits.reached {slot : Slot} {state : σ} (h : Admits vars slot state) :
    (vars.directory state).Reached := by
  cases h with
  | absent hget hreached => exact hreached
  | file hget => exact .of_get hget

variable {vars} in
theorem Denies.not_isFull {slot : Slot} {state : σ} {failure : Failure}
    (h : Denies vars slot state failure) : ¬ failure.IsFull := by
  cases h <;> exact id

section Equations

variable {vars} {slot : Slot} {state : σ}

theorem run_append_absent (raw : UInt64) (hget : (vars.directory state).get slot = none) :
    Act.run (append vars slot raw) state =
      Act.run (reported (writeChunk vars slot true (chunk baseAttributes raw))) state := by
  rw [append, Act.run_state_bind, hget]
  rfl

theorem run_append_unread (raw : UInt64) {v : Variable} {err : IoError}
    (hget : (vars.directory state).get slot = some v) (hread : v.read = .error err) :
    Act.run (append vars slot raw) state = Act.run (pure (.error (.io err))) state := by
  rw [append, Act.run_state_bind, hget]
  simp only [hread]

theorem run_append_short (raw : UInt64) {content : Bytes}
    (hget : (vars.directory state).get slot = some (.file content))
    (hnone : attributes? content = none) :
    Act.run (append vars slot raw) state =
      Act.run (pure (.error (.storedVariable (vars.path slot)))) state := by
  rw [append, Act.run_state_bind, hget]
  simp only [Variable.read, hnone]

theorem run_append_file (raw : UInt64) {content : Bytes} {attributes : UInt32}
    (hget : (vars.directory state).get slot = some (.file content))
    (hattributes : attributes? content = some attributes) :
    Act.run (append vars slot raw) state =
      Act.run (reported (whileWritable vars slot
        (writeChunk vars slot false (chunk (attributes ||| appendAttribute) raw)))) state := by
  rw [append, Act.run_state_bind, hget]
  simp only [Variable.read, hattributes]
  rfl

end Equations

/-- The ways to store an address, by what stands at its slot: a new file is made, a file
that states its attributes is extended, or nothing is done. -/
inductive Appends (slot : Slot) (raw : UInt64) (state : σ) : Prop
  | created (hget : (vars.directory state).get slot = none)
      (hrun : Act.run (append vars slot raw) state =
        Act.run (reported (writeChunk vars slot true (chunk baseAttributes raw))) state)
  | extended {content : Bytes} {attributes : UInt32}
      (hget : (vars.directory state).get slot = some (.file content))
      (hattributes : attributes? content = some attributes)
      (hrun : Act.run (append vars slot raw) state =
        Act.run (reported (whileWritable vars slot
          (writeChunk vars slot false (chunk (attributes ||| appendAttribute) raw)))) state)
  | refused (failure : Failure)
      (hunread : ∀ content, (vars.directory state).get slot = some (.file content) →
        attributes? content = none)
      (hother : ¬ failure.IsFull)
      (hrun : Act.run (append vars slot raw) state = Act.run (pure (.error failure)) state)

theorem appends (slot : Slot) (raw : UInt64) (state : σ) : Appends vars slot raw state := by
  cases hget : (vars.directory state).get slot with
  | none => exact .created hget (run_append_absent raw hget)
  | some v =>
    cases hread : v.read with
    | error err =>
      refine .refused (.io err) (fun content hfile => ?_) id (run_append_unread raw hget hread)
      cases hget.symm.trans hfile
      cases hread
    | ok content =>
      obtain rfl := Variable.eq_file_of_read hread
      cases hattributes : attributes? content with
      | none =>
        refine .refused (.storedVariable (vars.path slot)) (fun other hfile => ?_) id
          (run_append_short raw hget hattributes)
        cases hget.symm.trans hfile
        exact hattributes
      | some attributes => exact .extended hget hattributes (run_append_file raw hget hattributes)

/-- Store an address for which there is room. -/
def keep (ledger : Ledger) (slot : Slot) (raw : UInt64) :
    Act σ (Except Failure Slot × Ledger) := do
  match ← append vars slot raw with
  | .error failure => pure (.error failure, ledger)
  | .ok () =>
    Act.info ("Wrote HBM fault info to flash " ++ slot.fileName)
    pure (.ok slot, ledger.grown)

section Equations

variable {vars} {ledger : Ledger} {s : Section}

theorem record_of_none (hraw : s.rawFault = none) :
    record vars ledger s = pure (.error .internal, ledger) := by
  simp only [record, hraw]

theorem record_of_unslotted {raw : UInt64} (hraw : s.rawFault = some raw) {failure : Failure}
    (hslot : Slot.ofFault (FaultAddress.decode raw) = .error failure) :
    record vars ledger s = pure (.error failure, ledger) := by
  simp only [record, hraw, hslot]

theorem record_of_overflow {raw : UInt64} {slot : Slot} (hrouted : Routed s raw slot)
    (hover : ¬ ledger.CanGrow) : record vars ledger s = Act.checked (.error .addition) := by
  have hsum : Word64.add ledger.total (.ofNat recordSize) = .error .addition :=
    Word64.add_eq_error _ _ (Nat.le_of_not_lt hover)
  simp only [record, hrouted.1, hrouted.2, hsum, Act.checked_error_bind]

theorem record_of_full {raw : UInt64} {slot : Slot} (hrouted : Routed s raw slot)
    (hgrow : ledger.CanGrow) (hfull : ¬ ledger.HasRoom) :
    record vars ledger s = pure (.error (.ledgerFull ledger.total ledger.capacity), ledger) := by
  have hlt : ledger.capacity < ledger.grown.total := by
    rw [UInt64.lt_iff_toNat_lt, hgrow.toNat_total_grown]
    exact Nat.lt_of_not_le hfull
  simp only [record, hrouted.1, hrouted.2, hgrow.add_eq_ok, Act.checked_ok_bind, if_pos hlt]

theorem record_of_room {raw : UInt64} {slot : Slot} (hrouted : Routed s raw slot)
    (hroom : ledger.HasRoom) : record vars ledger s = keep vars ledger slot raw := by
  have hle : ¬ ledger.capacity < ledger.grown.total := by
    rw [UInt64.lt_iff_toNat_lt, hroom.canGrow.toNat_total_grown]
    exact Nat.not_lt.mpr hroom
  simp only [record, hrouted.1, hrouted.2, hroom.canGrow.add_eq_ok, Act.checked_ok_bind,
    if_neg hle]
  rfl

end Equations

/-- The ways of a record: its sum overflows or it is refused before anything is done, or
its address is kept. -/
inductive Records (ledger : Ledger) (s : Section) : Prop
  | unrouted (failure : Failure)
      (hrefused : ∀ raw, s.rawFault = some raw →
        Slot.ofFault (FaultAddress.decode raw) = .error failure)
      (hother : ¬ failure.IsFull) (heq : record vars ledger s = pure (.error failure, ledger))
  | overflown {raw : UInt64} {slot : Slot} (hrouted : Routed s raw slot)
      (hover : ¬ ledger.CanGrow) (heq : record vars ledger s = Act.checked (.error .addition))
  | full {raw : UInt64} {slot : Slot} (hrouted : Routed s raw slot) (hgrow : ledger.CanGrow)
      (hfull : ¬ ledger.HasRoom)
      (heq : record vars ledger s =
        pure (.error (.ledgerFull ledger.total ledger.capacity), ledger))
  | kept {raw : UInt64} {slot : Slot} (hrouted : Routed s raw slot) (hroom : ledger.HasRoom)
      (heq : record vars ledger s = keep vars ledger slot raw)

theorem records (ledger : Ledger) (s : Section) : Records vars ledger s := by
  cases hraw : s.rawFault with
  | none =>
    refine .unrouted .internal (fun raw hsome => ?_) id (record_of_none hraw)
    cases hraw.symm.trans hsome
  | some raw =>
    cases hslot : Slot.ofFault (FaultAddress.decode raw) with
    | error failure =>
      refine .unrouted failure (fun other hother => ?_) (not_isFull_of_ofFault hslot)
        (record_of_unslotted hraw hslot)
      cases hraw.symm.trans hother
      exact hslot
    | ok slot =>
      have hrouted : Routed s raw slot := ⟨hraw, hslot⟩
      by_cases hroom : ledger.HasRoom
      · exact .kept hrouted hroom (record_of_room hrouted hroom)
      · by_cases hgrow : ledger.CanGrow
        · exact .full hrouted hgrow hroom (record_of_full hrouted hgrow hroom)
        · exact .overflown hrouted hgrow (record_of_overflow hrouted hgrow)

/-- A record whose sum overflows ends there, and nothing was done. -/
theorem run_record_overflown {ledger : Ledger} {s : Section} (h : ¬ ledger.CanCount s)
    (state : σ) : Act.run (record vars ledger s) state = ⟨.error .addition, state, []⟩ := by
  cases records vars ledger s with
  | overflown hrouted hover heq => rw [heq, Act.run_checked]
  | unrouted failure hrefused hother heq =>
    exact absurd (fun raw slot hrouted => absurd hrouted (not_routed hrefused raw slot)) h
  | full hrouted hgrow hfull heq => exact absurd (hgrow.canCount s) h
  | kept hrouted hroom heq => exact absurd (hroom.canGrow.canCount s) h

end Ways

section Record

variable {vars : VariableStore σ} {quiet : σ → Prop} {state : σ}

/-- The state is quiet, and the directory is as given. -/
def Shows (vars : VariableStore σ) (quiet : σ → Prop) (directory : VariableDirectory)
    (state : σ) : Prop :=
  quiet state ∧ vars.directory state = directory

/-- The state shows a directory of which, beside the answer, the condition holds. -/
def Showing {α : Type} (vars : VariableStore σ) (quiet : σ → Prop)
    (post : α → VariableDirectory → Prop) (answer : α) (state : σ) : Prop :=
  ∃ directory, post answer directory ∧ Shows vars quiet directory state

theorem readFlag_ends (hfaithful : vars.Faithful quiet) (slot : Slot)
    {directory : VariableDirectory} (hshows : Shows vars quiet directory state) :
    Act.Ends (readFlag vars slot) state fun answer after =>
      (answer, after) = vars.isImmutable slot state ∧ Shows vars quiet directory after := by
  refine .write_bind (.step ⟨rfl, hfaithful.isImmutable_quiet state slot hshows.1, ?_⟩)
  rw [hfaithful.isImmutable_directory state slot hshows.1, hshows.2]

theorem writeFlag_ends (hfaithful : vars.Faithful quiet) (slot : Slot) (immutable : Bool)
    {directory : VariableDirectory} (hshows : Shows vars quiet directory state) :
    Act.Ends (writeFlag vars slot immutable) state fun answer after =>
      (answer, after) = vars.setImmutable slot immutable state ∧
        Shows vars quiet directory after := by
  refine .write_bind (.step ⟨rfl, hfaithful.setImmutable_quiet state slot immutable hshows.1, ?_⟩)
  rw [hfaithful.setImmutable_directory state slot immutable hshows.1, hshows.2]

/-- The answer of a bracketed computation stands, whether the attribute could be set again
or not. -/
theorem restoreFlag_ends (hfaithful : vars.Faithful quiet) (slot : Slot)
    {directory : VariableDirectory} (hshows : Shows vars quiet directory state)
    (answer : Except IoError Unit) :
    Act.Ends (do restoreFlag vars slot; pure answer) state fun value after =>
      value = answer ∧ Shows vars quiet directory after := by
  have hset : Act.Ends (restoreFlag vars slot) state fun _ => Shows vars quiet directory := by
    refine Act.Ends.bind (writeFlag_ends hfaithful slot true hshows) ?_
    rintro set after ⟨-, hafter⟩
    cases set with
    | ok => exact .pure hafter
    | error err => exact .write hafter
  exact hset.bind fun _ _ hafter => .pure ⟨rfl, hafter⟩

/-- With the attribute lifted the computation leaves what it leaves by itself; where the
file stays locked, it is not run. -/
theorem whileWritable_ends (hfaithful : vars.Faithful quiet) {slot : Slot}
    {act : Act σ (Except IoError Unit)} {directory : VariableDirectory}
    {post : Except IoError Unit → VariableDirectory → Prop}
    (hact : Writable vars slot state → ∀ after, Shows vars quiet directory after →
      act.Ends after (Showing vars quiet post))
    (hlocked : ∀ err, Locked vars slot state err → post (.error err) directory)
    (hshows : Shows vars quiet directory state) :
    Act.Ends (whileWritable vars slot act) state (Showing vars quiet post) := by
  refine Act.Ends.bind (readFlag_ends hfaithful slot hshows) ?_
  rintro flag after ⟨hflag, hafter⟩
  have hanswer : flag = (vars.isImmutable slot state).1 := congrArg Prod.fst hflag
  have hstate : after = (vars.isImmutable slot state).2 := congrArg Prod.snd hflag
  rcases flag with err | _ | _
  · exact .pure ⟨directory, hlocked err (.unread hanswer.symm), hafter⟩
  · exact hact (Or.inl hanswer.symm) after hafter
  · refine Act.Ends.bind (writeFlag_ends hfaithful slot false hafter) ?_
    rintro cleared last ⟨hclear, hlast⟩
    have hcleared : cleared = (vars.setImmutable slot false (vars.isImmutable slot state).2).1 :=
      hstate ▸ congrArg Prod.fst hclear
    cases cleared with
    | error err =>
      refine (restoreFlag_ends hfaithful slot hlast (.error err)).mono ?_
      rintro answer final ⟨rfl, hfinal⟩
      exact ⟨directory, hlocked err (.uncleared hanswer.symm hcleared.symm), hfinal⟩
    | ok =>
      refine Act.Ends.bind (hact (Or.inr ⟨hanswer.symm, hcleared.symm⟩) last hlast) ?_
      rintro answer final ⟨result, hpost, hfinal⟩
      refine (restoreFlag_ends hfaithful slot hfinal answer).mono ?_
      rintro value restored ⟨rfl, hrestored⟩
      exact ⟨result, hpost, hrestored⟩

/-- What a write behind the content of a slot's file answers and leaves: all the bytes,
or a first part of them if the write was not whole. -/
inductive Wrote (vars : VariableStore σ) (quiet : σ → Prop) (slot : Slot) (front bytes : Bytes)
    (before : VariableDirectory) : Except IoError Unit → VariableDirectory → Prop
  | whole : Wrote vars quiet slot front bytes before (.ok ())
      (before.put slot (some (.file (front ++ bytes))))
  | part (hpart : ¬ vars.WritesWhole quiet) {n : Nat} (hn : n < bytes.length) (err : IoError) :
      Wrote vars quiet slot front bytes before (.error err)
        (before.put slot (some (.file (front ++ bytes.take n))))

/-- What was at the slot before does not matter to the file written. -/
theorem Wrote.of_put {slot : Slot} {front bytes : Bytes} {before after : VariableDirectory}
    {v : Option Variable} {answer : Except IoError Unit}
    (h : Wrote vars quiet slot front bytes (before.put slot v) answer after) :
    Wrote vars quiet slot front bytes before answer after := by
  cases h with
  | whole =>
    rw [VariableDirectory.put_put]
    exact .whole
  | part hpart hn err =>
    rw [VariableDirectory.put_put]
    exact .part hpart hn err

theorem writeOnce_ends (hfaithful : vars.Faithful quiet) {slot : Slot} {front bytes : Bytes}
    (hbytes : 0 < bytes.length) {directory : VariableDirectory}
    (hshows : Shows vars quiet directory state)
    (hget : directory.get slot = some (.file front)) :
    Act.Ends (writeOnce vars slot bytes) state
      (Showing vars quiet (Wrote vars quiet slot front bytes directory)) := by
  obtain ⟨hquiet, rfl⟩ := hshows
  have hwritten := hfaithful.write_directory state slot bytes front hquiet hget
  have hlast := hfaithful.write_quiet state slot bytes hquiet
  have hpart : (vars.write slot bytes state).1 ≠ .ok bytes.length → ¬ vars.WritesWhole quiet :=
    fun hne hwhole => hne (hwhole state slot bytes front hquiet hget)
  refine Act.Ends.bind (.step_eq _) ?_
  rintro answer after hanswer
  rw [← hanswer] at hwritten hlast hpart
  generalize hdirectory : vars.directory after = last at hwritten
  cases hwritten with
  | refused err =>
    refine .pure ⟨_, .part (hpart nofun) hbytes err, hlast, ?_⟩
    rw [hdirectory, List.take_zero, List.append_nil, VariableDirectory.put_eq_self hget]
  | @taken content n hfile hn =>
    cases hget.symm.trans hfile
    by_cases hall : n = bytes.length
    · simp only [if_pos hall]
      rw [hall, List.take_length] at hdirectory
      exact .pure ⟨_, .whole, hlast, hdirectory⟩
    · simp only [if_neg hall]
      have hlt : n < bytes.length := Nat.lt_of_le_of_ne hn hall
      exact .pure ⟨_, .part (hpart fun h => hall (Except.ok.inj h)) hlt _, hlast, hdirectory⟩

/-- What a try to put bytes behind the start of a slot's file answers and leaves. Only a
file that fails is not opened. -/
inductive Tried (vars : VariableStore σ) (quiet : σ → Prop) (slot : Slot) (front bytes : Bytes)
    (before : VariableDirectory) : Except IoError Unit → VariableDirectory → Prop
  | wrote {answer : Except IoError Unit} {after : VariableDirectory}
      (h : Wrote vars quiet slot front bytes before answer after) :
      Tried vars quiet slot front bytes before answer after
  | unopened (hunserved : ¬ vars.Serves quiet) (err : IoError) :
      Tried vars quiet slot front bytes before (.error err) before

theorem writeChunk_ends (hfaithful : vars.Faithful quiet) {slot : Slot} {create : Bool}
    {front bytes : Bytes} (hbytes : 0 < bytes.length) {directory : VariableDirectory}
    (hshows : Shows vars quiet directory state) (hreached : directory.Reached)
    (hstarts : Variable.Starts (directory.get slot) create front) :
    Act.Ends (writeChunk vars slot create bytes) state
      (Showing vars quiet (Tried vars quiet slot front bytes directory)) := by
  obtain ⟨hquiet, hdirectory⟩ := hshows
  obtain ⟨slots, rfl⟩ := hreached
  have hfile : ∀ v, (vars.directory state).get slot = some v → ∃ content, v = .file content := by
    intro v hv
    rw [hdirectory] at hv
    rw [hv] at hstarts
    cases hstarts
    exact ⟨front, rfl⟩
  have hopened := hfaithful.open_directory state slot create hquiet hfile
  have hmid := hfaithful.open_quiet state slot create hquiet
  have hserved : (vars.openFile slot create state).1 ≠ .ok () → ¬ vars.Serves quiet :=
    fun hne hserves => hne (hserves.opens state slot slots create front hquiet hdirectory hstarts)
  refine Act.Ends.bind (.step_eq _) ?_
  rintro answer mid hanswer
  rw [← hanswer] at hopened hmid hserved
  rw [hdirectory] at hopened
  generalize hbetween : vars.directory mid = between at hopened
  cases hopened with
  | refused slots err => exact .pure ⟨_, .unopened (hserved nofun) err, hmid, hbetween⟩
  | made hget =>
    change Variable.Starts (slots slot) create front at hstarts
    rw [hget] at hstarts
    cases hstarts
    refine (writeOnce_ends hfaithful hbytes ⟨hmid, hbetween⟩
      (VariableDirectory.get_put_self slots slot _)).mono ?_
    rintro result after ⟨last, hwrote, hlast⟩
    exact ⟨last, .wrote hwrote.of_put, hlast⟩
  | @found _ content hget =>
    change Variable.Starts (slots slot) create front at hstarts
    rw [hget] at hstarts
    cases hstarts
    refine (writeOnce_ends hfaithful hbytes ⟨hmid, hbetween⟩ hget).mono ?_
    rintro result after ⟨last, hwrote, hlast⟩
    exact ⟨last, .wrote hwrote, hlast⟩

/-- Where the paths lead nowhere, nothing is opened. -/
theorem writeChunk_refuses (hfaithful : vars.Faithful quiet) {slot : Slot} {create : Bool}
    (bytes : Bytes) {err : IoError} (hshows : Shows vars quiet (.unreachable err) state) :
    Act.Ends (writeChunk vars slot create bytes) state fun answer after =>
      answer = .error err ∧ Shows vars quiet (.unreachable err) after := by
  obtain ⟨hquiet, hdirectory⟩ := hshows
  have hopened := hfaithful.open_directory state slot create hquiet (by simp [hdirectory,
    VariableDirectory.get])
  have hlast := hfaithful.open_quiet state slot create hquiet
  refine Act.Ends.bind (.step_eq _) ?_
  rintro answer after hanswer
  rw [← hanswer, hdirectory] at hopened
  rw [← hanswer] at hlast
  generalize hafter : vars.directory after = last at hopened
  cases hopened
  exact .pure ⟨rfl, hlast, hafter⟩

theorem reported_ends {act : Act σ (Except IoError Unit)} {post : Except Failure Unit → σ → Prop}
    (h : act.Ends state fun answer => post (answer.mapError .io)) :
    (reported act).Ends state post :=
  h.bind fun _ _ hpost => .pure hpost

/-- What storing an address in a slot that takes it answers and leaves. -/
inductive Appended (vars : VariableStore σ) (quiet : σ → Prop) (slot : Slot) (raw : UInt64)
    (before : VariableDirectory) : Except Failure Unit → VariableDirectory → Prop
  | stored {bytes : Bytes} (h : Stored raw (before.get slot) bytes) :
      Appended vars quiet slot raw before (.ok ()) (before.put slot (some (.file bytes)))
  | cut (hpart : ¬ vars.WritesWhole quiet) {bytes : Bytes}
      (h : Cut raw (before.get slot) bytes) (err : IoError) :
      Appended vars quiet slot raw before (.error (.io err))
        (before.put slot (some (.file bytes)))
  | unopened (hunserved : ¬ vars.Serves quiet) (err : IoError) :
      Appended vars quiet slot raw before (.error (.io err)) before

/-- A chunk that is tried behind the start of a slot's file is stored, cut or not tried. -/
theorem Tried.appended {slot : Slot} {raw : UInt64} {front : Bytes} {attributes : UInt32}
    {before after : VariableDirectory} {answer : Except IoError Unit}
    (h : Tried vars quiet slot front (chunk attributes raw) before answer after)
    (hstored : Stored raw (before.get slot) (front ++ chunk attributes raw))
    (hcut : ∀ n < (chunk attributes raw).length,
      Cut raw (before.get slot) (front ++ (chunk attributes raw).take n)) :
    Appended vars quiet slot raw before (answer.mapError .io) after := by
  cases h with
  | unopened hunserved err => exact .unopened hunserved err
  | wrote hwrote =>
    cases hwrote with
    | whole => exact .stored hstored
    | part hpart hn err => exact .cut hpart (hcut _ hn) err

/-- An address is stored as one more chunk of a slot that takes it, unless the file fails. -/
theorem append_ends (hfaithful : vars.Faithful quiet) {slot : Slot} (raw : UInt64)
    (hquiet : quiet state) (hadmits : Admits vars slot state) :
    Act.Ends (append vars slot raw) state
      (Showing vars quiet (Appended vars quiet slot raw (vars.directory state))) := by
  have hshows : Shows vars quiet (vars.directory state) state := ⟨hquiet, rfl⟩
  cases hadmits with
  | absent hget hreached =>
    have hstarts : Variable.Starts ((vars.directory state).get slot) true [] := by
      rw [hget]
      exact .made
    refine .of_run_eq (run_append_absent raw hget) (reported_ends
      ((writeChunk_ends hfaithful (length_chunk_pos _ raw) hshows hreached hstarts).mono ?_))
    rintro answer after ⟨last, htried, hlast⟩
    exact ⟨last, htried.appended (hget ▸ .created) (fun _ hn => hget ▸ .created hn), hlast⟩
  | @file content hget hlength hwritable =>
    obtain ⟨attributes, hattributes⟩ := exists_attributes_iff.mpr hlength
    have hstarts : Variable.Starts ((vars.directory state).get slot) false content := by
      rw [hget]
      exact .found content
    refine .of_run_eq (run_append_file raw hget hattributes) (reported_ends
      ((whileWritable_ends hfaithful (fun _ after hafter =>
        writeChunk_ends hfaithful (length_chunk_pos _ raw) hafter (.of_get hget) hstarts)
        (fun err hlocked => absurd hwritable hlocked.not_writable) hshows).mono ?_))
    rintro answer after ⟨last, htried, hlast⟩
    exact ⟨last, htried.appended (hget ▸ .appended hattributes)
      (fun _ hn => hget ▸ .appended hattributes hn), hlast⟩

/-- A slot that takes no address says why, and nothing changes. -/
theorem append_refuses (hfaithful : vars.Faithful quiet) {slot : Slot} (raw : UInt64)
    (hquiet : quiet state) {failure : Failure} (hdenies : Denies vars slot state failure) :
    Act.Ends (append vars slot raw) state fun answer after => answer = .error failure ∧
      Shows vars quiet (vars.directory state) after := by
  have hshows : Shows vars quiet (vars.directory state) state := ⟨hquiet, rfl⟩
  cases hdenies with
  | unreachable hdirectory =>
    have hget : (vars.directory state).get slot = none := by rw [hdirectory]; rfl
    rw [hdirectory] at hshows ⊢
    refine .of_run_eq (run_append_absent raw hget) (reported_ends
      ((writeChunk_refuses hfaithful _ hshows).mono ?_))
    rintro answer after ⟨rfl, hafter⟩
    exact ⟨rfl, hafter⟩
  | unread hget hread =>
    exact .of_run_eq (run_append_unread raw hget hread) (.pure ⟨rfl, hshows⟩)
  | short hget hlength =>
    exact .of_run_eq (run_append_short raw hget (attributes_eq_none hlength))
      (.pure ⟨rfl, hshows⟩)
  | @locked content err hget hlength hlocked =>
    obtain ⟨attributes, hattributes⟩ := exists_attributes_iff.mpr hlength
    have hends : ∀ act, Act.Ends (whileWritable vars slot act) state (Showing vars quiet
        fun answer last => answer = .error err ∧ last = vars.directory state) := fun act =>
      whileWritable_ends hfaithful (fun hwritable => absurd hwritable hlocked.not_writable)
        (fun other hother => ⟨congrArg Except.error (hlocked.unique hother), rfl⟩) hshows
    refine .of_run_eq (run_append_file raw hget hattributes) (reported_ends ((hends _).mono ?_))
    rintro answer after ⟨last, ⟨rfl, rfl⟩, hafter⟩
    exact ⟨rfl, hafter⟩

/-- The ways that a record can go: the answer and the ledger after it, and the
directory after it. -/
inductive Recorded (vars : VariableStore σ) (quiet : σ → Prop) (ledger : Ledger) (s : Section)
    (before : VariableDirectory) : Except Failure Slot × Ledger → VariableDirectory → Prop
  | stored {raw : UInt64} {slot : Slot} {bytes : Bytes} (hrouted : Routed s raw slot)
      (hroom : ledger.HasRoom) (hreached : before.Reached)
      (hstored : Stored raw (before.get slot) bytes) :
      Recorded vars quiet ledger s before (.ok slot, ledger.grown)
        (before.put slot (some (.file bytes)))
  | cut (hpart : ¬ vars.WritesWhole quiet) {raw : UInt64} {slot : Slot} {bytes : Bytes}
      (hreached : before.Reached) (hroom : ledger.HasRoom) (hcut : Cut raw (before.get slot) bytes)
      (err : IoError) :
      Recorded vars quiet ledger s before (.error (.io err), ledger)
        (before.put slot (some (.file bytes)))
  | full {raw : UInt64} {slot : Slot} (hrouted : Routed s raw slot) (hfull : ¬ ledger.HasRoom) :
      Recorded vars quiet ledger s before
        (.error (.ledgerFull ledger.total ledger.capacity), ledger) before
  | unrouted {failure : Failure} (hnone : ∀ raw slot, ¬ Routed s raw slot)
      (hother : ¬ failure.IsFull) :
      Recorded vars quiet ledger s before (.error failure, ledger) before
  | failed {failure : Failure} (hroom : ledger.HasRoom) (hother : ¬ failure.IsFull) :
      Recorded vars quiet ledger s before (.error failure, ledger) before

theorem keep_ends (hfaithful : vars.Faithful quiet) {ledger : Ledger} {s : Section} {raw : UInt64}
    {slot : Slot} (hrouted : Routed s raw slot) (hroom : ledger.HasRoom) (hquiet : quiet state) :
    Act.Ends (keep vars ledger slot raw) state
      (Showing vars quiet (Recorded vars quiet ledger s (vars.directory state))) := by
  rcases admits_or_denies vars slot state with hadmits | ⟨failure, hdenies⟩
  · refine Act.Ends.bind (append_ends hfaithful raw hquiet hadmits) ?_
    rintro answer after ⟨last, happended, hlast⟩
    cases happended with
    | stored hstored =>
      exact .write_bind (.pure ⟨_, .stored hrouted hroom hadmits.reached hstored, hlast⟩)
    | cut hpart hcut err => exact .pure ⟨_, .cut hpart hadmits.reached hroom hcut err, hlast⟩
    | unopened hunserved err => exact .pure ⟨_, .failed hroom id, hlast⟩
  · refine Act.Ends.bind (append_refuses hfaithful raw hquiet hdenies) ?_
    rintro answer after ⟨rfl, hafter⟩
    exact .pure ⟨_, .failed hroom hdenies.not_isFull, hafter⟩

theorem record_ends (hfaithful : vars.Faithful quiet) {ledger : Ledger} {s : Section}
    (hcount : ledger.CanCount s) {directory : VariableDirectory}
    (hshows : Shows vars quiet directory state) :
    Act.Ends (record vars ledger s) state
      (Showing vars quiet (Recorded vars quiet ledger s directory)) := by
  obtain ⟨hquiet, rfl⟩ := hshows
  cases records vars ledger s with
  | unrouted failure hrefused hother heq =>
    rw [heq]
    exact .pure ⟨_, .unrouted (not_routed hrefused) hother, hquiet, rfl⟩
  | overflown hrouted hover heq => exact absurd (hcount _ _ hrouted) hover
  | full hrouted hgrow hfull heq =>
    rw [heq]
    exact .pure ⟨_, .full hrouted hfull, hquiet, rfl⟩
  | kept hrouted hroom heq =>
    rw [heq]
    exact keep_ends hfaithful hrouted hroom hquiet

end Record

end Ledger

end MemoryRepair
