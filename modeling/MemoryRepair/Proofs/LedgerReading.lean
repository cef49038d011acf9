import MemoryRepair.Monitor
import MemoryRepair.Proofs.Handling
import MemoryRepair.Proofs.LedgerRun

/-!
Reading the ledger back. What stands at a slot can be read if it is a file with an attribute
word, and then the records are its bytes in order, up to a tail that is too short for a
record. All slots together are read in the order of the table, each that exists once, and
the first that cannot be read ends it with its own failure.
-/
namespace MemoryRepair

variable {σ : Type}

/-- A file that is long enough for its attributes. -/
def Variable.Readable (v : Variable) : Prop :=
  ∃ bytes, v = .file bytes ∧ 4 ≤ bytes.length

namespace Ledger

/-- The bytes are the attributes and the records in order, and a tail that is shorter than a
record. -/
def Content.Matches (content : Content) (bytes : Bytes) : Prop :=
  ∃ tail, tail.length < recordSize ∧ bytes = LittleEndian.ofWord32 content.attributes ++
    (content.records.flatMap LittleEndian.ofWord64 ++ tail)

/-- Why what stands at a slot cannot be read back. -/
inductive Unreadable (vars : VariableStore σ) (slot : Slot) : Variable → Failure → Prop
  | directory : Unreadable vars slot .directory (.io (.os Errno.isDirectory))
  | sealed (errno : Errno) : Unreadable vars slot (.sealed errno) (.io (.os errno))
  | short {bytes : Bytes} (h : bytes.length < 4) :
      Unreadable vars slot (.file bytes) (.storedVariable (vars.path slot))

section Bytes

variable {slot : Slot} {content : Content} {bytes : Bytes}

/-- The records are the chunks of the bytes, whatever the tail. -/
theorem flatMap_records (bytes : Bytes) :
    ∃ tail : Bytes, tail.length < recordSize ∧
      bytes = ((Bytes.chunks recordSize bytes).map LittleEndian.toWord64).flatMap
        LittleEndian.ofWord64 ++ tail := by
  have hpos : 0 < recordSize := by decide
  have hword : ∀ chunk ∈ Bytes.chunks recordSize bytes,
      LittleEndian.ofWord64 (LittleEndian.toWord64 chunk) = id chunk := fun chunk hchunk =>
    LittleEndian.ofWord64_toWord64 (Bytes.length_of_mem_chunks hpos hchunk)
  have hback : ((Bytes.chunks recordSize bytes).map LittleEndian.toWord64).flatMap
      LittleEndian.ofWord64 = (Bytes.chunks recordSize bytes).flatten := by
    rw [List.flatMap_map, List.flatMap_def, List.map_congr_left hword, List.map_id]
  refine ⟨bytes.drop (recordSize * (bytes.length / recordSize)), ?_, ?_⟩
  · rw [List.length_drop]
    have hmod := Nat.mod_lt bytes.length hpos
    have hdiv := Nat.div_add_mod bytes.length recordSize
    omega
  · rw [hback, Bytes.flatten_chunks recordSize bytes hpos, List.take_append_drop]

theorem attributes?_eq_some_iff {attributes : UInt32} :
    attributes? bytes = some attributes ↔
      ∃ rest, bytes = LittleEndian.ofWord32 attributes ++ rest := by
  constructor
  · intro h
    obtain ⟨piece, hpiece, rfl⟩ := Option.map_eq_some_iff.mp h
    have hword := LittleEndian.ofWord32_toWord32 (Bytes.length_of_slice hpiece)
    obtain ⟨-, rfl⟩ := Bytes.slice_eq_some_iff.mp hpiece
    refine ⟨bytes.drop 4, ?_⟩
    rw [hword, List.drop_zero, List.take_append_drop]
  · rintro ⟨rest, rfl⟩
    exact LittleEndian.word32At_append attributes rest

theorem Content.ofBytes_eq_some_iff :
    Content.ofBytes slot bytes = some content ↔ content.slot = slot ∧ content.Matches bytes := by
  have hlength : ∀ raw : UInt64, (LittleEndian.ofWord64 raw).length = recordSize := fun raw =>
    LittleEndian.length_encode 8 raw.toNat
  rw [Content.ofBytes, Option.map_eq_some_iff]
  constructor
  · rintro ⟨attributes, hattributes, rfl⟩
    obtain ⟨rest, rfl⟩ := attributes?_eq_some_iff.mp hattributes
    obtain ⟨tail, htail, hrest⟩ := flatMap_records rest
    refine ⟨rfl, tail, htail, ?_⟩
    rw [LittleEndian.drop_ofWord32, ← hrest]
  · rintro ⟨rfl, tail, htail, rfl⟩
    refine ⟨content.attributes, attributes?_eq_some_iff.mpr ⟨_, rfl⟩, ?_⟩
    have hback : LittleEndian.toWord64 ∘ LittleEndian.ofWord64 = id :=
      funext LittleEndian.toWord64_ofWord64
    rw [LittleEndian.drop_ofWord32, Bytes.chunks_flatMap_append hlength _ htail, List.map_map,
      hback, List.map_id]

theorem Content.exists_ofBytes_iff :
    (∃ content, Content.ofBytes slot bytes = some content) ↔ 4 ≤ bytes.length := by
  rw [← exists_attributes_iff]
  simp only [Content.ofBytes, Option.map_eq_some_iff]
  constructor
  · rintro ⟨-, attributes, hattributes, -⟩
    exact ⟨attributes, hattributes⟩
  · rintro ⟨attributes, hattributes⟩
    exact ⟨_, attributes, hattributes, rfl⟩

end Bytes

section Slot

variable (vars : VariableStore σ) {directory : VariableDirectory} {slot : Slot}

/-- Something that stands at a slot is readable, or there is a failure that says why not. -/
theorem readable_iff (slot : Slot) {v : Variable} :
    v.Readable ↔ ∀ failure, ¬ Unreadable vars slot v failure := by
  constructor
  · rintro ⟨bytes, rfl, hlength⟩ failure hunreadable
    cases hunreadable with
    | short h => exact Nat.not_lt.mpr hlength h
  · intro h
    cases v with
    | file bytes =>
      refine ⟨bytes, rfl, Nat.le_of_not_lt fun hshort => ?_⟩
      exact h _ (.short hshort)
    | directory => exact absurd .directory (h _)
    | sealed errno => exact absurd (.sealed errno) (h _)

theorem readSlot_absent (h : directory.get slot = none) :
    readSlot vars directory slot = .ok none := by
  rw [readSlot, h]

theorem readSlot_file {bytes : Bytes} {content : Content}
    (h : directory.get slot = some (.file bytes))
    (hcontent : Content.ofBytes slot bytes = some content) :
    readSlot vars directory slot = .ok (some content) := by
  simp only [readSlot, h, Variable.read, hcontent]

theorem readSlot_unreadable {v : Variable} {failure : Failure} (h : directory.get slot = some v)
    (hunreadable : Unreadable vars slot v failure) :
    readSlot vars directory slot = .error failure := by
  cases hunreadable with
  | directory => simp only [readSlot, h, Variable.read]
  | sealed errno => simp only [readSlot, h, Variable.read]
  | short hshort =>
    simp only [readSlot, h, Variable.read, Content.ofBytes, attributes_eq_none hshort,
      Option.map_none]

/-- What a slot is read as. -/
inductive Reads (vars : VariableStore σ) (directory : VariableDirectory) (slot : Slot) : Prop
  | absent (hget : directory.get slot = none) (hread : readSlot vars directory slot = .ok none)
  | content {bytes : Bytes} {content : Content} (hget : directory.get slot = some (.file bytes))
      (hlength : 4 ≤ bytes.length) (hslot : content.slot = slot) (hbytes : content.Matches bytes)
      (hread : readSlot vars directory slot = .ok (some content))
  | failure {v : Variable} {failure : Failure} (hget : directory.get slot = some v)
      (hunreadable : Unreadable vars slot v failure)
      (hread : readSlot vars directory slot = .error failure)

theorem reads (directory : VariableDirectory) (slot : Slot) : Reads vars directory slot := by
  cases hget : directory.get slot with
  | none => exact .absent hget (readSlot_absent vars hget)
  | some v =>
    by_cases hreadable : v.Readable
    · obtain ⟨bytes, rfl, hlength⟩ := hreadable
      obtain ⟨content, hcontent⟩ := Content.exists_ofBytes_iff.mpr hlength
      obtain ⟨hslot, hbytes⟩ := Content.ofBytes_eq_some_iff.mp hcontent
      exact .content hget hlength hslot hbytes (readSlot_file vars hget hcontent)
    · rw [readable_iff vars slot] at hreadable
      simp only [not_forall, not_not] at hreadable
      obtain ⟨failure, hunreadable⟩ := hreadable
      exact .failure hget hunreadable (readSlot_unreadable vars hget hunreadable)

variable {vars}

theorem readSlot_eq_none_iff :
    readSlot vars directory slot = .ok none ↔ directory.get slot = none := by
  constructor
  · intro h
    cases reads vars directory slot with
    | absent hget _ => exact hget
    | content _ _ _ _ hread => cases hread.symm.trans h
    | failure _ _ hread => cases hread.symm.trans h
  · exact readSlot_absent vars

theorem readSlot_eq_some_iff {content : Content} :
    readSlot vars directory slot = .ok (some content) ↔
      content.slot = slot ∧ ∃ bytes, directory.get slot = some (.file bytes) ∧
        content.Matches bytes := by
  constructor
  · intro h
    cases reads vars directory slot with
    | absent _ hread => cases hread.symm.trans h
    | content hget _ hslot hbytes hread =>
      cases hread.symm.trans h
      exact ⟨hslot, _, hget, hbytes⟩
    | failure _ _ hread => cases hread.symm.trans h
  · rintro ⟨hslot, bytes, hget, hbytes⟩
    exact readSlot_file vars hget (Content.ofBytes_eq_some_iff.mpr ⟨hslot, hbytes⟩)

theorem readSlot_eq_error_iff {failure : Failure} :
    readSlot vars directory slot = .error failure ↔
      ∃ v, directory.get slot = some v ∧ Unreadable vars slot v failure := by
  constructor
  · intro h
    cases reads vars directory slot with
    | absent _ hread => cases hread.symm.trans h
    | content _ _ _ _ hread => cases hread.symm.trans h
    | failure hget hunreadable hread =>
      cases hread.symm.trans h
      exact ⟨_, hget, hunreadable⟩
  · rintro ⟨v, hget, hunreadable⟩
    exact readSlot_unreadable vars hget hunreadable

end Slot

section Slots

variable {vars : VariableStore σ} {directory : VariableDirectory} {slots rest : List Slot}
  {slot : Slot} {contents : List Content} {failure : Failure}

theorem readSlots_of_absent (h : readSlot vars directory slot = .ok none) :
    readSlots vars directory (slot :: rest) = readSlots vars directory rest := by
  simp only [readSlots, h]

theorem readSlots_of_content {content : Content}
    (h : readSlot vars directory slot = .ok (some content)) :
    readSlots vars directory (slot :: rest) =
      (readSlots vars directory rest).map (content :: ·) := by
  simp only [readSlots, h]

theorem readSlots_of_error (h : readSlot vars directory slot = .error failure) :
    readSlots vars directory (slot :: rest) = .error failure := by
  simp only [readSlots, h]

/-- Something stands at the slot. -/
def isUsed (directory : VariableDirectory) (slot : Slot) : Bool :=
  (directory.get slot).isSome

theorem isUsed_of_get {v : Variable} (h : directory.get slot = some v) :
    isUsed directory slot = true := by
  rw [isUsed, h]
  rfl

/-- What is read back of some slots: one content for each that exists, in their order, and
each with the bytes of its file. -/
structure ReadBack (directory : VariableDirectory) (slots : List Slot)
    (contents : List Content) : Prop where
  slots_eq : contents.map (·.slot) = slots.filter (isUsed directory)
  bytes : ∀ content ∈ contents, ∃ bytes, directory.get content.slot = some (.file bytes) ∧
    content.Matches bytes

theorem readBack_cons_absent (h : directory.get slot = none) :
    ReadBack directory (slot :: rest) contents ↔ ReadBack directory rest contents := by
  have hfilter : (slot :: rest).filter (isUsed directory) = rest.filter (isUsed directory) :=
    List.filter_cons_of_neg (by rw [isUsed, h]; exact Bool.false_ne_true)
  exact ⟨fun hback => ⟨hfilter ▸ hback.slots_eq, hback.bytes⟩,
    fun hback => ⟨hfilter ▸ hback.slots_eq, hback.bytes⟩⟩

variable (vars) in
theorem readBack_cons_used (h : isUsed directory slot = true) :
    ReadBack directory (slot :: rest) contents ↔
      ∃ content others, contents = content :: others ∧
        readSlot vars directory slot = .ok (some content) ∧ ReadBack directory rest others := by
  have hfilter := List.filter_cons_of_pos (l := rest) h
  constructor
  · rintro ⟨hslots, hbytes⟩
    rw [hfilter] at hslots
    obtain ⟨content, others, rfl, hslot, hothers⟩ := List.map_eq_cons_iff.mp hslots
    rw [List.forall_mem_cons, hslot] at hbytes
    exact ⟨content, others, rfl, readSlot_eq_some_iff.mpr ⟨hslot, hbytes.1⟩, hothers, hbytes.2⟩
  · rintro ⟨content, others, rfl, hread, hslots, hbytes⟩
    obtain ⟨hslot, hfile⟩ := readSlot_eq_some_iff.mp hread
    refine ⟨?_, List.forall_mem_cons.mpr ⟨hslot ▸ hfile, hbytes⟩⟩
    rw [hfilter, List.map_cons, hslot, hslots]

theorem readSlots_eq_ok_iff :
    readSlots vars directory slots = .ok contents ↔ ReadBack directory slots contents := by
  induction slots generalizing contents with
  | nil =>
    constructor
    · rintro ⟨⟩
      exact ⟨rfl, List.forall_mem_nil _⟩
    · rintro ⟨hslots, -⟩
      rw [List.map_eq_nil_iff.mp hslots]
      rfl
  | cons slot rest ih =>
    -- The first slot is left out, stands before the others, or ends it all.
    cases reads vars directory slot with
    | absent hget hread => rw [readSlots_of_absent hread, readBack_cons_absent hget, ih]
    | content hget _ _ _ hread =>
      rw [readSlots_of_content hread, readBack_cons_used vars (isUsed_of_get hget)]
      constructor
      · intro h
        cases hrest : readSlots vars directory rest with
        | error failure =>
          rw [hrest] at h
          cases h
        | ok others =>
          rw [hrest] at h
          cases h
          exact ⟨_, others, rfl, hread, ih.mp hrest⟩
      · rintro ⟨content, others, rfl, hother, hback⟩
        cases hread.symm.trans hother
        rw [ih.mpr hback]
        rfl
    | failure hget hunreadable hread =>
      rw [readSlots_of_error hread, readBack_cons_used vars (isUsed_of_get hget)]
      constructor
      · rintro ⟨⟩
      · rintro ⟨content, others, -, hother, -⟩
        cases hread.symm.trans hother

/-- Nothing stands at the slot that cannot be read. -/
def IsFine (directory : VariableDirectory) (slot : Slot) : Prop :=
  ∀ v, directory.get slot = some v → v.Readable

variable (vars) in
theorem isFine_iff : IsFine directory slot ↔ ∀ failure,
    readSlot vars directory slot ≠ .error failure := by
  constructor
  · intro hfine failure hread
    obtain ⟨v, hget, hunreadable⟩ := readSlot_eq_error_iff.mp hread
    exact (readable_iff vars slot).mp (hfine v hget) failure hunreadable
  · intro h v hget
    refine (readable_iff vars slot).mpr fun failure hunreadable => ?_
    exact h failure (readSlot_unreadable vars hget hunreadable)

theorem readSlots_cons_eq_error_iff :
    readSlots vars directory (slot :: rest) = .error failure ↔
      readSlot vars directory slot = .error failure ∨
        IsFine directory slot ∧ readSlots vars directory rest = .error failure := by
  rw [isFine_iff vars]
  cases reads vars directory slot with
  | absent _ hread => simp [readSlots_of_absent hread, hread]
  | content _ _ _ _ hread =>
    rw [readSlots_of_content hread]
    cases readSlots vars directory rest with
    | error other => simp [hread, Except.map]
    | ok others => simp [hread, Except.map]
  | failure _ _ hread => simp [readSlots_of_error hread, hread]

/-- The failure is that of the first slot that cannot be read. -/
theorem readSlots_eq_error_iff :
    readSlots vars directory slots = .error failure ↔
      ∃ front slot rest, slots = front ++ slot :: rest ∧
        readSlot vars directory slot = .error failure ∧ ∀ k ∈ front, IsFine directory k := by
  induction slots with
  | nil =>
    constructor
    · rintro ⟨⟩
    · rintro ⟨front, slot, rest, hnil, -⟩
      simp at hnil
  | cons first others ih =>
    rw [readSlots_cons_eq_error_iff, ih]
    constructor
    · rintro (hread | ⟨hfine, front, slot, rest, rfl, hread, hfront⟩)
      · exact ⟨[], first, others, rfl, hread, List.forall_mem_nil _⟩
      · exact ⟨first :: front, slot, rest, rfl, hread, List.forall_mem_cons.mpr ⟨hfine, hfront⟩⟩
    · rintro ⟨front, slot, rest, hslots, hread, hfront⟩
      cases front with
      | nil =>
        cases hslots
        exact Or.inl hread
      | cons k front =>
        cases hslots
        rw [List.forall_mem_cons] at hfront
        exact Or.inr ⟨hfront.1, front, slot, rest, rfl, hread, hfront.2⟩

theorem exists_readSlots_iff :
    (∃ contents, readSlots vars directory slots = .ok contents) ↔
      ∀ slot ∈ slots, IsFine directory slot := by
  have hok : (∃ contents, readSlots vars directory slots = .ok contents) ↔
      ∀ failure, readSlots vars directory slots ≠ .error failure := by
    cases readSlots vars directory slots <;> simp
  rw [hok]
  clear hok
  induction slots with
  | nil => simp [readSlots]
  | cons slot rest ih =>
    rw [List.forall_mem_cons]
    simp only [ne_eq, readSlots_cons_eq_error_iff, not_or, forall_and]
    constructor
    · rintro ⟨hslot, hrest⟩
      have hfine : IsFine directory slot := (isFine_iff vars).mpr hslot
      exact ⟨hfine, ih.mp fun failure hread => hrest failure ⟨hfine, hread⟩⟩
    · rintro ⟨hfine, hrest⟩
      exact ⟨(isFine_iff vars).mp hfine, fun failure hread => ih.mpr hrest failure hread.2⟩

end Slots

/-- Before a slot in the table stand the slots with lower numbers. -/
theorem mem_front_iff {front rest : List Slot} {slot k : Slot}
    (h : Slot.all = front ++ slot :: rest) : k ∈ front ↔ k < slot := by
  have hordered : (front ++ slot :: rest).Pairwise (· < ·) := h ▸ List.pairwise_lt_finRange 8
  obtain ⟨-, hrest, hfront⟩ := List.pairwise_append.mp hordered
  refine ⟨fun hmem => hfront k hmem slot List.mem_cons_self, fun hlt => ?_⟩
  have hmem : k ∈ front ++ slot :: rest := h ▸ List.mem_finRange k
  rcases List.mem_append.mp hmem with hmem | hmem
  · exact hmem
  · rcases List.mem_cons.mp hmem with rfl | hmem
    · exact absurd hlt (Nat.lt_irrefl _)
    · exact absurd hlt (Nat.lt_asymm (List.rel_of_pairwise_cons hrest hmem))

theorem readAll_eq_error_iff {vars : VariableStore σ} {directory : VariableDirectory}
    {failure : Failure} :
    readAll vars directory = .error failure ↔
      ∃ slot, readSlot vars directory slot = .error failure ∧ ∀ k < slot, IsFine directory k := by
  rw [readAll, readSlots_eq_error_iff]
  constructor
  · rintro ⟨front, slot, rest, hall, hread, hfront⟩
    exact ⟨slot, hread, fun k hlt => hfront k ((mem_front_iff hall).mpr hlt)⟩
  · rintro ⟨slot, hread, hlower⟩
    obtain ⟨front, rest, hall⟩ := List.append_of_mem (List.mem_finRange slot)
    exact ⟨front, slot, rest, hall, hread, fun k hmem => hlower k ((mem_front_iff hall).mp hmem)⟩

theorem writes_load (vars : VariableStore σ) (capacity : UInt64) :
    Act.Writes (fun entry => entry.line?.isSome) (load vars capacity) := by
  refine .state_bind fun state => .bind (.checked _) fun total => .bind (.write rfl) fun _ => ?_
  split
  · exact .bind (.write rfl) fun _ => .pure _
  · exact .pure _

end Ledger

namespace CommandLine

section Output

variable (settings : Settings) (machine : Machine)

theorem ledgerOutput_ends
    (hsum : ((Machine.variableStore settings.variableDirectory).directory machine).totalSize <
      UInt64.size) :
    let vars := Machine.variableStore settings.variableDirectory
    Act.Ends (ledgerOutput settings) machine fun answer after =>
      after = machine ∧ ∃ ledger, answer = (Ledger.readAll vars (vars.directory machine)).map
        fun contents => (Json.ofLedger ledger contents).pretty := by
  intro vars
  refine .bind (Ledger.load_ends vars settings.capacity machine hsum) ?_
  rintro ledger after ⟨-, hafter⟩
  rw [hafter]
  refine .state_bind ?_
  cases hread : Ledger.readAll vars (vars.directory machine) with
  | error failure => exact .pure ⟨rfl, ledger, rfl⟩
  | ok contents => exact .pure ⟨rfl, ledger, rfl⟩

theorem state_ledgerOutput : (Act.run (ledgerOutput settings) machine).state = machine := by
  let vars := Machine.variableStore settings.variableDirectory
  by_cases hsum : (vars.directory machine).totalSize < UInt64.size
  · obtain ⟨-, -, hstate, -⟩ := ledgerOutput_ends settings machine hsum
    exact hstate
  · have hload :=
      Ledger.run_load_overflown vars settings.capacity machine (Nat.le_of_not_lt hsum)
    unfold ledgerOutput
    rw [Act.run_bind_error (congrArg Ran.value hload), hload]

end Output

/-- Reading the ledger for its output only logs. -/
theorem writes_ledgerOutput (settings : Settings) :
    Act.Writes (fun entry => entry.line?.isSome) (ledgerOutput settings) := by
  refine .bind (Ledger.writes_load _ _) fun ledger => .state_bind fun state => ?_
  split
  · exact .pure _
  · exact .pure _

end CommandLine

namespace Ledger

/-- Reading back gives the answer for what stands at each slot, all slots in the order of the
table or the failure of the first that cannot be read, and changes nothing. -/
theorem readAll_complete (vars : VariableStore σ) (directory : VariableDirectory) :
    (∀ slot,
      (readSlot vars directory slot = .ok none ↔ directory.get slot = none) ∧
      (∀ content, readSlot vars directory slot = .ok (some content) ↔
        content.slot = slot ∧ ∃ bytes, directory.get slot = some (.file bytes) ∧
          content.Matches bytes) ∧
      ∀ failure, readSlot vars directory slot = .error failure ↔
        ∃ v, directory.get slot = some v ∧ Unreadable vars slot v failure) ∧
    ((∃ contents, readAll vars directory = .ok contents) ↔
      ∀ slot v, directory.get slot = some v → v.Readable) ∧
    (∀ contents, readAll vars directory = .ok contents ↔
      contents.map (·.slot) = Slot.all.filter (fun slot => (directory.get slot).isSome) ∧
      ∀ content ∈ contents, ∃ bytes, directory.get content.slot = some (.file bytes) ∧
        content.Matches bytes) ∧
    (∀ failure, readAll vars directory = .error failure ↔
      ∃ slot v, directory.get slot = some v ∧ Unreadable vars slot v failure ∧
        ∀ k < slot, ∀ lower, directory.get k = some lower → lower.Readable) ∧
    (∀ ledger slots state, Act.run (use vars ledger (.read slots)) state =
      ⟨.ok (.contents (readSlots vars (vars.directory state) slots), ledger), state, []⟩) ∧
    ∀ settings machine, (Act.run (CommandLine.ledgerOutput settings) machine).state = machine ∧
      ∀ entry ∈ (Act.run (CommandLine.ledgerOutput settings) machine).journal,
        entry.line?.isSome := by
  refine ⟨fun slot => ⟨readSlot_eq_none_iff, fun content => readSlot_eq_some_iff,
    fun failure => readSlot_eq_error_iff⟩, ?_, fun contents => ?_, fun failure => ?_,
    fun ledger slots state => rfl, fun settings machine => ⟨?_, ?_⟩⟩
  · rw [readAll, exists_readSlots_iff]
    exact ⟨fun h slot => h slot (List.mem_finRange slot), fun h slot _ => h slot⟩
  · rw [readAll, readSlots_eq_ok_iff]
    exact ⟨fun h => ⟨h.slots_eq, h.bytes⟩, fun h => ⟨h.1, h.2⟩⟩
  · rw [readAll_eq_error_iff]
    simp only [readSlot_eq_error_iff]
    constructor
    · rintro ⟨slot, ⟨v, hget, hunreadable⟩, hlower⟩
      exact ⟨slot, v, hget, hunreadable, hlower⟩
    · rintro ⟨slot, v, hget, hunreadable, hlower⟩
      exact ⟨slot, ⟨v, hget, hunreadable⟩, hlower⟩
  · exact CommandLine.state_ledgerOutput settings machine
  · exact CommandLine.writes_ledgerOutput settings machine

/-- A file that is cut in its second record, and a directory before a file that is too short. -/
example :
    let cut : Slot → Option Variable := fun slot =>
      if slot = 1 then some (.file (chunk 7 5 ++ [1, 2, 3])) else none
    let bad : Slot → Option Variable := fun slot =>
      if slot = 4 then some .directory else if slot = 6 then some (.file [7]) else none
    (readAll plainStore (.present cut)).toOption = some [⟨1, 7, [5]⟩] ∧
      readAll plainStore (.present bad) = .error (.io (.os Errno.isDirectory)) :=
  ⟨by decide +kernel, rfl⟩

end Ledger

end MemoryRepair
