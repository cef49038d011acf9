import Mathlib.Algebra.GroupWithZero.Nat
import MemoryRepair.Proofs.MachineStore

/-!
The size that the ledger counts and the size of the variables. A record counts as eight
bytes, the size of a packed address, while its chunk with the attribute word makes the
file twelve bytes longer; only opening counts the files themselves. So along every run
of records and openings the files are ahead of the count by four bytes for each record
stored since the ledger was last opened, and by the parts of chunks that failed writes
have left. Both counts have 64 bits, and a sum that does not fit ends the program.
-/
namespace MemoryRepair

variable {σ : Type}

namespace Word64

/-- A sum is checked at each number, and yet only its end decides. -/
theorem sum_eq_ok_iff {start total : UInt64} {numbers : List Nat} :
    sum start numbers = .ok total ↔ start.toNat + numbers.sum = total.toNat := by
  induction numbers generalizing start with
  | nil =>
    rw [List.sum_nil, Nat.add_zero, UInt64.toNat_inj]
    exact Except.ok.injEq start total ▸ Iff.rfl
  | cons n rest ih =>
    rw [sum, List.sum_cons, ← Nat.add_assoc]
    split
    · next hfits => rw [ih, UInt64.toNat_ofNat_of_lt' hfits]
    · next hover =>
      have htotal : total.toNat < UInt64.size := total.toNat_lt
      exact iff_of_false (fun h => nomatch h) (by omega)

theorem sum_eq_error {start : UInt64} {numbers : List Nat}
    (h : UInt64.size ≤ start.toNat + numbers.sum) : sum start numbers = .error .addition := by
  induction numbers generalizing start with
  | nil =>
    have hstart : start.toNat < UInt64.size := start.toNat_lt
    simp only [List.sum_nil] at h
    omega
  | cons n rest ih =>
    rw [sum]
    split
    · next hfits =>
      refine ih ?_
      rw [UInt64.toNat_ofNat_of_lt' hfits, Nat.add_assoc, ← List.sum_cons]
      exact h
    · rfl

end Word64

namespace VariableDirectory

/-- The sum of the sizes at the slots, as a number without a bound. -/
def totalSize (directory : VariableDirectory) : Nat :=
  directory.sizes.sum

/-- The size of what stands at a slot. -/
def sizeAt (directory : VariableDirectory) (slot : Slot) : Nat :=
  ((directory.get slot).map Variable.size).getD 0

theorem totalSize_eq_sum (directory : VariableDirectory) :
    directory.totalSize = (Slot.all.map directory.sizeAt).sum := by
  unfold totalSize sizes
  induction Slot.all with
  | nil => rfl
  | cons slot rest ih =>
    rw [List.map_cons, List.sum_cons, ← ih, sizeAt, List.filterMap_cons]
    cases directory.get slot with
    | none => simp
    | some v => rfl

theorem sizeAt_put_of_ne (directory : VariableDirectory) {slot k : Slot} (v : Option Variable)
    (h : k ≠ slot) : (directory.put slot v).sizeAt k = directory.sizeAt k := by
  rw [sizeAt, get_put_of_ne directory v h, sizeAt]

/-- Changing one of several slots changes their sizes by what stands there. -/
theorem sum_sizeAt_put (directory : VariableDirectory) (slot : Slot) (v : Option Variable)
    {slots : List Slot} (hnodup : slots.Nodup) (hmem : slot ∈ slots) :
    (slots.map (directory.put slot v).sizeAt).sum + directory.sizeAt slot =
      (slots.map directory.sizeAt).sum + (directory.put slot v).sizeAt slot := by
  induction slots with
  | nil => simp at hmem
  | cons k rest ih =>
    obtain ⟨hnotMem, hrest⟩ := List.nodup_cons.mp hnodup
    simp only [List.map_cons, List.sum_cons]
    by_cases hk : k = slot
    · subst hk
      have hsame : rest.map (directory.put k v).sizeAt = rest.map directory.sizeAt :=
        List.map_congr_left fun other hother =>
          directory.sizeAt_put_of_ne v fun heq => hnotMem (heq ▸ hother)
      rw [hsame]
      omega
    · have hih := ih hrest ((List.mem_cons.mp hmem).resolve_left fun heq => hk heq.symm)
      rw [directory.sizeAt_put_of_ne v hk]
      omega

theorem totalSize_put (directory : VariableDirectory) (slot : Slot) (v : Option Variable) :
    (directory.put slot v).totalSize + directory.sizeAt slot =
      directory.totalSize + (directory.put slot v).sizeAt slot := by
  rw [totalSize_eq_sum, totalSize_eq_sum]
  exact directory.sum_sizeAt_put slot v (List.nodup_finRange 8) (List.mem_finRange slot)

end VariableDirectory

namespace Ledger

theorem Stored.length_eq {raw : UInt64} {directory : VariableDirectory} {slot : Slot}
    {bytes : Bytes} (h : Stored raw (directory.get slot) bytes) :
    bytes.length = directory.sizeAt slot + chunkSize := by
  rw [VariableDirectory.sizeAt]
  cases hget : directory.get slot with
  | none =>
    rw [hget] at h
    cases h
    simp [length_chunk]
  | some v =>
    rw [hget] at h
    cases h
    simp [length_chunk, Variable.size]

theorem Cut.length_lt {raw : UInt64} {directory : VariableDirectory} {slot : Slot}
    {bytes : Bytes} (h : Cut raw (directory.get slot) bytes) :
    directory.sizeAt slot ≤ bytes.length ∧
      bytes.length < directory.sizeAt slot + chunkSize := by
  rw [VariableDirectory.sizeAt]
  cases hget : directory.get slot with
  | none =>
    rw [hget] at h
    cases h with
    | created hn =>
      rw [length_chunk] at hn
      simp [length_chunk]
      omega
  | some v =>
    rw [hget] at h
    cases h with
    | appended hattributes hn =>
      rw [length_chunk] at hn
      simp [length_chunk, Variable.size]
      omega

/-- With a new file at a slot the sum changes by the difference of the two sizes. -/
theorem totalSize_put_file {directory : VariableDirectory} (hreached : directory.Reached)
    (slot : Slot) (bytes : Bytes) :
    (directory.put slot (some (.file bytes))).totalSize + directory.sizeAt slot =
      directory.totalSize + bytes.length := by
  have hput := directory.totalSize_put slot (some (.file bytes))
  have hnew : (directory.put slot (some (.file bytes))).sizeAt slot = bytes.length := by
    obtain ⟨slots, rfl⟩ := hreached
    rw [VariableDirectory.sizeAt, VariableDirectory.get_put_self]
    rfl
  rwa [hnew] at hput

/-- A record that is stored makes the variables larger by its chunk. -/
theorem totalSize_stored {raw : UInt64} {directory : VariableDirectory} {slot : Slot}
    {bytes : Bytes} (hreached : directory.Reached)
    (h : Stored raw (directory.get slot) bytes) :
    (directory.put slot (some (.file bytes))).totalSize = directory.totalSize + 12 := by
  have hput := totalSize_put_file hreached slot bytes
  have hlength := h.length_eq
  simp only [chunkSize] at hlength
  omega

/-- A chunk that is cut makes them larger by less. -/
theorem totalSize_cut {raw : UInt64} {directory : VariableDirectory} {slot : Slot}
    {bytes : Bytes} (hreached : directory.Reached) (h : Cut raw (directory.get slot) bytes) :
    directory.totalSize ≤ (directory.put slot (some (.file bytes))).totalSize ∧
      (directory.put slot (some (.file bytes))).totalSize ≤ directory.totalSize + 11 := by
  have hput := totalSize_put_file hreached slot bytes
  have hlength := h.length_lt
  simp only [chunkSize] at hlength
  omega

/-- One for a failure of the system. -/
def ioCount : Failure → Nat
  | .io _ => 1
  | _ => 0

/-- A ledger in use: what it counts, the state of its store, and how many records were
stored and how many failed for the system since it was opened. -/
structure Session (σ : Type) where
  ledger : Ledger
  state : σ
  stored : Nat
  failed : Nat

inductive Step
  | record (s : Section)
  | reopen

namespace Session

def opened (ledger : Ledger) (state : σ) : Session σ :=
  ⟨ledger, state, 0, 0⟩

/-- A step that overflows ends the program. It leaves the session as it is, so that what
holds after every run holds where a program ended. -/
def step (vars : VariableStore σ) (session : Session σ) : Step → Session σ
  | .record s =>
    let ran := Act.run (record vars session.ledger s) session.state
    match ran.value with
    | .ok (.ok _, ledger) => ⟨ledger, ran.state, session.stored + 1, session.failed⟩
    | .ok (.error failure, ledger) =>
      ⟨ledger, ran.state, session.stored, session.failed + ioCount failure⟩
    | .error _ => { session with state := ran.state }
  | .reopen =>
    let ran := Act.run (load vars session.ledger.capacity) session.state
    match ran.value with
    | .ok ledger => opened ledger ran.state
    | .error _ => { session with state := ran.state }

def after (vars : VariableStore σ) (session : Session σ) (steps : List Step) : Session σ :=
  steps.foldl (step vars) session

end Session

section Load

variable (vars : VariableStore σ) (capacity : UInt64) (state : σ)

theorem load_ends (h : (vars.directory state).totalSize < UInt64.size) :
    Act.Ends (load vars capacity) state fun ledger after =>
      (ledger.capacity = capacity ∧ ledger.total.toNat = (vars.directory state).totalSize) ∧
        after = state := by
  have htotal : (UInt64.ofNat (vars.directory state).totalSize).toNat =
      (vars.directory state).totalSize := UInt64.toNat_ofNat_of_lt' h
  have hsum : Word64.sum 0 (vars.directory state).sizes =
      .ok (.ofNat (vars.directory state).totalSize) :=
    Word64.sum_eq_ok_iff.mpr (by rw [htotal]; exact Nat.zero_add _)
  unfold load
  refine .state_bind ?_
  rw [hsum, Act.checked_ok_bind]
  refine .write_bind ?_
  split
  · exact .write_bind (.pure ⟨⟨rfl, htotal⟩, rfl⟩)
  · exact .pure ⟨⟨rfl, htotal⟩, rfl⟩

/-- Sizes whose sum needs more than 64 bits end the opening before anything is logged. -/
theorem run_load_overflown (h : UInt64.size ≤ (vars.directory state).totalSize) :
    Act.run (load vars capacity) state = ⟨.error .addition, state, []⟩ := by
  have hsum : Word64.sum 0 (vars.directory state).sizes = .error .addition :=
    Word64.sum_eq_error (by rw [UInt64.toNat_zero, Nat.zero_add]; exact h)
  unfold load
  rw [Act.run_state_bind, hsum, Act.checked_error_bind, Act.run_checked]

theorem state_load : (Act.run (load vars capacity) state).state = state := by
  by_cases h : (vars.directory state).totalSize < UInt64.size
  · obtain ⟨ledger, -, -, hstate⟩ := load_ends vars capacity state h
    exact hstate
  · rw [run_load_overflown vars capacity state (Nat.le_of_not_lt h)]

/-- Opening gives the ledger that counts the size of the files, where 64 bits hold it. -/
theorem value_load_eq_ok_iff {ledger : Ledger} :
    (Act.run (load vars capacity) state).value = .ok ledger ↔
      ledger.capacity = capacity ∧ ledger.total.toNat = (vars.directory state).totalSize := by
  by_cases h : (vars.directory state).totalSize < UInt64.size
  · obtain ⟨found, hvalue, ⟨hcapacity, htotal⟩, -⟩ := load_ends vars capacity state h
    rw [hvalue]
    constructor
    · rintro ⟨⟩
      exact ⟨hcapacity, htotal⟩
    · rintro ⟨rfl, hsame⟩
      have hword : found.total = ledger.total := UInt64.toNat_inj.mp (htotal.trans hsame.symm)
      cases found
      cases ledger
      cases hcapacity
      cases hword
      rfl
  · rw [run_load_overflown vars capacity state (Nat.le_of_not_lt h)]
    refine iff_of_false nofun ?_
    rintro ⟨-, htotal⟩
    exact h (htotal ▸ ledger.total.toNat_lt)

end Load

section Run

variable {vars : VariableStore σ} {quiet : σ → Prop}

/-- What holds of a ledger in use. The files are four bytes ahead of the count for each
record stored since the opening, and by some part of a chunk for each that failed; no
record was stored beyond the capacity. -/
structure Session.Counted (vars : VariableStore σ) (quiet : σ → Prop) (capacity : UInt64)
    (start : Nat) (session : Session σ) : Prop where
  is_quiet : quiet session.state
  capacity_eq : session.ledger.capacity = capacity
  size_ge : session.ledger.total.toNat + 4 * session.stored ≤
    (vars.directory session.state).totalSize
  size_le : (vars.directory session.state).totalSize ≤
    session.ledger.total.toNat + 4 * session.stored + 11 * session.failed
  size_eq : vars.WritesWhole quiet →
    (vars.directory session.state).totalSize = session.ledger.total.toNat + 4 * session.stored
  counted : 8 * session.stored ≤ session.ledger.total.toNat
  fits : session.stored = 0 ∨ session.ledger.total.toNat ≤ capacity.toNat
  bounded : vars.WritesWhole quiet → start ≤ capacity.toNat →
    2 * (vars.directory session.state).totalSize ≤ 3 * capacity.toNat

theorem counted_opened {capacity : UInt64} {start : Nat} {ledger : Ledger} {state : σ}
    (hquiet : quiet state) (hopened : (Act.run (load vars capacity) state).value = .ok ledger)
    (hbounded : vars.WritesWhole quiet → start ≤ capacity.toNat →
      2 * (vars.directory state).totalSize ≤ 3 * capacity.toNat) :
    (Session.opened ledger state).Counted vars quiet capacity start := by
  obtain ⟨hcapacity, htotal⟩ := (value_load_eq_ok_iff vars capacity state).mp hopened
  exact ⟨hquiet, hcapacity, Nat.le_of_eq htotal, Nat.le_of_eq htotal.symm,
    fun _ => htotal.symm, Nat.zero_le _, Or.inl rfl, hbounded⟩

/-- A step that stores and leaves nothing in the files is at most one that failed. -/
theorem Session.Counted.kept {capacity : UInt64} {start : Nat} {session : Session σ}
    (h : session.Counted vars quiet capacity start) {state : σ} (hquiet : quiet state)
    (hdirectory : vars.directory state = vars.directory session.state) (more : Nat) :
    Session.Counted vars quiet capacity start
      ⟨session.ledger, state, session.stored, session.failed + more⟩ := by
  obtain ⟨-, hcapacity, hge, hle, hsize, hcounted, hfits, hbounded⟩ := h
  rw [← hdirectory] at hge hle hsize hbounded
  exact ⟨hquiet, hcapacity, hge, by dsimp only; omega, hsize, hcounted, hfits, hbounded⟩

/-- A record that is stored counts as eight bytes and makes the files longer by twelve. -/
theorem Session.Counted.grown {capacity : UInt64} {start : Nat} {session : Session σ}
    (h : session.Counted vars quiet capacity start) (hroom : session.ledger.HasRoom) {state : σ}
    (hquiet : quiet state)
    (hsum : (vars.directory state).totalSize = (vars.directory session.state).totalSize + 12) :
    Session.Counted vars quiet capacity start
      ⟨session.ledger.grown, state, session.stored + 1, session.failed⟩ := by
  obtain ⟨-, rfl, hge, hle, hsize, hcounted, -, -⟩ := h
  have htotal : session.ledger.grown.total.toNat = session.ledger.total.toNat + 8 :=
    hroom.canGrow.toNat_total_grown
  have hfits : session.ledger.total.toNat + 8 ≤ session.ledger.capacity.toNat := hroom
  refine ⟨hquiet, rfl, ?_, ?_, fun hwhole => ?_, ?_, Or.inr ?_, fun hwhole _ => ?_⟩
  all_goals dsimp only
  · omega
  · omega
  · have hbefore := hsize hwhole
    omega
  · omega
  · omega
  · have hbefore := hsize hwhole
    omega

/-- A record whose chunk was cut failed, and makes the files longer by less than a chunk. -/
theorem Session.Counted.spoilt {capacity : UInt64} {start : Nat} {session : Session σ}
    (h : session.Counted vars quiet capacity start) (hpart : ¬ vars.WritesWhole quiet) {state : σ}
    (hquiet : quiet state)
    (hsum : (vars.directory session.state).totalSize ≤ (vars.directory state).totalSize ∧
      (vars.directory state).totalSize ≤ (vars.directory session.state).totalSize + 11) :
    Session.Counted vars quiet capacity start
      ⟨session.ledger, state, session.stored, session.failed + 1⟩ := by
  obtain ⟨-, hcapacity, hge, hle, -, hcounted, hfits, -⟩ := h
  refine ⟨hquiet, hcapacity, ?_, ?_, fun hwhole => absurd hwhole hpart, hcounted, hfits,
    fun hwhole => absurd hwhole hpart⟩
  all_goals dsimp only
  · omega
  · omega

theorem Session.Counted.record (hfaithful : vars.Faithful quiet) {capacity : UInt64} {start : Nat}
    {session : Session σ} (h : session.Counted vars quiet capacity start) (s : Section) :
    (session.step vars (.record s)).Counted vars quiet capacity start := by
  by_cases hcount : session.ledger.CanCount s
  · obtain ⟨result, hvalue, last, hrecorded, hquiet, rfl⟩ :=
      record_ends hfaithful hcount ⟨h.is_quiet, rfl⟩
    simp only [Session.step, hvalue]
    generalize (Act.run (Ledger.record vars session.ledger s) session.state).state = state
      at hrecorded hquiet
    generalize hlast : vars.directory state = last at hrecorded
    cases hrecorded with
    | stored hrouted hroom hreached hstored =>
      exact h.grown hroom hquiet (hlast ▸ totalSize_stored hreached hstored)
    | cut hpart hreached hroom hcut err =>
      exact h.spoilt hpart hquiet (hlast ▸ totalSize_cut hreached hcut)
    | full => exact h.kept hquiet hlast _
    | unrouted => exact h.kept hquiet hlast _
    | failed => exact h.kept hquiet hlast _
  · simp only [Session.step, run_record_overflown vars hcount]
    exact h.kept h.is_quiet rfl 0

theorem Session.Counted.reopen {capacity : UInt64} {start : Nat} {session : Session σ}
    (h : session.Counted vars quiet capacity start) :
    (session.step vars .reopen).Counted vars quiet capacity start := by
  have hstate := state_load vars session.ledger.capacity session.state
  simp only [Session.step, hstate]
  cases hvalue : (Act.run (load vars session.ledger.capacity) session.state).value with
  | error overflow => exact h.kept h.is_quiet rfl 0
  | ok ledger =>
    rw [h.capacity_eq] at hvalue
    exact counted_opened h.is_quiet hvalue h.bounded

theorem Session.Counted.after (hfaithful : vars.Faithful quiet) {capacity : UInt64} {start : Nat}
    {session : Session σ} (h : session.Counted vars quiet capacity start) (steps : List Step) :
    (session.after vars steps).Counted vars quiet capacity start := by
  induction steps generalizing session with
  | nil => exact h
  | cons next rest ih =>
    cases next with
    | record s => exact ih (h.record hfaithful s)
    | reopen => exact ih h.reopen

/-- The ledger refuses a record for want of room. -/
def Refuses (vars : VariableStore σ) (ledger : Ledger) (s : Section) (state : σ) : Prop :=
  ∃ failure last, failure.IsFull ∧
    (Act.run (record vars ledger s) state).value = .ok (.error failure, last)

theorem refuses_iff (hfaithful : vars.Faithful quiet) {state : σ} (hquiet : quiet state)
    (ledger : Ledger) (s : Section) :
    Refuses vars ledger s state ↔
      (∃ raw slot, Routed s raw slot) ∧ ledger.CanGrow ∧ ¬ ledger.HasRoom := by
  constructor
  · rintro ⟨failure, after, hfull, hrefused⟩
    by_cases hcount : ledger.CanCount s
    · obtain ⟨result, hvalue, last, hrecorded, -⟩ :=
        record_ends hfaithful hcount ⟨hquiet, rfl⟩
      cases hvalue.symm.trans hrefused
      cases hrecorded with
      | full hrouted hover => exact ⟨⟨_, _, hrouted⟩, hcount _ _ hrouted, hover⟩
      | cut => exact absurd hfull id
      | unrouted hnone hother => exact absurd hfull hother
      | failed hroom hother => exact absurd hfull hother
    · rw [run_record_overflown vars hcount] at hrefused
      cases hrefused
  · rintro ⟨⟨raw, slot, hrouted⟩, hgrow, hover⟩
    refine ⟨.ledgerFull ledger.total ledger.capacity, ledger, trivial, ?_⟩
    rw [record_of_full hrouted hgrow hover, Act.run_pure]

theorem overflows_iff (hfaithful : vars.Faithful quiet) {state : σ} (hquiet : quiet state)
    (ledger : Ledger) (s : Section) :
    (Act.run (record vars ledger s) state).value = .error .addition ↔
      (∃ raw slot, Routed s raw slot) ∧ ¬ ledger.CanGrow := by
  constructor
  · intro hover
    have hcount : ¬ ledger.CanCount s := fun hcount => by
      obtain ⟨result, hvalue, -⟩ := record_ends hfaithful hcount ⟨hquiet, rfl⟩
      cases hover.symm.trans hvalue
    simp only [CanCount, Classical.not_forall] at hcount
    obtain ⟨raw, slot, hrouted, hgrow⟩ := hcount
    exact ⟨⟨raw, slot, hrouted⟩, hgrow⟩
  · rintro ⟨⟨raw, slot, hrouted⟩, hover⟩
    rw [record_of_overflow hrouted hover, Act.run_checked]

end Run

/-- The count and the size of the files along every run of records and openings. A ledger
that refuses a record or overflows does so by its count alone, before and after it is
opened again. -/
theorem size_after (vars : VariableStore σ) (quiet : σ → Prop) (hfaithful : vars.Faithful quiet)
    (capacity : UInt64) (state : σ) (hquiet : quiet state) (ledger : Ledger)
    (hopened : (Act.run (load vars capacity) state).value = .ok ledger) (steps : List Step) :
    let start := (vars.directory state).totalSize
    let last := (Session.opened ledger state).after vars steps
    let total := last.ledger.total.toNat
    let size := (vars.directory last.state).totalSize
    let reopening := (Act.run (load vars capacity) last.state).value
    (last.ledger.capacity = capacity ∧ (last.stored = 0 ∨ total ≤ capacity.toNat)) ∧
    (total + 4 * last.stored ≤ size ∧ size ≤ total + 4 * last.stored + 11 * last.failed) ∧
    (vars.WritesWhole quiet → size = total + 4 * last.stored ∧
      (start ≤ capacity.toNat → 2 * size ≤ 3 * capacity.toNat)) ∧
    (∀ next, reopening = .ok next ↔ next.capacity = capacity ∧ next.total.toNat = size) ∧
    ∀ s, (Refuses vars last.ledger s last.state ↔ (∃ raw slot, Routed s raw slot) ∧
        total + 8 < UInt64.size ∧ capacity.toNat < total + 8) ∧
      ((Act.run (record vars last.ledger s) last.state).value = .error .addition ↔
        (∃ raw slot, Routed s raw slot) ∧ UInt64.size ≤ total + 8) ∧
      ∀ next, reopening = .ok next → (Refuses vars next s last.state ↔
        (∃ raw slot, Routed s raw slot) ∧
          size + 8 < UInt64.size ∧ capacity.toNat < size + 8) := by
  intro start last total size reopening
  have hlast : last.Counted vars quiet capacity start :=
    (counted_opened hquiet hopened fun _ _ => by
      change 2 * start ≤ _
      omega).after hfaithful steps
  refine ⟨⟨hlast.capacity_eq, hlast.fits⟩, ⟨hlast.size_ge, hlast.size_le⟩,
    fun hwhole => ⟨hlast.size_eq hwhole, hlast.bounded hwhole⟩,
    fun next => value_load_eq_ok_iff vars capacity last.state, fun s => ⟨?_, ?_, ?_⟩⟩
  · rw [refuses_iff hfaithful hlast.is_quiet, CanGrow, HasRoom, hlast.capacity_eq, Nat.not_le]
    rfl
  · rw [overflows_iff hfaithful hlast.is_quiet, CanGrow, Nat.not_lt]
    rfl
  · intro next hnext
    obtain ⟨hcapacity, htotal⟩ := (value_load_eq_ok_iff vars capacity last.state).mp hnext
    rw [refuses_iff hfaithful hlast.is_quiet, CanGrow, HasRoom, hcapacity, htotal, Nat.not_le]
    rfl

theorem size_after_machine :
    let vars := Machine.variableStore "/efi"
    let machine : Machine := { files := ⟨[(["efi"], .directory)]⟩ }
    let fault : Section := .ofHeader [] [0, 0]
    let last := (Session.opened ⟨24, 0⟩ machine).after vars
      [.record fault, .reopen, .record fault]
    machine.script.sabotage = false ∧ (Act.run (load vars 24) machine).value = .ok ⟨24, 0⟩ ∧
      (vars.directory last.state).totalSize = last.ledger.total.toNat + 4 * last.stored := by
  intro vars machine fault last
  have hopened : (Act.run (load vars 24) machine).value = .ok ⟨24, 0⟩ :=
    (value_load_eq_ok_iff vars 24 machine).mpr ⟨rfl, by decide +kernel⟩
  obtain ⟨-, -, hwhole, -⟩ := size_after (Machine.variableStore "/efi") _
    (Machine.faithful_variableStore "/efi") 24 machine rfl ⟨24, 0⟩ hopened
    [.record fault, .reopen, .record fault]
  exact ⟨rfl, hopened, (hwhole (Machine.serves_variableStore "/efi").whole).1⟩

end Ledger

namespace VariableDirectory

def openFile (slot : Slot) (create : Bool) (directory : VariableDirectory) :
    Except IoError Unit × VariableDirectory :=
  match directory with
  | unreachable err => (.error err, directory)
  | present slots =>
    match slots slot with
    | none =>
      if create then (.ok (), directory.put slot (some (.file [])))
      else (.error (.os Errno.noEntry), directory)
    | some v => (v.read.map fun _ => (), directory)

/-- Write at the end of a file. -/
def writeFile (slot : Slot) (bytes : Bytes) (directory : VariableDirectory) :
    Except IoError Nat × VariableDirectory :=
  match directory.get slot with
  | none => (.error (.os Errno.noEntry), directory)
  | some v =>
    match v.read with
    | .error err => (.error err, directory)
    | .ok content => (.ok bytes.length, directory.put slot (some (.file (content ++ bytes))))

end VariableDirectory

namespace Ledger

/-- A store that is nothing but its directory, with no file immutable. -/
def plainStore : VariableStore VariableDirectory where
  directory := id
  path := Slot.fileName
  openFile := VariableDirectory.openFile
  write := VariableDirectory.writeFile
  isImmutable _ directory := (.ok false, directory)
  setImmutable _ _ directory := (.ok (), directory)

/-- In an empty directory with room for sixteen bytes one record counts as eight bytes and
takes twelve. A second one is stored, unless the ledger is opened again before it; the
variables are then larger than the capacity. -/
theorem size_ahead_of_total :
    let fault : Section := .ofHeader [] [0, 0]
    let empty : VariableDirectory := .present fun _ => none
    let one := (Session.opened ⟨16, 0⟩ empty).after plainStore [.record fault]
    let two := one.after plainStore [.record fault]
    let reopened := one.after plainStore [.reopen]
    (Act.run (load plainStore 16) empty).value = .ok ⟨16, 0⟩ ∧
    (one.ledger.total = 8 ∧ one.state.totalSize = 12 ∧ reopened.ledger.total = 12) ∧
    (two.ledger.total = 16 ∧ two.state.totalSize = 24) ∧
    (Act.run (record plainStore one.ledger fault) one.state).value = .ok (.ok 0, two.ledger) ∧
    (Act.run (record plainStore reopened.ledger fault) reopened.state).value =
      .ok (.error (.ledgerFull 12 16), ⟨16, 12⟩) := by
  refine ⟨?_, ⟨?_, ?_, ?_⟩, ⟨?_, ?_⟩, ?_, ?_⟩ <;> rfl

end Ledger

end MemoryRepair
