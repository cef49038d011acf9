import Mathlib.Data.List.Forall2
import MemoryRepair.Proofs.LedgerRun

/-!
The file of a slot as a log. A run leaves each file as it was, followed by one chunk for
each record stored in the slot, in order; the first chunk of a new file creates the
variable, and every other chunk appends to it. Written one after the other, the chunks
give a variable that holds the recorded addresses and nothing else.
-/
namespace MemoryRepair

/-- The last two registers are the words of the address, the low word first. -/
def Section.EndsWith (s : Section) (raw : UInt64) : Prop :=
  ∃ front low high, s.registers = front ++ [low, high] ∧
    raw.toNat = low.toNat + UInt32.size * high.toNat

theorem FaultAddress.toNat_joinWords (low high : UInt32) :
    (joinWords low high).toNat = low.toNat + UInt32.size * high.toNat := by
  have hlow := low.toNat_lt
  have hhigh := high.toNat_lt
  simp only [joinWords, UInt32.size]
  exact UInt64.toNat_ofNat_of_lt' (by simp only [UInt64.size]; omega)

theorem Section.rawFault_eq_some_iff {s : Section} {raw : UInt64} :
    s.rawFault = some raw ↔ s.EndsWith raw := by
  constructor
  · intro h
    unfold rawFault at h
    split at h
    · next high low rest hregisters =>
      refine ⟨rest.reverse, low, high, ?_, ?_⟩
      · simpa using congrArg List.reverse hregisters
      · rw [← Option.some.inj h, FaultAddress.toNat_joinWords]
    · cases h
  · rintro ⟨front, low, high, hregisters, hraw⟩
    have hjoined : FaultAddress.joinWords low high = raw :=
      UInt64.toNat_inj.mp ((FaultAddress.toNat_joinWords low high).trans hraw.symm)
    simp only [rawFault, hregisters, List.reverse_append, List.reverse_cons, List.reverse_nil,
      List.nil_append, List.cons_append, hjoined]

namespace Ledger

theorem attributes_chunk_append (attributes : UInt32) (raw : UInt64) (more : Bytes) :
    attributes? (chunk attributes raw ++ more) = some attributes := by
  rw [chunk, List.append_assoc]
  exact LittleEndian.word32At_append attributes _

/-- Chunks that append, with the attributes of the file. -/
def laterChunks (attributes : UInt32) (raws : List UInt64) : Bytes :=
  raws.flatMap (chunk (attributes ||| appendAttribute))

theorem laterChunks_append (attributes : UInt32) (first second : List UInt64) :
    laterChunks attributes (first ++ second) =
      laterChunks attributes first ++ laterChunks attributes second :=
  List.flatMap_append

/-- What stands at a slot before and after packed addresses were stored there. -/
inductive Logged : Option Variable → List UInt64 → Option Variable → Prop
  | untouched (v : Option Variable) : Logged v [] v
  | created (raw : UInt64) (rest : List UInt64) :
      Logged none (raw :: rest)
        (some (.file (chunk baseAttributes raw ++ laterChunks baseAttributes rest)))
  | extended {content : Bytes} {attributes : UInt32} (h : attributes? content = some attributes)
      (raws : List UInt64) :
      Logged (some (.file content)) raws (some (.file (content ++ laterChunks attributes raws)))

theorem Stored.logged {raw : UInt64} {v : Option Variable} {bytes : Bytes}
    (h : Stored raw v bytes) : Logged v [raw] (some (.file bytes)) := by
  cases h with
  | created => simpa [laterChunks] using Logged.created raw []
  | appended hattributes => simpa [laterChunks] using Logged.extended hattributes [raw]

/-- A file that states its attributes is only appended to. -/
theorem Logged.eq_of_attributes {file : Bytes} {attributes : UInt32} {raws : List UInt64}
    {after : Option Variable} (h : Logged (some (.file file)) raws after)
    (hattributes : attributes? file = some attributes) :
    after = some (.file (file ++ laterChunks attributes raws)) := by
  cases h with
  | untouched => rw [laterChunks, List.flatMap_nil, List.append_nil]
  | extended hstated =>
    rw [hattributes] at hstated
    cases hstated
    rfl

theorem Logged.trans {v w u : Option Variable} {first second : List UInt64}
    (hfirst : Logged v first w) (hsecond : Logged w second u) : Logged v (first ++ second) u := by
  cases hfirst with
  | untouched => exact hsecond
  | created raw rest =>
    rw [hsecond.eq_of_attributes (attributes_chunk_append baseAttributes raw _),
      List.append_assoc, ← laterChunks_append]
    exact .created raw (rest ++ second)
  | extended hcontent raws =>
    rw [hsecond.eq_of_attributes (LittleEndian.word32At_append_of_some hcontent _),
      List.append_assoc, ← laterChunks_append]
    exact .extended hcontent (first ++ second)

section Runs

variable {σ : Type} {vars : VariableStore σ} {quiet : σ → Prop}

theorem Used.logged {before after : VariableDirectory} {answer : Answer}
    (h : Used vars quiet before answer after) (slot : Slot) :
    ∃ raws, List.Forall₂ (Routed · · slot) (storedAt slot [answer]) raws ∧
      (vars.WritesWhole quiet → Logged (before.get slot) raws (after.get slot)) := by
  cases h with
  | @stored s raw k bytes hrouted hreached hstored =>
    by_cases hk : k = slot
    · subst hk
      obtain ⟨slots, rfl⟩ := hreached
      refine ⟨[raw], by simpa [storedAt, Answer.storedAt?] using hrouted, ?_⟩
      rw [VariableDirectory.get_put_self]
      exact fun _ => hstored.logged
    · refine ⟨[], by simp [storedAt, Answer.storedAt?, hk], ?_⟩
      rw [VariableDirectory.get_put_of_ne before _ (Ne.symm hk)]
      exact fun _ => .untouched _
  | cut hpart => exact ⟨[], .nil, fun hwhole => absurd hwhole hpart⟩
  | refused => exact ⟨[], .nil, fun _ => .untouched _⟩
  | opened => exact ⟨[], .nil, fun _ => .untouched _⟩
  | contents => exact ⟨[], .nil, fun _ => .untouched _⟩
  | overflown => exact ⟨[], .nil, fun _ => .untouched _⟩

/-- The sections that a run stores in a slot are routed there, and where writes are whole,
their addresses are logged. -/
theorem Performed.logged {before after : VariableDirectory} {answers : List Answer}
    (h : Performed vars quiet before answers after) (slot : Slot) :
    ∃ raws, List.Forall₂ (Routed · · slot) (storedAt slot answers) raws ∧
      (vars.WritesWhole quiet → Logged (before.get slot) raws (after.get slot)) := by
  induction h with
  | nil => exact ⟨[], .nil, fun _ => .untouched _⟩
  | @cons before mid after answer answers head tail ih =>
    obtain ⟨first, hfirst, hhead⟩ := head.logged slot
    obtain ⟨rest, hrest, htail⟩ := ih
    have hsplit : storedAt slot (answer :: answers) =
        storedAt slot [answer] ++ storedAt slot answers := by
      rw [storedAt, storedAt, storedAt, ← List.filterMap_append, List.singleton_append]
    rw [hsplit]
    exact ⟨first ++ rest, List.rel_append hfirst hrest,
      fun hwhole => (hhead hwhole).trans (htail hwhole)⟩

end Runs

/-- A write to a firmware variable, its attributes and its data: they replace the
variable, or the data is appended to it. -/
def writeVariable (v write : Bytes) : Bytes :=
  match attributes? write with
  | none => v
  | some attributes => if attributes &&& appendAttribute = 0 then write else v ++ write.drop 4

/-- The variable after the writes that a file consists of. -/
def replay (file : Bytes) : Bytes :=
  (file.chunks chunkSize).foldl writeVariable []

theorem writeVariable_base (v : Bytes) (raw : UInt64) :
    writeVariable v (chunk baseAttributes raw) = chunk baseAttributes raw := by
  have h := attributes_chunk_append baseAttributes raw []
  rw [List.append_nil] at h
  simp only [writeVariable, h]
  rfl

theorem writeVariable_append (v : Bytes) (raw : UInt64) :
    writeVariable v (chunk (baseAttributes ||| appendAttribute) raw) =
      v ++ LittleEndian.ofWord64 raw := by
  have h := attributes_chunk_append (baseAttributes ||| appendAttribute) raw []
  rw [List.append_nil] at h
  simp only [writeVariable, h]
  rw [if_neg (by decide), chunk, LittleEndian.drop_ofWord32]

theorem foldl_writeVariable (v : Bytes) (raws : List UInt64) :
    (raws.map (chunk (baseAttributes ||| appendAttribute))).foldl writeVariable v =
      v ++ raws.flatMap LittleEndian.ofWord64 := by
  induction raws generalizing v with
  | nil => simp
  | cons raw rest ih =>
    rw [List.map_cons, List.foldl_cons, writeVariable_append, ih, List.append_assoc,
      List.flatMap_cons]

/-- The chunks of a new file write the base attributes and the addresses. -/
theorem replay_created (raw : UInt64) (rest : List UInt64) :
    replay (chunk baseAttributes raw ++ laterChunks baseAttributes rest) =
      LittleEndian.ofWord32 baseAttributes ++ (raw :: rest).flatMap LittleEndian.ofWord64 := by
  have hpos : 0 < chunkSize := by decide
  rw [replay, Bytes.chunks_append hpos (length_chunk _ _), laterChunks,
    Bytes.chunks_flatMap hpos (length_chunk _), List.foldl_cons, writeVariable_base,
    foldl_writeVariable, chunk, List.append_assoc, List.flatMap_cons]

example : replay (chunk 0x7 5 ++ chunk 0x47 9) =
    [7, 0, 0, 0, 5, 0, 0, 0, 0, 0, 0, 0, 9, 0, 0, 0, 0, 0, 0, 0] := by cbv

theorem ofBytes_addresses (slot : Slot) (attributes : UInt32) (raws : List UInt64) :
    Content.ofBytes slot
      (LittleEndian.ofWord32 attributes ++ raws.flatMap LittleEndian.ofWord64) =
        some ⟨slot, attributes, raws⟩ := by
  have hwidth : ∀ raw, (LittleEndian.ofWord64 raw).length = recordSize := fun raw =>
    LittleEndian.length_encode 8 _
  have hattributes : attributes?
      (LittleEndian.ofWord32 attributes ++ raws.flatMap LittleEndian.ofWord64) = some attributes :=
    LittleEndian.word32At_append attributes _
  have hback : LittleEndian.toWord64 ∘ LittleEndian.ofWord64 = id :=
    funext LittleEndian.toWord64_ofWord64
  rw [Content.ofBytes, hattributes, Option.map_some, LittleEndian.drop_ofWord32,
    Bytes.chunks_flatMap (by decide) hwidth, List.map_map, hback, List.map_id]

/-- What a slot keeps of the sections recorded in it: its file logs their addresses, and
a file that began with them gives a variable that reads back as these addresses. -/
structure Keeps (slot : Slot) (sections : List Section) (before after : Option Variable)
    (raws : List UInt64) : Prop where
  addresses : List.Forall₂ Section.EndsWith sections raws
  logged : Logged before raws after
  replayed : before = none → raws ≠ [] → ∃ file, after = some (.file file) ∧
    Content.ofBytes slot (replay file) = some ⟨slot, 0x7, raws⟩

/-- Each slot keeps what a run stored in it, in order. -/
theorem perform_keeps {σ : Type} (vars : VariableStore σ) (quiet : σ → Prop)
    (hfaithful : vars.Faithful quiet) (hwhole : vars.WritesWhole quiet) (ledger : Ledger)
    (uses : List Use) (state : σ) (hquiet : quiet state) :
    Act.Ends (perform vars ledger uses) state fun result after =>
      ∀ slot, ∃ raws, Keeps slot (storedAt slot result.1) ((vars.directory state).get slot)
        ((vars.directory after).get slot) raws := by
  refine (perform_ends hfaithful uses ledger ⟨hquiet, rfl⟩).mono ?_
  rintro ⟨answers, last⟩ after ⟨directory, hperformed, -, rfl⟩ slot
  obtain ⟨raws, haddresses, hwholeLogged⟩ := hperformed.logged slot
  have hlogged := hwholeLogged hwhole
  refine ⟨raws, haddresses.imp fun _ _ h => Section.rawFault_eq_some_iff.mp h.1, hlogged,
    fun hnone hsome => ?_⟩
  -- Where nothing stood before, an address that was stored made the file.
  rw [hnone] at hlogged
  generalize (vars.directory after).get slot = final at hlogged
  cases hlogged with
  | untouched => exact absurd rfl hsome
  | created raw rest =>
    refine ⟨_, rfl, ?_⟩
    rw [replay_created, ofBytes_addresses]
    rfl

/-- Two slots of an empty directory, an opening between the records, and an attribute that
cannot be set again. -/
theorem perform_keeps_machine :
    let vars := Machine.variableStore "/efi"
    let machine : Machine :=
      { files := ⟨[(["efi"], .directory)]⟩, script := { failSet := some Errno.notPermitted } }
    let uses : List Use :=
      [.record (.ofHeader [] [0, 0]), .record (.ofHeader [] [5, 1, 0]), .reopen 64,
       .read Slot.all, .record (.ofHeader [] [0, 0, 7])]
    let quiet : Machine → Prop := fun machine => machine.script.sabotage = false
    quiet machine ∧ vars.WritesWhole quiet ∧
      Act.Ends (perform vars ⟨64, 0⟩ uses) machine fun result after =>
        ∀ slot, ∃ raws, Keeps slot (storedAt slot result.1) ((vars.directory machine).get slot)
          ((vars.directory after).get slot) raws :=
  ⟨rfl, (Machine.serves_variableStore "/efi").whole,
    perform_keeps (Machine.variableStore "/efi") _ (Machine.faithful_variableStore "/efi")
      (Machine.serves_variableStore "/efi").whole _ _ _ rfl⟩

end Ledger

end MemoryRepair
