import MemoryRepair.Trace.Page

/-!
The items of a trace page as they are written, and what reading makes of them. An item
carries the facts that make its encoding readable: the length of a short record is in
its header, that of a long one in a word of its own, and padding has a difference of
time that is not zero. Reading the encoding of items gives their records, with the time
that the differences, extensions and stamps before them add up to.
-/
namespace MemoryRepair.Trace

/-- The difference of time in the header of an item. -/
abbrev Delta := Fin Cursor.deltaLimit

inductive RingItem
  | short (delta : Delta) (data : Bytes) (aligned : data.length % 4 = 0)
      (fits : 0 < data.length ∧ data.length ≤ 112)
  | long (delta : Delta) (word : UInt32) (data : Bytes)
      (fits : 4 ≤ word.toNat ∧ data.length = (word.toNat - 4 + 3) / 4 * 4)
  /-- More time than fits a header. -/
  | extend (delta : Delta) (high : UInt32)
  /-- The time itself in place of a difference. -/
  | stamp (delta : Delta) (high : UInt32)
  | padding (delta : Delta) (filler : Bytes) (nonNull : delta.val ≠ 0)
      (fits : 4 + filler.length < UInt32.size)

namespace RingItem

def header (kind : Nat) (delta : Delta) : UInt32 :=
  UInt32.ofNat (kind + 32 * delta.val)

def encode : RingItem → Bytes
  | short delta data _ _ => LittleEndian.ofWord32 (header (data.length / 4) delta) ++ data
  | long delta word data _ =>
    LittleEndian.ofWord32 (header 0 delta) ++ (LittleEndian.ofWord32 word ++ data)
  | extend delta high =>
    LittleEndian.ofWord32 (header Cursor.kindExtend delta) ++ LittleEndian.ofWord32 high
  | stamp delta high =>
    LittleEndian.ofWord32 (header Cursor.kindStamp delta) ++ LittleEndian.ofWord32 high
  | padding delta filler _ _ =>
    LittleEndian.ofWord32 (header Cursor.kindPadding delta) ++
      (LittleEndian.ofWord32 (UInt32.ofNat (4 + filler.length)) ++ filler)

/-- The data of a record. -/
def data? : RingItem → Option Bytes
  | short _ data _ _ => some data
  | long _ _ data _ => some data
  | _ => none

/-- The time after an item. -/
def advance (time : Nat) : RingItem → Nat
  | short delta _ _ _ => time + delta.val
  | long delta _ _ _ => time + delta.val
  | extend delta high => time + (high.toNat * Cursor.deltaLimit + delta.val)
  | stamp delta high => high.toNat * Cursor.deltaLimit + delta.val
  | padding _ _ _ _ => time

def encodeAll (items : List RingItem) : Bytes :=
  items.flatMap encode

/-- The time stays within its 64 bits. -/
def InTime : Nat → List RingItem → Prop
  | _, [] => True
  | time, item :: rest => item.advance time < UInt64.size ∧ InTime (item.advance time) rest

/-- The records of items, each with the time reached. -/
def records : Nat → List RingItem → List Record
  | _, [] => []
  | time, item :: rest =>
    match item.data? with
    | some data => ⟨UInt64.ofNat (item.advance time), data⟩ :: records (item.advance time) rest
    | none => records (item.advance time) rest

/-- The time after all items. -/
def clock (time : Nat) (items : List RingItem) : Nat :=
  items.foldl advance time

theorem toNat_header {kind : Nat} (hkind : kind < 32) (delta : Delta) :
    (header kind delta).toNat = kind + 32 * delta.val := by
  have hdelta := delta.isLt
  simp only [Cursor.deltaLimit] at hdelta
  simp only [header, UInt32.toNat_ofNat']
  omega

theorem header_mod {kind : Nat} (hkind : kind < 32) (delta : Delta) :
    (header kind delta).toNat % 32 = kind := by
  rw [toNat_header hkind]
  omega

theorem header_div {kind : Nat} (hkind : kind < 32) (delta : Delta) :
    (header kind delta).toNat / 32 = delta.val := by
  rw [toNat_header hkind]
  omega

end RingItem

namespace Cursor

open RingItem

theorem add_ofNat {time : UInt64} {more : Nat} (h : time.toNat + more < UInt64.size) :
    Word64.add time (UInt64.ofNat more) = .ok (UInt64.ofNat (time.toNat + more)) := by
  have hmore : (UInt64.ofNat more).toNat = more := by
    rw [UInt64.toNat_ofNat']
    exact Nat.mod_eq_of_lt (Nat.lt_of_le_of_lt (Nat.le_add_left _ _) h)
  rw [Word64.add_eq_ok _ _ (by rwa [hmore])]
  congr 1
  apply UInt64.toNat_inj.mp
  rw [UInt64.toNat_add, hmore, UInt64.toNat_ofNat']

theorem deliver_append {cursor : Cursor} {delta : Nat} {data after : Bytes}
    (h : cursor.timestamp.toNat + delta < UInt64.size) :
    deliver cursor delta (data ++ after) data.length =
      .ok (.record ⟨UInt64.ofNat (cursor.timestamp.toNat + delta), data⟩
        ⟨UInt64.ofNat (cursor.timestamp.toNat + delta), after⟩) := by
  unfold deliver
  rw [Bytes.slice_append_left]
  simp only [add_ofNat h, List.drop_left]
  rfl

/-- What reading makes of an item: its record, or nothing but the time. -/
def stepOf (item : RingItem) (time : Nat) (after : Bytes) : Step :=
  match item.data? with
  | some data => .record ⟨UInt64.ofNat (item.advance time), data⟩
      ⟨UInt64.ofNat (item.advance time), after⟩
  | none => .skip ⟨UInt64.ofNat (item.advance time), after⟩

/-- Reading takes an item as a whole and leaves what follows it. -/
theorem step_encode (item : RingItem) (time : UInt64) (after : Bytes)
    (h : item.advance time.toNat < UInt64.size) :
    step ⟨time, item.encode ++ after⟩ = .ok (stepOf item time.toNat after) := by
  cases item with
  | short delta data aligned fits =>
    have hkind : data.length / 4 < kindPadding := by simp only [kindPadding]; omega
    have hword : data.length / 4 < 32 := Nat.lt_trans hkind (by decide)
    have hlength : 4 * (data.length / 4) = data.length := by omega
    rw [encode, List.append_assoc]
    unfold step
    simp only [LittleEndian.word32At_append, header_mod hword, header_div hword,
      LittleEndian.drop_ofWord32]
    rw [if_neg fun hpadding => absurd hpadding.1 (Nat.ne_of_lt hkind), if_pos ⟨by omega, hkind⟩,
      hlength]
    exact deliver_append h
  | long delta word data fits =>
    rw [encode, List.append_assoc, List.append_assoc]
    unfold step
    simp only [LittleEndian.word32At_append, header_mod (show 0 < 32 by decide),
      header_div (show 0 < 32 by decide), LittleEndian.drop_ofWord32]
    rw [if_neg fun hpadding => absurd hpadding.1 (by decide), if_neg (by decide),
      if_neg (by decide), if_neg (by decide), if_neg (by decide),
      if_neg (Nat.not_lt.mpr fits.1), ← fits.2]
    exact deliver_append h
  | extend delta high =>
    rw [encode, List.append_assoc]
    unfold step
    simp only [LittleEndian.word32At_append, header_mod (show kindExtend < 32 by decide),
      header_div (show kindExtend < 32 by decide), LittleEndian.drop_ofWord32]
    rw [if_neg fun hpadding => absurd hpadding.1 (by decide), if_neg (by decide),
      if_neg (by decide), if_pos trivial, add_ofNat h]
    rfl
  | stamp delta high =>
    rw [encode, List.append_assoc]
    unfold step
    simp only [LittleEndian.word32At_append, header_mod (show kindStamp < 32 by decide),
      header_div (show kindStamp < 32 by decide), LittleEndian.drop_ofWord32]
    rw [if_neg fun hpadding => absurd hpadding.1 (by decide), if_neg (by decide),
      if_neg (by decide), if_neg (by decide), if_pos trivial]
    rfl
  | padding delta filler nonNull fits =>
    have hlength : (UInt32.ofNat (4 + filler.length)).toNat = 4 + filler.length := by
      rw [UInt32.toNat_ofNat']
      exact Nat.mod_eq_of_lt fits
    have hskip : ∀ word : UInt32, (LittleEndian.ofWord32 word ++ (filler ++ after)).drop
        (4 + filler.length) = after := by
      intro word
      rw [← List.drop_drop, LittleEndian.drop_ofWord32, List.drop_left]
    rw [encode, List.append_assoc, List.append_assoc]
    unfold step
    simp only [LittleEndian.word32At_append, header_mod (show kindPadding < 32 by decide),
      header_div (show kindPadding < 32 by decide), LittleEndian.drop_ofWord32, hlength, hskip]
    rw [if_neg fun hnull => nonNull hnull.2, if_neg (by decide), if_pos trivial, stepOf]
    simp only [data?, advance, UInt64.ofNat_toNat]

theorem readAll_of_record {cursor after : Cursor} {record : Record}
    (h : step cursor = .ok (.record record after)) :
    readAll cursor = ⟨record :: (readAll after).records, (readAll after).final⟩ := by
  rw [readAll]
  split <;> simp_all

theorem readAll_of_skip {cursor after : Cursor} (h : step cursor = .ok (.skip after)) :
    readAll cursor = readAll after := by
  rw [readAll]
  split <;> simp_all

theorem readAll_of_stop {cursor final : Cursor} (h : step cursor = .ok (.stop final)) :
    readAll cursor = ⟨[], .ok final⟩ := by
  rw [readAll]
  split <;> simp_all

/-- Reading items yields their records, then what reading yields from there. -/
theorem readAll_encodeAll (items : List RingItem) (time : UInt64) (after : Bytes)
    (h : InTime time.toNat items) :
    readAll ⟨time, encodeAll items ++ after⟩ =
      ⟨records time.toNat items ++
          (readAll ⟨UInt64.ofNat (clock time.toNat items), after⟩).records,
        (readAll ⟨UInt64.ofNat (clock time.toNat items), after⟩).final⟩ := by
  induction items generalizing time with
  | nil => simp [encodeAll, RingItem.records, clock]
  | cons item rest ih =>
    obtain ⟨hitem, hrest⟩ := h
    have htime : (UInt64.ofNat (item.advance time.toNat)).toNat = item.advance time.toNat := by
      rw [UInt64.toNat_ofNat']
      exact Nat.mod_eq_of_lt hitem
    have hstep := step_encode item time (encodeAll rest ++ after) hitem
    have hih := ih (UInt64.ofNat (item.advance time.toNat)) (by rwa [htime])
    rw [htime] at hih
    have hbytes : encodeAll (item :: rest) ++ after = item.encode ++ (encodeAll rest ++ after) := by
      simp [encodeAll]
    rw [hbytes]
    cases hdata : item.data? with
    | some data =>
      simp only [stepOf, hdata] at hstep
      rw [readAll_of_record hstep, hih]
      simp [RingItem.records, hdata, clock]
    | none =>
      simp only [stepOf, hdata] at hstep
      rw [readAll_of_skip hstep, hih]
      simp [RingItem.records, hdata, clock]

/-- A page that holds the encoding of items and nothing else holds their records. -/
theorem readAll_items (items : List RingItem) (time : UInt64) (h : InTime time.toNat items) :
    readAll ⟨time, encodeAll items⟩ =
      ⟨records time.toNat items, .ok ⟨UInt64.ofNat (clock time.toNat items), []⟩⟩ := by
  have hitems := readAll_encodeAll items time [] h
  have hend : readAll ⟨UInt64.ofNat (clock time.toNat items), []⟩ =
      ⟨[], .ok ⟨UInt64.ofNat (clock time.toNat items), []⟩⟩ := readAll_of_stop rfl
  rwa [hend, List.append_nil, List.append_nil] at hitems

end Cursor

end MemoryRepair.Trace
