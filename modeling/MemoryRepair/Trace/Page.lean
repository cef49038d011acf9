import MemoryRepair.Overflow
import MemoryRepair.Trace.Format

/-!
Pages of the trace ring buffer. A page states its base time and how many of its
bytes are committed; the committed bytes are a row of items, each with a header
word that gives its kind and the time since the item before. A cursor keeps the
time reached and the bytes not yet read.
-/
namespace MemoryRepair.Trace

structure Record where
  timestamp : UInt64
  data : Bytes
  deriving DecidableEq, Repr

structure Cursor where
  timestamp : UInt64
  rest : Bytes
  deriving DecidableEq, Repr

namespace Cursor

/-- Time differences and commit counts have 27 bits. -/
def deltaLimit : Nat := 0x8000000

/-- Start reading a page. A page too short for its layout has no records at all. -/
def ofPage (page : Bytes) (header : HeaderPage) : Except Overflow (Option Cursor) := do
  let _ ← Word64.add header.timestampOffset 8
  match page.slice header.timestampOffset.toNat 8 with
  | none => pure none
  | some timestamp =>
    let _ ← Word64.add header.commitOffset header.commitSize
    match page.slice header.commitOffset.toNat header.commitSize.toNat with
    | none => pure none
    | some commit =>
      if (commit.length = 4 ∨ commit.length = 8) ∧ header.dataOffset.toNat ≤ page.length then
        let size := LittleEndian.decode commit % deltaLimit
        pure (some ⟨LittleEndian.toWord64 timestamp,
          (page.drop header.dataOffset.toNat).take size⟩)
      else pure none

def kindPadding : Nat := 29
def kindExtend : Nat := 30
def kindStamp : Nat := 31

/-- What one item does to a cursor. -/
inductive Step
  | record (record : Record) (next : Cursor)
  | skip (next : Cursor)
  | stop (final : Cursor)

/-- Deliver the first len bytes of the body as a record. -/
def deliver (cursor : Cursor) (delta : Nat) (body : Bytes) (len : Nat) : Except Overflow Step :=
  match body.slice 0 len with
  | none => .ok (.stop cursor)
  | some data =>
    (Word64.add cursor.timestamp (UInt64.ofNat delta)).map fun timestamp =>
      .record ⟨timestamp, data⟩ ⟨timestamp, body.drop len⟩

/-- Read one item. Nothing is consumed by an item that is not complete. -/
def step (cursor : Cursor) : Except Overflow Step :=
  match LittleEndian.word32At cursor.rest 0 with
  | none => .ok (.stop cursor)
  | some header =>
    let kind := header.toNat % 32
    let delta := header.toNat / 32
    let body := cursor.rest.drop 4
    if kind = kindPadding ∧ delta = 0 then .ok (.stop ⟨cursor.timestamp, []⟩)
    else if 0 < kind ∧ kind < kindPadding then deliver cursor delta body (4 * kind)
    else
      match LittleEndian.word32At body 0 with
      | none => .ok (.stop cursor)
      | some word =>
        if kind = kindPadding then .ok (.skip ⟨cursor.timestamp, body.drop word.toNat⟩)
        else if kind = kindExtend then
          (Word64.add cursor.timestamp (UInt64.ofNat (word.toNat * deltaLimit + delta))).map
            fun timestamp => .skip ⟨timestamp, body.drop 4⟩
        else if kind = kindStamp then
          .ok (.skip ⟨UInt64.ofNat (word.toNat * deltaLimit + delta), body.drop 4⟩)
        else if word.toNat < 4 then .ok (.stop cursor)
        else deliver cursor delta (body.drop 4) ((word.toNat - 4 + 3) / 4 * 4)

theorem length_lt_of_word32At {bytes : Bytes} {w : UInt32}
    (h : LittleEndian.word32At bytes 0 = some w) : 4 ≤ bytes.length := by
  obtain ⟨piece, hpiece, -⟩ := Option.map_eq_some_iff.mp h
  have hreach := (Bytes.slice_eq_some_iff.mp hpiece).1
  omega

theorem length_lt_of_deliver {cursor next : Cursor} {delta len : Nat} {body : Bytes}
    {record : Record} (hbody : body.length < cursor.rest.length)
    (h : deliver cursor delta body len = .ok (.record record next)) :
    next.rest.length < cursor.rest.length := by
  unfold deliver at h
  split at h
  · cases h
  · cases hadd : Word64.add cursor.timestamp (UInt64.ofNat delta) with
    | error overflow => rw [hadd] at h; cases h
    | ok timestamp =>
      rw [hadd] at h
      cases h
      simp only [List.length_drop]
      omega

theorem not_skip_of_deliver {cursor next : Cursor} {delta len : Nat} {body : Bytes} :
    deliver cursor delta body len ≠ .ok (.skip next) := by
  unfold deliver
  split
  · simp
  · cases Word64.add cursor.timestamp (UInt64.ofNat delta) <;> simp [Except.map]

/-- Every item that is consumed takes its header with it. -/
theorem length_lt_of_step_record {cursor next : Cursor} {record : Record}
    (h : step cursor = .ok (.record record next)) :
    next.rest.length < cursor.rest.length := by
  unfold step at h
  split at h
  · cases h
  · rename_i header hheader
    have hlen := length_lt_of_word32At hheader
    have hbody : (cursor.rest.drop 4).length < cursor.rest.length := by
      simp only [List.length_drop]; omega
    simp only at h
    split at h
    · cases h
    · split at h
      · exact length_lt_of_deliver hbody h
      · split at h
        · cases h
        · rename_i word hword
          split at h
          · cases h
          · split at h
            · cases hadd : Word64.add cursor.timestamp
                (UInt64.ofNat (word.toNat * deltaLimit + header.toNat / 32)) with
              | error overflow => rw [hadd] at h; cases h
              | ok timestamp => rw [hadd] at h; cases h
            · split at h
              · cases h
              · split at h
                · cases h
                · refine length_lt_of_deliver ?_ h
                  simp only [List.length_drop] at hbody ⊢
                  omega

theorem length_lt_of_step_skip {cursor next : Cursor}
    (h : step cursor = .ok (.skip next)) : next.rest.length < cursor.rest.length := by
  unfold step at h
  split at h
  · cases h
  · rename_i header hheader
    have hlen := length_lt_of_word32At hheader
    simp only at h
    split at h
    · cases h
    · split at h
      · exact absurd h not_skip_of_deliver
      · split at h
        · cases h
        · rename_i word hword
          split at h
          · cases h
            simp only [List.length_drop]; omega
          · split at h
            · cases hadd : Word64.add cursor.timestamp
                (UInt64.ofNat (word.toNat * deltaLimit + header.toNat / 32)) with
              | error overflow => rw [hadd] at h; cases h
              | ok timestamp =>
                rw [hadd] at h
                cases h
                simp only [List.length_drop]; omega
            · split at h
              · cases h
                simp only [List.length_drop]; omega
              · split at h
                · cases h
                · exact absurd h not_skip_of_deliver

/-- The next record, if there is one, and the cursor after it. -/
def next (cursor : Cursor) : Except Overflow (Option Record × Cursor) :=
  match _h : step cursor with
  | .error overflow => .error overflow
  | .ok (.record record after) => .ok (some record, after)
  | .ok (.skip after) => next after
  | .ok (.stop final) => .ok (none, final)
termination_by cursor.rest.length
decreasing_by exact length_lt_of_step_skip _h

/-- What a page yields. -/
structure Reading where
  /-- The records in order. -/
  records : List Record
  /-- The cursor at which no more come, unless the time overflows before that. -/
  final : Except Overflow Cursor

/-- Read to the end. -/
def readAll (cursor : Cursor) : Reading :=
  match _h : step cursor with
  | .error overflow => ⟨[], .error overflow⟩
  | .ok (.record record after) =>
    let more := readAll after
    ⟨record :: more.records, more.final⟩
  | .ok (.skip after) => readAll after
  | .ok (.stop final) => ⟨[], .ok final⟩
termination_by cursor.rest.length
decreasing_by
  · exact length_lt_of_step_record _h
  · exact length_lt_of_step_skip _h

end Cursor

end MemoryRepair.Trace
