import MemoryRepair.Proofs.PageLoading
import MemoryRepair.Proofs.PageReading
import MemoryRepair.Proofs.PageTime

/-!
Iterating over a page. An item takes at least its header with it, the data of a record are a
piece of the bytes behind a header, and a cursor that has stopped stops again. So the reading
of a page ends within as many headers as its committed bytes have room for, its records are
separate pieces of these bytes, one behind the other, and after the last one there is never
another one.
-/
namespace MemoryRepair.Trace

namespace Cursor

/-- What a step takes from the bytes of a cursor. A stop leaves all of them or none. -/
def Takes (cursor : Cursor) : Step → Prop
  | .record record after => ∃ start, 4 ≤ start ∧ 4 ∣ record.data.length ∧
      cursor.rest.slice start record.data.length = some record.data ∧
      after.rest = cursor.rest.drop (start + record.data.length)
  | .skip after => 4 ≤ cursor.rest.length ∧ ∃ len, 4 ≤ len ∧ after.rest = cursor.rest.drop len
  | .stop final => final = cursor ∨ final = ⟨cursor.timestamp, []⟩

section Steps

variable {cursor : Cursor} {result : Step}

theorem deliver_takes {delta start len : Nat} (hstart : 4 ≤ start)
    (hreach : start ≤ cursor.rest.length) (hlen : 4 ∣ len)
    (h : deliver cursor delta (cursor.rest.drop start) len = .ok result) :
    cursor.Takes result := by
  have hslice : Bytes.slice (cursor.rest.drop start) 0 len = cursor.rest.slice start len :=
    Bytes.slice_drop (Or.inl hreach)
  unfold deliver at h
  rw [hslice] at h
  cases hpiece : cursor.rest.slice start len with
  | none =>
    rw [hpiece] at h
    cases h
    exact Or.inl rfl
  | some piece =>
    have hlength := Bytes.length_of_slice hpiece
    rw [hpiece] at h
    simp only at h
    cases hadd : Word64.add cursor.timestamp (UInt64.ofNat delta) with
    | error overflow =>
      rw [hadd] at h
      cases h
    | ok time =>
      rw [hadd] at h
      cases h
      refine ⟨start, hstart, hlength ▸ hlen, ?_, ?_⟩
      · rw [hlength, hpiece]
      · rw [hlength, List.drop_drop]

theorem stepWorded_takes {kind delta : Nat} {word : UInt32} (hwords : 8 ≤ cursor.rest.length)
    (h : cursor.stepWorded kind delta (cursor.rest.drop 4) word = .ok result) :
    cursor.Takes result := by
  unfold stepWorded at h
  simp only [List.drop_drop] at h
  by_cases hpadding : kind = kindPadding
  · rw [if_pos hpadding] at h
    cases h
    exact ⟨by omega, 4 + word.toNat, by omega, rfl⟩
  rw [if_neg hpadding] at h
  by_cases hextend : kind = kindExtend
  · rw [if_pos hextend] at h
    cases hadd : Word64.add cursor.timestamp (UInt64.ofNat (word.toNat * deltaLimit + delta)) with
    | error overflow =>
      rw [hadd] at h
      cases h
    | ok time =>
      rw [hadd] at h
      cases h
      exact ⟨by omega, 8, by omega, rfl⟩
  rw [if_neg hextend] at h
  by_cases hstamp : kind = kindStamp
  · rw [if_pos hstamp] at h
    cases h
    exact ⟨by omega, 8, by omega, rfl⟩
  rw [if_neg hstamp] at h
  by_cases hshort : word.toNat < 4
  · rw [if_pos hshort] at h
    cases h
    exact Or.inl rfl
  · rw [if_neg hshort] at h
    exact deliver_takes (by omega) hwords (Nat.dvd_mul_left 4 _) h

theorem step_takes (h : step cursor = .ok result) : cursor.Takes result := by
  cases hheader : LittleEndian.word32At cursor.rest 0 with
  | none =>
    unfold step at h
    simp only [hheader] at h
    cases h
    exact Or.inl rfl
  | some header =>
    have hfour := length_lt_of_word32At hheader
    rw [step_of_header cursor hheader] at h
    by_cases hnull : header.toNat % 32 = kindPadding ∧ header.toNat / 32 = 0
    · rw [if_pos hnull] at h
      cases h
      exact Or.inr rfl
    rw [if_neg hnull] at h
    by_cases hshort : 0 < header.toNat % 32 ∧ header.toNat % 32 < kindPadding
    · rw [if_pos hshort] at h
      exact deliver_takes (Nat.le_refl 4) hfour (Nat.dvd_mul_right 4 _) h
    rw [if_neg hshort] at h
    cases hword : LittleEndian.word32At (cursor.rest.drop 4) 0 with
    | none =>
      rw [hword] at h
      cases h
      exact Or.inl rfl
    | some word =>
      have hwords := length_lt_of_word32At hword
      rw [List.length_drop] at hwords
      rw [hword] at h
      exact stepWorded_takes (by omega) h

/-- A cursor that has stopped stops again, at the same time. -/
theorem step_of_stop {final : Cursor} (h : step cursor = .ok (.stop final)) :
    step final = .ok (.stop final) := by
  rcases step_takes h with rfl | rfl
  · exact h
  · rfl

theorem length_of_skip {after : Cursor} (h : step cursor = .ok (.skip after)) :
    after.rest.length + 4 ≤ cursor.rest.length := by
  obtain ⟨hfour, len, hlen, hafter⟩ := step_takes h
  rw [hafter, List.length_drop]
  omega

theorem length_of_record {after : Cursor} {record : Record}
    (h : step cursor = .ok (.record record after)) :
    after.rest.length + 4 ≤ cursor.rest.length := by
  obtain ⟨start, hstart, -, hpiece, hafter⟩ := step_takes h
  have hreach := (Bytes.slice_eq_some_iff.mp hpiece).1
  rw [hafter, List.length_drop]
  omega

end Steps

/-- A reading that may look at so many headers and fails at one more. -/
def readWithin : Nat → Cursor → Option Reading
  | 0, cursor =>
    match LittleEndian.word32At cursor.rest 0 with
    | none => some ⟨[], .ok cursor⟩
    | some _ => none
  | count + 1, cursor =>
    match step cursor with
    | .error overflow => some ⟨[], .error overflow⟩
    | .ok (.record record after) =>
      (readWithin count after).map fun more => ⟨record :: more.records, more.final⟩
    | .ok (.skip after) => readWithin count after
    | .ok (.stop final) => some ⟨[], .ok final⟩

/-- One header for every four bytes is enough. -/
theorem readWithin_eq {count : Nat} {cursor : Cursor} (h : cursor.rest.length < 4 * (count + 1)) :
    readWithin count cursor = some (readAll cursor) := by
  induction count generalizing cursor with
  | zero =>
    cases hheader : LittleEndian.word32At cursor.rest 0 with
    | none =>
      have hstop : step cursor = .ok (.stop cursor) := by
        unfold step
        simp only [hheader]
      simp only [readWithin, hheader, readAll_of_stop hstop]
    | some header =>
      have hfour := length_lt_of_word32At hheader
      omega
  | succ count ih =>
    unfold readWithin
    cases hstep : step cursor with
    | error overflow => rw [readAll_of_overflow hstep]
    | ok result =>
      cases result with
      | record record after =>
        have hlength := length_of_record hstep
        simp only
        rw [ih (by omega), readAll_of_record hstep, Option.map_some]
      | skip after =>
        have hlength := length_of_skip hstep
        simp only
        rw [ih (by omega), readAll_of_skip hstep]
      | stop final => rw [readAll_of_stop hstep]

/-- A record with the place where its data start. -/
structure Piece where
  start : Nat
  record : Record

def Piece.stop (piece : Piece) : Nat :=
  piece.start + piece.record.data.length

/-- Asked again and again, a cursor hands out the records of the pieces. Each of them is cut out
of the data where its piece starts, and the cursor then stands right behind it. -/
inductive HandsOut (data : Bytes) : Cursor → List Piece → Cursor → Prop
  | done {cursor final : Cursor} (h : next cursor = .ok (none, final)) :
      HandsOut data cursor [] final
  | more {cursor after final : Cursor} {piece : Piece} {pieces : List Piece}
      (h : next cursor = .ok (some piece.record, after))
      (hpiece : data.slice piece.start piece.record.data.length = some piece.record.data)
      (hafter : after.rest = data.drop piece.stop)
      (rest : HandsOut data after pieces final) : HandsOut data cursor (piece :: pieces) final

/-- Pieces of whole words from a place on, with room for a header in front of each of them. -/
def InOrder : Nat → List Piece → Prop
  | _, [] => True
  | place, piece :: rest =>
    place + 4 ≤ piece.start ∧ 4 ∣ piece.record.data.length ∧ InOrder piece.stop rest

theorem HandsOut.of_skip {data : Bytes} {cursor after final : Cursor} {pieces : List Piece}
    (h : step cursor = .ok (.skip after)) (hafter : HandsOut data after pieces final) :
    HandsOut data cursor pieces final := by
  cases hafter with
  | done hnone => exact .done ((next_of_skip h).trans hnone)
  | more hsome hpiece hplace hrest => exact .more ((next_of_skip h).trans hsome) hpiece hplace hrest

theorem InOrder.mono {place later : Nat} {pieces : List Piece} (h : InOrder later pieces)
    (hle : place ≤ later) : InOrder place pieces := by
  cases pieces with
  | nil => trivial
  | cons piece rest =>
    obtain ⟨hstart, haligned, hrest⟩ := h
    exact ⟨by omega, haligned, hrest⟩

theorem exists_handsOut {data : Bytes} {cursor final : Cursor} {place : Nat}
    (hrest : cursor.rest = data.drop place) (h : (readAll cursor).final = .ok final) :
    ∃ pieces, HandsOut data cursor pieces final ∧ InOrder place pieces := by
  induction cursor using readAll.induct generalizing place with
  | case1 cursor overflow hstep =>
    rw [readAll_of_overflow hstep] at h
    cases h
  | case2 cursor record after hstep ih =>
    rw [readAll_of_record hstep] at h
    obtain ⟨start, hstart, haligned, hpiece, hafter⟩ := step_takes hstep
    rw [hrest] at hpiece hafter
    rw [List.drop_drop] at hafter
    have hreach := (Bytes.slice_eq_some_iff.mp hpiece).1
    rw [List.length_drop] at hreach
    rw [Bytes.slice_drop (Or.inl (by omega))] at hpiece
    have hplace : after.rest = data.drop (Piece.stop ⟨place + start, record⟩) := by
      rw [hafter, Piece.stop, Nat.add_assoc]
    obtain ⟨pieces, hpieces, horder⟩ := ih hplace h
    refine ⟨⟨place + start, record⟩ :: pieces, ?_, ?_⟩
    · exact .more (next_of_record hstep) hpiece hplace hpieces
    · exact ⟨by simp only; omega, haligned, horder⟩
  | case3 cursor after hstep ih =>
    rw [readAll_of_skip hstep] at h
    obtain ⟨-, len, -, hafter⟩ := step_takes hstep
    rw [hrest, List.drop_drop] at hafter
    obtain ⟨pieces, hpieces, horder⟩ := ih hafter h
    exact ⟨pieces, hpieces.of_skip hstep, horder.mono (by omega)⟩
  | case4 cursor last hstep =>
    rw [readAll_of_stop hstep] at h
    cases h
    exact ⟨[], .done (next_of_stop hstep), trivial⟩

/-- Once there is no record there is none any more, and the time stays. -/
theorem next_of_next_none {cursor final : Cursor} (h : next cursor = .ok (none, final)) :
    next final = .ok (none, final) := by
  induction cursor using readAll.induct with
  | case1 cursor overflow hstep =>
    rw [next] at h
    split at h <;> simp_all
  | case2 cursor record after hstep ih =>
    rw [next_of_record hstep] at h
    cases h
  | case3 cursor after hstep ih =>
    rw [next_of_skip hstep] at h
    exact ih h
  | case4 cursor last hstep =>
    rw [next_of_stop hstep] at h
    cases h
    exact next_of_stop (step_of_stop hstep)

theorem Yields.next_final {cursor final : Cursor} {records : List Record}
    (h : Yields cursor records final) : next final = .ok (none, final) := by
  induction h with
  | done hnone => exact next_of_next_none hnone
  | more hsome hrest ih => exact ih

theorem HandsOut.yields {data : Bytes} {cursor final : Cursor} {pieces : List Piece}
    (h : HandsOut data cursor pieces final) : Yields cursor (pieces.map Piece.record) final := by
  induction h with
  | done hnone => exact .done hnone
  | more hsome hpiece hafter hrest ih => exact .more hsome ih

end Cursor

open Cursor

/-- The iteration over any page whose time does not overflow. It looks at no more headers than
the committed bytes have words, its records are separate pieces of these bytes, one behind the
other, and it never goes on after its end. -/
theorem iterates_within {page : Bytes} {header : HeaderPage} {cursor final : Cursor}
    (hload : ofPage page header = .ok (some cursor)) (hfinal : (readAll cursor).final = .ok final) :
    ∃ pieces, HandsOut (header.committed page) cursor pieces final ∧
      readWithin ((header.committed page).length / 4) cursor =
        some ⟨pieces.map Piece.record, .ok final⟩ ∧
      InOrder 0 pieces ∧ next final = .ok (none, final) := by
  obtain ⟨-, hcursor⟩ := ofPage_eq_ok_some_iff.mp hload
  have hrest : cursor.rest = header.committed page := by rw [hcursor]
  have hstart : cursor.rest = (header.committed page).drop 0 := hrest
  obtain ⟨pieces, hpieces, horder⟩ := exists_handsOut hstart hfinal
  have hyields := hpieces.yields
  have hbudget : readWithin ((header.committed page).length / 4) cursor =
      some (readAll cursor) := by
    apply readWithin_eq
    rw [hrest]
    omega
  refine ⟨pieces, hpieces, ?_, horder, hyields.next_final⟩
  rw [hbudget, readAll_of_yields hyields]

/-- A padding of no length, a record without data that starts inside it, a record of one word,
and a padding that leads behind the data. -/
def irregularPage : Bytes :=
  List.replicate 8 0 ++ LittleEndian.ofWord64 28 ++
    [61, 0, 0, 0, 0, 0, 0, 0, 4, 0, 0, 0, 65, 0, 0, 0, 7, 7, 7, 7, 61, 0, 0, 0, 100, 0, 0, 0]

theorem iterates_within_irregularPage :
    let cursor : Cursor := ⟨0, irregularPage.drop 16⟩
    ofPage irregularPage .standard = .ok (some cursor) ∧ (readAll cursor).final = .ok ⟨2, []⟩ ∧
    ∃ pieces, HandsOut (HeaderPage.standard.committed irregularPage) cursor pieces ⟨2, []⟩ ∧
      readWithin 7 cursor = some ⟨pieces.map Piece.record, .ok ⟨2, []⟩⟩ ∧
      InOrder 0 pieces ∧ next ⟨2, []⟩ = .ok (none, ⟨2, []⟩) := by
  intro cursor
  have hload : ofPage irregularPage .standard = .ok (some cursor) := rfl
  have hpadding : step ⟨0, irregularPage.drop 16⟩ =
      .ok (.skip ⟨0, irregularPage.drop 20⟩) := rfl
  have hempty : step ⟨0, irregularPage.drop 20⟩ =
      .ok (.record ⟨0, []⟩ ⟨0, irregularPage.drop 28⟩) := rfl
  have hword : step ⟨0, irregularPage.drop 28⟩ =
      .ok (.record ⟨2, [7, 7, 7, 7]⟩ ⟨2, irregularPage.drop 36⟩) := rfl
  have hbehind : step ⟨2, irregularPage.drop 36⟩ = .ok (.skip ⟨2, []⟩) := rfl
  have hend : step ⟨2, []⟩ = .ok (.stop ⟨2, []⟩) := rfl
  have hfinal : (readAll cursor).final = .ok ⟨2, []⟩ := by
    rw [readAll_of_skip hpadding, readAll_of_record hempty, readAll_of_record hword,
      readAll_of_skip hbehind, readAll_of_stop hend]
  exact ⟨hload, hfinal, iterates_within hload hfinal⟩

end MemoryRepair.Trace
