import MemoryRepair.Proofs.StandardTrace

/-!
A page read record by record. The records that `next` hands out one after the other are
those of the whole reading, so that a page in the standard layout yields the data of its
items, each with the time reached, and then nothing more: not the bytes behind a null
padding, and not those behind the committed ones.
-/
namespace MemoryRepair.Trace

namespace Cursor

theorem deltaLimit_pos : 0 < deltaLimit := by decide

theorem next_of_record {cursor after : Cursor} {record : Record}
    (h : step cursor = .ok (.record record after)) : next cursor = .ok (some record, after) := by
  rw [next]
  split <;> simp_all

theorem next_of_skip {cursor after : Cursor} (h : step cursor = .ok (.skip after)) :
    next cursor = next after := by
  rw [next]
  split <;> simp_all

theorem next_of_stop {cursor final : Cursor} (h : step cursor = .ok (.stop final)) :
    next cursor = .ok (none, final) := by
  rw [next]
  split <;> simp_all

/-- Asked again and again, the cursor hands out the records and then, for the first time,
none. -/
inductive Yields : Cursor → List Record → Cursor → Prop
  | done {cursor final : Cursor} (h : next cursor = .ok (none, final)) : Yields cursor [] final
  | more {cursor after final : Cursor} {record : Record} {records : List Record}
      (h : next cursor = .ok (some record, after)) (rest : Yields after records final) :
      Yields cursor (record :: records) final

theorem Yields.of_skip {cursor after final : Cursor} {records : List Record}
    (h : step cursor = .ok (.skip after)) (hafter : Yields after records final) :
    Yields cursor records final := by
  cases hafter with
  | done hnone => exact .done ((next_of_skip h).trans hnone)
  | more hsome hrest => exact .more ((next_of_skip h).trans hsome) hrest

/-- What is read to the end without an overflow is handed out record by record. -/
theorem yields_of_readAll {cursor final : Cursor} {records : List Record}
    (h : readAll cursor = ⟨records, .ok final⟩) : Yields cursor records final := by
  induction cursor using readAll.induct generalizing records with
  | case1 cursor overflow hstep =>
    rw [readAll] at h
    split at h <;> simp_all
  | case2 cursor record after hstep ih =>
    rw [readAll_of_record hstep] at h
    obtain ⟨rfl, hfinal⟩ := Reading.mk.inj h
    have hafter : readAll after = ⟨(readAll after).records, .ok final⟩ := by rw [← hfinal]
    exact .more (next_of_record hstep) (ih hafter)
  | case3 cursor after hstep ih =>
    rw [readAll_of_skip hstep] at h
    exact .of_skip hstep (ih h)
  | case4 cursor last hstep =>
    rw [readAll_of_stop hstep] at h
    obtain ⟨rfl, hfinal⟩ := Reading.mk.inj h
    cases hfinal
    exact .done (next_of_stop hstep)

theorem readAll_of_next_none {cursor final : Cursor} (h : next cursor = .ok (none, final)) :
    readAll cursor = ⟨[], .ok final⟩ := by
  induction cursor using readAll.induct with
  | case1 cursor overflow hstep =>
    rw [next] at h
    split at h <;> simp_all
  | case2 cursor record after hstep ih =>
    rw [next_of_record hstep] at h
    cases h
  | case3 cursor after hstep ih =>
    rw [next_of_skip hstep] at h
    rw [readAll_of_skip hstep, ih h]
  | case4 cursor last hstep =>
    rw [next_of_stop hstep] at h
    cases h
    exact readAll_of_stop hstep

theorem readAll_of_next_some {cursor after : Cursor} {record : Record}
    (h : next cursor = .ok (some record, after)) :
    readAll cursor = ⟨record :: (readAll after).records, (readAll after).final⟩ := by
  induction cursor using readAll.induct with
  | case1 cursor overflow hstep =>
    rw [next] at h
    split at h <;> simp_all
  | case2 cursor found behind hstep ih =>
    rw [next_of_record hstep] at h
    cases h
    exact readAll_of_record hstep
  | case3 cursor behind hstep ih =>
    rw [next_of_skip hstep] at h
    rw [readAll_of_skip hstep, ih h]
  | case4 cursor last hstep =>
    rw [next_of_stop hstep] at h
    cases h

/-- What is handed out record by record is the whole reading. -/
theorem readAll_of_yields {cursor final : Cursor} {records : List Record}
    (h : Yields cursor records final) : readAll cursor = ⟨records, .ok final⟩ := by
  induction h with
  | done hnone => exact readAll_of_next_none hnone
  | more hsome hrest ih => rw [readAll_of_next_some hsome, ih]

end Cursor

namespace RingItem

/-- The end of the committed bytes: nothing, or a null padding with anything behind it. -/
def ending : Option Bytes → Bytes
  | none => []
  | some filler =>
    LittleEndian.ofWord32 (header Cursor.kindPadding ⟨0, Cursor.deltaLimit_pos⟩) ++ filler

end RingItem

open RingItem

theorem readAll_ending (time : UInt64) (rest : Option Bytes) :
    Cursor.readAll ⟨time, ending rest⟩ = ⟨[], .ok ⟨time, []⟩⟩ := by
  cases rest with
  | none => exact Cursor.readAll_of_stop rfl
  | some filler =>
    apply Cursor.readAll_of_stop
    unfold ending Cursor.step
    simp only [LittleEndian.word32At_append, header_mod (show Cursor.kindPadding < 32 by decide),
      header_div (show Cursor.kindPadding < 32 by decide)]
    rw [if_pos ⟨trivial, trivial⟩]

/-- A page of the standard layout yields the records of its items and then rests. -/
theorem yields_page (items : List RingItem) (rest : Option Bytes) (time commit : UInt64)
    (tail : Bytes)
    (hcommit : commit.toNat % Cursor.deltaLimit = (encodeAll items ++ ending rest).length)
    (htime : InTime time.toNat items) :
    ∃ header cursor, HeaderPage.parse standardHeaderText = some header ∧
      Cursor.ofPage (page time commit (encodeAll items ++ ending rest) tail) header =
        .ok (some cursor) ∧
      let final : Cursor := ⟨UInt64.ofNat (clock time.toNat items), []⟩
      cursor.Yields (records time.toNat items) final ∧ final.next = .ok (none, final) := by
  refine ⟨.standard, ⟨time, encodeAll items ++ ending rest⟩, parse_standardHeaderText,
    ofPage_page time commit _ tail hcommit, ?_, Cursor.next_of_stop rfl⟩
  apply Cursor.yields_of_readAll
  rw [Cursor.readAll_encodeAll items time (ending rest) htime, readAll_ending, List.append_nil]

/-- One item of each shape. -/
def everyShape : List RingItem :=
  [.short ⟨10, by decide⟩ [1, 2, 3, 4] rfl (by decide),
   .extend ⟨6, by decide⟩ 1,
   .long ⟨8, by decide⟩ 9 [5, 6, 7, 8, 9, 10, 11, 12] (by decide),
   .padding ⟨4, by decide⟩ [0, 0] (by decide) (by decide),
   .stamp ⟨7, by decide⟩ 2,
   .long ⟨11, by decide⟩ 6 [13, 14, 15, 16] (by decide)]

/-- With high bits in the commit word, a null padding and uncommitted bytes. -/
theorem yields_page_everyShape :
    let commit : UInt64 := 0xFFFFFFFFF8000045
    let body := encodeAll everyShape ++ ending (some [8, 0, 0])
    commit.toNat % Cursor.deltaLimit = body.length ∧ InTime 1000 everyShape ∧
    ∃ header cursor, HeaderPage.parse standardHeaderText = some header ∧
      Cursor.ofPage (page 1000 commit body [1, 0, 0, 0, 9, 9, 9, 9]) header = .ok (some cursor) ∧
      cursor.Yields
        [⟨1010, [1, 2, 3, 4]⟩, ⟨134218752, [5, 6, 7, 8, 9, 10, 11, 12]⟩,
          ⟨268435474, [13, 14, 15, 16]⟩]
        ⟨268435474, []⟩ := by
  have hcommit : (0xFFFFFFFFF8000045 : UInt64).toNat % Cursor.deltaLimit =
      (encodeAll everyShape ++ ending (some [8, 0, 0])).length := by decide
  have htime : InTime (1000 : UInt64).toNat everyShape :=
    ⟨by decide, by decide, by decide, by decide, by decide, by decide, trivial⟩
  obtain ⟨header, cursor, hheader, hcursor, hyields, -⟩ :=
    yields_page everyShape (some [8, 0, 0]) 1000 0xFFFFFFFFF8000045 [1, 0, 0, 0, 9, 9, 9, 9]
      hcommit htime
  exact ⟨hcommit, htime, header, cursor, hheader, hcursor, hyields⟩

end MemoryRepair.Trace
