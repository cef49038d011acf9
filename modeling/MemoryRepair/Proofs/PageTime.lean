import MemoryRepair.Proofs.PageMarks
import MemoryRepair.Proofs.StandardTrace

/-!
The time on a page. The base time and the marks of any page, well-formed or not, add up to
times without bound, and the reading follows them as long as they fit their 64 bits: it
yields a record for each mark with data, and it overflows at the first mark whose time does
not fit. Nothing else on a page can make it overflow.
-/
namespace MemoryRepair.Trace

namespace Mark

/-- The time after a mark, as a number. -/
def advance (time : Nat) : Mark → Nat
  | record delta _ => time + delta.toNat
  | extend more => time + more.toNat
  | stamp time => time.toNat
  | padding => time

/-- The time stays within its 64 bits. -/
def InTime : Nat → List Mark → Prop
  | _, [] => True
  | time, mark :: rest => mark.advance time < UInt64.size ∧ InTime (mark.advance time) rest

/-- The marks up to the first whose time does not fit. -/
def timely : Nat → List Mark → List Mark
  | _, [] => []
  | time, mark :: rest =>
    if mark.advance time < UInt64.size then mark :: timely (mark.advance time) rest else []

/-- The records of marks, each with the time reached. -/
def records : Nat → List Mark → List Record
  | _, [] => []
  | time, mark :: rest =>
    match mark.data? with
    | some data => ⟨UInt64.ofNat (mark.advance time), data⟩ :: records (mark.advance time) rest
    | none => records (mark.advance time) rest

/-- The time after all marks. -/
def clock (time : Nat) (marks : List Mark) : Nat :=
  marks.foldl advance time

theorem timely_of_inTime {time : Nat} {marks : List Mark} (h : InTime time marks) :
    timely time marks = marks := by
  induction marks generalizing time with
  | nil => rfl
  | cons mark rest ih => rw [timely, if_pos h.1, ih h.2]

theorem word64_add_eq (a b : UInt64) : Word64.add a b =
    if a.toNat + b.toNat < UInt64.size then .ok (UInt64.ofNat (a.toNat + b.toNat))
    else .error .addition := by
  rw [Word64.add, UInt64.ofNat_add, UInt64.ofNat_toNat, UInt64.ofNat_toNat]

/-- The time after a mark overflows exactly if the number does not fit. -/
theorem later_eq (time : UInt64) (mark : Mark) : mark.later time =
    if mark.advance time.toNat < UInt64.size then .ok (UInt64.ofNat (mark.advance time.toNat))
    else .error .addition := by
  cases mark with
  | record delta data => exact word64_add_eq time delta
  | extend more => exact word64_add_eq time more
  | stamp stamped => rw [later, advance, if_pos stamped.toNat_lt_size, UInt64.ofNat_toNat]
  | padding => rw [later, advance, if_pos time.toNat_lt_size, UInt64.ofNat_toNat]

end Mark

open Mark

/-- The marks of the data from a place on, to the end of the reading. -/
inductive Marked (data : Bytes) : UInt64 → List Mark → Prop
  | ending {place rest : UInt64} (h : markAt data place = .ok (.ending rest)) :
      Marked data place []
  | mark {place after : UInt64} {standing : Mark} {marks : List Mark}
      (h : markAt data place = .ok (.mark standing after)) (rest : Marked data after marks) :
      Marked data place (standing :: marks)

/-- Near the data a cursor does with what stands at its place. -/
theorem step_of_markAt {data : Bytes} {place : UInt64} (h : Near data place) {found : Found}
    (hfound : markAt data place = .ok found) (time : UInt64) :
    Cursor.step ⟨time, data.drop place.toNat⟩ = found.step data time := by
  obtain ⟨_, hother, hagrees⟩ := markAt_agrees h
  cases hfound.symm.trans hother
  exact (hagrees.step_eq time).symm

theorem bounds_of_markAt {data : Bytes} {place after : UInt64} (h : Near data place)
    {standing : Mark} (hfound : markAt data place = .ok (.mark standing after)) :
    place.toNat + 4 ≤ data.length ∧ place.toNat + 4 ≤ after.toNat ∧
      after.toNat ≤ data.length + UInt32.size := by
  obtain ⟨_, hother, hagrees⟩ := markAt_agrees h
  cases hfound.symm.trans hother
  exact hagrees.bounds standing after rfl

theorem Near.of_mark {data : Bytes} {place after : UInt64} (h : Near data place)
    {standing : Mark} (hfound : markAt data place = .ok (.mark standing after)) :
    Near data after :=
  ⟨h.committed, (bounds_of_markAt h hfound).2.2⟩

/-- Every mark takes bytes of the data with it, so that every reading ends. -/
theorem exists_marked {data : Bytes} {place : UInt64} (h : Near data place) :
    ∃ marks, Marked data place marks := by
  obtain ⟨found, hfound, -⟩ := markAt_agrees h
  cases found with
  | ending rest => exact ⟨[], .ending hfound⟩
  | mark standing after =>
    obtain ⟨hheader, hafter, -⟩ := bounds_of_markAt h hfound
    obtain ⟨marks, hmarks⟩ := exists_marked (h.of_mark hfound)
    exact ⟨standing :: marks, .mark hfound hmarks⟩
termination_by data.length - place.toNat
decreasing_by omega

theorem Marked.unique {data : Bytes} {place : UInt64} {marks others : List Mark}
    (h : Marked data place marks) (hother : Marked data place others) : others = marks := by
  induction h generalizing others with
  | ending hfound =>
    cases hother with
    | ending => rfl
    | mark hmark => cases hfound.symm.trans hmark
  | mark hfound hrest ih =>
    cases hother with
    | ending hending => cases hfound.symm.trans hending
    | mark hmark hmore =>
      cases hfound.symm.trans hmark
      rw [ih hmore]

theorem Cursor.readAll_of_overflow {cursor : Cursor} {overflow : Overflow}
    (h : cursor.step = .error overflow) : cursor.readAll = ⟨[], .error overflow⟩ := by
  rw [readAll]
  split <;> simp_all

section Reading

variable {data : Bytes} {place : UInt64}

theorem readAll_of_ending (h : Near data place) {rest : UInt64}
    (hfound : markAt data place = .ok (.ending rest)) (time : UInt64) :
    Cursor.readAll ⟨time, data.drop place.toNat⟩ = ⟨[], .ok ⟨time, data.drop rest.toNat⟩⟩ :=
  Cursor.readAll_of_stop (step_of_markAt h hfound time)

/-- A mark whose time fits is followed by the reading of the marks after it. -/
theorem readAll_of_timely (h : Near data place) {standing : Mark} {after : UInt64}
    (hfound : markAt data place = .ok (.mark standing after)) {time : UInt64}
    (htime : standing.advance time.toNat < UInt64.size) :
    Cursor.readAll ⟨time, data.drop place.toNat⟩ =
      let later := UInt64.ofNat (standing.advance time.toNat)
      let more := Cursor.readAll ⟨later, data.drop after.toNat⟩
      match standing.data? with
      | some piece => ⟨⟨later, piece⟩ :: more.records, more.final⟩
      | none => more := by
  have hstep := step_of_markAt h hfound time
  simp only [Found.step, later_eq, if_pos htime] at hstep
  cases hdata : standing.data? with
  | some piece =>
    rw [hdata] at hstep
    exact Cursor.readAll_of_record hstep
  | none =>
    rw [hdata] at hstep
    exact Cursor.readAll_of_skip hstep

theorem readAll_of_late (h : Near data place) {standing : Mark} {after : UInt64}
    (hfound : markAt data place = .ok (.mark standing after)) {time : UInt64}
    (hlate : ¬ standing.advance time.toNat < UInt64.size) :
    Cursor.readAll ⟨time, data.drop place.toNat⟩ = ⟨[], .error .addition⟩ := by
  have hstep := step_of_markAt h hfound time
  simp only [Found.step, later_eq, if_neg hlate] at hstep
  exact Cursor.readAll_of_overflow hstep

/-- The cursor yields the records of the timely marks, and it overflows if there are others. -/
theorem readAll_of_marked {marks : List Mark} (hmarked : Marked data place marks)
    (h : Near data place) (time : UInt64) :
    let reading := Cursor.readAll ⟨time, data.drop place.toNat⟩
    reading.records = records time.toNat (timely time.toNat marks) ∧
    (InTime time.toNat marks →
      ∃ rest, reading.final = .ok ⟨UInt64.ofNat (clock time.toNat marks), rest⟩) ∧
    (¬ InTime time.toNat marks → reading.final = .error .addition) := by
  induction hmarked generalizing time with
  | @ending place rest hfound =>
    rw [readAll_of_ending h hfound]
    refine ⟨rfl, fun _ => ⟨data.drop rest.toNat, ?_⟩, fun hlate => absurd trivial hlate⟩
    rw [clock, List.foldl_nil, UInt64.ofNat_toNat]
  | @mark place after standing marks hfound hrest ih =>
    by_cases htime : standing.advance time.toNat < UInt64.size
    · have hlater : (UInt64.ofNat (standing.advance time.toNat)).toNat =
          standing.advance time.toNat := UInt64.toNat_ofNat_of_lt' htime
      obtain ⟨hrecords, hintime, hlate⟩ :=
        ih (h.of_mark hfound) (UInt64.ofNat (standing.advance time.toNat))
      rw [hlater] at hrecords hintime hlate
      have hnot : ¬ InTime time.toNat (standing :: marks) →
          ¬ InTime (standing.advance time.toNat) marks := fun hno hrest => hno ⟨htime, hrest⟩
      rw [readAll_of_timely h hfound htime, timely, if_pos htime, records, clock, List.foldl_cons]
      cases standing.data? with
      | some piece =>
        exact ⟨congrArg (_ :: ·) hrecords, fun hall => hintime hall.2, fun hno => hlate (hnot hno)⟩
      | none => exact ⟨hrecords, fun hall => hintime hall.2, fun hno => hlate (hnot hno)⟩
    · rw [readAll_of_late h hfound htime, timely, if_neg htime]
      exact ⟨rfl, fun hall => absurd hall.1 htime, fun _ => rfl⟩

end Reading

/-- The base time of a page. -/
def baseTime (page : Bytes) : UInt64 :=
  LittleEndian.toWord64 (page.take 8)

/-- The committed bytes of a page, as far as it has them. -/
def committed (page : Bytes) : Bytes :=
  (page.drop 16).take (LittleEndian.decode ((page.drop 8).take 8) % Cursor.deltaLimit)

theorem length_committed_lt (page : Bytes) : (committed page).length < Cursor.deltaLimit := by
  rw [committed, List.length_take]
  exact Nat.lt_of_le_of_lt (Nat.min_le_left _ _) (Nat.mod_lt _ (by decide))

/-- A page is loaded if it has its two words, whatever is in them. -/
theorem ofPage_standard (page : Bytes) : Cursor.ofPage page .standard =
    .ok (if 16 ≤ page.length then some ⟨baseTime page, committed page⟩ else none) := by
  have hplaces : HeaderPage.standard.timestampOffset.toNat = 0 ∧
      HeaderPage.standard.commitOffset.toNat = 8 ∧ HeaderPage.standard.commitSize.toNat = 8 ∧
      HeaderPage.standard.dataOffset.toNat = 16 := by decide
  unfold Cursor.ofPage
  rw [Word64.add_eq_ok _ _ (by decide), Word64.add_eq_ok _ _ (by decide)]
  simp only [bind, Except.bind, hplaces]
  by_cases hlong : 16 ≤ page.length
  · have htime : page.slice 0 8 = some (page.take 8) := Bytes.slice_of_le (by omega)
    have hcommit : page.slice 8 8 = some ((page.drop 8).take 8) := Bytes.slice_of_le hlong
    have hword : ((page.drop 8).take 8).length = 8 := Bytes.length_of_slice hcommit
    simp only [htime, hcommit, hword, hlong, if_pos]
    rfl
  · have hcommit : page.slice 8 8 = none := Bytes.slice_of_lt (Nat.lt_of_not_le hlong)
    rw [hcommit, if_neg hlong]
    cases page.slice 0 8 <;> rfl

/-- What the reading of a page comes to. -/
inductive ReadsTo (source : Source) (page : Bytes) : List Item → Prop
  | discarded (hshort : page.length < 16) :
      ReadsTo source page [.note ⟨.error, "Invalid ring buffer page, discard"⟩]
  /-- The time fits throughout: all records are read. -/
  | finished {marks : List Mark} (hlong : 16 ≤ page.length)
      (hmarked : Marked (committed page) 0 marks) (htime : InTime (baseTime page).toNat marks) :
      ReadsTo source page ((records (baseTime page).toNat marks).flatMap source.readRecord)
  /-- The time overflows after the records before that. -/
  | overflown {marks : List Mark} (hlong : 16 ≤ page.length)
      (hmarked : Marked (committed page) 0 marks) (hlate : ¬ InTime (baseTime page).toNat marks) :
      ReadsTo source page
        ((records (baseTime page).toNat (timely (baseTime page).toNat marks)).flatMap
          source.readRecord ++ [.overflow .addition])

theorem not_overflow_mem_flatMap (source : Source) (records : List Record)
    (overflow : Overflow) : .overflow overflow ∉ records.flatMap source.readRecord := by
  intro hmem
  obtain ⟨record, -, hrecord⟩ := List.mem_flatMap.mp hmem
  exact source.overflow_not_mem_readRecord record overflow hrecord

theorem ReadsTo.overflow_iff {source : Source} {page : Bytes} {items : List Item}
    (h : ReadsTo source page items) :
    (∃ overflow, .overflow overflow ∈ items) ↔ 16 ≤ page.length ∧
      ∃ marks, Marked (committed page) 0 marks ∧ ¬ InTime (baseTime page).toNat marks := by
  cases h with
  | discarded hshort =>
    refine ⟨?_, fun hlong => absurd hlong.1 (Nat.not_le.mpr hshort)⟩
    rintro ⟨overflow, hmem⟩
    cases List.mem_singleton.mp hmem
  | finished hlong hmarked htime =>
    constructor
    · rintro ⟨overflow, hmem⟩
      exact absurd hmem (not_overflow_mem_flatMap source _ overflow)
    · rintro ⟨-, others, hothers, hlate⟩
      rw [hmarked.unique hothers] at hlate
      exact absurd htime hlate
  | @overflown marks hlong hmarked hlate =>
    refine ⟨fun _ => ⟨hlong, marks, hmarked, hlate⟩, fun _ => ⟨.addition, ?_⟩⟩
    exact List.mem_append_right _ List.mem_cons_self

/-- Pages of any content, read by any decoder. Either a page is too short, or its reading
ends with the records of all its marks; only a time that does not fit makes it overflow. -/
theorem readPage_readsTo (decoder : Decoder) (page : Bytes) :
    let items := Source.readPage ⟨.standard, decoder⟩ page
    ReadsTo ⟨.standard, decoder⟩ page items ∧
      ((∃ overflow, .overflow overflow ∈ items) ↔ 16 ≤ page.length ∧
        ∃ marks, Marked (committed page) 0 marks ∧ ¬ InTime (baseTime page).toNat marks) := by
  have hreads : ReadsTo ⟨.standard, decoder⟩ page (Source.readPage ⟨.standard, decoder⟩ page) := by
    unfold Source.readPage
    simp only [ofPage_standard]
    by_cases hlong : 16 ≤ page.length
    · have hnear : Near (committed page) 0 := ⟨length_committed_lt page, Nat.zero_le _⟩
      obtain ⟨marks, hmarked⟩ := exists_marked hnear
      obtain ⟨hrecords, hintime, hlate⟩ := readAll_of_marked hmarked hnear (baseTime page)
      have hstart : (committed page).drop (0 : UInt64).toNat = committed page := rfl
      rw [hstart] at hrecords hintime hlate
      simp only [if_pos hlong]
      rw [hrecords]
      by_cases htime : InTime (baseTime page).toNat marks
      · obtain ⟨rest, hfinal⟩ := hintime htime
        rw [hfinal, timely_of_inTime htime, List.append_nil]
        exact .finished hlong hmarked htime
      · rw [hlate htime]
        exact .overflown hlong hmarked htime
    · simp only [if_neg hlong]
      exact .discarded (Nat.lt_of_not_le hlong)
  exact ⟨hreads, hreads.overflow_iff⟩

/-- A page whose base time is the greatest one, with a time extension by one and no record. -/
theorem readPage_overflows_lateExtend :
    let page : Bytes := List.replicate 8 255 ++ [8, 0, 0, 0, 0, 0, 0, 0] ++
      [62, 0, 0, 0] ++ [0, 0, 0, 0]
    Source.standard.readPage page = [.overflow .addition] := by
  intro page
  have hload : Cursor.ofPage page .standard =
      .ok (some ⟨0xFFFFFFFFFFFFFFFF, [62, 0, 0, 0, 0, 0, 0, 0]⟩) := rfl
  have hstep : Cursor.step ⟨0xFFFFFFFFFFFFFFFF, [62, 0, 0, 0, 0, 0, 0, 0]⟩ =
      .error .addition := rfl
  unfold Source.readPage
  simp only [Source.standard, hload, Cursor.readAll_of_overflow hstep]
  rfl

end MemoryRepair.Trace
