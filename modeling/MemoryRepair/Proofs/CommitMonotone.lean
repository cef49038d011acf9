import Mathlib.Data.List.Infix
import MemoryRepair.Proofs.PageLoading
import MemoryRepair.Proofs.PageReading
import MemoryRepair.Proofs.PageTime

/-!
Pages of which less is committed. A cursor with fewer bytes does what a cursor with more of
them does, item by item, until it stops in front of an item that is not complete. So a page
that commits less, or that is cut off, yields the first of the records of the full page.
-/
namespace MemoryRepair

open LittleEndian

/-- A number is the same in a longer byte string. -/
theorem word32At_of_isPrefix {bytes longer : Bytes} (h : bytes <+: longer) {w : UInt32}
    (hword : word32At bytes 0 = some w) : word32At longer 0 = some w := by
  obtain ⟨more, rfl⟩ := h
  exact word32At_append_of_some hword more

theorem Bytes.slice_of_isPrefix {bytes longer : Bytes} (h : bytes <+: longer) {start len : Nat}
    {piece : Bytes} (hpiece : bytes.slice start len = some piece) :
    longer.slice start len = some piece := by
  obtain ⟨more, rfl⟩ := h
  obtain ⟨hreach, hbytes⟩ := slice_eq_some_iff.mp hpiece
  refine slice_eq_some_iff.mpr ⟨?_, ?_⟩
  · rw [List.length_append]
    omega
  · rw [List.drop_append_of_le_length (by omega), List.take_append_of_le_length]
    · exact hbytes
    · rw [List.length_drop]
      omega

namespace Trace

namespace Cursor

/-- A cursor whose bytes are the first ones of another cursor at the same time. -/
structure Within (cursor longer : Cursor) : Prop where
  timestamp : longer.timestamp = cursor.timestamp
  rest : cursor.rest <+: longer.rest

/-- A step with fewer bytes against the step with more of them: it stops, or it does the same
and leaves fewer bytes again. -/
def Follows : Except Overflow Step → Except Overflow Step → Prop
  | .ok (.stop _), _ => True
  | .ok (.record record after), other =>
    ∃ longer, other = .ok (.record record longer) ∧ after.Within longer
  | .ok (.skip after), other => ∃ longer, other = .ok (.skip longer) ∧ after.Within longer
  | .error overflow, other => other = .error overflow

section Steps

variable {cursor longer : Cursor}

theorem deliver_follows (h : cursor.Within longer) (delta : Nat) {body more : Bytes}
    (hbody : body <+: more) (len : Nat) :
    Follows (deliver cursor delta body len) (deliver longer delta more len) := by
  unfold deliver
  cases hpiece : body.slice 0 len with
  | none => exact trivial
  | some piece =>
    rw [Bytes.slice_of_isPrefix hbody hpiece, h.timestamp]
    simp only
    cases Word64.add cursor.timestamp (UInt64.ofNat delta) with
    | error overflow => exact rfl
    | ok time => exact ⟨_, rfl, rfl, hbody.drop len⟩

theorem stepWorded_follows (h : cursor.Within longer) (kind delta : Nat) {body more : Bytes}
    (hbody : body <+: more) (word : UInt32) :
    Follows (cursor.stepWorded kind delta body word) (longer.stepWorded kind delta more word) := by
  unfold stepWorded
  rw [h.timestamp]
  by_cases hpadding : kind = kindPadding
  · rw [if_pos hpadding, if_pos hpadding]
    exact ⟨_, rfl, rfl, hbody.drop word.toNat⟩
  rw [if_neg hpadding, if_neg hpadding]
  by_cases hextend : kind = kindExtend
  · rw [if_pos hextend, if_pos hextend]
    cases Word64.add cursor.timestamp (UInt64.ofNat (word.toNat * deltaLimit + delta)) with
    | error overflow => exact rfl
    | ok time => exact ⟨_, rfl, rfl, hbody.drop 4⟩
  rw [if_neg hextend, if_neg hextend]
  by_cases hstamp : kind = kindStamp
  · rw [if_pos hstamp, if_pos hstamp]
    exact ⟨_, rfl, rfl, hbody.drop 4⟩
  rw [if_neg hstamp, if_neg hstamp]
  by_cases hshort : word.toNat < 4
  · rw [if_pos hshort]
    exact trivial
  · rw [if_neg hshort, if_neg hshort]
    exact deliver_follows h delta (hbody.drop 4) _

/-- Every read that falls off the shorter bytes fails before the time or the place moves. -/
theorem step_follows (h : cursor.Within longer) : Follows (step cursor) (step longer) := by
  cases hheader : word32At cursor.rest 0 with
  | none =>
    unfold step
    simp only [hheader]
    exact trivial
  | some header =>
    rw [step_of_header cursor hheader, step_of_header longer (word32At_of_isPrefix h.rest hheader)]
    have hbody : cursor.rest.drop 4 <+: longer.rest.drop 4 := h.rest.drop 4
    by_cases hnull : header.toNat % 32 = kindPadding ∧ header.toNat / 32 = 0
    · rw [if_pos hnull]
      exact trivial
    rw [if_neg hnull, if_neg hnull]
    by_cases hshort : 0 < header.toNat % 32 ∧ header.toNat % 32 < kindPadding
    · rw [if_pos hshort, if_pos hshort]
      exact deliver_follows h _ hbody _
    rw [if_neg hshort, if_neg hshort]
    cases hword : word32At (cursor.rest.drop 4) 0 with
    | none => exact trivial
    | some word =>
      rw [word32At_of_isPrefix hbody hword]
      exact stepWorded_follows h _ _ hbody word

/-- Fewer bytes yield the first records, and no overflow that more bytes would not have. -/
theorem readAll_follows (h : cursor.Within longer) :
    (readAll cursor).records <+: (readAll longer).records ∧
    ∀ final, (readAll longer).final = .ok final → ∃ rest, (readAll cursor).final = .ok rest := by
  induction cursor using readAll.induct generalizing longer with
  | case1 cursor overflow hstep =>
    have hlonger := step_follows h
    rw [hstep] at hlonger
    rw [readAll_of_overflow hlonger, readAll_of_overflow hstep]
    refine ⟨List.prefix_rfl, ?_⟩
    intro final hfinal
    cases hfinal
  | case2 cursor record after hstep ih =>
    have hsteps := step_follows h
    rw [hstep] at hsteps
    obtain ⟨behind, hlonger, hafter⟩ := hsteps
    obtain ⟨hrecords, hfinal⟩ := ih hafter
    rw [readAll_of_record hlonger, readAll_of_record hstep]
    exact ⟨(List.prefix_cons_inj record).mpr hrecords, hfinal⟩
  | case3 cursor after hstep ih =>
    have hsteps := step_follows h
    rw [hstep] at hsteps
    obtain ⟨behind, hlonger, hafter⟩ := hsteps
    rw [readAll_of_skip hlonger, readAll_of_skip hstep]
    exact ih hafter
  | case4 cursor last hstep =>
    rw [readAll_of_stop hstep]
    exact ⟨List.nil_prefix, fun final _ => ⟨last, rfl⟩⟩

/-- Iterated with fewer bytes, a cursor hands out the first of the records. -/
theorem Yields.of_within (h : cursor.Within longer) {records : List Record} {final : Cursor}
    (hyields : longer.Yields records final) :
    ∃ first rest, cursor.Yields first rest ∧ first <+: records := by
  obtain ⟨hrecords, hfinal⟩ := readAll_follows h
  rw [readAll_of_yields hyields] at hrecords hfinal
  obtain ⟨rest, hrest⟩ := hfinal final rfl
  refine ⟨(readAll cursor).records, rest, ?_, hrecords⟩
  exact yields_of_readAll (by rw [← hrest])

end Steps

end Cursor

namespace HeaderPage

/-- The page with another commit word. -/
def withCommit (header : HeaderPage) (commit : Nat) (page : Bytes) : Bytes :=
  page.take header.commitOffset.toNat ++
    (LittleEndian.encode header.commitSize.toNat commit ++
      page.drop (header.commitOffset.toNat + header.commitSize.toNat))

def InCommit (header : HeaderPage) (place : Nat) : Prop :=
  header.commitOffset.toNat ≤ place ∧
    place < header.commitOffset.toNat + header.commitSize.toNat

/-- No place of the commit word is one of the base time, and none is one of the first bytes
of the data, so many as are counted. -/
structure CommitApart (header : HeaderPage) (count : Nat) : Prop where
  timestamp : ∀ place, header.InCommit place →
    ¬ (header.timestampOffset.toNat ≤ place ∧ place < header.timestampOffset.toNat + 8)
  data : ∀ place, header.InCommit place →
    ¬ (header.dataOffset.toNat ≤ place ∧ place < header.dataOffset.toNat + count)

/-- With the smaller commit word a page yields the first of the records that it yields with the
larger one. -/
def CommitsInOrder (header : HeaderPage) (page : Bytes) (less more : Nat) : Prop :=
  ∃ short long, Cursor.ofPage (header.withCommit less page) header = .ok (some short) ∧
    Cursor.ofPage (header.withCommit more page) header = .ok (some long) ∧
    ∀ records final, long.Yields records final →
      ∃ first rest, short.Yields first rest ∧ first <+: records

section Commit

variable {header : HeaderPage} {page : Bytes}

theorem length_withCommit (h : header.Fits page) (commit : Nat) :
    (header.withCommit commit page).length = page.length := by
  have hcommit := h.commit
  simp only [withCommit, List.length_append, List.length_take, List.length_drop,
    LittleEndian.length_encode]
  omega

theorem Fits.withCommit (h : header.Fits page) (commit : Nat) :
    header.Fits (header.withCommit commit page) := by
  have hlength := length_withCommit h commit
  exact ⟨h.timestamp_sum, h.commit_sum, hlength ▸ h.timestamp, hlength ▸ h.commit, h.width,
    hlength ▸ h.data⟩

theorem getElem?_withCommit (h : header.Fits page) (commit : Nat) {place : Nat}
    (hplace : ¬ header.InCommit place) :
    (header.withCommit commit page)[place]? = page[place]? := by
  have hfront : (page.take header.commitOffset.toNat).length = header.commitOffset.toNat := by
    have hcommit := h.commit
    rw [List.length_take]
    omega
  have hword := LittleEndian.length_encode header.commitSize.toNat commit
  unfold HeaderPage.withCommit
  rw [InCommit, not_and_or, Nat.not_le, Nat.not_lt] at hplace
  rcases hplace with hbefore | hbehind
  · rw [List.getElem?_append_left (by omega), List.getElem?_take_of_lt hbefore]
  · rw [List.getElem?_append_right (by omega), List.getElem?_append_right (by omega),
      List.getElem?_drop]
    congr 1
    omega

theorem commitLength_withCommit (h : header.Fits page) (commit : Nat) :
    header.commitLength (header.withCommit commit page) = commit % Cursor.deltaLimit := by
  have hfront : (page.take header.commitOffset.toNat).length = header.commitOffset.toNat := by
    have hcommit := h.commit
    rw [List.length_take]
    omega
  have hword := LittleEndian.length_encode header.commitSize.toNat commit
  rw [commitLength, HeaderPage.withCommit, List.drop_left' hfront, List.take_left' hword,
    LittleEndian.decode_encode]
  rcases h.width with hwidth | hwidth <;> rw [hwidth] <;>
    simp only [LittleEndian.limit, Cursor.deltaLimit] <;> omega

theorem baseTime_withCommit (h : header.Fits page) {count : Nat} (hapart : header.CommitApart count)
    (commit : Nat) : header.baseTime (header.withCommit commit page) = header.baseTime page :=
  baseTime_congr fun place hstart hstop =>
    getElem?_withCommit h commit fun hplace => hapart.timestamp place hplace ⟨hstart, hstop⟩

/-- Less committed is less to read, at the same time. -/
theorem within_withCommit (h : header.Fits page) {less more : Nat}
    (hle : less % Cursor.deltaLimit ≤ more % Cursor.deltaLimit)
    (hapart : header.CommitApart (less % Cursor.deltaLimit)) :
    Cursor.Within
      ⟨header.baseTime (header.withCommit less page),
        header.committed (header.withCommit less page)⟩
      ⟨header.baseTime (header.withCommit more page),
        header.committed (header.withCommit more page)⟩ := by
  constructor
  · exact (baseTime_withCommit h hapart more).trans (baseTime_withCommit h hapart less).symm
  · have hsame : ((header.withCommit less page).drop header.dataOffset.toNat).take
        (less % Cursor.deltaLimit) =
        ((header.withCommit more page).drop header.dataOffset.toNat).take
          (less % Cursor.deltaLimit) := by
      apply Bytes.take_drop_congr
      intro place hstart hstop
      have hplace : ¬ header.InCommit place :=
        fun hcommit => hapart.data place hcommit ⟨hstart, hstop⟩
      rw [getElem?_withCommit h less hplace, getElem?_withCommit h more hplace]
    simp only [committed, commitLength_withCommit h]
    rw [hsame]
    exact List.take_prefix_take_left hle

/-- A page that is cut off behind its words has less to read, at the same time. -/
theorem within_take {count : Nat} (h : header.Fits (page.take count)) :
    Cursor.Within ⟨header.baseTime (page.take count), header.committed (page.take count)⟩
      ⟨header.baseTime page, header.committed page⟩ := by
  have hcount := List.length_take_le count page
  have htimestamp := h.timestamp
  have hcommit := h.commit
  have hlength : header.commitLength (page.take count) = header.commitLength page := by
    apply commitLength_congr
    intro place hstart hstop
    exact List.getElem?_take_of_lt (by omega)
  constructor
  · apply Eq.symm
    apply baseTime_congr
    intro place hstart hstop
    exact List.getElem?_take_of_lt (by omega)
  · rw [committed, committed, hlength]
    exact ((List.take_prefix count page).drop _).take _

end Commit

end HeaderPage

open HeaderPage

/-- What a page yields grows with its commit word, as long as this word is apart from what is
read. No byte behind the committed ones counts, and a page that is cut off yields the first of
its records. -/
theorem yields_of_committed {page : Bytes} {header : HeaderPage} {cursor : Cursor}
    (h : Cursor.ofPage page header = .ok (some cursor)) :
    (∀ less more : Nat, less % Cursor.deltaLimit ≤ more % Cursor.deltaLimit →
      header.CommitApart (less % Cursor.deltaLimit) → header.CommitsInOrder page less more) ∧
    (∀ other : Bytes, header.dataOffset.toNat ≤ other.length →
      (∀ place, header.Reads (header.commitLength page) place → other[place]? = page[place]?) →
      Cursor.ofPage other header = .ok (some cursor)) ∧
    ∀ count cut, Cursor.ofPage (page.take count) header = .ok (some cut) →
      ∀ records final, cursor.Yields records final →
        ∃ first rest, cut.Yields first rest ∧ first <+: records := by
  obtain ⟨hfits, rfl⟩ := Cursor.ofPage_eq_ok_some_iff.mp h
  refine ⟨?_, ?_, ?_⟩
  · intro less more hle hapart
    refine ⟨_, _, Cursor.ofPage_of_fits (hfits.withCommit less),
      Cursor.ofPage_of_fits (hfits.withCommit more), ?_⟩
    intro records final hyields
    exact hyields.of_within (within_withCommit hfits hle hapart)
  · intro other hdata hsame
    rw [Cursor.ofPage_of_fits (hfits.congr hsame hdata), baseTime_congr, committed_congr hsame]
    exact fun place hstart hstop => hsame place (Or.inl ⟨hstart, hstop⟩)
  · intro count cut hcut records final hyields
    obtain ⟨hshort, rfl⟩ := Cursor.ofPage_eq_ok_some_iff.mp hcut
    exact hyields.of_within (within_take hshort)

/-- Two records of four bytes, both of them committed. -/
def twoRecords : Bytes :=
  List.replicate 8 0 ++ LittleEndian.ofWord64 16 ++ [33, 0, 0, 0, 1, 1, 1, 1] ++
    [33, 0, 0, 0, 2, 2, 2, 2]

theorem yields_twoRecords :
    Cursor.Yields ⟨0, [33, 0, 0, 0, 1, 1, 1, 1, 33, 0, 0, 0, 2, 2, 2, 2]⟩
      [⟨1, [1, 1, 1, 1]⟩, ⟨2, [2, 2, 2, 2]⟩] ⟨2, []⟩ := by
  have hfirst : Cursor.step ⟨0, [33, 0, 0, 0, 1, 1, 1, 1, 33, 0, 0, 0, 2, 2, 2, 2]⟩ =
      .ok (.record ⟨1, [1, 1, 1, 1]⟩ ⟨1, [33, 0, 0, 0, 2, 2, 2, 2]⟩) := rfl
  have hsecond : Cursor.step ⟨1, [33, 0, 0, 0, 2, 2, 2, 2]⟩ =
      .ok (.record ⟨2, [2, 2, 2, 2]⟩ ⟨2, []⟩) := rfl
  have hend : Cursor.step ⟨2, []⟩ = .ok (.stop ⟨2, []⟩) := rfl
  exact .more (Cursor.next_of_record hfirst) (.more (Cursor.next_of_record hsecond)
    (.done (Cursor.next_of_stop hend)))

/-- With one of two records committed, with bytes behind both, and cut off in the second one. -/
theorem yields_of_committed_twoRecords :
    let cursor : Cursor := ⟨0, [33, 0, 0, 0, 1, 1, 1, 1, 33, 0, 0, 0, 2, 2, 2, 2]⟩
    let records : List Record := [⟨1, [1, 1, 1, 1]⟩, ⟨2, [2, 2, 2, 2]⟩]
    Cursor.ofPage twoRecords .standard = .ok (some cursor) ∧
    HeaderPage.standard.CommitApart (8 % Cursor.deltaLimit) ∧
    HeaderPage.standard.CommitsInOrder twoRecords 8 16 ∧
    Cursor.ofPage (twoRecords ++ [33, 0, 0, 0, 3, 3, 3, 3]) .standard = .ok (some cursor) ∧
    cursor.Yields records ⟨2, []⟩ ∧
    ∃ cut, Cursor.ofPage (twoRecords.take 30) .standard = .ok (some cut) ∧
      ∃ first rest, cut.Yields first rest ∧ first <+: records := by
  intro cursor records
  have hload : Cursor.ofPage twoRecords .standard = .ok (some cursor) := rfl
  have hplaces : HeaderPage.standard.timestampOffset.toNat = 0 ∧
      HeaderPage.standard.commitOffset.toNat = 8 ∧
      HeaderPage.standard.commitSize.toNat = 8 ∧
      HeaderPage.standard.dataOffset.toNat = 16 := by decide
  have hapart : HeaderPage.standard.CommitApart (8 % Cursor.deltaLimit) := by
    refine ⟨fun place hplace => ?_, fun place hplace => ?_⟩
    all_goals
      unfold HeaderPage.InCommit at hplace
      omega
  have hyields : cursor.Yields records ⟨2, []⟩ := yields_twoRecords
  obtain ⟨hcommit, hother, hcut⟩ := yields_of_committed hload
  have hsame : ∀ place, HeaderPage.standard.Reads (HeaderPage.standard.commitLength twoRecords)
      place → (twoRecords ++ [33, 0, 0, 0, 3, 3, 3, 3])[place]? = twoRecords[place]? := by
    have hlength : twoRecords.length = 32 := rfl
    have hcommitted : HeaderPage.standard.commitLength twoRecords = 16 := by decide
    intro place hplace
    apply List.getElem?_append_left
    unfold HeaderPage.Reads at hplace
    omega
  exact ⟨hload, hapart, hcommit 8 16 (by decide) hapart, hother _ (by decide) hsame, hyields,
    _, rfl, hcut 30 _ rfl records _ hyields⟩

theorem HeaderPage.not_commitsInOrder {header : HeaderPage} {page : Bytes} {less more : Nat}
    {short long rest final : Cursor} {first records : List Record}
    (hshort : Cursor.ofPage (header.withCommit less page) header = .ok (some short))
    (hlong : Cursor.ofPage (header.withCommit more page) header = .ok (some long))
    (hfirst : short.Yields first rest) (hrecords : long.Yields records final)
    (hnot : ¬ first <+: records) : ¬ header.CommitsInOrder page less more := by
  rintro ⟨_, _, hless, hmore, hall⟩
  cases hshort.symm.trans hless
  cases hlong.symm.trans hmore
  obtain ⟨others, last, hothers, hbegin⟩ := hall records final hrecords
  have hsame : others = first := by
    have hreading := (Cursor.readAll_of_yields hothers).symm.trans
      (Cursor.readAll_of_yields hfirst)
    exact congrArg Cursor.Reading.records hreading
  exact hnot (hsame ▸ hbegin)

/-- Headers that keep the commit word where the data begin, or where the base time is. -/
def HeaderPage.commitInData : HeaderPage := ⟨0, 8, 8, 8⟩
def HeaderPage.commitInTime : HeaderPage := ⟨8, 8, 8, 16⟩

theorem not_commitsInOrder_commitInData :
    ¬ HeaderPage.commitInData.CommitsInOrder (List.replicate 24 0) 33 61 := by
  have hless : Cursor.ofPage (HeaderPage.commitInData.withCommit 33 (List.replicate 24 0))
      .commitInData = .ok (some ⟨0, 33 :: List.replicate 15 0⟩) := rfl
  have hmore : Cursor.ofPage (HeaderPage.commitInData.withCommit 61 (List.replicate 24 0))
      .commitInData = .ok (some ⟨0, 61 :: List.replicate 15 0⟩) := rfl
  have hrecord : Cursor.step ⟨0, 33 :: List.replicate 15 0⟩ =
      .ok (.record ⟨1, [0, 0, 0, 0]⟩ ⟨1, List.replicate 8 0⟩) := rfl
  have hstop : Cursor.step ⟨1, List.replicate 8 0⟩ = .ok (.stop ⟨1, List.replicate 8 0⟩) := rfl
  have hpadding : Cursor.step ⟨0, 61 :: List.replicate 15 0⟩ =
      .ok (.skip ⟨0, List.replicate 12 0⟩) := rfl
  have hend : Cursor.step ⟨0, List.replicate 12 0⟩ = .ok (.stop ⟨0, List.replicate 12 0⟩) := rfl
  exact HeaderPage.not_commitsInOrder hless hmore
    (.more (Cursor.next_of_record hrecord) (.done (Cursor.next_of_stop hstop)))
    (.done ((Cursor.next_of_skip hpadding).trans (Cursor.next_of_stop hend))) (by decide)

theorem not_commitsInOrder_commitInTime :
    ¬ HeaderPage.commitInTime.CommitsInOrder twoRecords 8 16 := by
  have hless : Cursor.ofPage (HeaderPage.commitInTime.withCommit 8 twoRecords) .commitInTime =
      .ok (some ⟨8, [33, 0, 0, 0, 1, 1, 1, 1]⟩) := rfl
  have hmore : Cursor.ofPage (HeaderPage.commitInTime.withCommit 16 twoRecords) .commitInTime =
      .ok (some ⟨16, [33, 0, 0, 0, 1, 1, 1, 1, 33, 0, 0, 0, 2, 2, 2, 2]⟩) := rfl
  have hshort : Cursor.step ⟨8, [33, 0, 0, 0, 1, 1, 1, 1]⟩ =
      .ok (.record ⟨9, [1, 1, 1, 1]⟩ ⟨9, []⟩) := rfl
  have hfirst : Cursor.step ⟨16, [33, 0, 0, 0, 1, 1, 1, 1, 33, 0, 0, 0, 2, 2, 2, 2]⟩ =
      .ok (.record ⟨17, [1, 1, 1, 1]⟩ ⟨17, [33, 0, 0, 0, 2, 2, 2, 2]⟩) := rfl
  have hsecond : Cursor.step ⟨17, [33, 0, 0, 0, 2, 2, 2, 2]⟩ =
      .ok (.record ⟨18, [2, 2, 2, 2]⟩ ⟨18, []⟩) := rfl
  have hend : ∀ time, Cursor.step ⟨time, []⟩ = .ok (.stop ⟨time, []⟩) := fun _ => rfl
  exact HeaderPage.not_commitsInOrder hless hmore
    (.more (Cursor.next_of_record hshort) (.done (Cursor.next_of_stop (hend 9))))
    (.more (Cursor.next_of_record hfirst) (.more (Cursor.next_of_record hsecond)
      (.done (Cursor.next_of_stop (hend 18))))) (by decide)

/-- Where the commit word is also the first item of the data, or also the base time, another
commit word is another item or another time. -/
theorem commit_shared :
    (∃ cursor, Cursor.ofPage (List.replicate 24 0) .commitInData = .ok (some cursor)) ∧
    ¬ HeaderPage.commitInData.CommitsInOrder (List.replicate 24 0) 33 61 ∧
    (∃ cursor, Cursor.ofPage twoRecords .commitInTime = .ok (some cursor)) ∧
    ¬ HeaderPage.commitInTime.CommitsInOrder twoRecords 8 16 :=
  ⟨⟨_, rfl⟩, not_commitsInOrder_commitInData, ⟨_, rfl⟩, not_commitsInOrder_commitInTime⟩

end Trace

end MemoryRepair
