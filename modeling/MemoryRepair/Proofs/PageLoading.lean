import MemoryRepair.Trace.Page

/-!
Loading a page. A header gives the places of three things on a page: the base time, the
commit word and the data. A page is loaded if they are on it, unless a sum of places does not
fit 64 bits, and what is loaded depends on the bytes of the two words and on the committed
bytes, whatever else is on the page.
-/
namespace MemoryRepair

namespace Bytes

/-- A stretch of a byte string is what stands at its places. -/
theorem take_drop_congr {bytes other : Bytes} {start len : Nat}
    (h : ∀ place, start ≤ place → place < start + len → other[place]? = bytes[place]?) :
    (other.drop start).take len = (bytes.drop start).take len := by
  apply List.ext_getElem?
  intro i
  simp only [List.getElem?_take, List.getElem?_drop]
  split
  · next hi => exact h (start + i) (by omega) (by omega)
  · rfl

/-- Whether a byte string reaches so far is told by its last byte there. -/
theorem le_length_congr {bytes other : Bytes} {reach : Nat} (hpos : 0 < reach)
    (h : other[reach - 1]? = bytes[reach - 1]?) (hreach : reach ≤ bytes.length) :
    reach ≤ other.length := by
  have hlast : reach - 1 < bytes.length := by omega
  rw [List.getElem?_eq_getElem hlast] at h
  obtain ⟨hother, -⟩ := List.getElem?_eq_some_iff.mp h
  omega

end Bytes

namespace Trace

namespace HeaderPage

/-- The time at which a page starts. -/
def baseTime (header : HeaderPage) (page : Bytes) : UInt64 :=
  LittleEndian.toWord64 ((page.drop header.timestampOffset.toNat).take 8)

/-- How many bytes the commit word of a page states. -/
def commitLength (header : HeaderPage) (page : Bytes) : Nat :=
  LittleEndian.decode ((page.drop header.commitOffset.toNat).take header.commitSize.toNat) %
    Cursor.deltaLimit

/-- The committed bytes of a page, as far as it has them. -/
def committed (header : HeaderPage) (page : Bytes) : Bytes :=
  (page.drop header.dataOffset.toNat).take (header.commitLength page)

/-- The two words and the start of the data are on a page, and their places are numbers of
64 bits. -/
structure Fits (header : HeaderPage) (page : Bytes) : Prop where
  timestamp_sum : header.timestampOffset.toNat + 8 < UInt64.size
  commit_sum : header.commitOffset.toNat + header.commitSize.toNat < UInt64.size
  timestamp : header.timestampOffset.toNat + 8 ≤ page.length
  commit : header.commitOffset.toNat + header.commitSize.toNat ≤ page.length
  width : header.commitSize.toNat = 4 ∨ header.commitSize.toNat = 8
  data : header.dataOffset.toNat ≤ page.length

/-- Both words and the start of the data are on a page, and the commit word has a width that
can be read. -/
structure OnPage (header : HeaderPage) (page : Bytes) : Prop where
  timestamp : header.timestampOffset.toNat + 8 ≤ page.length
  commit : header.commitOffset.toNat + header.commitSize.toNat ≤ page.length
  width : header.commitSize.toNat = 4 ∨ header.commitSize.toNat = 8
  data : header.dataOffset.toNat ≤ page.length

/-- A sum that loading comes to does not fit 64 bits. It comes to the commit word only on a
page that has the base time. -/
def Overruns (header : HeaderPage) (page : Bytes) : Prop :=
  UInt64.size ≤ header.timestampOffset.toNat + 8 ∨
    header.timestampOffset.toNat + 8 ≤ page.length ∧
      UInt64.size ≤ header.commitOffset.toNat + header.commitSize.toNat

section Sums

variable {header : HeaderPage} {page : Bytes}

/-- What is on a page that a machine of 64 bits can hold has a place of 64 bits. -/
theorem OnPage.not_overruns (h : header.OnPage page) (hpage : page.length < UInt64.size) :
    ¬ header.Overruns page := by
  have htimestamp := h.timestamp
  have hcommit := h.commit
  rintro (hsum | ⟨-, hsum⟩) <;> omega

theorem OnPage.fits (h : header.OnPage page) (hsums : ¬ header.Overruns page) :
    header.Fits page := by
  rw [Overruns, not_or, not_and, Nat.not_le, Nat.not_le] at hsums
  exact ⟨hsums.1, hsums.2 h.timestamp, h.timestamp, h.commit, h.width, h.data⟩

end Sums

/-- The places of a page that a header with so many committed bytes looks at. -/
def Reads (header : HeaderPage) (count place : Nat) : Prop :=
  header.timestampOffset.toNat ≤ place ∧ place < header.timestampOffset.toNat + 8 ∨
  header.commitOffset.toNat ≤ place ∧
    place < header.commitOffset.toNat + header.commitSize.toNat ∨
  header.dataOffset.toNat ≤ place ∧ place < header.dataOffset.toNat + count

section Places

variable {header : HeaderPage} {page other : Bytes}

theorem baseTime_congr (h : ∀ place, header.timestampOffset.toNat ≤ place →
    place < header.timestampOffset.toNat + 8 → other[place]? = page[place]?) :
    header.baseTime other = header.baseTime page := by
  rw [baseTime, baseTime, Bytes.take_drop_congr h]

theorem commitLength_congr (h : ∀ place, header.commitOffset.toNat ≤ place →
    place < header.commitOffset.toNat + header.commitSize.toNat → other[place]? = page[place]?) :
    header.commitLength other = header.commitLength page := by
  rw [commitLength, commitLength, Bytes.take_drop_congr h]

theorem committed_congr
    (h : ∀ place, header.Reads (header.commitLength page) place → other[place]? = page[place]?) :
    header.committed other = header.committed page := by
  have hlength : header.commitLength other = header.commitLength page :=
    commitLength_congr fun place hstart hstop => h place (Or.inr (Or.inl ⟨hstart, hstop⟩))
  rw [committed, committed, hlength]
  apply Bytes.take_drop_congr
  exact fun place hstart hstop => h place (Or.inr (Or.inr ⟨hstart, hstop⟩))

/-- A page that agrees with another one where the header looks fits it too, if it reaches the
data. -/
theorem Fits.congr (hfits : header.Fits page) {count : Nat}
    (h : ∀ place, header.Reads count place → other[place]? = page[place]?)
    (hdata : header.dataOffset.toNat ≤ other.length) : header.Fits other := by
  have hwidth := hfits.width
  have htimestamp : header.timestampOffset.toNat + 8 ≤ other.length := by
    apply Bytes.le_length_congr (by omega) (h _ (Or.inl (by omega))) hfits.timestamp
  have hcommit : header.commitOffset.toNat + header.commitSize.toNat ≤ other.length := by
    apply Bytes.le_length_congr (by omega) (h _ (Or.inr (Or.inl (by omega)))) hfits.commit
  exact ⟨hfits.timestamp_sum, hfits.commit_sum, htimestamp, hcommit, hwidth, hdata⟩

end Places

end HeaderPage

namespace Cursor

section Loading

variable {header : HeaderPage} {page : Bytes}

theorem ofPage_of_fits (h : header.Fits page) :
    ofPage page header = .ok (some ⟨header.baseTime page, header.committed page⟩) := by
  have htimestamp := Bytes.slice_of_le h.timestamp
  have hcommit := Bytes.slice_of_le h.commit
  have hwidth := Bytes.length_of_slice hcommit
  unfold ofPage
  rw [Word64.add_eq_ok _ _ h.timestamp_sum, Word64.add_eq_ok _ _ h.commit_sum]
  simp only [bind, Except.bind, htimestamp, hcommit, hwidth]
  rw [if_pos ⟨h.width, h.data⟩]
  rfl

theorem ofPage_of_overruns (h : header.Overruns page) :
    ofPage page header = .error .addition := by
  unfold ofPage
  by_cases hfirst : header.timestampOffset.toNat + 8 < UInt64.size
  · rcases h with hsum | ⟨hreach, hsum⟩
    · exact absurd hfirst (Nat.not_lt.mpr hsum)
    · rw [Word64.add_eq_ok _ _ hfirst, Bytes.slice_of_le hreach, Word64.add_eq_error _ _ hsum]
      rfl
  · rw [Word64.add_eq_error _ _ (Nat.le_of_not_lt hfirst)]
    rfl

theorem ofPage_of_not_onPage (hsums : ¬ header.Overruns page) (h : ¬ header.OnPage page) :
    ofPage page header = .ok none := by
  rw [HeaderPage.Overruns, not_or, not_and, Nat.not_le, Nat.not_le] at hsums
  unfold ofPage
  rw [Word64.add_eq_ok _ _ hsums.1]
  rcases Nat.lt_or_ge page.length (header.timestampOffset.toNat + 8) with hshort | htimestamp
  · rw [Bytes.slice_of_lt hshort]
    rfl
  · rw [Bytes.slice_of_le htimestamp, Word64.add_eq_ok _ _ (hsums.2 htimestamp)]
    rcases Nat.lt_or_ge page.length (header.commitOffset.toNat + header.commitSize.toNat)
      with hshort | hcommit
    · rw [Bytes.slice_of_lt hshort]
      rfl
    · have hslice := Bytes.slice_of_le hcommit
      have hlength := Bytes.length_of_slice hslice
      simp only [bind, Except.bind, hslice, hlength]
      rw [if_neg fun hrest => h ⟨htimestamp, hcommit, hrest.1, hrest.2⟩]
      rfl

theorem fits_of_ofPage {cursor : Cursor} (h : ofPage page header = .ok (some cursor)) :
    header.Fits page := by
  by_cases hsums : header.Overruns page
  · rw [ofPage_of_overruns hsums] at h
    cases h
  · by_cases honPage : header.OnPage page
    · exact honPage.fits hsums
    · rw [ofPage_of_not_onPage hsums honPage] at h
      cases h

/-- Exactly the pages that fit their header are loaded, each to its base time and its committed
bytes. -/
theorem ofPage_eq_ok_some_iff {cursor : Cursor} :
    ofPage page header = .ok (some cursor) ↔
      header.Fits page ∧ cursor = ⟨header.baseTime page, header.committed page⟩ := by
  constructor
  · intro h
    have hfits := fits_of_ofPage h
    rw [ofPage_of_fits hfits] at h
    exact ⟨hfits, (Option.some.inj (Except.ok.inj h)).symm⟩
  · rintro ⟨hfits, rfl⟩
    exact ofPage_of_fits hfits

end Loading

end Cursor

end Trace

end MemoryRepair
