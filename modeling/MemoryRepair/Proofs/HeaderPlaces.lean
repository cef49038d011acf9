import MemoryRepair.Proofs.FormatText
import MemoryRepair.Proofs.PageLoading

/-!
The places that a header states. Any numbers of 64 bits can stand in its text, and sums of
them are formed before they are compared with the length of a page. So loading a page
overflows exactly if a sum that it comes to does not fit 64 bits. Otherwise a page is loaded
exactly if both words and the start of the data are on it.
-/
namespace MemoryRepair.Trace.Cursor

/-- A text can state the places of any header. Whatever is on a page, loading it ends in an
overflow exactly if a sum that it comes to does not fit; it finds a cursor exactly if both
words and the start of the data are on the page, which is then read from its base time and its
committed bytes; and otherwise it finds none. -/
theorem ofPage_stated (header : HeaderPage) (page : Bytes) (hpage : page.length < UInt64.size) :
    (∃ text, HeaderPage.parse text = some header) ∧
    (∀ overflow, ofPage page header = .error overflow ↔
      overflow = .addition ∧ header.Overruns page) ∧
    ((∃ cursor, ofPage page header = .ok (some cursor)) ↔ header.OnPage page) ∧
    (∀ cursor, ofPage page header = .ok (some cursor) →
      cursor = ⟨header.baseTime page, header.committed page⟩) ∧
    (ofPage page header = .ok none ↔ ¬ header.Overruns page ∧ ¬ header.OnPage page) := by
  refine ⟨⟨header.text, header.parse_text⟩, ?_⟩
  by_cases hsums : header.Overruns page
  · have honPage : ¬ header.OnPage page := fun h => h.not_overruns hpage hsums
    simp [ofPage_of_overruns hsums, hsums, honPage, eq_comm]
  · by_cases honPage : header.OnPage page
    · simp [ofPage_of_fits (honPage.fits hsums), hsums, honPage, eq_comm]
    · simp [ofPage_of_not_onPage hsums honPage, hsums, honPage]

/-- The commit word ends where the numbers of 64 bits do. A page without a base time is
refused before the sum is formed, a page with one overflows, and neither is loaded. -/
theorem ofPage_stated_lateCommit :
    let header : HeaderPage := ⟨0, 0xfffffffffffffffc, 4, 16⟩
    let short : Bytes := List.replicate 7 0
    let page : Bytes := List.replicate 24 0
    short.length < UInt64.size ∧ ofPage short header = .ok none ∧
      page.length < UInt64.size ∧ ofPage page header = .error .addition ∧
      ofPage page .standard = .ok (some ⟨0, []⟩) := by
  intro header short page
  have hshort : short.length < UInt64.size := by decide
  have hpage : page.length < UInt64.size := by decide
  obtain ⟨-, -, -, -, hnone⟩ := ofPage_stated header short hshort
  obtain ⟨-, herror, -⟩ := ofPage_stated header page hpage
  obtain ⟨-, -, hloaded, hcursor, -⟩ := ofPage_stated .standard page hpage
  have honPage : HeaderPage.standard.OnPage page := by
    constructor <;> decide
  obtain ⟨cursor, hstandard⟩ := hloaded.mpr honPage
  obtain rfl : cursor = ⟨0, []⟩ := hcursor cursor hstandard
  refine ⟨hshort, hnone.mpr ⟨?_, ?_⟩, hpage, (herror .addition).mpr ⟨rfl, ?_⟩, hstandard⟩
  · rintro (hsum | ⟨hreach, -⟩)
    · exact absurd hsum (by decide)
    · exact absurd hreach (by decide)
  · exact fun h => absurd h.timestamp (by decide)
  · exact Or.inr ⟨by decide, by decide⟩

/-- A text states a base time at the eighth place from the end of the numbers of 64 bits. It is
taken, and a page, which has no such place, is then not refused but overflows. -/
theorem ofPage_overflows_lateTime :
    let text := describe
      ["\tfield: u64 timestamp;\toffset:18446744073709551608;\tsize:8;\tsigned:0;",
       "\tfield: local_t commit;\toffset:8;\tsize:8;\tsigned:1;",
       "\tfield: char data;\toffset:16;\tsize:4080;\tsigned:1;"]
    let header : HeaderPage := ⟨0xfffffffffffffff8, 8, 8, 16⟩
    let page : Bytes := List.replicate 24 0
    HeaderPage.parse text = some header ∧ ¬ header.OnPage page ∧
      ofPage page header = .error .addition := by
  intro text header page
  refine ⟨?_, fun h => absurd h.timestamp (by decide), rfl⟩
  decide +kernel

end MemoryRepair.Trace.Cursor
