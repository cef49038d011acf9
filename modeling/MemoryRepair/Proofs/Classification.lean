import MemoryRepair.Proofs.Handling

/-!
The codes of a report against the repair that it reports. A request is accepted in a mode
by its bits together with the number of its registers, while the codes go by the bits
alone, the first set bit winning. The two agree on every request but one with the registers
for a whole row that has a bit for a single address too: the row is repaired, and the
report tells of a single address.
-/
namespace MemoryRepair

theorem and_or_eq_zero_iff {x a b : UInt32} : x &&& (a ||| b) = 0 ↔ x &&& a = 0 ∧ x &&& b = 0 := by
  have hboth : x &&& (a ||| b) = x &&& a ||| x &&& b := by
    rw [← UInt32.toNat_inj, UInt32.toNat_and, UInt32.toNat_or, Nat.and_or_distrib_left]
    rfl
  rw [hboth, UInt32.or_eq_zero_iff]

namespace Report

/-- The codes of the report are those of a repair in the mode. -/
def Classifies (report : Report) : Mode → Prop
  | .acls => (report.codes.1 = 0 ∨ report.codes.1 = 1) ∧ report.codes.2 = singleAddress
  | .sppr => (report.codes.1 = 2 ∨ report.codes.1 = 3) ∧ report.codes.2 = row
  | .cache => False

theorem classifies_acls {report : Report}
    (h : report.repairType &&& Mode.acls.requestBits ≠ 0) : report.Classifies .acls := by
  by_cases hfirst : report.repairType &&& 1 = 0
  · have hsecond : report.repairType &&& 2 ≠ 0 := fun hzero =>
      h (and_or_eq_zero_iff (a := 1) (b := 2) |>.mpr ⟨hfirst, hzero⟩)
    have hcodes : report.codes = (1, singleAddress) := by
      simp [codes, codeTable, hfirst, hsecond]
    exact ⟨Or.inr (congrArg Prod.fst hcodes), congrArg Prod.snd hcodes⟩
  · have hcodes : report.codes = (0, singleAddress) := by
      simp [codes, codeTable, hfirst]
    exact ⟨Or.inl (congrArg Prod.fst hcodes), congrArg Prod.snd hcodes⟩

theorem classifies_sppr {report : Report}
    (hacls : report.repairType &&& Mode.acls.requestBits = 0)
    (h : report.repairType &&& Mode.sppr.requestBits ≠ 0) : report.Classifies .sppr := by
  obtain ⟨hfirst, hsecond⟩ := and_or_eq_zero_iff (a := 1) (b := 2) |>.mp hacls
  by_cases hthird : report.repairType &&& 4 = 0
  · have hfourth : report.repairType &&& 8 ≠ 0 := fun hzero =>
      h (and_or_eq_zero_iff (a := 4) (b := 8) |>.mpr ⟨hthird, hzero⟩)
    have hcodes : report.codes = (3, row) := by
      simp [codes, codeTable, hfirst, hsecond, hthird, hfourth]
    exact ⟨Or.inr (congrArg Prod.fst hcodes), congrArg Prod.snd hcodes⟩
  · have hcodes : report.codes = (2, row) := by
      simp [codes, codeTable, hfirst, hsecond, hthird]
    exact ⟨Or.inl (congrArg Prod.fst hcodes), congrArg Prod.snd hcodes⟩

theorem not_classifies_both {report : Report} (hacls : report.Classifies .acls) :
    ¬ report.Classifies .sppr := by
  intro hsppr
  have hsame : singleAddress = row := hacls.2.symm.trans hsppr.2
  exact absurd hsame (by decide)

/-- A request accepted in a mode is classified so, unless it is one for a row with a bit
for a single address. -/
theorem classifies_iff {s : Section} {mode : Mode} (hvalid : s.validate = .ok mode)
    (hflat : s.isFlat = true) {report : Report} (htype : report.repairType = s.repairType) :
    report.Classifies mode ↔
      ¬ (mode = .sppr ∧ s.repairType &&& Mode.acls.requestBits ≠ 0) := by
  have hbit := Section.bit_of_validate hvalid
  rw [← htype] at hbit ⊢
  cases mode with
  | acls => exact iff_of_true (classifies_acls hbit) nofun
  | cache => exact absurd rfl (Section.ne_cache_of_isFlat hvalid hflat)
  | sppr =>
    by_cases hacls : report.repairType &&& Mode.acls.requestBits = 0
    · exact iff_of_true (classifies_sppr hacls hbit) fun h => h.2 hacls
    · exact iff_of_false (not_classifies_both (classifies_acls hacls)) fun h => h ⟨rfl, hacls⟩

end Report

namespace Handler

variable {σ δ : Type}

/-- The one report of a repair classifies it by its mode, unless a request for a row has a
bit for a single address; the report then tells of the repair of a single address. -/
theorem handleSection_classifies (handler : Handler σ δ) (ledger : Ledger) {s : Section}
    {mode : Mode} (hvalid : s.validate = .ok mode) (hflat : s.isFlat = true) (state : σ)
    (hfits : handler.Fits ledger s state) :
    ∃ report, (Act.run (handler.handleSection ledger s) state).journal.filterMap Entry.report? =
        [report] ∧
      (report.Classifies mode ↔
        ¬ (mode = .sppr ∧ s.repairType &&& Mode.acls.requestBits ≠ 0)) ∧
      (s.repairType &&& Mode.acls.requestBits ≠ 0 → report.Classifies .acls) := by
  obtain ⟨recorded, outcome, last, h⟩ := handler.handleSection_handled ledger hvalid hfits
  obtain ⟨result, rfl⟩ := Option.isSome_iff_exists.mp (h.repaired.trans hflat)
  have hacls : s.repairType &&& Mode.acls.requestBits ≠ 0 →
      (Repair.report s result).Classifies .acls := fun hbits => Report.classifies_acls hbits
  exact ⟨Repair.report s result, h.reports, Report.classifies_iff hvalid hflat rfl, hacls⟩

/-- A request with the registers for a row. -/
def rowRequest (bits : UInt32) : Section :=
  { Repair.onePage with registers := bits :: List.replicate 34 0 }

theorem handleSection_classifies_row :
    let empty : VariableDirectory := .present fun _ => none
    (rowRequest 8).validate = .ok .sppr ∧ (rowRequest 8).isFlat = true ∧
    (plain 8).Fits ⟨64, 0⟩ (rowRequest 8) empty ∧
    ∃ report, (Act.run ((plain 8).handleSection ⟨64, 0⟩ (rowRequest 8)) empty).journal.filterMap
        Entry.report? = [report] ∧ report.Classifies .sppr := by
  intro empty
  have hvalid : (rowRequest 8).validate = .ok .sppr := rfl
  have hfits : (plain 8).Fits ⟨64, 0⟩ (rowRequest 8) empty := plain_fits (by decide) (by decide) _ _
  obtain ⟨report, hreport, hclassifies, -⟩ :=
    handleSection_classifies (plain 8) ⟨64, 0⟩ hvalid rfl empty hfits
  exact ⟨hvalid, rfl, hfits, report, hreport, hclassifies.mpr fun h => h.2 rfl⟩

/-- Sixteen pages are repaired as a row, and the report tells of a single address. -/
theorem handleSection_classifies_twoBits :
    let empty : VariableDirectory := .present fun _ => none
    let ran := Act.run ((plain 8).handleSection ⟨64, 0⟩ (rowRequest 5)) empty
    (rowRequest 5).validate = .ok .sppr ∧
    ran.value = .ok (some ⟨.sppr, true, some .success⟩, ⟨64, 8⟩) ∧
    (ran.journal.filterMap Entry.report?).map Report.codes = [(0, Report.singleAddress)] ∧
    (ran.journal.filterMap Entry.call?).count (.command .spprRepair "node0" 0) = 1 := by
  refine ⟨?_, ?_, ?_, ?_⟩ <;> rfl

end Handler

end MemoryRepair
