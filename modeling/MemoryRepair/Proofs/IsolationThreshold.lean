import MemoryRepair.Proofs.Handling
import MemoryRepair.Proofs.RepairSafety
import MemoryRepair.Proofs.TextPieces

/-!
The isolation threshold. The pages of a request and the memory that is already corrupted
are added up in a word of 64 bits, and the sum is compared with the threshold. Any amount
that fits the word can be read from the memory information. Where the sum fits its word too
the comparison is that of the numbers; where it does not, the run ends without a report.
-/
namespace MemoryRepair

namespace Text

/-- A text of one line. -/
theorem lines_concat {line : List Char} {last : Char} (hline : ∀ c ∈ line, (c == '\n') = false)
    (hlast : (last == '\n') = false) (hreturn : last ≠ '\r') :
    lines (line ++ [last] ++ ['\n']) = [line ++ [last]] := by
  have hall : ∀ c ∈ line ++ [last], (c == '\n') = false := by
    intro c hc
    rcases List.mem_append.mp hc with hc | hc
    · exact hline c hc
    · rwa [List.mem_singleton.mp hc]
  have hstrip : stripReturn (line ++ [last]) = line ++ [last] := by
    rw [stripReturn, List.reverse_concat]
    split
    · next heq => exact absurd (List.cons.inj heq).1 hreturn
    · rfl
  rw [lines, splitBy_append_cons hall (beq_self_eq_true '\n')]
  simp [splitBy, closeLines, hstrip]

/-- A line that states an amount in kibibytes after a mark. -/
def amountLine (mark : List Char) (kb : UInt64) : List Char :=
  mark ++ ' ' :: (Nat.toDigits 10 kb.toNat ++ [' ', 'k', 'B'])

theorem lines_amountLine {mark : List Char} (hmark : ∀ c ∈ mark, (c == '\n') = false)
    (kb : UInt64) : lines (amountLine mark kb ++ ['\n']) = [amountLine mark kb] := by
  have hdigits : ∀ c ∈ Nat.toDigits 10 kb.toNat, (c == '\n') = false := by
    refine fun c hc => beq_eq_false_iff_ne.mpr ?_
    rintro rfl
    exact absurd (isDigit_of_mem_toDigits hc) (by decide)
  have hline : ∀ c ∈ mark ++ ' ' :: (Nat.toDigits 10 kb.toNat ++ [' ', 'k']),
      (c == '\n') = false := by
    simp only [List.forall_mem_append, List.forall_mem_cons]
    exact ⟨hmark, rfl, hdigits, rfl, rfl, List.forall_mem_nil _⟩
  have hconcat : amountLine mark kb =
      mark ++ ' ' :: (Nat.toDigits 10 kb.toNat ++ [' ', 'k']) ++ ['B'] := by
    simp [amountLine]
  rw [hconcat]
  exact lines_concat hline rfl (by decide)

end Text

/-- Any amount can be read from the memory information. -/
theorem exists_corruptedMemory (kb : UInt64) : ∃ meminfo, corruptedMemory meminfo = some kb := by
  have hmark : ∀ c ∈ "HardwareCorrupted:".toList, (c == '\n') = false := by
    have hany : ("HardwareCorrupted:".toList.any (· == '\n')) = false := rfl
    simpa only [List.any_eq_false, Bool.not_eq_true] using hany
  have hlines := Text.lines_amountLine hmark kb
  have hstrip : Text.stripStart? "HardwareCorrupted:".toList
      (Text.amountLine "HardwareCorrupted:".toList kb) =
        some (' ' :: (Nat.toDigits 10 kb.toNat ++ [' ', 'k', 'B'])) := Text.stripStart?_append _ _
  have hword : (Text.words (' ' :: (Nat.toDigits 10 kb.toNat ++ [' ', 'k', 'B']))).head? =
      some (Nat.toDigits 10 kb.toNat) :=
    Text.head?_words_cons Nat.toDigits_ne_nil (fun c hc => Text.isBlank_of_isDigit
      (Text.isDigit_of_mem_toDigits hc)) (by decide) (by decide) _
  refine ⟨Text.amountLine "HardwareCorrupted:".toList kb ++ ['\n'], ?_⟩
  simp only [corruptedMemory, hlines, List.findSome?_cons, hstrip, Option.bind_eq_bind,
    Option.bind_some, hword, Text.readWord64_toDigits]
  rfl

/-- The requests of a computation to its platform. -/
def Ran.calls {σ α : Type} (ran : Ran σ α) : List PlatformCall :=
  ran.journal.filterMap Entry.call?

def Ran.reports {σ α : Type} (ran : Ran σ α) : List Report :=
  ran.journal.filterMap Entry.report?

/-- The address for which the given page action is requested. -/
def PlatformCall.paged? (wanted : PageAction) : PlatformCall → Option UInt64
  | page action address => if action = wanted then some address else none
  | _ => none

variable {σ δ : Type}

theorem Exchange.paged?_call (platform : Platform σ δ) (wanted : PageAction)
    (exchange : Exchange δ) :
    (exchange.call platform).paged? wanted = exchange.paged? wanted := by
  cases exchange <;> rfl

namespace Repair

section Weighed

variable {threshold : UInt64} {mode : Mode} {commands : RepairCommand × RepairCommand}
  {addresses : List UInt64} {talk : List (Exchange δ)}

/-- The end of a repair whose pages do not fit beside the corrupted memory. -/
def refusal (mode : Mode) (kb : UInt64) : Except Overflow Outcome :=
  if 4 * mode.addressCount + kb.toNat < UInt64.size then .ok .isolateFailedOverThreshold
  else .error .addition

/-- The talk begins with the amount of corrupted memory. Where the threshold does not allow
the pages nothing more is requested, and if the amount is known the end is the refusal. -/
def Weighed (threshold : UInt64) (mode : Mode) (talk : List (Exchange δ))
    (ends : Except Overflow Outcome → Prop) : Prop :=
  ∃ answer rest, talk = .corrupted answer :: rest ∧
    (¬ Allows threshold mode answer → rest = []) ∧
    ∀ kb, answer = .ok kb → threshold.toNat < 4 * mode.addressCount + kb.toNat →
      ends (refusal mode kb)

theorem Weighed.of_allows {ends : Except Overflow Outcome → Prop} {kb : UInt64}
    (h : Allows threshold mode (.ok kb)) (rest : List (Exchange δ)) :
    Weighed threshold mode (.corrupted (.ok kb) :: rest) ends := by
  refine ⟨.ok kb, rest, rfl, fun hno => absurd h hno, ?_⟩
  rintro _ ⟨⟩ hover
  exact absurd h (Nat.not_le.mpr hover)

theorem Weighed.mono {ends others : Except Overflow Outcome → Prop}
    (h : Weighed threshold mode talk ends) (hends : ∀ result, ends result → others result) :
    Weighed threshold mode talk others := by
  obtain ⟨answer, rest, htalk, hnone, hover⟩ := h
  exact ⟨answer, rest, htalk, hnone, fun kb hanswer hlt => hends _ (hover kb hanswer hlt)⟩

theorem Isolated.weighed {result : Except Overflow (Except Outcome Unit)}
    (h : Isolated threshold mode addresses talk result) :
    Weighed threshold mode talk fun last => result = last.map .error := by
  cases h with
  | unreadable failure => exact ⟨.error failure, [], rfl, fun _ => rfl, fun kb h => nomatch h⟩
  | @overflow kb hover =>
    refine ⟨.ok kb, [], rfl, fun _ => rfl, ?_⟩
    rintro _ ⟨⟩ -
    rw [refusal, if_neg (Nat.not_lt.mpr hover)]
    rfl
  | @overThreshold kb hfits h =>
    refine ⟨.ok kb, [], rfl, fun _ => rfl, ?_⟩
    rintro _ ⟨⟩ -
    rw [refusal, if_pos hfits]
    rfl
  | failed hle => exact .of_allows hle _
  | done hle => exact .of_allows hle _

theorem Course.weighed {result : Except Overflow Outcome}
    (h : Course threshold mode commands addresses talk result) :
    Weighed threshold mode talk (result = ·) := by
  cases h with
  | overflow hisolated =>
    refine hisolated.weighed.mono fun last hlast => ?_
    cases last <;> cases hlast
    rfl
  | notIsolated hisolated =>
    refine hisolated.weighed.mono fun last hlast => ?_
    cases last <;> cases hlast
    rfl
  | isolated hisolated =>
    -- The pages were allowed, or nothing would have followed the isolation.
    cases hisolated with
    | done hle => exact .of_allows hle _

end Weighed

section Run

variable (notifier : Notifier σ) {platform : Platform σ δ} {threshold : UInt64} {s : Section}
  {mode : Mode} {commands : RepairCommand × RepairCommand} {state : σ}
  {talk : List (Exchange δ)}

/-- A run whose repair overflows ends with it, without a report. -/
theorem run_eq_of_overflow (hmode : RepairCommand.ofMode mode = some commands)
    {overflow : Overflow}
    (h : (Act.run (attempt platform threshold s mode commands) state).value = .error overflow) :
    let ran := Act.run (attempt platform threshold s mode commands) state
    Act.run (run platform notifier threshold s mode) state =
      ⟨.error overflow, ran.state,
        .log ⟨.debug, "Received " ++ mode.name ++ " flat mode repair request, try to repair"⟩ ::
          ran.journal⟩ := by
  unfold run
  rw [hmode]
  change Act.run (Act.write _ >>= fun _ => _) state = _
  rw [Act.run_write_bind, Act.run_bind_error h]

/-- The requests of a run are those of its repair. -/
theorem calls_run (hmode : RepairCommand.ofMode mode = some commands)
    {result : Except Overflow Outcome}
    (h : Act.Holds platform (attempt platform threshold s mode commands) state talk result) :
    (Act.run (run platform notifier threshold s mode) state).calls =
      talk.map (Exchange.call platform) := by
  cases result with
  | ok outcome => exact (reported_run platform notifier threshold s hmode h).calls
  | error overflow =>
    rw [Ran.calls, congrArg Ran.journal (run_eq_of_overflow notifier hmode h.value_eq),
      List.filterMap_cons_none rfl]
    exact h.calls

theorem paged_calls_run (hmode : RepairCommand.ofMode mode = some commands)
    {result : Except Overflow Outcome}
    (h : Act.Holds platform (attempt platform threshold s mode commands) state talk result)
    (action : PageAction) :
    (Act.run (run platform notifier threshold s mode) state).calls.filterMap
        (PlatformCall.paged? action) = talk.filterMap (Exchange.paged? action) := by
  rw [calls_run notifier hmode h, List.filterMap_map]
  congr 1
  funext exchange
  exact Exchange.paged?_call platform action exchange

theorem reports_run_of_overflow (hmode : RepairCommand.ofMode mode = some commands)
    {overflow : Overflow}
    (h : Act.Holds platform (attempt platform threshold s mode commands) state talk
      (.error overflow)) :
    (Act.run (run platform notifier threshold s mode) state).reports = [] := by
  rw [Ran.reports, congrArg Ran.journal (run_eq_of_overflow notifier hmode h.value_eq),
    List.filterMap_cons_none rfl]
  exact filterMap_report?_eq_nil h.quiet

end Run

/-- How a run in a mode with pages weighs the corrupted memory, the sum taken as a number. -/
structure Weighs (platform : Platform σ δ) (threshold : UInt64) (s : Section) (mode : Mode)
    (state : σ) (ran : Ran σ (Option Outcome)) : Prop where
  /-- A sum that needs more than 64 bits ends the run: no page is requested, and no outcome
  is reported. -/
  beyond : ∀ kb, (platform.corrupted state).value = .ok kb →
    UInt64.size ≤ 4 * mode.addressCount + kb.toNat →
      ran.value = .error .addition ∧ ran.calls = [.corrupted] ∧ ran.reports = []
  reported : (∀ kb, (platform.corrupted state).value = .ok kb →
    4 * mode.addressCount + kb.toNat < UInt64.size) →
      ∃ outcome, ran.value = .ok (some outcome) ∧ ran.reports = [report s outcome]
  refused : ∀ kb, (platform.corrupted state).value = .ok kb →
    threshold.toNat < 4 * mode.addressCount + kb.toNat →
    4 * mode.addressCount + kb.toNat < UInt64.size →
      ran.value = .ok (some .isolateFailedOverThreshold) ∧ ran.calls = [.corrupted]
  /-- Pages are requested only if the sum is within the threshold. -/
  pages : ∀ action address, .page action address ∈ ran.calls →
    ∃ kb, (platform.corrupted state).value = .ok kb ∧
      4 * mode.addressCount + kb.toNat ≤ threshold.toNat

theorem Course.weighs {threshold : UInt64} {mode : Mode}
    {commands : RepairCommand × RepairCommand} {s : Section} {platform : Platform σ δ}
    {notifier : Notifier σ} {state : σ} {talk : List (Exchange δ)}
    {result : Except Overflow Outcome}
    (h : Course threshold mode commands (s.addresses mode) talk result)
    (hmode : RepairCommand.ofMode mode = some commands)
    (hholds : Act.Holds platform (attempt platform threshold s mode commands) state talk result) :
    Weighs platform threshold s mode state
      (Act.run (run platform notifier threshold s mode) state) := by
  have hcalls := calls_run notifier hmode hholds
  obtain ⟨answer, rest, rfl, hnone, hover⟩ := h.weighed
  have hanswer := corrupted_eq_of_converses hholds.answered
  -- An amount over the threshold is the only request.
  have halone : ∀ kb, (platform.corrupted state).value = .ok kb →
      threshold.toNat < 4 * mode.addressCount + kb.toNat →
      (Act.run (run platform notifier threshold s mode) state).calls = [.corrupted] := by
    intro kb hkb hlt
    rw [hcalls, hnone ?_]
    · rfl
    · rw [← hanswer, hkb]
      exact Nat.not_le.mpr hlt
  constructor
  · intro kb hkb hbig
    have hlt : threshold.toNat < 4 * mode.addressCount + kb.toNat :=
      Nat.lt_of_lt_of_le threshold.toNat_lt_size hbig
    have hresult : result = refusal mode kb := hover kb (hanswer.symm.trans hkb) hlt
    rw [refusal, if_neg (Nat.not_lt.mpr hbig)] at hresult
    subst hresult
    have hran := run_eq_of_overflow notifier hmode hholds.value_eq
    exact ⟨congrArg Ran.value hran, halone kb hkb hlt,
      reports_run_of_overflow notifier hmode hholds⟩
  · intro hfits
    obtain ⟨outcome, rfl⟩ := h.exists_outcome hholds.answered hfits
    have hreported := reported_run platform notifier threshold s hmode hholds
    exact ⟨outcome, hreported.value_eq, hreported.reports⟩
  · intro kb hkb hlt hfits
    have hresult : result = refusal mode kb := hover kb (hanswer.symm.trans hkb) hlt
    rw [refusal, if_pos hfits] at hresult
    subst hresult
    have hreported := reported_run platform notifier threshold s hmode hholds
    exact ⟨hreported.value_eq, halone kb hkb hlt⟩
  · intro action address hmem
    by_cases hallows : Allows threshold mode answer
    · cases answer with
      | error failure => exact hallows.elim
      | ok kb => exact ⟨kb, hanswer, hallows⟩
    · rw [hcalls, hnone hallows] at hmem
      simp [Exchange.call] at hmem

/-- Every amount of corrupted memory can be stated, and a run weighs each of them as a
number: exactly the amounts that do not fit a word together with the pages of the request
end the run without an outcome, and any other over the threshold is reported as such. -/
theorem run_weighs (platform : Platform σ δ) (notifier : Notifier σ) (threshold : UInt64)
    (s : Section) (mode : Mode) (commands : RepairCommand × RepairCommand) (state : σ)
    (hmode : RepairCommand.ofMode mode = some commands) :
    (∀ kb, ∃ meminfo, corruptedMemory meminfo = some kb) ∧
      Weighs platform threshold s mode state
        (Act.run (run platform notifier threshold s mode) state) := by
  obtain ⟨talk, result, hcourse, hholds, -⟩ :=
    holds_attempt platform threshold s mode commands state
  exact ⟨exists_corruptedMemory, hcourse.weighs hmode hholds⟩

theorem run_weighs_onePage :
    let ran := Act.run (run lastRepairs .silent 11 onePage .acls) ()
    RepairCommand.ofMode .acls = some (.aclsQuery, .aclsRepair) ∧
    Weighs lastRepairs 11 onePage .acls () ran ∧
    ran.value = .ok (some .isolateFailedOverThreshold) ∧ ran.calls = [.corrupted] := by
  have hweighs := (run_weighs lastRepairs .silent 11 onePage .acls _ () rfl).2
  exact ⟨rfl, hweighs, hweighs.refused 8 rfl (by decide) (by decide)⟩

/-- Memory information with an amount of which a single page makes the sum overflow. The
amount is over the threshold, but that is not reported. -/
theorem run_overflows_onePage :
    let platform : Platform Unit ScriptedDevice := ScriptedPlatform.toPlatform
      { corrupted := corruptedMemory "HardwareCorrupted: 18446744073709551612 kB\n".toList
        devices := .ok []
        failures := [] }
    let ran := Act.run (run platform .silent 1024 onePage .acls) ()
    (platform.corrupted ()).value = .ok 18446744073709551612 ∧
    (1024 : UInt64).toNat < 4 * Mode.acls.addressCount + (18446744073709551612 : UInt64).toNat ∧
    ran.value = .error .addition ∧ ran.calls = [.corrupted] ∧ ran.reports = [] := by
  have hread : corruptedMemory "HardwareCorrupted: 18446744073709551612 kB\n".toList =
      some 18446744073709551612 := by decide +kernel
  rw [hread]
  intro platform ran
  obtain ⟨talk, result, hcourse, hholds, -⟩ :=
    holds_attempt platform 1024 onePage .acls (.aclsQuery, .aclsRepair) ()
  have hweighs : Weighs platform 1024 onePage .acls () ran := hcourse.weighs rfl hholds
  exact ⟨rfl, by decide, hweighs.beyond _ rfl (by decide)⟩

end Repair

end MemoryRepair
