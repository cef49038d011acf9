import Mathlib.Tactic.ByContra
import MemoryRepair.Proofs.Conversation
import MemoryRepair.Repair

/-!
The courses that a repair can take: which conversation it holds with its platform
and which outcome it has. One course stands for each way out of isolating the
pages and one for each way out of looking for the device. The last statement says
that every repair, on every platform, takes one of these courses.
-/
namespace MemoryRepair.Repair

variable {σ δ : Type}

/-- One request for each page, in order, with the answers. -/
def pages (action : PageAction) (addresses : List UInt64)
    (answers : List (Except IoError Unit)) : List (Exchange δ) :=
  List.zipWith (Exchange.page action) addresses answers

@[simp] theorem pages_cons (action : PageAction) (address : UInt64) (addresses : List UInt64)
    (answer : Except IoError Unit) (answers : List (Except IoError Unit)) :
    (pages action (address :: addresses) (answer :: answers) : List (Exchange δ)) =
      .page action address answer :: pages action addresses answers := rfl

theorem exists_of_mem_pages {action : PageAction} {addresses : List UInt64}
    {answers : List (Except IoError Unit)} {exchange : Exchange δ}
    (h : exchange ∈ pages action addresses answers) :
    ∃ address answer, answer ∈ answers ∧ exchange = .page action address answer := by
  induction addresses generalizing answers with
  | nil => simp [pages] at h
  | cons address rest ih =>
    cases answers with
    | nil => simp [pages] at h
    | cons answer answers =>
      rcases List.mem_cons.mp h with rfl | h
      · exact ⟨address, answer, List.mem_cons_self, rfl⟩
      · obtain ⟨a, b, hmem, heq⟩ := ih h
        exact ⟨a, b, List.mem_cons_of_mem _ hmem, heq⟩

theorem filterMap_pages_eq_nil {β : Type} {f : Exchange δ → Option β} {action : PageAction}
    (h : ∀ address answer, f (.page action address answer) = none) (addresses : List UInt64)
    (answers : List (Except IoError Unit)) : (pages action addresses answers).filterMap f = [] := by
  refine List.filterMap_eq_nil_iff.mpr fun exchange hmem => ?_
  obtain ⟨address, answer, -, rfl⟩ := exists_of_mem_pages hmem
  exact h address answer

theorem paged_pages (action : PageAction) {addresses : List UInt64}
    {answers : List (Except IoError Unit)} (hlength : answers.length = addresses.length) :
    (pages action addresses answers : List (Exchange δ)).filterMap (Exchange.paged? action) =
      addresses := by
  induction addresses generalizing answers with
  | nil => rfl
  | cons address rest ih =>
    cases answers with
    | nil => simp at hlength
    | cons answer answers => simpa [Exchange.paged?] using ih (Nat.succ.inj hlength)

/-- Devices asked in order that all pass the address on: those that are no HBM
devices and those that answer that they do not hold it. Whether one of the latter
was among them is the last index. -/
inductive Passed (query : RepairCommand) (first : UInt64) :
    List δ → List (Exchange δ) → Bool → Prop
  | nil : Passed query first [] [] false
  | other (device : δ) {devices : List δ} {answer : Except Failure MemoryType}
      {talk : List (Exchange δ)} {found : Bool} (hother : answer ≠ .ok .hbm)
      (rest : Passed query first devices talk found) :
      Passed query first (device :: devices) (.memoryType device answer :: talk) found
  | elsewhere (device : δ) {devices : List δ} {talk : List (Exchange δ)} {found : Bool}
      (rest : Passed query first devices talk found) :
      Passed query first (device :: devices)
        (.memoryType device (.ok .hbm) ::
          .command device query first (.error (.os Errno.noDevice)) :: talk) true

/-- How a device that does not pass the address on ends the search. Its query was
answered; a repair follows a positive count only. -/
inductive Taken (commands : RepairCommand × RepairCommand) (first : UInt64)
    (addresses : List UInt64) (device : δ) : List (Exchange δ) → Outcome → Prop
  | refused {answer : Except IoError Nat} (hno : succeeded answer = false)
      (hhere : answer ≠ .error (.os Errno.noDevice)) :
      Taken commands first addresses device [.command device commands.1 first answer]
        (Outcome.ofFailedCommand answer)
  | failed {count : Nat} {answer : Except IoError Nat} {removals : List (Except IoError Unit)}
      (hyes : 0 < count) (hno : succeeded answer = false)
      (hlength : removals.length = addresses.length) :
      Taken commands first addresses device
        (.command device commands.1 first (.ok count) ::
          .command device commands.2 first answer :: pages .remove addresses removals)
        (Outcome.ofFailedCommand answer)
  | notReturned {count repairs : Nat} {returns : List (Except IoError Unit)}
      (hyes : 0 < count) (hrepaired : 0 < repairs) (hlength : returns.length = addresses.length)
      (hfailed : ∃ answer ∈ returns, answer ≠ .ok ()) :
      Taken commands first addresses device
        (.command device commands.1 first (.ok count) ::
          .command device commands.2 first (.ok repairs) :: pages .online addresses returns)
        .onlineFailed
  | repaired {count repairs : Nat} {returns : List (Except IoError Unit)}
      (hyes : 0 < count) (hrepaired : 0 < repairs) (hlength : returns.length = addresses.length)
      (hreturned : ∀ answer ∈ returns, answer = .ok ()) :
      Taken commands first addresses device
        (.command device commands.1 first (.ok count) ::
          .command device commands.2 first (.ok repairs) :: pages .online addresses returns)
        .success

/-- The courses of a search through a list of devices. Whether an HBM device passed
the address on before these is the first index. -/
inductive Searched (commands : RepairCommand × RepairCommand) (first : UInt64)
    (addresses : List UInt64) : Bool → List δ → List (Exchange δ) → Outcome → Prop
  | noneIsHbm {devices : List δ} {talk : List (Exchange δ)}
      (hpassed : Passed commands.1 first devices talk false) :
      Searched commands first addresses false devices talk .repairFailedOther
  | noneHolds {before found : Bool} {devices : List δ} {talk : List (Exchange δ)}
      (hpassed : Passed commands.1 first devices talk found)
      (hfound : before = true ∨ found = true) :
      Searched commands first addresses before devices talk .repairFailedInvalidParam
  | taken {before found : Bool} {earlier later : List δ} {device : δ}
      {talk ending : List (Exchange δ)} {outcome : Outcome}
      (hpassed : Passed commands.1 first earlier talk found)
      (htaken : Taken commands first addresses device ending outcome) :
      Searched commands first addresses before (earlier ++ device :: later)
        (talk ++ .memoryType device (.ok .hbm) :: ending) outcome

/-- How isolating pages goes: the conversation, and the outcome of a repair that ends
there. -/
inductive Isolated (threshold : UInt64) (mode : Mode) (addresses : List UInt64) :
    List (Exchange δ) → Except Overflow (Except Outcome Unit) → Prop
  | unreadable (failure : Failure) :
      Isolated threshold mode addresses [.corrupted (.error failure)]
        (.ok (.error .isolateFailedOther))
  | overflow {kb : UInt64} (h : UInt64.size ≤ 4 * mode.addressCount + kb.toNat) :
      Isolated threshold mode addresses [.corrupted (.ok kb)] (.error .addition)
  | overThreshold {kb : UInt64} (hfits : 4 * mode.addressCount + kb.toNat < UInt64.size)
      (h : threshold.toNat < 4 * mode.addressCount + kb.toNat) :
      Isolated threshold mode addresses [.corrupted (.ok kb)]
        (.ok (.error .isolateFailedOverThreshold))
  | failed {kb : UInt64} {answers : List (Except IoError Unit)}
      (h : 4 * mode.addressCount + kb.toNat ≤ threshold.toNat)
      (hlength : answers.length = addresses.length)
      (hfailed : addresses = [] ∨ ∃ answer ∈ answers, answer ≠ .ok ()) :
      Isolated threshold mode addresses
        (.corrupted (.ok kb) :: pages .offline addresses answers)
        (.ok (.error .isolateFailedOther))
  | done {kb : UInt64} {answers : List (Except IoError Unit)}
      (h : 4 * mode.addressCount + kb.toNat ≤ threshold.toNat)
      (hlength : answers.length = addresses.length) (hsome : addresses ≠ [])
      (hisolated : ∀ answer ∈ answers, answer = .ok ()) :
      Isolated threshold mode addresses
        (.corrupted (.ok kb) :: pages .offline addresses answers) (.ok (.ok ()))

/-- What follows the isolation: the devices are listed and searched. -/
inductive Hunted (commands : RepairCommand × RepairCommand) (first : UInt64)
    (addresses : List UInt64) : List (Exchange δ) → Outcome → Prop
  | notListed (failure : Failure) :
      Hunted commands first addresses [.devices (.error failure)] .repairFailedOther
  | searched {devices : List δ} {talk : List (Exchange δ)} {outcome : Outcome}
      (hsearched : Searched commands first addresses false devices talk outcome) :
      Hunted commands first addresses (.devices (.ok devices) :: talk) outcome

/-- The courses of a repair: it ends with the isolation of the pages, or it goes on to
the search for a device. -/
inductive Course (threshold : UInt64) (mode : Mode) (commands : RepairCommand × RepairCommand)
    (addresses : List UInt64) : List (Exchange δ) → Except Overflow Outcome → Prop
  | overflow {overflow : Overflow} {talk : List (Exchange δ)}
      (hisolated : Isolated threshold mode addresses talk (.error overflow)) :
      Course threshold mode commands addresses talk (.error overflow)
  | notIsolated {talk : List (Exchange δ)} {outcome : Outcome}
      (hisolated : Isolated threshold mode addresses talk (.ok (.error outcome))) :
      Course threshold mode commands addresses talk (.ok outcome)
  | isolated {first : UInt64} {rest : List UInt64} {isolation talk : List (Exchange δ)}
      {outcome : Outcome} (hisolated : Isolated threshold mode addresses isolation (.ok (.ok ())))
      (hfirst : addresses = first :: rest)
      (hhunted : Hunted commands first addresses talk outcome) :
      Course threshold mode commands addresses (isolation ++ talk) (.ok outcome)

section Searched

variable {commands : RepairCommand × RepairCommand} {first : UInt64} {addresses : List UInt64}
  {before : Bool} {devices : List δ} {talk : List (Exchange δ)} {outcome : Outcome}

theorem Searched.other (device : δ) {answer : Except Failure MemoryType}
    (hother : answer ≠ .ok .hbm)
    (h : Searched commands first addresses before devices talk outcome) :
    Searched commands first addresses before (device :: devices)
      (.memoryType device answer :: talk) outcome := by
  cases h with
  | noneIsHbm hpassed => exact .noneIsHbm (.other device hother hpassed)
  | noneHolds hpassed hfound => exact .noneHolds (.other device hother hpassed) hfound
  | taken hpassed htaken => exact .taken (.other device hother hpassed) htaken

theorem Searched.elsewhere (device : δ)
    (h : Searched commands first addresses true devices talk outcome) :
    Searched commands first addresses before (device :: devices)
      (.memoryType device (.ok .hbm) ::
        .command device commands.1 first (.error (.os Errno.noDevice)) :: talk) outcome := by
  cases h with
  | noneHolds hpassed hfound => exact .noneHolds (.elsewhere device hpassed) (Or.inr rfl)
  | taken hpassed htaken => exact .taken (.elsewhere device hpassed) htaken

end Searched

theorem holds_request {platform : Platform σ δ} {α : Type} {call : PlatformCall}
    {f : σ → Reply σ α} {state : σ} {exchange : Exchange δ}
    (hcall : exchange.call platform = call)
    (hanswer : platform.Answers state exchange (f state).state) :
    Act.Holds platform (request call f) state [exchange] (.ok (f state).value) where
  answered := .cons hanswer (.nil _)
  calls := by
    have hlog : (f state).log.filterMap (Entry.call? ∘ Entry.log) = [] :=
      List.filterMap_eq_nil_iff.mpr fun _ _ => rfl
    change call :: ((f state).log.map Entry.log).filterMap Entry.call? = _
    rw [List.filterMap_map, hlog, ← hcall]
    rfl
  quiet := by
    intro entry hentry
    rcases List.mem_cons.mp hentry with rfl | hentry
    · exact Or.inr rfl
    · obtain ⟨line, -, rfl⟩ := List.mem_map.mp hentry
      exact Or.inl rfl
  value_eq := rfl

theorem holds_page (platform : Platform σ δ) (action : PageAction) (address : UInt64) (state : σ) :
    Act.Holds platform (page platform action address) state
      [.page action address (platform.page action address state).value]
      (.ok (platform.page action address state).value) :=
  holds_request rfl (.page action address state)

theorem holds_command (platform : Platform σ δ) (device : δ) (what : RepairCommand)
    (address : UInt64) (state : σ) :
    Act.Holds platform (command platform device what address) state
      [.command device what address (platform.command device what address state).value]
      (.ok (platform.command device what address state).value) :=
  holds_request rfl (.command device what address state)

/-- Every page is requested, whatever the answers before it were. -/
theorem holds_offlineAll (platform : Platform σ δ) (mode : Mode) (addresses : List UInt64)
    (state : σ) :
    ∃ (answers : List (Except IoError Unit)) (failures : Nat),
      answers.length = addresses.length ∧ (0 < failures ↔ ∃ answer ∈ answers, answer ≠ .ok ()) ∧
      Act.Holds platform (offlineAll platform mode addresses) state
        (pages .offline addresses answers) (.ok failures) := by
  induction addresses generalizing state with
  | nil => exact ⟨[], 0, rfl, by simp, .pure 0 state⟩
  | cons address rest ih =>
    have hpage := holds_page platform .offline address state
    obtain ⟨answers, failures, hlength, hfailures, hrest⟩ :=
      ih (platform.page .offline address state).state
    cases hvalue : (platform.page .offline address state).value with
    | ok =>
      rw [hvalue] at hpage
      exact ⟨.ok () :: answers, failures, by simp [hlength], by simp [hfailures],
        hpage.bind hrest⟩
    | error err =>
      rw [hvalue] at hpage
      exact ⟨.error err :: answers, failures + 1, by simp [hlength], by simp,
        hpage.bind (.log_bind (hrest.bind_silent (.pure _ _)))⟩

theorem holds_onlineAll (platform : Platform σ δ) (mode : Mode) (addresses : List UInt64)
    (state : σ) :
    ∃ (answers : List (Except IoError Unit)) (all : Bool),
      answers.length = addresses.length ∧ (all = true ↔ ∀ answer ∈ answers, answer = .ok ()) ∧
      Act.Holds platform (onlineAll platform mode addresses) state
        (pages .online addresses answers) (.ok all) := by
  induction addresses generalizing state with
  | nil => exact ⟨[], true, rfl, by simp, .pure true state⟩
  | cons address rest ih =>
    have hpage := holds_page platform .online address state
    obtain ⟨answers, all, hlength, hall, hrest⟩ :=
      ih (platform.page .online address state).state
    cases hvalue : (platform.page .online address state).value with
    | ok =>
      rw [hvalue] at hpage
      exact ⟨.ok () :: answers, all, by simp [hlength], by simp [hall],
        hpage.bind (.log_bind hrest)⟩
    | error err =>
      rw [hvalue] at hpage
      exact ⟨.error err :: answers, false, by simp [hlength], by simp,
        hpage.bind (.log_bind (hrest.bind_silent (.pure _ _)))⟩

theorem holds_removeAll (platform : Platform σ δ) (mode : Mode) (addresses : List UInt64)
    (state : σ) :
    ∃ answers : List (Except IoError Unit), answers.length = addresses.length ∧
      Act.Holds platform (removeAll platform mode addresses) state
        (pages .remove addresses answers) (.ok ()) := by
  induction addresses generalizing state with
  | nil => exact ⟨[], rfl, .pure () state⟩
  | cons address rest ih =>
    have hpage := holds_page platform .remove address state
    obtain ⟨answers, hlength, hrest⟩ := ih (platform.page .remove address state).state
    cases hvalue : (platform.page .remove address state).value with
    | ok =>
      rw [hvalue] at hpage
      exact ⟨.ok () :: answers, by simp [hlength], .log_bind (hpage.bind (.pure_bind hrest))⟩
    | error err =>
      rw [hvalue] at hpage
      exact ⟨.error err :: answers, by simp [hlength], .log_bind (hpage.bind (.log_bind hrest))⟩

theorem succeeded_eq_true_iff {answer : Except IoError Nat} :
    succeeded answer = true ↔ ∃ count, 0 < count ∧ answer = .ok count := by
  cases answer <;> simp [succeeded]

theorem isElsewhere_eq_true_iff {answer : Except IoError Nat} :
    isElsewhere answer = true ↔ answer = .error (.os Errno.noDevice) := by
  unfold isElsewhere
  split
  · simp
  · rename_i hne
    simpa using fun h => hne _ h

end MemoryRepair.Repair
