import MemoryRepair.Platform.Scripted
import MemoryRepair.Proofs.RepairSearch

/-!
A whole repair takes one of the courses. Isolation comes first and asks for the
corrupted memory once; the search for a device follows it only when every page went
offline. A run adds the report after the last request.
-/
namespace MemoryRepair

/-- The same platform, except that it lists the given devices. -/
def Platform.listing (platform : Platform σ δ) (devices : List δ) : Platform σ δ where
  corrupted := platform.corrupted
  page := platform.page
  devices state :=
    { value := .ok devices, state := (platform.devices state).state,
      log := (platform.devices state).log }
  deviceName := platform.deviceName
  memoryType := platform.memoryType
  command := platform.command

theorem filterMap_lines {β : Type} {f : Entry → Option β} (hlog : ∀ line, f (.log line) = none)
    (lines : List LogLine) : (lines.map Entry.log).filterMap f = [] := by
  rw [List.filterMap_map]
  exact List.filterMap_eq_nil_iff.mpr fun line _ => hlog line

namespace Repair

variable {σ δ : Type}

theorem offlineAll_listing (platform : Platform σ δ) (devices : List δ) (mode : Mode)
    (addresses : List UInt64) :
    offlineAll (platform.listing devices) mode addresses = offlineAll platform mode addresses := by
  induction addresses with
  | nil => rfl
  | cons address rest ih =>
    rw [offlineAll, offlineAll, ih]
    rfl

theorem onlineAll_listing (platform : Platform σ δ) (devices : List δ) (mode : Mode)
    (addresses : List UInt64) :
    onlineAll (platform.listing devices) mode addresses = onlineAll platform mode addresses := by
  induction addresses with
  | nil => rfl
  | cons address rest ih =>
    rw [onlineAll, onlineAll, ih]
    rfl

theorem removeAll_listing (platform : Platform σ δ) (devices : List δ) (mode : Mode)
    (addresses : List UInt64) :
    removeAll (platform.listing devices) mode addresses = removeAll platform mode addresses := by
  induction addresses with
  | nil => rfl
  | cons address rest ih =>
    rw [removeAll, removeAll, ih]
    rfl

theorem search_listing (platform : Platform σ δ) (listed : List δ) (mode : Mode)
    (commands : RepairCommand × RepairCommand) (errorType : UInt32) (first : UInt64)
    (addresses : List UInt64) (before : Bool) (devices : List δ) :
    search (platform.listing listed) mode commands errorType first addresses before devices =
      search platform mode commands errorType first addresses before devices := by
  have hrepair : ∀ device,
      repairOn (platform.listing listed) mode commands.2 device first addresses =
        repairOn platform mode commands.2 device first addresses := by
    intro device
    rw [repairOn, repairOn, onlineAll_listing, removeAll_listing]
    rfl
  induction devices generalizing before with
  | nil => rfl
  | cons device rest ih =>
    rw [search, search, hrepair, ih, ih]
    rfl

theorem toNat_requiredKb (mode : Mode) : (requiredKb mode).toNat = 4 * mode.addressCount := by
  cases mode <;> rfl

/-- The sum that isolation compares with the threshold, where it stays in its word. -/
theorem add_requiredKb {mode : Mode} {kb : UInt64}
    (hfits : 4 * mode.addressCount + kb.toNat < UInt64.size) :
    Word64.add (requiredKb mode) kb = .ok (requiredKb mode + kb) ∧
      (requiredKb mode + kb).toNat = 4 * mode.addressCount + kb.toNat := by
  have hadd : Word64.add (requiredKb mode) kb = .ok (requiredKb mode + kb) := by
    apply Word64.add_eq_ok
    rwa [toNat_requiredKb]
  have hsum := Word64.toNat_of_add_eq_ok hadd
  rw [toNat_requiredKb] at hsum
  exact ⟨hadd, hsum⟩

/-- Isolation once the corrupted memory was read. -/
theorem holds_isolate_of_ok {platform : Platform σ δ} {threshold kb : UInt64} (mode : Mode)
    (addresses : List UInt64) {state : σ}
    (hasked : Act.Holds platform (request .corrupted platform.corrupted) state
      [.corrupted (.ok kb)] (.ok (.ok kb)))
    (hfits : 4 * mode.addressCount + kb.toNat < UInt64.size) :
    ∃ talk result, Isolated threshold mode addresses talk result ∧
      Act.Holds platform (isolate platform threshold mode addresses) state talk result := by
  obtain ⟨hadd, hsum⟩ := add_requiredKb hfits
  by_cases hover : threshold < requiredKb mode + kb
  · have hlt : threshold.toNat < 4 * mode.addressCount + kb.toNat := by
      rw [← hsum]
      exact UInt64.lt_iff_toNat_lt.mp hover
    refine ⟨_, _, .overThreshold hfits hlt, hasked.bind_silent (.checked_bind hadd ?_)⟩
    rw [if_pos hover]
    exact .log_bind (.pure _ _)
  · have hle : 4 * mode.addressCount + kb.toNat ≤ threshold.toNat := by
      rw [← hsum]
      exact Nat.le_of_not_lt fun h => hover (UInt64.lt_iff_toNat_lt.mpr h)
    obtain ⟨answers, failures, hlength, hfailures, hoffline⟩ := holds_offlineAll platform mode
      addresses (Act.run (request .corrupted platform.corrupted) state).state
    by_cases hfailed : 0 < failures ∨ addresses = []
    · refine ⟨_, _, .failed hle hlength (hfailed.symm.imp_right hfailures.mp),
        hasked.bind (.checked_bind hadd ?_)⟩
      rw [if_neg hover]
      refine hoffline.bind_silent ?_
      rw [if_pos hfailed]
      exact .pure _ _
    · have hisolated : ∀ answer ∈ answers, answer = .ok () := by
        intro answer hanswer
        by_contra hne
        exact hfailed (Or.inl (hfailures.mpr ⟨answer, hanswer, hne⟩))
      refine ⟨_, _, .done hle hlength (fun h => hfailed (Or.inr h)) hisolated,
        hasked.bind (.checked_bind hadd ?_)⟩
      rw [if_neg hover]
      refine hoffline.bind_silent ?_
      rw [if_neg hfailed]
      exact .pure _ _

theorem holds_isolate (platform : Platform σ δ) (threshold : UInt64) (mode : Mode)
    (addresses : List UInt64) (state : σ) :
    ∃ talk result, Isolated threshold mode addresses talk result ∧
      Act.Holds platform (isolate platform threshold mode addresses) state talk result := by
  have hasked : Act.Holds platform (request .corrupted platform.corrupted) state
      [.corrupted (platform.corrupted state).value] (.ok (platform.corrupted state).value) :=
    holds_request rfl (.corrupted state)
  cases hvalue : (platform.corrupted state).value with
  | error failure =>
    rw [hvalue] at hasked
    exact ⟨_, _, .unreadable failure, hasked.bind_silent (.log_bind (.pure _ _))⟩
  | ok kb =>
    rw [hvalue] at hasked
    by_cases hfits : 4 * mode.addressCount + kb.toNat < UInt64.size
    · exact holds_isolate_of_ok mode addresses hasked hfits
    · have hadd : Word64.add (requiredKb mode) kb = .error .addition := by
        apply Word64.add_eq_error
        rw [toNat_requiredKb]
        exact Nat.le_of_not_lt hfits
      refine ⟨_, _, .overflow (Nat.le_of_not_lt hfits), hasked.bind_silent ?_⟩
      refine .bind_error ?_
      rw [hadd]
      exact .checked _ _

section Isolated

variable {threshold : UInt64} {mode : Mode} {addresses : List UInt64}
  {talk : List (Exchange δ)} {result : Except Overflow (Except Outcome Unit)}

theorem Isolated.of_mem (h : Isolated threshold mode addresses talk result)
    {exchange : Exchange δ} (hmem : exchange ∈ talk) :
    (∃ answer, exchange = .corrupted answer) ∨
      ∃ address answer, exchange = .page .offline address answer := by
  have hpages : ∀ {kb : UInt64} {answers : List (Except IoError Unit)},
      exchange ∈ .corrupted (.ok kb) :: pages .offline addresses answers →
      (∃ answer, exchange = .corrupted answer) ∨
        ∃ address answer, exchange = .page .offline address answer := by
    intro kb answers hmem
    rcases List.mem_cons.mp hmem with rfl | hmem
    · exact Or.inl ⟨_, rfl⟩
    · obtain ⟨address, answer, -, rfl⟩ := exists_of_mem_pages hmem
      exact Or.inr ⟨address, answer, rfl⟩
  cases h with
  | unreadable failure => exact Or.inl ⟨_, List.mem_singleton.mp hmem⟩
  | overflow => exact Or.inl ⟨_, List.mem_singleton.mp hmem⟩
  | overThreshold => exact Or.inl ⟨_, List.mem_singleton.mp hmem⟩
  | failed => exact hpages hmem
  | done => exact hpages hmem

theorem Isolated.settled_append (h : Isolated threshold mode addresses talk result)
    {query : RepairCommand} {more : List (Exchange δ)} :
    Settled query (talk ++ more) ↔ Settled query more := by
  have hnone : ∀ device what address answer,
      (.command device what address answer : Exchange δ) ∉ talk := by
    intro device what address answer hmem
    rcases h.of_mem hmem with ⟨_, heq⟩ | ⟨_, _, heq⟩ <;> cases heq
  simp [Settled, hnone]

theorem Isolated.not_settled (h : Isolated threshold mode addresses talk result)
    {query : RepairCommand} : ¬ Settled query talk := by
  rintro ⟨_, _, _, hmem, -⟩
  rcases h.of_mem hmem with ⟨_, heq⟩ | ⟨_, _, heq⟩ <;> cases heq

theorem Isolated.filterMap_eq_nil {β : Type} {f : Exchange δ → Option β}
    (h : Isolated threshold mode addresses talk result)
    (hcorrupted : ∀ answer, f (.corrupted answer) = none)
    (hpage : ∀ address answer, f (.page .offline address answer) = none) :
    talk.filterMap f = [] := by
  refine List.filterMap_eq_nil_iff.mpr fun exchange hmem => ?_
  rcases h.of_mem hmem with ⟨answer, rfl⟩ | ⟨address, answer, rfl⟩
  · exact hcorrupted answer
  · exact hpage address answer

end Isolated

theorem isolate_listing (platform : Platform σ δ) (devices : List δ) (threshold : UInt64)
    (mode : Mode) (addresses : List UInt64) :
    isolate (platform.listing devices) threshold mode addresses =
      isolate platform threshold mode addresses := by
  rw [isolate, isolate, offlineAll_listing]
  rfl

theorem settled_cons_devices {query : RepairCommand} {answer : Except Failure (List δ)}
    {talk : List (Exchange δ)} : Settled query (.devices answer :: talk) ↔ Settled query talk := by
  simp [Settled]

theorem holds_repair (platform : Platform σ δ) (s : Section) (mode : Mode)
    (commands : RepairCommand × RepairCommand) (first : UInt64) (addresses : List UInt64)
    (state : σ) :
    ∃ talk outcome, Hunted commands first addresses talk outcome ∧
      Act.Holds platform (repair platform s mode commands first addresses) state talk
        (.ok outcome) ∧
      (Settled commands.1 talk → ∀ others,
        Act.run (repair (platform.listing (talk.filterMap Exchange.asked? ++ others)) s mode
          commands first addresses) state =
        Act.run (repair platform s mode commands first addresses) state) := by
  have hlisted : Act.Holds platform (request .devices platform.devices) state
      [.devices (platform.devices state).value] (.ok (platform.devices state).value) :=
    holds_request rfl (.devices state)
  cases hvalue : (platform.devices state).value with
  | error failure =>
    rw [hvalue] at hlisted
    refine ⟨_, _, .notListed failure, hlisted.bind_silent (.log_bind (.pure _ _)), ?_⟩
    rintro ⟨_, _, _, hmem, -⟩
    simp at hmem
  | ok devices =>
    rw [hvalue] at hlisted
    cases devices with
    | nil =>
      refine ⟨_, _, .searched (.noneIsHbm .nil), hlisted.bind_silent (.log_bind (.pure _ _)), ?_⟩
      rintro ⟨_, _, _, hmem, -⟩
      simp at hmem
    | cons device rest =>
      obtain ⟨talk, outcome, hsearched, hholds, hlater⟩ := searchesFrom platform mode commands
        s.repairType first addresses false (device :: rest) (platform.devices state).state
      refine ⟨_, _, .searched hsearched, hlisted.bind hholds, fun hsettled others => ?_⟩
      have hsame := hlater (settled_cons_devices.mp hsettled) others
      obtain ⟨asked, more, hasked⟩ :=
        List.exists_cons_of_ne_nil (hsearched.asked_ne_nil (by simp))
      have hlist : (Exchange.devices (.ok (device :: rest)) :: talk).filterMap Exchange.asked? =
          asked :: more := hasked
      rw [hasked] at hsame
      rw [hlist]
      refine Act.run_bind_eq rfl hlisted.value_eq rfl rfl ?_
      change Act.run (search _ mode commands s.repairType first addresses false _) _ = _
      rw [search_listing]
      exact hsame

theorem holds_attempt (platform : Platform σ δ) (threshold : UInt64) (s : Section) (mode : Mode)
    (commands : RepairCommand × RepairCommand) (state : σ) :
    ∃ talk result, Course threshold mode commands (s.addresses mode) talk result ∧
      Act.Holds platform (attempt platform threshold s mode commands) state talk result ∧
      (Settled commands.1 talk → ∀ others,
        Act.run (attempt (platform.listing (talk.filterMap Exchange.asked? ++ others)) threshold s
          mode commands) state =
        Act.run (attempt platform threshold s mode commands) state) := by
  obtain ⟨isolation, result, hisolated, hisolate⟩ :=
    holds_isolate platform threshold mode (s.addresses mode) state
  cases result with
  | error overflow =>
    exact ⟨_, _, .overflow hisolated, hisolate.bind_error, fun h => absurd h hisolated.not_settled⟩
  | ok ended =>
    cases ended with
    | error outcome =>
      exact ⟨_, _, .notIsolated hisolated, hisolate.bind_silent (.pure _ _),
        fun h => absurd h hisolated.not_settled⟩
    | ok =>
      cases hfirst : s.addresses mode with
      | nil =>
        rw [hfirst] at hisolated
        cases hisolated with
        | done h hlength hsome hanswers => exact absurd rfl hsome
      | cons first rest =>
        rw [hfirst] at hisolated hisolate
        obtain ⟨talk, outcome, hhunted, hrepair, hlater⟩ := holds_repair platform s mode commands
          first (first :: rest)
          (Act.run (isolate platform threshold mode (first :: rest)) state).state
        refine ⟨_, _, .isolated hisolated rfl hhunted, ?_, fun hsettled others => ?_⟩
        · simp only [attempt, hfirst]
          exact hisolate.bind hrepair
        · have hsame := hlater (hisolated.settled_append.mp hsettled) others
          rw [List.filterMap_append, hisolated.filterMap_eq_nil (fun _ => rfl) (fun _ _ => rfl),
            List.nil_append]
          simp only [attempt, hfirst, isolate_listing]
          refine Act.run_bind_congr fun value hvalue => ?_
          rw [hisolate.value_eq] at hvalue
          cases hvalue
          exact hsame

/-- A run is a repair with a report after it. -/
theorem run_eq_of_attempt (platform : Platform σ δ) (notifier : Notifier σ) (threshold : UInt64)
    (s : Section) {mode : Mode} {commands : RepairCommand × RepairCommand}
    (hmode : RepairCommand.ofMode mode = some commands) (state : σ) {outcome : Outcome}
    (h : (Act.run (attempt platform threshold s mode commands) state).value = .ok outcome) :
    let ran := Act.run (attempt platform threshold s mode commands) state
    let notified := notifier.notify (report s outcome) ran.state
    Act.run (run platform notifier threshold s mode) state =
      ⟨.ok (some outcome), notified.state,
        .log ⟨.debug, "Received " ++ mode.name ++ " flat mode repair request, try to repair"⟩ ::
          (ran.journal ++ .report (report s outcome) :: notified.log.map .log)⟩ := by
  unfold run
  rw [hmode]
  change Act.run (Act.write _ >>= fun _ => _) state = _
  rw [Act.run_write_bind, Act.run_bind_ok h, Act.run_write_bind, Act.run_ask_bind, Act.run_pure,
    List.append_nil]

/-- A run that held a conversation with its platform and then sent one report of its
outcome. Beside that it only logged. -/
structure Reported (platform : Platform σ δ) (s : Section) (state : σ) (talk : List (Exchange δ))
    (outcome : Outcome) (ran : Ran σ (Option Outcome)) : Prop where
  answered : ∃ after, platform.Converses state talk after
  calls : ran.journal.filterMap Entry.call? = talk.map (Exchange.call platform)
  value_eq : ran.value = .ok (some outcome)
  reported : ∃ requests ending, ran.journal = requests ++ .report (report s outcome) :: ending ∧
    (∀ entry ∈ requests, entry.line?.isSome ∨ entry.call?.isSome) ∧
    ∀ entry ∈ ending, entry.line?.isSome

theorem reported_run (platform : Platform σ δ) (notifier : Notifier σ) (threshold : UInt64)
    (s : Section) {mode : Mode} {commands : RepairCommand × RepairCommand}
    (hmode : RepairCommand.ofMode mode = some commands) {state : σ} {talk : List (Exchange δ)}
    {outcome : Outcome}
    (h : Act.Holds platform (attempt platform threshold s mode commands) state talk (.ok outcome)) :
    Reported platform s state talk outcome
      (Act.run (run platform notifier threshold s mode) state) := by
  have hrun := run_eq_of_attempt platform notifier threshold s hmode state h.value_eq
  have hending : ∀ lines : List LogLine, ∀ entry ∈ lines.map Entry.log, entry.line?.isSome := by
    intro lines entry hmem
    obtain ⟨line, -, rfl⟩ := List.mem_map.mp hmem
    rfl
  refine ⟨⟨_, h.answered⟩, ?_, congrArg Ran.value hrun, ?_⟩
  · rw [congrArg Ran.journal hrun]
    change ((Act.run _ state).journal ++ _).filterMap Entry.call? = _
    rw [List.filterMap_append, h.calls, List.filterMap_cons_none rfl,
      filterMap_lines fun _ => rfl, List.append_nil]
  · refine ⟨_ :: _, _, congrArg Ran.journal hrun, fun entry hmem => ?_, hending _⟩
    rcases List.mem_cons.mp hmem with rfl | hmem
    · exact Or.inl rfl
    · exact h.quiet entry hmem

theorem corrupted_eq_of_converses {platform : Platform σ δ} {state after : σ}
    {answer : Except Failure UInt64} {talk : List (Exchange δ)}
    (h : platform.Converses state (.corrupted answer :: talk) after) :
    (platform.corrupted state).value = answer := by
  cases h with
  | cons head tail =>
    cases head with
    | corrupted => rfl

/-- Where the sum of the memory stays below the word size, a repair has an outcome. -/
theorem Course.exists_outcome {threshold : UInt64} {mode : Mode}
    {commands : RepairCommand × RepairCommand} {addresses : List UInt64}
    {platform : Platform σ δ} {state after : σ} {talk : List (Exchange δ)}
    {result : Except Overflow Outcome}
    (h : Course threshold mode commands addresses talk result)
    (hanswered : platform.Converses state talk after)
    (hfits : ∀ kb, (platform.corrupted state).value = .ok kb →
      4 * mode.addressCount + kb.toNat < UInt64.size) :
    ∃ outcome, result = .ok outcome := by
  cases h with
  | overflow hisolated =>
    cases hisolated with
    | @overflow kb hover =>
      exact absurd (hfits kb (corrupted_eq_of_converses hanswered)) (Nat.not_lt.mpr hover)
  | notIsolated => exact ⟨_, rfl⟩
  | isolated => exact ⟨_, rfl⟩

/-- A request to repair the one page at 0x1000. -/
def onePage : Section where
  validBits := Section.requiredBits
  version := 0
  socId := 0
  socketId := 0
  totemId := 0
  nimbusId := 0
  subsystemId := 0
  moduleId := Section.moduleCode
  submoduleId := Section.submoduleCode
  coreId := 0
  portId := 0
  errType := 0
  severity := 0
  registers := [1, 0x1000, 0, 0, 0]

/-- A platform on which the last of three devices repairs what it is asked for. -/
def lastRepairs : Platform Unit ScriptedDevice :=
  ScriptedPlatform.toPlatform
    { corrupted := some 8
      devices := .ok [⟨"node0", .ok .ddr, .ok 0, .ok 0⟩,
        ⟨"node1", .ok .hbm, .error (.os Errno.noDevice), .ok 0⟩,
        ⟨"node2", .ok .hbm, .ok 1, .ok 1⟩]
      failures := [] }

theorem fits_lastRepairs (kb : UInt64)
    (h : (lastRepairs.corrupted ()).value = .ok kb) :
    4 * Mode.acls.addressCount + kb.toNat < UInt64.size := by
  cases h
  decide

end Repair

end MemoryRepair
