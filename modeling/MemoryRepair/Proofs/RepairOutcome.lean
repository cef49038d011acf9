import MemoryRepair.Proofs.RepairSafety

/-!
The outcome of a repair as a function of the answers. The verdict reads the answers
of a conversation in the order in which they decide: the corrupted memory, the pages
offline, the devices listed, the first query that a device did not pass on, the repair,
and the pages online. Every course of a repair has the outcome that the verdict gives,
and it is a success exactly if every step succeeded.
-/
namespace MemoryRepair

namespace Exchange

variable {δ : Type}

def corrupted? : Exchange δ → Option (Except Failure UInt64)
  | corrupted answer => some answer
  | _ => none

def listed? : Exchange δ → Option (Except Failure (List δ))
  | devices answer => some answer
  | _ => none

/-- The error of a page request that failed. -/
def failed? (wanted : PageAction) : Exchange δ → Option IoError
  | page action _ (.error err) => if action = wanted then some err else none
  | _ => none

/-- The device that answered to be of the HBM type. -/
def hbm? : Exchange δ → Option δ
  | memoryType device (.ok .hbm) => some device
  | _ => none

/-- The answer to a query of a device that did not pass the address on. -/
def taken? (query : RepairCommand) : Exchange δ → Option (Except IoError Nat)
  | command _ what _ (.error (.os errno)) =>
    if what = query ∧ errno ≠ Errno.noDevice then some (.error (.os errno)) else none
  | command _ what _ answer => if what = query then some answer else none
  | _ => none

theorem taken?_elsewhere (query what : RepairCommand) (device : δ) (address : UInt64) :
    taken? query (.command device what address (.error (.os Errno.noDevice))) = none := by
  simp [taken?]

theorem taken?_command {query : RepairCommand} {device : δ} {address : UInt64}
    {answer : Except IoError Nat} (hhere : answer ≠ .error (.os Errno.noDevice)) :
    taken? query (.command device query address answer) = some answer := by
  cases answer with
  | ok count => exact if_pos rfl
  | error err =>
    cases err with
    | os errno => exact if_pos ⟨rfl, fun h => hhere (by rw [h])⟩
    | _ => exact if_pos rfl

end Exchange

namespace Repair

variable {σ δ : Type}

/-- The outcome once a query found the address: the answer to the repair decides, then
the answers of the pages. -/
def repairVerdict (repair : RepairCommand) (talk : List (Exchange δ)) : Outcome :=
  match (talk.filterMap (Exchange.commanded? repair)).head? with
  | some (.ok (_ + 1)) =>
    if talk.filterMap (Exchange.failed? .online) = [] then .success else .onlineFailed
  | some answer => .ofFailedCommand answer
  | none => .repairFailedOther

/-- The outcome once devices were listed: the first query of an HBM device decides that
was not answered with the error for an address elsewhere. -/
def searchVerdict (commands : RepairCommand × RepairCommand) (talk : List (Exchange δ)) :
    Outcome :=
  match (talk.filterMap (Exchange.taken? commands.1)).head? with
  | some (.ok (_ + 1)) => repairVerdict commands.2 talk
  | some answer => .ofFailedCommand answer
  | none =>
    if talk.filterMap Exchange.hbm? = [] then .repairFailedOther else .repairFailedInvalidParam

/-- The outcome once the pages are offline. -/
def huntVerdict (commands : RepairCommand × RepairCommand) (talk : List (Exchange δ)) :
    Outcome :=
  match (talk.filterMap Exchange.listed?).head? with
  | some (.ok (_ :: _)) => searchVerdict commands talk
  | _ => .repairFailedOther

/-- The outcome that the answers of a conversation decide. -/
def verdict (threshold : UInt64) (mode : Mode) (commands : RepairCommand × RepairCommand)
    (addresses : List UInt64) (talk : List (Exchange δ)) : Outcome :=
  match (talk.filterMap Exchange.corrupted?).head? with
  | some (.ok kb) =>
    if threshold.toNat < 4 * mode.addressCount + kb.toNat then .isolateFailedOverThreshold
    else if addresses = [] ∨ talk.filterMap (Exchange.failed? .offline) ≠ [] then
      .isolateFailedOther
    else huntVerdict commands talk
  | _ => .isolateFailedOther

/-- Every step of a repair succeeded. The query and the repair are those of one HBM
device, right after each other. -/
structure Succeeds (threshold : UInt64) (mode : Mode) (commands : RepairCommand × RepairCommand)
    (addresses : List UInt64) (talk : List (Exchange δ)) : Prop where
  allowed : ∃ kb, .corrupted (.ok kb) ∈ talk ∧
    4 * mode.addressCount + kb.toNat ≤ threshold.toNat
  offline : addresses ≠ [] ∧ ∀ address ∈ addresses, .page .offline address (.ok ()) ∈ talk
  none_lost : ∀ address err, .page .offline address (.error err) ∉ talk
  repaired : ∃ devices device first count repairs, .devices (.ok devices) ∈ talk ∧
    device ∈ devices ∧ addresses.head? = some first ∧ 0 < count ∧ 0 < repairs ∧
    [.memoryType device (.ok .hbm), .command device commands.1 first (.ok count),
      .command device commands.2 first (.ok repairs)] <:+: talk
  online : ∀ address ∈ addresses, .page .online address (.ok ()) ∈ talk
  none_left : ∀ address err, .page .online address (.error err) ∉ talk

theorem failed_pages_eq_nil_iff {action : PageAction} {addresses : List UInt64}
    {answers : List (Except IoError Unit)} (hlength : answers.length = addresses.length) :
    (pages action addresses answers : List (Exchange δ)).filterMap (Exchange.failed? action) = [] ↔
      ∀ answer ∈ answers, answer = .ok () := by
  induction addresses generalizing answers with
  | nil =>
    rw [List.eq_nil_of_length_eq_zero hlength]
    simp [pages]
  | cons address rest ih =>
    cases answers with
    | nil => simp at hlength
    | cons answer answers =>
      have hrest := ih (Nat.succ.inj hlength)
      cases answer with
      | ok => simpa [Exchange.failed?] using hrest
      | error err => simp [Exchange.failed?]

/-- An HBM device was found among those that passed the address on if its type says so. -/
theorem Passed.hbm_eq_nil_iff {query : RepairCommand} {first : UInt64} {devices : List δ}
    {talk : List (Exchange δ)} {found : Bool} (h : Passed query first devices talk found) :
    talk.filterMap Exchange.hbm? = [] ↔ found = false := by
  induction h with
  | nil => simp
  | @other device _ answer _ _ hother rest ih =>
    have hnone : Exchange.hbm? (.memoryType device answer) = none := by
      unfold Exchange.hbm?
      split
      · simp_all
      · rfl
    rwa [List.filterMap_cons_none hnone]
  | elsewhere device rest ih => simp [Exchange.hbm?]

section Verdict

variable {threshold : UInt64} {mode : Mode} {commands : RepairCommand × RepairCommand}
  {addresses : List UInt64} {first : UInt64}

/-- After a query that found the address the repair decides. -/
theorem searchVerdict_found {device : δ} {count : Nat} {rest talk : List (Exchange δ)}
    (hyes : 0 < count)
    (htaken : talk.filterMap (Exchange.taken? commands.1) =
      (.command device commands.1 first (.ok count) :: rest).filterMap
        (Exchange.taken? commands.1)) :
    searchVerdict commands talk = repairVerdict commands.2 talk := by
  obtain ⟨count, rfl⟩ := Nat.exists_eq_add_one.mpr hyes
  unfold searchVerdict
  rw [htaken, List.filterMap_cons_some (Exchange.taken?_command (by simp)), List.head?_cons]

theorem repairVerdict_done {repair : RepairCommand} {count : Nat} {talk : List (Exchange δ)}
    (hpos : 0 < count) (hrepair : talk.filterMap (Exchange.commanded? repair) = [.ok count]) :
    repairVerdict repair talk =
      if talk.filterMap (Exchange.failed? .online) = [] then .success else .onlineFailed := by
  obtain ⟨count, rfl⟩ := Nat.exists_eq_add_one.mpr hpos
  unfold repairVerdict
  rw [hrepair, List.head?_cons]

/-- The verdict on a device that took the address reads only its own exchanges. -/
theorem Taken.searchVerdict_eq {device : δ} {ending talk : List (Exchange δ)} {outcome : Outcome}
    (h : Taken commands first addresses device ending outcome) (hne : commands.1 ≠ commands.2)
    (htaken : talk.filterMap (Exchange.taken? commands.1) =
      ending.filterMap (Exchange.taken? commands.1))
    (hrepair : talk.filterMap (Exchange.commanded? commands.2) =
      ending.filterMap (Exchange.commanded? commands.2))
    (honline : talk.filterMap (Exchange.failed? .online) =
      ending.filterMap (Exchange.failed? .online)) :
    searchVerdict commands talk = outcome := by
  cases h with
  | @refused answer hno hhere =>
    unfold searchVerdict
    rw [htaken, List.filterMap_cons_some (Exchange.taken?_command hhere), List.head?_cons]
    cases answer with
    | error err => rfl
    | ok count =>
      cases count with
      | zero => rfl
      | succ count => simp [succeeded] at hno
  | @failed count answer removals hyes hno hlength =>
    rw [searchVerdict_found hyes htaken, repairVerdict, hrepair,
      commanded_repair hne (filterMap_pages_eq_nil (fun _ _ => rfl) _ _), List.head?_cons]
    cases answer with
    | error err => rfl
    | ok repairs =>
      cases repairs with
      | zero => rfl
      | succ repairs => simp [succeeded] at hno
  | @notReturned count repairs returns hyes hpos hlength hfailed =>
    rw [commanded_repair hne (filterMap_pages_eq_nil (fun _ _ => rfl) _ _)] at hrepair
    rw [searchVerdict_found hyes htaken, repairVerdict_done hpos hrepair]
    refine if_neg fun hnil => ?_
    obtain ⟨answer, hmem, hanswer⟩ := hfailed
    exact hanswer ((failed_pages_eq_nil_iff hlength).mp (honline ▸ hnil) answer hmem)
  | @repaired count repairs returns hyes hpos hlength hreturned =>
    rw [commanded_repair hne (filterMap_pages_eq_nil (fun _ _ => rfl) _ _)] at hrepair
    rw [searchVerdict_found hyes htaken, repairVerdict_done hpos hrepair]
    exact if_pos (honline.trans ((failed_pages_eq_nil_iff hlength).mpr hreturned))

/-- Where no device took the address, the types that the devices answered decide. -/
theorem Passed.searchVerdict_eq {devices : List δ} {passed talk : List (Exchange δ)}
    {found : Bool} (h : Passed commands.1 first devices passed found)
    (htaken : talk.filterMap (Exchange.taken? commands.1) =
      passed.filterMap (Exchange.taken? commands.1))
    (hhbm : talk.filterMap Exchange.hbm? = passed.filterMap Exchange.hbm?) :
    searchVerdict commands talk =
      if found = false then .repairFailedOther else .repairFailedInvalidParam := by
  unfold searchVerdict
  rw [htaken, hhbm,
    h.filterMap_eq_nil (fun _ _ => rfl) (fun device => Exchange.taken?_elsewhere _ _ device first)]
  simp only [List.head?_nil, h.hbm_eq_nil_iff]

theorem Searched.searchVerdict_eq {devices : List δ} {searched before : List (Exchange δ)}
    {outcome : Outcome}
    (h : Searched commands first addresses false devices searched outcome)
    (hne : commands.1 ≠ commands.2)
    (htaken : before.filterMap (Exchange.taken? commands.1) = [])
    (hrepair : before.filterMap (Exchange.commanded? commands.2) = [])
    (honline : before.filterMap (Exchange.failed? .online) = [])
    (hhbm : before.filterMap Exchange.hbm? = []) :
    searchVerdict commands (before ++ searched) = outcome := by
  cases h with
  | noneIsHbm hpassed =>
    rw [hpassed.searchVerdict_eq (by rw [List.filterMap_append, htaken, List.nil_append])
      (by rw [List.filterMap_append, hhbm, List.nil_append]), if_pos rfl]
  | noneHolds hpassed hfound =>
    rw [hpassed.searchVerdict_eq (by rw [List.filterMap_append, htaken, List.nil_append])
      (by rw [List.filterMap_append, hhbm, List.nil_append])]
    exact if_neg fun hnone => by simp_all
  | @taken _ _ earlier later device passed ending _ hpassed htakes =>
    have hskip : ∀ {α : Type} (f : Exchange δ → Option α), before.filterMap f = [] →
        (∀ device answer, f (.memoryType device answer) = none) →
        (∀ device, f (.command device commands.1 first (.error (.os Errno.noDevice))) = none) →
        (before ++ (passed ++ .memoryType device (.ok .hbm) :: ending)).filterMap f =
          ending.filterMap f := by
      intro α f hbefore htype hquery
      rw [List.filterMap_append, hbefore, List.nil_append, List.filterMap_append,
        hpassed.filterMap_eq_nil htype hquery, List.nil_append,
        List.filterMap_cons_none (htype device _)]
    refine htakes.searchVerdict_eq hne (hskip _ htaken (fun _ _ => rfl) ?_)
      (hskip _ hrepair (fun _ _ => rfl) fun _ => if_neg hne)
      (hskip _ honline (fun _ _ => rfl) fun _ => rfl)
    exact fun device => Exchange.taken?_elsewhere _ _ device first

/-- Where no page was requested, none failed. -/
theorem failed_eq_nil_of_paged {action : PageAction} {talk : List (Exchange δ)}
    (h : talk.filterMap (Exchange.paged? action) = []) :
    talk.filterMap (Exchange.failed? action) = [] := by
  refine List.filterMap_eq_nil_iff.mpr fun exchange hmem => ?_
  have hpaged := List.filterMap_eq_nil_iff.mp h exchange hmem
  cases exchange with
  | page requested address answer =>
    cases answer with
    | ok => rfl
    | error err =>
      by_cases heq : requested = action
      · simp [Exchange.paged?, heq] at hpaged
      · exact if_neg heq
  | _ => rfl

theorem Searched.outcome_of_nil {devices : List δ} {talk : List (Exchange δ)} {outcome : Outcome}
    (h : Searched commands first addresses false devices talk outcome) (hnil : devices = []) :
    outcome = .repairFailedOther := by
  cases h with
  | noneIsHbm => rfl
  | noneHolds hpassed hfound =>
    subst hnil
    cases hpassed with
    | nil => simp at hfound
  | taken => simp at hnil

theorem Hunted.huntVerdict_eq {isolation hunted : List (Exchange δ)} {outcome : Outcome}
    (h : Hunted commands first addresses hunted outcome) (hne : commands.1 ≠ commands.2)
    (hisolated : Isolated threshold mode addresses isolation (.ok (.ok ()))) :
    huntVerdict commands (isolation ++ hunted) = outcome := by
  have hskip : (isolation ++ hunted).filterMap Exchange.listed? =
      hunted.filterMap Exchange.listed? := by
    rw [List.filterMap_append, hisolated.filterMap_eq_nil (fun _ => rfl) (fun _ _ => rfl),
      List.nil_append]
  rw [huntVerdict, hskip]
  cases h with
  | notListed failure => rfl
  | @searched devices searched _ hsearched =>
    have hbefore : ∀ {α : Type} (f : Exchange δ → Option α),
        (∀ answer, f (.corrupted answer) = none) →
        (∀ address answer, f (.page .offline address answer) = none) →
        f (Exchange.devices (.ok devices)) = none →
        (isolation ++ [Exchange.devices (.ok devices)]).filterMap f = [] := by
      intro α f hcorrupted hpage hlisted
      rw [List.filterMap_append, hisolated.filterMap_eq_nil hcorrupted hpage,
        List.filterMap_cons_none hlisted]
      rfl
    have hsearch := hsearched.searchVerdict_eq hne
      (hbefore (Exchange.taken? commands.1) (fun _ => rfl) (fun _ _ => rfl) rfl)
      (hbefore (Exchange.commanded? commands.2) (fun _ => rfl) (fun _ _ => rfl) rfl)
      (hbefore (Exchange.failed? .online) (fun _ => rfl) (fun _ answer => by cases answer <;> rfl)
        rfl)
      (hbefore Exchange.hbm? (fun _ => rfl) (fun _ _ => rfl) rfl)
    rw [List.append_assoc, List.singleton_append] at hsearch
    cases devices with
    | cons device rest => exact hsearch
    | nil => exact (hsearched.outcome_of_nil rfl).symm

/-- The verdict after an amount of corrupted memory was read. -/
theorem verdict_cons (kb : UInt64) (rest : List (Exchange δ)) :
    verdict threshold mode commands addresses (.corrupted (.ok kb) :: rest) =
      if threshold.toNat < 4 * mode.addressCount + kb.toNat then .isolateFailedOverThreshold
      else if addresses = [] ∨ rest.filterMap (Exchange.failed? .offline) ≠ [] then
        .isolateFailedOther
      else huntVerdict commands (.corrupted (.ok kb) :: rest) := rfl

theorem Course.verdict_eq {talk : List (Exchange δ)} {outcome : Outcome}
    (h : Course threshold mode commands addresses talk (.ok outcome))
    (hne : commands.1 ≠ commands.2) :
    verdict threshold mode commands addresses talk = outcome := by
  cases h with
  | notIsolated hisolated =>
    cases hisolated with
    | unreadable failure => rfl
    | overThreshold hfits h => rw [verdict_cons, if_pos h]
    | @failed kb answers h hlength hfailed =>
      rw [verdict_cons, if_neg (Nat.not_lt.mpr h)]
      refine if_pos (hfailed.imp_right fun hsome hnil => ?_)
      obtain ⟨answer, hmem, hanswer⟩ := hsome
      exact hanswer ((failed_pages_eq_nil_iff hlength).mp hnil answer hmem)
  | @isolated first rest isolation hunted _ hisolated hfirst hhunted =>
    have hverdict := hhunted.huntVerdict_eq hne hisolated
    have hunfailed : hunted.filterMap (Exchange.failed? .offline) = [] :=
      failed_eq_nil_of_paged hhunted.no_offline
    cases hisolated with
    | @done kb answers h hlength hsome hanswers =>
      have hpages : (pages .offline addresses answers : List (Exchange δ)).filterMap
          (Exchange.failed? .offline) = [] := (failed_pages_eq_nil_iff hlength).mpr hanswers
      rw [List.cons_append, verdict_cons, if_neg (Nat.not_lt.mpr h), if_neg ?_]
      · exact hverdict
      · rw [List.filterMap_append, hpages, hunfailed]
        simpa using hsome

end Verdict

section Success

variable {threshold : UInt64} {mode : Mode} {commands : RepairCommand × RepairCommand}
  {addresses : List UInt64} {first : UInt64}

theorem ofFailedCommand_ne_success (answer : Except IoError Nat) :
    Outcome.ofFailedCommand answer ≠ .success := by
  unfold Outcome.ofFailedCommand
  split
  · split
    · decide
    · split <;> decide
  · decide

theorem Taken.of_success {device : δ} {ending : List (Exchange δ)} {outcome : Outcome}
    (h : Taken commands first addresses device ending outcome) (hsuccess : outcome = .success) :
    ∃ count repairs returns, 0 < count ∧ 0 < repairs ∧ returns.length = addresses.length ∧
      (∀ answer ∈ returns, answer = .ok ()) ∧
      ending = .command device commands.1 first (.ok count) ::
        .command device commands.2 first (.ok repairs) :: pages .online addresses returns := by
  cases h with
  | refused => exact absurd hsuccess (ofFailedCommand_ne_success _)
  | failed => exact absurd hsuccess (ofFailedCommand_ne_success _)
  | notReturned => cases hsuccess
  | repaired hyes hpos hlength hreturned =>
    exact ⟨_, _, _, hyes, hpos, hlength, hreturned, rfl⟩

theorem mem_pages_ok {action : PageAction} {answers : List (Except IoError Unit)}
    (hlength : answers.length = addresses.length) (hall : ∀ answer ∈ answers, answer = .ok ())
    {address : UInt64} (hmem : address ∈ addresses) :
    (.page action address (.ok ()) : Exchange δ) ∈ pages action addresses answers := by
  induction addresses generalizing answers with
  | nil => simp at hmem
  | cons head rest ih =>
    cases answers with
    | nil => simp at hlength
    | cons answer answers =>
      rw [hall answer List.mem_cons_self, pages_cons]
      rcases List.mem_cons.mp hmem with rfl | hmem
      · exact List.mem_cons_self
      · exact List.mem_cons_of_mem _ (ih (Nat.succ.inj hlength)
          (fun other hother => hall other (List.mem_cons_of_mem _ hother)) hmem)

theorem not_mem_of_failed_eq_nil {action : PageAction} {talk : List (Exchange δ)}
    (h : talk.filterMap (Exchange.failed? action) = []) (address : UInt64) (err : IoError) :
    .page action address (.error err) ∉ talk := by
  intro hmem
  have hnone := List.filterMap_eq_nil_iff.mp h _ hmem
  simp [Exchange.failed?] at hnone

/-- An isolation that lets a repair go on was allowed and took every page offline. -/
theorem Isolated.of_done {talk : List (Exchange δ)}
    (h : Isolated threshold mode addresses talk (.ok (.ok ()))) :
    (∃ kb, .corrupted (.ok kb) ∈ talk ∧ 4 * mode.addressCount + kb.toNat ≤ threshold.toNat) ∧
      addresses ≠ [] ∧ (∀ address ∈ addresses, .page .offline address (.ok ()) ∈ talk) ∧
      talk.filterMap (Exchange.failed? .offline) = [] := by
  cases h with
  | @done kb answers hle hlength hsome hanswers =>
    refine ⟨⟨kb, List.mem_cons_self, hle⟩, hsome, ?_, ?_⟩
    · intro address hmem
      exact List.mem_cons_of_mem _ (mem_pages_ok hlength hanswers hmem)
    · rw [List.filterMap_cons_none rfl]
      exact (failed_pages_eq_nil_iff hlength).mpr hanswers

/-- A search that ends in success found a listed device whose query and repair succeeded,
and brought every page online. -/
theorem Hunted.of_success {talk : List (Exchange δ)} {outcome : Outcome}
    (h : Hunted commands first addresses talk outcome) (hsuccess : outcome = .success) :
    (∃ devices device count repairs, .devices (.ok devices) ∈ talk ∧ device ∈ devices ∧
      0 < count ∧ 0 < repairs ∧
      [.memoryType device (.ok .hbm), .command device commands.1 first (.ok count),
        .command device commands.2 first (.ok repairs)] <:+: talk) ∧
      (∀ address ∈ addresses, .page .online address (.ok ()) ∈ talk) ∧
      talk.filterMap (Exchange.failed? .online) = [] := by
  cases h with
  | notListed => cases hsuccess
  | searched hsearched =>
    cases hsearched with
    | noneIsHbm => cases hsuccess
    | noneHolds => cases hsuccess
    | @taken _ _ earlier later device passed ending _ hpassed htaken =>
      obtain ⟨count, repairs, returns, hyes, hpos, hlength, hreturned, rfl⟩ :=
        htaken.of_success hsuccess
      have honline : (pages .online addresses returns : List (Exchange δ)).filterMap
          (Exchange.failed? .online) = [] := (failed_pages_eq_nil_iff hlength).mpr hreturned
      refine ⟨⟨_, device, count, repairs, List.mem_cons_self, by simp, hyes, hpos, ?_⟩, ?_, ?_⟩
      · exact ⟨.devices (.ok (earlier ++ device :: later)) :: passed,
          pages .online addresses returns, by simp⟩
      · intro address hmem
        simp [mem_pages_ok hlength hreturned hmem]
      · rw [List.filterMap_cons_none rfl, List.filterMap_append,
          hpassed.filterMap_eq_nil (fun _ _ => rfl) (fun _ => rfl)]
        exact honline

/-- On the way to a success every step succeeded. -/
theorem Course.succeeds {talk : List (Exchange δ)} {outcome : Outcome}
    (h : Course threshold mode commands addresses talk (.ok outcome))
    (hsuccess : outcome = .success) : Succeeds threshold mode commands addresses talk := by
  cases h with
  | notIsolated hisolated => cases hisolated <;> cases hsuccess
  | @isolated first rest isolation hunted _ hisolated hfirst hhunted =>
    obtain ⟨⟨kb, hread, hle⟩, hsome, hoffline, hlost⟩ := hisolated.of_done
    obtain ⟨⟨devices, device, count, repairs, hlisted, hdevice, hyes, hpos, hinfix⟩, honline,
      hleft⟩ := hhunted.of_success hsuccess
    have hunfailed : hunted.filterMap (Exchange.failed? .offline) = [] :=
      failed_eq_nil_of_paged hhunted.no_offline
    have huntried : Untried commands.2 isolation := hisolated.untried
    have hnotOnline : isolation.filterMap (Exchange.failed? .online) = [] :=
      failed_eq_nil_of_paged huntried.no_online
    constructor
    · exact ⟨kb, List.mem_append_left _ hread, hle⟩
    · exact ⟨hsome, fun address hmem => List.mem_append_left _ (hoffline address hmem)⟩
    · apply not_mem_of_failed_eq_nil
      rw [List.filterMap_append, hlost, hunfailed, List.append_nil]
    · exact ⟨devices, device, first, count, repairs, List.mem_append_right _ hlisted, hdevice,
        by rw [hfirst, List.head?_cons], hyes, hpos,
        hinfix.trans (List.suffix_append isolation hunted).isInfix⟩
    · intro address hmem
      exact List.mem_append_right _ (honline address hmem)
    · apply not_mem_of_failed_eq_nil
      rw [List.filterMap_append, hnotOnline, hleft, List.append_nil]

theorem repaired_of_append {repair : RepairCommand} {before after : List (Exchange δ)}
    (hbefore : Untried repair before) (h : Repaired repair (before ++ after)) :
    Repaired repair after := by
  obtain ⟨count, hpos, hmem⟩ := h
  rw [List.filterMap_append, hbefore.no_repair, List.nil_append] at hmem
  exact ⟨count, hpos, hmem⟩

theorem Taken.outcome_of_repaired {device : δ} {ending : List (Exchange δ)} {outcome : Outcome}
    (h : Taken commands first addresses device ending outcome) (hne : commands.1 ≠ commands.2)
    (hrepaired : Repaired commands.2 ending)
    (honline : ending.filterMap (Exchange.failed? .online) = []) : outcome = .success := by
  cases h with
  | refused hno hhere =>
    refine absurd hrepaired (Untried.not_repaired (.of_forall fun exchange hmem => ?_))
    rw [List.mem_singleton.mp hmem]
    exact ⟨if_neg hne, rfl, rfl⟩
  | failed hyes hno hlength =>
    obtain ⟨count, hpos, hmem⟩ := hrepaired
    rw [commanded_repair hne (filterMap_pages_eq_nil (fun _ _ => rfl) _ _),
      List.mem_singleton] at hmem
    rw [← hmem] at hno
    exact absurd hno (by simpa [succeeded] using Nat.ne_of_gt hpos)
  | notReturned hyes hpos hlength hfailed =>
    obtain ⟨answer, hmem, hanswer⟩ := hfailed
    exact absurd ((failed_pages_eq_nil_iff hlength).mp honline answer hmem) hanswer
  | repaired => rfl

/-- A repair with a positive count after which every page came online is a success. -/
theorem Course.outcome_of_repaired {talk : List (Exchange δ)} {outcome : Outcome}
    (h : Course threshold mode commands addresses talk (.ok outcome))
    (hne : commands.1 ≠ commands.2) (hrepaired : Repaired commands.2 talk)
    (honline : talk.filterMap (Exchange.failed? .online) = []) : outcome = .success := by
  cases h with
  | notIsolated hisolated => exact absurd hrepaired hisolated.untried.not_repaired
  | isolated hisolated hfirst hhunted =>
    have hhuntRepaired := repaired_of_append hisolated.untried hrepaired
    rw [List.filterMap_append] at honline
    have hhuntOnline := (List.append_eq_nil_iff.mp honline).2
    cases hhunted with
    | notListed =>
      exact absurd hhuntRepaired
        (Untried.not_repaired (.of_forall (by simp [Exchange.commanded?, Exchange.paged?])))
    | searched hsearched =>
      cases hsearched with
      | noneIsHbm hpassed => exact absurd hhuntRepaired (hpassed.untried hne).not_repaired
      | noneHolds hpassed => exact absurd hhuntRepaired (hpassed.untried hne).not_repaired
      | @taken _ _ _ _ device _ ending _ hpassed htaken =>
        have hending : Repaired commands.2 (.memoryType device (.ok .hbm) :: ending) :=
          repaired_of_append (hpassed.untried hne) hhuntRepaired
        change List.filterMap _ (_ ++ _) = [] at hhuntOnline
        rw [List.filterMap_append] at hhuntOnline
        exact htaken.outcome_of_repaired hne hending (List.append_eq_nil_iff.mp hhuntOnline).2

theorem Course.success_iff {talk : List (Exchange δ)} {outcome : Outcome}
    (h : Course threshold mode commands addresses talk (.ok outcome))
    (hne : commands.1 ≠ commands.2) :
    outcome = .success ↔ Succeeds threshold mode commands addresses talk := by
  refine ⟨h.succeeds, fun hsucceeds => h.outcome_of_repaired hne ?_ ?_⟩
  · obtain ⟨devices, device, first, count, repairs, -, -, -, -, hpos, hinfix⟩ := hsucceeds.repaired
    refine ⟨repairs, hpos, List.mem_filterMap.mpr
      ⟨.command device commands.2 first (.ok repairs), hinfix.subset (by simp), if_pos rfl⟩⟩
  · refine List.filterMap_eq_nil_iff.mpr fun exchange hmem => ?_
    cases exchange with
    | page action address answer =>
      cases answer with
      | ok => rfl
      | error err =>
        refine if_neg fun haction => ?_
        subst haction
        exact hsucceeds.none_left address err hmem
    | _ => rfl

end Success

/-- The outcome is the verdict on the answers that the platform gave. Once a device took
the address, the devices listed after it change neither the outcome nor anything else
that the run does. -/
theorem run_outcome (platform : Platform σ δ) (notifier : Notifier σ) (threshold : UInt64)
    (s : Section) (mode : Mode) (commands : RepairCommand × RepairCommand) (state : σ)
    (hmode : RepairCommand.ofMode mode = some commands)
    (hfits : ∀ kb, (platform.corrupted state).value = .ok kb →
      4 * mode.addressCount + kb.toNat < UInt64.size) :
    ∃ talk outcome, Course threshold mode commands (s.addresses mode) talk (.ok outcome) ∧
      Reported platform s state talk outcome
        (Act.run (run platform notifier threshold s mode) state) ∧
      outcome = verdict threshold mode commands (s.addresses mode) talk ∧
      (outcome = .success ↔ Succeeds threshold mode commands (s.addresses mode) talk) ∧
      (Settled commands.1 talk → ∀ others,
        Act.run (run (platform.listing (talk.filterMap Exchange.asked? ++ others)) notifier
          threshold s mode) state =
        Act.run (run platform notifier threshold s mode) state) := by
  have hne := commands_ne_of_ofMode hmode
  obtain ⟨talk, result, hcourse, hholds, hlater⟩ :=
    holds_attempt platform threshold s mode commands state
  obtain ⟨outcome, rfl⟩ := hcourse.exists_outcome hholds.answered hfits
  refine ⟨talk, outcome, hcourse, reported_run platform notifier threshold s hmode hholds,
    (hcourse.verdict_eq hne).symm, hcourse.success_iff hne, fun hsettled others => ?_⟩
  unfold run
  rw [hmode]
  exact Act.run_bind_congr fun _ _ => Act.run_bind_left (hlater hsettled others)

theorem run_outcome_onePage :
    (∀ kb, (lastRepairs.corrupted ()).value = .ok kb →
      4 * Mode.acls.addressCount + kb.toNat < UInt64.size) ∧
    ∃ talk, Reported lastRepairs onePage () talk .success
      (Act.run (run lastRepairs .silent 64 onePage .acls) ()) ∧
      Succeeds 64 .acls (.aclsQuery, .aclsRepair) [0x1000] talk := by
  obtain ⟨talk, outcome, -, hreported, -, hsuccess, -⟩ :=
    run_outcome lastRepairs .silent 64 onePage .acls _ () rfl fits_lastRepairs
  have hvalue : outcome = .success := by
    have h := hreported.value_eq
    cases h
    rfl
  subst hvalue
  exact ⟨fits_lastRepairs, talk, hreported, hsuccess.mp rfl⟩

end Repair

end MemoryRepair
