import MemoryRepair.Proofs.RepairRun

/-!
The order of the requests of a repair. Whether a request is permitted is read off the
exchanges before it: a device is asked only when every page is offline, a repair is
requested only of the HBM device whose query has just found the address, and pages
come back online only after a repair that succeeded. Every course of a repair keeps
this order, so that every run does.
-/
namespace MemoryRepair

namespace Repair

variable {σ δ : Type}

/-- Every exchange of a conversation is allowed after the past and the exchanges
before it. -/
def Throughout (allowed : List (Exchange δ) → Exchange δ → Prop) (past talk : List (Exchange δ)) :
    Prop :=
  ∀ before exchange after, talk = before ++ exchange :: after → allowed (past ++ before) exchange

section Throughout

variable {allowed : List (Exchange δ) → Exchange δ → Prop}

theorem Throughout.nil (past : List (Exchange δ)) : Throughout allowed past [] := by
  intro before exchange after h
  simp at h

theorem Throughout.cons {past talk : List (Exchange δ)} {exchange : Exchange δ}
    (hhead : allowed past exchange) (htail : Throughout allowed (past ++ [exchange]) talk) :
    Throughout allowed past (exchange :: talk) := by
  intro before other after h
  cases before with
  | nil =>
    obtain ⟨rfl, rfl⟩ := List.cons.inj h
    rwa [List.append_nil]
  | cons first before =>
    obtain ⟨rfl, htalk⟩ := List.cons.inj h
    have hother := htail before other after htalk
    rwa [List.append_assoc] at hother

theorem Throughout.append {past first second : List (Exchange δ)}
    (hfirst : Throughout allowed past first)
    (hsecond : Throughout allowed (past ++ first) second) :
    Throughout allowed past (first ++ second) := by
  induction first generalizing past with
  | nil => rwa [List.append_nil] at hsecond
  | cons exchange rest ih =>
    have hhead : allowed past exchange := by
      have h := hfirst [] exchange rest rfl
      rwa [List.append_nil] at h
    have htail : Throughout allowed (past ++ [exchange]) rest := by
      intro before other after h
      have hother := hfirst (exchange :: before) other after (by rw [h, List.cons_append])
      rwa [List.append_assoc]
    refine .cons hhead (ih htail ?_)
    rwa [List.append_assoc]

/-- Pages are requested one after the other if each request is allowed whatever came
of the ones before it. -/
theorem throughout_pages {past : List (Exchange δ)} {action : PageAction}
    (hallowed : ∀ more address answer, allowed (past ++ more) (.page action address answer))
    (addresses : List UInt64) (answers : List (Except IoError Unit)) :
    Throughout allowed past (pages action addresses answers) := by
  intro before exchange after h
  have hmem : exchange ∈ pages action addresses answers := by simp [h]
  obtain ⟨address, answer, -, rfl⟩ := exists_of_mem_pages hmem
  exact hallowed before address answer

end Throughout

/-- The corrupted memory could be read, and the threshold leaves room for the pages. -/
def Allows (threshold : UInt64) (mode : Mode) : Except Failure UInt64 → Prop
  | .ok kb => 4 * mode.addressCount + kb.toNat ≤ threshold.toNat
  | .error _ => False

/-- There are pages, and each of them was taken offline. -/
structure Offlined (addresses : List UInt64) (before : List (Exchange δ)) : Prop where
  some_page : addresses ≠ []
  all_pages : before.filterMap (Exchange.paged? .offline) = addresses
  none_failed : ∀ address answer, .page .offline address answer ∈ before → answer = .ok ()

/-- A repair was requested and answered with a positive count. -/
def Repaired (repair : RepairCommand) (before : List (Exchange δ)) : Prop :=
  ∃ count, 0 < count ∧ .ok count ∈ before.filterMap (Exchange.commanded? repair)

/-- A repair was requested and answered in another way. -/
def RepairFailed (repair : RepairCommand) (before : List (Exchange δ)) : Prop :=
  ∃ answer ∈ before.filterMap (Exchange.commanded? repair), ∀ count, answer = .ok count → count = 0

/-- Whether a request may follow some exchanges. -/
def Permitted (threshold : UInt64) (mode : Mode) (commands : RepairCommand × RepairCommand)
    (addresses : List UInt64) (before : List (Exchange δ)) : Exchange δ → Prop
  | .corrupted _ => before = []
  | .page .offline _ _ => ∃ answer, .corrupted answer ∈ before ∧ Allows threshold mode answer
  | .page .online _ _ => Repaired commands.2 before
  | .page .remove _ _ => RepairFailed commands.2 before
  | .devices _ => Offlined addresses before
  | .memoryType _ _ => Offlined addresses before
  | .command device what address _ =>
    Offlined addresses before ∧ addresses.head? = some address ∧
      ((what = commands.1 ∧ ∃ earlier, before = earlier ++ [.memoryType device (.ok .hbm)]) ∨
        (what = commands.2 ∧ ∃ earlier count, 0 < count ∧
          before = earlier ++
            [.memoryType device (.ok .hbm), .command device commands.1 address (.ok count)]))

/-- The order of the requests of a repair. -/
structure Orderly (threshold : UInt64) (mode : Mode) (commands : RepairCommand × RepairCommand)
    (addresses : List UInt64) (talk : List (Exchange δ)) : Prop where
  /-- The first request, which no other one repeats, decides whether the pages go
  offline: all of them, in order, or none. -/
  isolation : ∃ answer rest, talk = .corrupted answer :: rest ∧
    (∀ again, .corrupted again ∉ rest) ∧
    (Allows threshold mode answer → talk.filterMap (Exchange.paged? .offline) = addresses) ∧
    (¬ Allows threshold mode answer → talk.filterMap (Exchange.paged? .offline) = [])
  permitted : ∀ before exchange after, talk = before ++ exchange :: after →
    Permitted threshold mode commands addresses before exchange
  one_repair : (talk.filterMap (Exchange.commanded? commands.2)).length ≤ 1
  online_all : Repaired commands.2 talk → talk.filterMap (Exchange.paged? .online) = addresses
  online_none : ¬ Repaired commands.2 talk → talk.filterMap (Exchange.paged? .online) = []
  remove_all : RepairFailed commands.2 talk → talk.filterMap (Exchange.paged? .remove) = addresses
  remove_none : ¬ RepairFailed commands.2 talk → talk.filterMap (Exchange.paged? .remove) = []

section Permitted

variable {threshold : UInt64} {mode : Mode} {commands : RepairCommand × RepairCommand}
  {addresses : List UInt64}

theorem Offlined.append {before more : List (Exchange δ)} (h : Offlined addresses before)
    (hmore : ∀ address answer, .page .offline address answer ∉ more) :
    Offlined addresses (before ++ more) := by
  have hnone : more.filterMap (Exchange.paged? .offline) = [] := by
    refine List.filterMap_eq_nil_iff.mpr fun exchange hmem => ?_
    cases exchange with
    | page action address answer =>
      cases action with
      | offline => exact absurd hmem (hmore address answer)
      | remove => rfl
      | online => rfl
    | _ => rfl
  refine ⟨h.some_page, by rw [List.filterMap_append, h.all_pages, hnone, List.append_nil], ?_⟩
  intro address answer hmem
  rcases List.mem_append.mp hmem with hmem | hmem
  · exact h.none_failed address answer hmem
  · exact absurd hmem (hmore address answer)

theorem throughout_offline {kb : UInt64}
    (h : 4 * mode.addressCount + kb.toNat ≤ threshold.toNat)
    (answers : List (Except IoError Unit)) :
    Throughout (Permitted threshold mode commands addresses) []
      (.corrupted (.ok kb) :: pages .offline addresses answers : List (Exchange δ)) :=
  .cons rfl (throughout_pages (fun _ _ _ => ⟨.ok kb, by simp, h⟩) addresses answers)

theorem Isolated.throughout {talk : List (Exchange δ)}
    {result : Except Overflow (Except Outcome Unit)}
    (h : Isolated threshold mode addresses talk result) :
    Throughout (Permitted threshold mode commands addresses) [] talk := by
  cases h with
  | unreadable => exact .cons rfl (.nil _)
  | overflow => exact .cons rfl (.nil _)
  | overThreshold => exact .cons rfl (.nil _)
  | failed h => exact throughout_offline h _
  | done h => exact throughout_offline h _

theorem Isolated.offlined {talk : List (Exchange δ)}
    (h : Isolated threshold mode addresses talk (.ok (.ok ()))) : Offlined addresses talk := by
  cases h with
  | @done kb answers hle hlength hsome hisolated =>
    refine ⟨hsome, paged_pages .offline hlength, fun address answer hmem => ?_⟩
    rcases List.mem_cons.mp hmem with heq | hmem
    · cases heq
    · obtain ⟨_, _, hanswer, heq⟩ := exists_of_mem_pages hmem
      injection heq with _ _ heq
      exact heq ▸ hisolated _ hanswer

theorem Passed.throughout {first : UInt64} {devices : List δ} {talk past : List (Exchange δ)}
    {found : Bool} (h : Passed commands.1 first devices talk found)
    (hfirst : addresses.head? = some first) (hpast : Offlined addresses past) :
    Throughout (Permitted threshold mode commands addresses) past talk := by
  induction h generalizing past with
  | nil => exact .nil _
  | other device hother rest ih =>
    exact .cons hpast (ih (hpast.append (by simp)))
  | elsewhere device rest ih =>
    have hasked : Offlined addresses (past ++ [.memoryType device (.ok .hbm)]) :=
      hpast.append (by simp)
    have hquery : Permitted threshold mode commands addresses
        (past ++ [.memoryType device (.ok .hbm)])
        (.command device commands.1 first (.error (.os Errno.noDevice))) :=
      ⟨hasked, hfirst, Or.inl ⟨rfl, past, rfl⟩⟩
    exact .cons hpast (.cons hquery (ih (hasked.append (by simp))))

/-- A query of a device right after it named its type, and a repair right after a
query that found the address, whatever follows the repair. -/
theorem throughout_taken {first : UInt64} {past ending : List (Exchange δ)} {device : δ}
    {count : Nat} {answer : Except IoError Nat} (hfirst : addresses.head? = some first)
    (hpast : Offlined addresses past) (hyes : 0 < count)
    (hending : Throughout (Permitted threshold mode commands addresses)
      (past ++ [.memoryType device (.ok .hbm), .command device commands.1 first (.ok count),
        .command device commands.2 first answer]) ending) :
    Throughout (Permitted threshold mode commands addresses)
      (past ++ [.memoryType device (.ok .hbm)])
      (.command device commands.1 first (.ok count) :: .command device commands.2 first answer ::
        ending) := by
  have hasked : Offlined addresses (past ++ [.memoryType device (.ok .hbm)]) :=
    hpast.append (by simp)
  have hfound : Offlined addresses
      (past ++ [.memoryType device (.ok .hbm)] ++
        [.command device commands.1 first (.ok count)]) := hasked.append (by simp)
  refine .cons ⟨hasked, hfirst, Or.inl ⟨rfl, past, rfl⟩⟩ (.cons ⟨hfound, hfirst, Or.inr ?_⟩ ?_)
  · exact ⟨rfl, past, count, hyes, by simp⟩
  · simpa using hending

theorem Taken.throughout {first : UInt64} {past talk : List (Exchange δ)} {device : δ}
    {outcome : Outcome} (h : Taken commands first addresses device talk outcome)
    (hfirst : addresses.head? = some first) (hpast : Offlined addresses past) :
    Throughout (Permitted threshold mode commands addresses)
      (past ++ [.memoryType device (.ok .hbm)]) talk := by
  have hrepaired : ∀ (count repairs : Nat) (more : List (Exchange δ)), 0 < repairs →
      Repaired commands.2 (past ++ [.memoryType device (.ok .hbm),
        .command device commands.1 first (.ok count),
        .command device commands.2 first (.ok repairs)] ++ more) := by
    intro count repairs more hpos
    exact ⟨repairs, hpos, List.mem_filterMap.mpr
      ⟨.command device commands.2 first (.ok repairs), by simp, if_pos rfl⟩⟩
  cases h with
  | refused hno hhere =>
    exact .cons ⟨hpast.append (by simp), hfirst, Or.inl ⟨rfl, past, rfl⟩⟩ (.nil _)
  | @failed count answer removals hyes hno hlength =>
    refine throughout_taken hfirst hpast hyes (throughout_pages (fun more _ _ => ?_) _ _)
    refine ⟨answer, List.mem_filterMap.mpr
      ⟨.command device commands.2 first answer, by simp, if_pos rfl⟩, ?_⟩
    rintro count rfl
    exact Nat.eq_zero_of_not_pos fun hpos =>
      Bool.false_ne_true (hno.symm.trans (succeeded_eq_true_iff.mpr ⟨count, hpos, rfl⟩))
  | @notReturned count repairs returns hyes hpos hlength hfailed =>
    exact throughout_taken hfirst hpast hyes
      (throughout_pages (fun more _ _ => hrepaired count repairs more hpos) _ _)
  | @repaired count repairs returns hyes hpos hlength hreturned =>
    exact throughout_taken hfirst hpast hyes
      (throughout_pages (fun more _ _ => hrepaired count repairs more hpos) _ _)

theorem Passed.offlined {query : RepairCommand} {first : UInt64} {devices : List δ}
    {talk past : List (Exchange δ)} {found : Bool} (h : Passed query first devices talk found)
    (hpast : Offlined addresses past) : Offlined addresses (past ++ talk) := by
  refine hpast.append fun address answer hmem => ?_
  rcases h.of_mem hmem with ⟨_, ⟨_, heq⟩ | heq⟩ <;> cases heq

theorem Searched.throughout {first : UInt64} {before : Bool} {devices : List δ}
    {talk past : List (Exchange δ)} {outcome : Outcome}
    (h : Searched commands first addresses before devices talk outcome)
    (hfirst : addresses.head? = some first) (hpast : Offlined addresses past) :
    Throughout (Permitted threshold mode commands addresses) past talk := by
  cases h with
  | noneIsHbm hpassed => exact hpassed.throughout hfirst hpast
  | noneHolds hpassed => exact hpassed.throughout hfirst hpast
  | taken hpassed htaken =>
    have hasked := hpassed.offlined hpast
    exact (hpassed.throughout hfirst hpast).append (.cons hasked (htaken.throughout hfirst hasked))

theorem Hunted.throughout {first : UInt64} {talk past : List (Exchange δ)} {outcome : Outcome}
    (h : Hunted commands first addresses talk outcome)
    (hfirst : addresses.head? = some first) (hpast : Offlined addresses past) :
    Throughout (Permitted threshold mode commands addresses) past talk := by
  cases h with
  | notListed => exact .cons hpast (.nil _)
  | searched hsearched =>
    exact .cons hpast (hsearched.throughout hfirst (hpast.append (by simp)))

theorem Course.throughout {talk : List (Exchange δ)} {result : Except Overflow Outcome}
    (h : Course threshold mode commands addresses talk result) :
    Throughout (Permitted threshold mode commands addresses) [] talk := by
  cases h with
  | overflow hisolated => exact hisolated.throughout
  | notIsolated hisolated => exact hisolated.throughout
  | isolated hisolated hfirst hhunted =>
    exact hisolated.throughout.append
      (hhunted.throughout (by rw [hfirst, List.head?_cons]) hisolated.offlined)

end Permitted

/-- No repair was requested, and no page was brought back or given up. -/
structure Untried (repair : RepairCommand) (talk : List (Exchange δ)) : Prop where
  no_repair : talk.filterMap (Exchange.commanded? repair) = []
  no_online : talk.filterMap (Exchange.paged? .online) = []
  no_remove : talk.filterMap (Exchange.paged? .remove) = []

/-- What became of the pages: nothing without a repair, and after the only repair one
request for each of them. -/
inductive Ended (repair : RepairCommand) (addresses : List UInt64) (talk : List (Exchange δ)) :
    Prop
  | untried (h : Untried repair talk)
  | repaired {count : Nat} (hpos : 0 < count)
      (hrepairs : talk.filterMap (Exchange.commanded? repair) = [.ok count])
      (honline : talk.filterMap (Exchange.paged? .online) = addresses)
      (hremove : talk.filterMap (Exchange.paged? .remove) = [])
  | failed {answer : Except IoError Nat} (hno : ∀ count, answer = .ok count → count = 0)
      (hrepairs : talk.filterMap (Exchange.commanded? repair) = [answer])
      (honline : talk.filterMap (Exchange.paged? .online) = [])
      (hremove : talk.filterMap (Exchange.paged? .remove) = addresses)

theorem Untried.of_forall {repair : RepairCommand} {talk : List (Exchange δ)}
    (h : ∀ exchange ∈ talk, exchange.commanded? repair = none ∧
      exchange.paged? .online = none ∧ exchange.paged? .remove = none) : Untried repair talk where
  no_repair := List.filterMap_eq_nil_iff.mpr fun exchange hmem => (h exchange hmem).1
  no_online := List.filterMap_eq_nil_iff.mpr fun exchange hmem => (h exchange hmem).2.1
  no_remove := List.filterMap_eq_nil_iff.mpr fun exchange hmem => (h exchange hmem).2.2

theorem Untried.not_repaired {repair : RepairCommand} {talk : List (Exchange δ)}
    (h : Untried repair talk) : ¬ Repaired repair talk := by
  rintro ⟨count, -, hmem⟩
  rw [h.no_repair] at hmem
  exact List.not_mem_nil hmem

theorem Untried.not_failed {repair : RepairCommand} {talk : List (Exchange δ)}
    (h : Untried repair talk) : ¬ RepairFailed repair talk := by
  rintro ⟨answer, hmem, -⟩
  rw [h.no_repair] at hmem
  exact List.not_mem_nil hmem

theorem Ended.append {repair : RepairCommand} {addresses : List UInt64}
    {first second : List (Exchange δ)} (hfirst : Untried repair first)
    (hsecond : Ended repair addresses second) : Ended repair addresses (first ++ second) := by
  have hrepairs : (first ++ second).filterMap (Exchange.commanded? repair) =
      second.filterMap (Exchange.commanded? repair) := by
    rw [List.filterMap_append, hfirst.no_repair, List.nil_append]
  have honline : (first ++ second).filterMap (Exchange.paged? .online) =
      second.filterMap (Exchange.paged? .online) := by
    rw [List.filterMap_append, hfirst.no_online, List.nil_append]
  have hremove : (first ++ second).filterMap (Exchange.paged? .remove) =
      second.filterMap (Exchange.paged? .remove) := by
    rw [List.filterMap_append, hfirst.no_remove, List.nil_append]
  cases hsecond with
  | untried h => exact .untried ⟨hrepairs.trans h.1, honline.trans h.2, hremove.trans h.3⟩
  | repaired hpos h1 h2 h3 =>
    exact .repaired hpos (hrepairs.trans h1) (honline.trans h2) (hremove.trans h3)
  | failed hno h1 h2 h3 =>
    exact .failed hno (hrepairs.trans h1) (honline.trans h2) (hremove.trans h3)

section Ended

variable {threshold : UInt64} {mode : Mode} {commands : RepairCommand × RepairCommand}
  {addresses : List UInt64}

theorem Isolated.untried {repair : RepairCommand} {talk : List (Exchange δ)}
    {result : Except Overflow (Except Outcome Unit)}
    (h : Isolated threshold mode addresses talk result) : Untried repair talk := by
  refine .of_forall fun exchange hmem => ?_
  rcases h.of_mem hmem with ⟨_, rfl⟩ | ⟨_, _, rfl⟩ <;> exact ⟨rfl, rfl, rfl⟩

theorem Passed.untried {first : UInt64} {devices : List δ} {talk : List (Exchange δ)}
    {found : Bool} (h : Passed commands.1 first devices talk found)
    (hne : commands.1 ≠ commands.2) : Untried commands.2 talk := by
  refine .of_forall fun exchange hmem => ?_
  rcases h.of_mem hmem with ⟨_, ⟨_, rfl⟩ | rfl⟩
  · exact ⟨rfl, rfl, rfl⟩
  · exact ⟨if_neg hne, rfl, rfl⟩

theorem commanded_repair (hne : commands.1 ≠ commands.2) {device : δ} {first : UInt64}
    {found answer : Except IoError Nat} {talk : List (Exchange δ)}
    (htalk : talk.filterMap (Exchange.commanded? commands.2) = []) :
    (.command device commands.1 first found :: .command device commands.2 first answer ::
      talk).filterMap (Exchange.commanded? commands.2) = [answer] := by
  simp [Exchange.commanded?, hne, htalk]

theorem Taken.ended {first : UInt64} {device : δ} {talk : List (Exchange δ)} {outcome : Outcome}
    (h : Taken commands first addresses device talk outcome) (hne : commands.1 ≠ commands.2) :
    Ended commands.2 addresses talk := by
  cases h with
  | refused hno hhere =>
    refine .untried (.of_forall fun exchange hmem => ?_)
    rw [List.mem_singleton.mp hmem]
    exact ⟨if_neg hne, rfl, rfl⟩
  | @failed count answer removals hyes hno hlength =>
    refine .failed ?_ (commanded_repair hne (filterMap_pages_eq_nil (fun _ _ => rfl) _ _))
      (filterMap_pages_eq_nil (fun _ _ => rfl) _ _) (paged_pages .remove hlength)
    rintro count rfl
    simpa [succeeded] using hno
  | @notReturned count repairs returns hyes hpos hlength hfailed =>
    exact .repaired hpos (commanded_repair hne (filterMap_pages_eq_nil (fun _ _ => rfl) _ _))
      (paged_pages .online hlength) (filterMap_pages_eq_nil (fun _ _ => rfl) _ _)
  | @repaired count repairs returns hyes hpos hlength hreturned =>
    exact .repaired hpos (commanded_repair hne (filterMap_pages_eq_nil (fun _ _ => rfl) _ _))
      (paged_pages .online hlength) (filterMap_pages_eq_nil (fun _ _ => rfl) _ _)

theorem Searched.ended {first : UInt64} {before : Bool} {devices : List δ}
    {talk : List (Exchange δ)} {outcome : Outcome}
    (h : Searched commands first addresses before devices talk outcome)
    (hne : commands.1 ≠ commands.2) : Ended commands.2 addresses talk := by
  cases h with
  | noneIsHbm hpassed => exact .untried (hpassed.untried hne)
  | noneHolds hpassed => exact .untried (hpassed.untried hne)
  | @taken _ _ _ _ device _ ending _ hpassed htaken =>
    have hasked : Untried commands.2 [.memoryType device (.ok .hbm)] :=
      .of_forall (by simp [Exchange.commanded?, Exchange.paged?])
    exact (Ended.append hasked (htaken.ended hne)).append (hpassed.untried hne)

theorem Course.ended {talk : List (Exchange δ)} {result : Except Overflow Outcome}
    (h : Course threshold mode commands addresses talk result) (hne : commands.1 ≠ commands.2) :
    Ended commands.2 addresses talk := by
  have hlisted : ∀ answer, Untried commands.2 ([.devices answer] : List (Exchange δ)) :=
    fun _ => .of_forall (by simp [Exchange.commanded?, Exchange.paged?])
  cases h with
  | overflow hisolated => exact .untried hisolated.untried
  | notIsolated hisolated => exact .untried hisolated.untried
  | isolated hisolated hfirst hhunted =>
    refine Ended.append hisolated.untried ?_
    cases hhunted with
    | notListed => exact .untried (hlisted _)
    | searched hsearched => exact Ended.append (hlisted _) (hsearched.ended hne)

end Ended

section Orderly

variable {threshold : UInt64} {mode : Mode} {commands : RepairCommand × RepairCommand}
  {addresses : List UInt64}

theorem Hunted.no_offline {first : UInt64} {talk : List (Exchange δ)} {outcome : Outcome}
    (h : Hunted commands first addresses talk outcome) :
    talk.filterMap (Exchange.paged? .offline) = [] := by
  cases h with
  | notListed => rfl
  | searched hsearched =>
    cases hsearched with
    | noneIsHbm hpassed => exact hpassed.filterMap_eq_nil (fun _ _ => rfl) (fun _ => rfl)
    | noneHolds hpassed => exact hpassed.filterMap_eq_nil (fun _ _ => rfl) (fun _ => rfl)
    | taken hpassed htaken =>
      change List.filterMap _ (_ ++ _) = []
      rw [List.filterMap_append, hpassed.filterMap_eq_nil (fun _ _ => rfl) (fun _ => rfl),
        List.nil_append]
      exact htaken.filterMap_eq_nil (fun _ _ => rfl) (fun _ _ => rfl) (fun _ _ => rfl)

/-- All pages are requested offline, or none, as the answer to the first request says. -/
theorem Isolated.offline {talk : List (Exchange δ)}
    {result : Except Overflow (Except Outcome Unit)}
    (h : Isolated threshold mode addresses talk result) :
    ∃ answer rest, talk = .corrupted answer :: rest ∧
      (Allows threshold mode answer → talk.filterMap (Exchange.paged? .offline) = addresses) ∧
      (¬ Allows threshold mode answer → talk.filterMap (Exchange.paged? .offline) = []) := by
  cases h with
  | unreadable failure => exact ⟨.error failure, [], rfl, False.elim, fun _ => rfl⟩
  | @overflow kb h =>
    have hover : threshold.toNat < 4 * mode.addressCount + kb.toNat :=
      Nat.lt_of_lt_of_le (UInt64.toNat_lt_size threshold) h
    exact ⟨.ok kb, [], rfl, fun hle => absurd hover (Nat.not_lt.mpr hle), fun _ => rfl⟩
  | @overThreshold kb hfits h =>
    exact ⟨.ok kb, [], rfl, fun hle => absurd h (Nat.not_lt.mpr hle), fun _ => rfl⟩
  | @failed kb answers h hlength hfailed =>
    exact ⟨.ok kb, _, rfl, fun _ => paged_pages .offline hlength, fun hno => absurd h hno⟩
  | @done kb answers h hlength hsome hisolated =>
    exact ⟨.ok kb, _, rfl, fun _ => paged_pages .offline hlength, fun hno => absurd h hno⟩

theorem Course.offline {talk : List (Exchange δ)} {result : Except Overflow Outcome}
    (h : Course threshold mode commands addresses talk result) :
    ∃ answer rest, talk = .corrupted answer :: rest ∧
      (Allows threshold mode answer → talk.filterMap (Exchange.paged? .offline) = addresses) ∧
      (¬ Allows threshold mode answer → talk.filterMap (Exchange.paged? .offline) = []) := by
  cases h with
  | overflow hisolated => exact hisolated.offline
  | notIsolated hisolated => exact hisolated.offline
  | isolated hisolated hfirst hhunted =>
    obtain ⟨answer, rest, rfl, hall, hnone⟩ := hisolated.offline
    refine ⟨answer, _, List.cons_append, fun hallows => ?_, fun hdenied => ?_⟩
    · rw [List.filterMap_append, hhunted.no_offline, List.append_nil, hall hallows]
    · rw [List.filterMap_append, hhunted.no_offline, List.append_nil, hnone hdenied]

theorem Course.orderly {talk : List (Exchange δ)} {result : Except Overflow Outcome}
    (h : Course threshold mode commands addresses talk result) (hne : commands.1 ≠ commands.2) :
    Orderly threshold mode commands addresses talk := by
  have hpermitted : ∀ before exchange after, talk = before ++ exchange :: after →
      Permitted threshold mode commands addresses before exchange := h.throughout
  have hisolation : ∃ answer rest, talk = .corrupted answer :: rest ∧
      (∀ again, .corrupted again ∉ rest) ∧
      (Allows threshold mode answer → talk.filterMap (Exchange.paged? .offline) = addresses) ∧
      (¬ Allows threshold mode answer → talk.filterMap (Exchange.paged? .offline) = []) := by
    obtain ⟨answer, rest, rfl, hall, hnone⟩ := h.offline
    refine ⟨answer, rest, rfl, fun again hmem => ?_, hall, hnone⟩
    obtain ⟨earlier, later, rfl⟩ := List.append_of_mem hmem
    exact List.cons_ne_nil _ _ (hpermitted (.corrupted answer :: earlier) _ later rfl)
  cases h.ended hne with
  | untried huntried =>
    exact ⟨hisolation, hpermitted, by simp [huntried.no_repair],
      fun hyes => absurd hyes huntried.not_repaired, fun _ => huntried.no_online,
      fun hyes => absurd hyes huntried.not_failed, fun _ => huntried.no_remove⟩
  | @repaired count hpos hrepairs honline hremove =>
    have hnotFailed : ¬ RepairFailed commands.2 talk := by
      rintro ⟨answer, hmem, hzero⟩
      rw [hrepairs, List.mem_singleton] at hmem
      exact Nat.ne_of_gt hpos (hzero count hmem)
    exact ⟨hisolation, hpermitted, by simp [hrepairs], fun _ => honline,
      fun hno => absurd ⟨count, hpos, by simp [hrepairs]⟩ hno,
      fun hyes => absurd hyes hnotFailed, fun _ => hremove⟩
  | @failed answer hno hrepairs honline hremove =>
    have hnot : ¬ Repaired commands.2 talk := by
      rintro ⟨count, hpos, hmem⟩
      rw [hrepairs, List.mem_singleton] at hmem
      exact Nat.ne_of_gt hpos (hno count hmem.symm)
    exact ⟨hisolation, hpermitted, by simp [hrepairs], fun hyes => absurd hyes hnot,
      fun _ => honline, fun _ => hremove,
      fun hnone => absurd ⟨answer, by simp [hrepairs], hno⟩ hnone⟩

end Orderly

theorem commands_ne_of_ofMode {mode : Mode} {commands : RepairCommand × RepairCommand}
    (h : RepairCommand.ofMode mode = some commands) : commands.1 ≠ commands.2 := by
  cases mode with
  | acls => cases h; decide
  | sppr => cases h; decide
  | cache => cases h

/-- Cache mode does nothing at all. In the other modes the requests of a run keep the
order of a repair, and one report of the outcome follows the last of them. -/
theorem run_orderly (platform : Platform σ δ) (notifier : Notifier σ) (threshold : UInt64)
    (s : Section) (mode : Mode) (state : σ)
    (hfits : ∀ kb, (platform.corrupted state).value = .ok kb →
      4 * mode.addressCount + kb.toNat < UInt64.size) :
    (mode = .cache →
      Act.run (run platform notifier threshold s mode) state = ⟨.ok none, state, []⟩) ∧
    ∀ commands, RepairCommand.ofMode mode = some commands →
      ∃ talk outcome, Orderly threshold mode commands (s.addresses mode) talk ∧
        Reported platform s state talk outcome
          (Act.run (run platform notifier threshold s mode) state) := by
  refine ⟨fun hcache => by rw [hcache]; rfl, fun commands hmode => ?_⟩
  obtain ⟨talk, result, hcourse, hholds, -⟩ :=
    holds_attempt platform threshold s mode commands state
  obtain ⟨outcome, rfl⟩ := hcourse.exists_outcome hholds.answered hfits
  exact ⟨talk, outcome, hcourse.orderly (commands_ne_of_ofMode hmode),
    reported_run platform notifier threshold s hmode hholds⟩

theorem run_orderly_onePage :
    (∀ kb, (lastRepairs.corrupted ()).value = .ok kb →
      4 * Mode.acls.addressCount + kb.toNat < UInt64.size) ∧
    ∃ talk outcome, Orderly 64 .acls (.aclsQuery, .aclsRepair) [0x1000] talk ∧
      Reported lastRepairs onePage () talk outcome
        (Act.run (run lastRepairs .silent 64 onePage .acls) ()) :=
  ⟨fits_lastRepairs,
    (run_orderly lastRepairs .silent 64 onePage .acls () fits_lastRepairs).2 _ rfl⟩

end Repair

end MemoryRepair
