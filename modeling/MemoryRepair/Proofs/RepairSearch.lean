import MemoryRepair.Proofs.RepairCourse

/-!
The search for the device that repairs an address. It takes one of its courses from
every state, by induction on the devices left to ask. A device that took the address
ends it, so that the devices listed after that one have no part in it.
-/
namespace MemoryRepair.Repair

variable {σ δ : Type}

/-- After a query with a positive count the course is that of the repair. -/
theorem holds_repairOn (platform : Platform σ δ) (mode : Mode)
    (commands : RepairCommand × RepairCommand) (device : δ) (first : UInt64)
    (addresses : List UInt64) (state : σ) {count : Nat} (hyes : 0 < count) :
    ∃ talk outcome,
      Taken commands first addresses device
        (.command device commands.1 first (.ok count) :: talk) outcome ∧
      Act.Holds platform (repairOn platform mode commands.2 device first addresses) state talk
        (.ok outcome) := by
  have hcommand := holds_command platform device commands.2 first state
  cases hrepaired : succeeded (platform.command device commands.2 first state).value with
  | true =>
    obtain ⟨repairs, hpos, hvalue⟩ := succeeded_eq_true_iff.mp hrepaired
    rw [hvalue] at hcommand
    obtain ⟨answers, all, hlength, hall, honline⟩ := holds_onlineAll platform mode addresses
      (platform.command device commands.2 first state).state
    cases all with
    | true =>
      refine ⟨_, _, .repaired hyes hpos hlength (hall.mp rfl), hcommand.bind ?_⟩
      rw [if_pos (succeeded_eq_true_iff.mpr ⟨repairs, hpos, rfl⟩)]
      exact honline.bind_silent (.pure _ _)
    | false =>
      have hfailed : ∃ answer ∈ answers, answer ≠ .ok () := by
        by_contra hnone
        exact Bool.false_ne_true (hall.mpr fun answer hanswer =>
          by_contra fun hne => hnone ⟨answer, hanswer, hne⟩)
      refine ⟨_, _, .notReturned hyes hpos hlength hfailed, hcommand.bind ?_⟩
      rw [if_pos (succeeded_eq_true_iff.mpr ⟨repairs, hpos, rfl⟩)]
      exact honline.bind_silent (.pure _ _)
  | false =>
    obtain ⟨answers, hlength, hremove⟩ := holds_removeAll platform mode addresses
      (platform.command device commands.2 first state).state
    refine ⟨_, _, .failed hyes hrepaired hlength, hcommand.bind ?_⟩
    rw [if_neg (by simp [hrepaired])]
    exact hremove.bind_silent (.pure _ _)

/-- A device took the address: it answered a query in another way than that it does
not hold it. -/
def Settled (query : RepairCommand) (talk : List (Exchange δ)) : Prop :=
  ∃ device address answer, .command device query address answer ∈ talk ∧
    answer ≠ .error (.os Errno.noDevice)

theorem settled_cons_memoryType {query : RepairCommand} {device : δ}
    {answer : Except Failure MemoryType} {talk : List (Exchange δ)} :
    Settled query (.memoryType device answer :: talk) ↔ Settled query talk := by
  simp [Settled]

theorem settled_cons_elsewhere {query what : RepairCommand} {device : δ} {address : UInt64}
    {talk : List (Exchange δ)} :
    Settled query (.command device what address (.error (.os Errno.noDevice)) :: talk) ↔
      Settled query talk := by
  constructor
  · rintro ⟨d, a, answer, hmem, hne⟩
    rcases List.mem_cons.mp hmem with heq | hmem
    · injection heq with _ _ _ hanswer
      exact absurd hanswer hne
    · exact ⟨d, a, answer, hmem, hne⟩
  · rintro ⟨d, a, answer, hmem, hne⟩
    exact ⟨d, a, answer, List.mem_cons_of_mem _ hmem, hne⟩

section Asked

variable {commands : RepairCommand × RepairCommand} {first : UInt64} {addresses : List UInt64}
  {devices : List δ} {talk : List (Exchange δ)} {outcome : Outcome}

/-- A device that takes the address is sent commands and then pages come back or are
given up. -/
theorem Taken.filterMap_eq_nil {β : Type} {f : Exchange δ → Option β} {device : δ}
    (h : Taken commands first addresses device talk outcome)
    (hcommand : ∀ what answer, f (.command device what first answer) = none)
    (honline : ∀ address answer, f (.page .online address answer) = none)
    (hremove : ∀ address answer, f (.page .remove address answer) = none) :
    talk.filterMap f = [] := by
  cases h with
  | refused =>
    rw [List.filterMap_cons_none (hcommand _ _)]
    rfl
  | failed =>
    rw [List.filterMap_cons_none (hcommand _ _), List.filterMap_cons_none (hcommand _ _)]
    exact filterMap_pages_eq_nil hremove _ _
  | notReturned =>
    rw [List.filterMap_cons_none (hcommand _ _), List.filterMap_cons_none (hcommand _ _)]
    exact filterMap_pages_eq_nil honline _ _
  | repaired =>
    rw [List.filterMap_cons_none (hcommand _ _), List.filterMap_cons_none (hcommand _ _)]
    exact filterMap_pages_eq_nil honline _ _

theorem Taken.asked {device : δ} (h : Taken commands first addresses device talk outcome) :
    talk.filterMap Exchange.asked? = [] :=
  h.filterMap_eq_nil (fun _ _ => rfl) (fun _ _ => rfl) (fun _ _ => rfl)

theorem Passed.of_mem {query : RepairCommand} {found : Bool}
    (h : Passed query first devices talk found) {exchange : Exchange δ} (hmem : exchange ∈ talk) :
    ∃ device, (∃ answer, exchange = .memoryType device answer) ∨
      exchange = .command device query first (.error (.os Errno.noDevice)) := by
  induction h with
  | nil => simp at hmem
  | other device hother rest ih =>
    rcases List.mem_cons.mp hmem with rfl | hmem
    · exact ⟨device, Or.inl ⟨_, rfl⟩⟩
    · exact ih hmem
  | elsewhere device rest ih =>
    rcases List.mem_cons.mp hmem with rfl | hmem
    · exact ⟨device, Or.inl ⟨_, rfl⟩⟩
    · rcases List.mem_cons.mp hmem with rfl | hmem
      · exact ⟨device, Or.inr rfl⟩
      · exact ih hmem

/-- What a function looks for beside such devices is not found among them. -/
theorem Passed.filterMap_eq_nil {β : Type} {f : Exchange δ → Option β} {query : RepairCommand}
    {found : Bool} (h : Passed query first devices talk found)
    (htype : ∀ device answer, f (.memoryType device answer) = none)
    (hquery : ∀ device, f (.command device query first (.error (.os Errno.noDevice))) = none) :
    talk.filterMap f = [] := by
  refine List.filterMap_eq_nil_iff.mpr fun exchange hmem => ?_
  rcases h.of_mem hmem with ⟨device, ⟨answer, rfl⟩ | rfl⟩
  · exact htype device answer
  · exact hquery device

/-- Devices that pass the address on are all asked, in order. -/
theorem Passed.asked {query : RepairCommand} {found : Bool}
    (h : Passed query first devices talk found) :
    talk.filterMap Exchange.asked? = devices := by
  induction h with
  | nil => rfl
  | other device hother rest ih => exact congrArg (List.cons device) ih
  | elsewhere device rest ih => exact congrArg (List.cons device) ih

/-- The devices asked are the first ones listed. -/
theorem Searched.asked {before : Bool}
    (h : Searched commands first addresses before devices talk outcome) :
    ∃ later, devices = talk.filterMap Exchange.asked? ++ later := by
  cases h with
  | noneIsHbm hpassed => exact ⟨[], by rw [hpassed.asked, List.append_nil]⟩
  | noneHolds hpassed => exact ⟨[], by rw [hpassed.asked, List.append_nil]⟩
  | @taken _ _ earlier later device _ ending _ hpassed htaken =>
    have hending : (.memoryType device (.ok .hbm) :: ending).filterMap Exchange.asked? =
        [device] := congrArg (List.cons device) htaken.asked
    refine ⟨later, ?_⟩
    rw [List.filterMap_append, hpassed.asked, hending, List.append_assoc, List.singleton_append]

theorem Searched.asked_ne_nil {before : Bool}
    (h : Searched commands first addresses before devices talk outcome)
    (hsome : devices ≠ []) : talk.filterMap Exchange.asked? ≠ [] := by
  cases h with
  | noneIsHbm hpassed => rwa [hpassed.asked]
  | noneHolds hpassed => rwa [hpassed.asked]
  | taken hpassed htaken => simp [Exchange.asked?]

end Asked

section Search

variable (platform : Platform σ δ) (mode : Mode) (commands : RepairCommand × RepairCommand)
  (errorType : UInt32) (first : UInt64) (addresses : List UInt64)

/-- From a state the search takes one of its courses. Once a device took the address,
the devices listed after it do not matter. -/
def SearchesFrom (before : Bool) (devices : List δ) (state : σ) : Prop :=
  ∃ talk outcome, Searched commands first addresses before devices talk outcome ∧
    Act.Holds platform (search platform mode commands errorType first addresses before devices)
      state talk (.ok outcome) ∧
    (Settled commands.1 talk → ∀ others,
      Act.run (search platform mode commands errorType first addresses before
        (talk.filterMap Exchange.asked? ++ others)) state =
      Act.run (search platform mode commands errorType first addresses before devices) state)

theorem searchesFrom_nil (before : Bool) (state : σ) :
    SearchesFrom platform mode commands errorType first addresses before [] state := by
  have hsettled : ¬ Settled commands.1 ([] : List (Exchange δ)) := by
    rintro ⟨_, _, _, hmem, -⟩
    simp at hmem
  cases before with
  | true =>
    exact ⟨[], _, .noneHolds .nil (Or.inl rfl), .log_bind (.pure _ _), fun h => absurd h hsettled⟩
  | false =>
    exact ⟨[], _, .noneIsHbm .nil, .log_bind (.pure _ _), fun h => absurd h hsettled⟩

theorem holds_memoryType (device : δ) (state : σ) :
    Act.Holds platform
      (request (.memoryType (platform.deviceName device)) (platform.memoryType device)) state
      [.memoryType device (platform.memoryType device state).value]
      (.ok (platform.memoryType device state).value) :=
  holds_request rfl (.memoryType device state)

theorem searchesFrom_other {before : Bool} {device : δ} {rest : List δ} {state : σ}
    (hother : (platform.memoryType device state).value ≠ .ok .hbm)
    (hrest : SearchesFrom platform mode commands errorType first addresses before rest
      (platform.memoryType device state).state) :
    SearchesFrom platform mode commands errorType first addresses before (device :: rest)
      state := by
  obtain ⟨talk, outcome, hsearched, hholds, hlater⟩ := hrest
  have hasked := holds_memoryType platform device state
  refine ⟨_, outcome, hsearched.other device hother, hasked.bind ?_, ?_⟩
  · cases hvalue : (platform.memoryType device state).value with
    | error failure => exact .log_bind hholds
    | ok kind =>
      cases kind with
      | hbm => exact absurd hvalue hother
      | ddr => exact hholds
      | unknown => exact hholds
  · intro hsettled others
    have hsame := hlater (settled_cons_memoryType.mp hsettled) others
    refine Act.run_bind_congr fun value hv => ?_
    rw [hasked.value_eq] at hv
    injection hv with hv
    subst hv
    cases hvalue : (platform.memoryType device state).value with
    | error failure => exact Act.run_bind_congr fun _ _ => hsame
    | ok kind =>
      cases kind with
      | hbm => exact absurd hvalue hother
      | ddr => exact hsame
      | unknown => exact hsame

/-- A device that takes the address ends the search, whatever is listed after it. -/
theorem run_search_taken {before : Bool} {device : δ} {state : σ}
    (hhbm : (platform.memoryType device state).value = .ok .hbm)
    (hhere : (platform.command device commands.1 first
      (platform.memoryType device state).state).value ≠ .error (.os Errno.noDevice))
    (later others : List δ) :
    Act.run (search platform mode commands errorType first addresses before (device :: later))
        state =
      Act.run (search platform mode commands errorType first addresses before (device :: others))
        state := by
  refine Act.run_bind_congr fun kind hkind => ?_
  rw [(holds_memoryType platform device state).value_eq, hhbm] at hkind
  injection hkind with hkind
  subst hkind
  refine Act.run_bind_congr fun answer hanswer => ?_
  have hquery := holds_command platform device commands.1 first
    (platform.memoryType device state).state
  have hvalue := hquery.value_eq.symm.trans hanswer
  injection hvalue with hvalue
  have helse : isElsewhere answer = false := by
    rw [← hvalue]
    exact Bool.eq_false_iff.mpr fun h => hhere (isElsewhere_eq_true_iff.mp h)
  simp only [helse, Bool.false_eq_true, if_false]

theorem searchesFrom_taken {before : Bool} {device : δ} {rest : List δ} {state : σ}
    {ending : List (Exchange δ)} {outcome : Outcome}
    (hhbm : (platform.memoryType device state).value = .ok .hbm)
    (hhere : (platform.command device commands.1 first
      (platform.memoryType device state).state).value ≠ .error (.os Errno.noDevice))
    (htaken : Taken commands first addresses device ending outcome)
    (hholds : Act.Holds platform
      (search platform mode commands errorType first addresses before (device :: rest)) state
      (.memoryType device (.ok .hbm) :: ending) (.ok outcome)) :
    SearchesFrom platform mode commands errorType first addresses before (device :: rest)
      state := by
  refine ⟨_, outcome, .taken .nil htaken, hholds, fun _ others => ?_⟩
  have hasked : (Exchange.memoryType device (.ok .hbm) :: ending).filterMap Exchange.asked? =
      [device] := congrArg (List.cons device) htaken.asked
  rw [List.nil_append, hasked]
  exact run_search_taken platform mode commands errorType first addresses hhbm hhere others rest

theorem searchesFrom_elsewhere {before : Bool} {device : δ} {rest : List δ} {state : σ}
    (hhbm : (platform.memoryType device state).value = .ok .hbm)
    (helsewhere : (platform.command device commands.1 first
      (platform.memoryType device state).state).value = .error (.os Errno.noDevice))
    (hrest : SearchesFrom platform mode commands errorType first addresses true rest
      (platform.command device commands.1 first (platform.memoryType device state).state).state) :
    SearchesFrom platform mode commands errorType first addresses before (device :: rest)
      state := by
  obtain ⟨talk, outcome, hsearched, hholds, hlater⟩ := hrest
  have hasked := holds_memoryType platform device state
  have hquery := holds_command platform device commands.1 first
    (platform.memoryType device state).state
  rw [hhbm] at hasked
  rw [helsewhere] at hquery
  refine ⟨_, outcome, hsearched.elsewhere device, hasked.bind (hquery.bind ?_), ?_⟩
  · exact .log_bind hholds
  · intro hsettled others
    have hsame := hlater (settled_cons_elsewhere.mp (settled_cons_memoryType.mp hsettled)) others
    refine Act.run_bind_congr fun kind hkind => ?_
    rw [hasked.value_eq] at hkind
    injection hkind with hkind
    subst hkind
    refine Act.run_bind_congr fun answer hanswer => ?_
    have hvalue := hquery.value_eq.symm.trans hanswer
    injection hvalue with hvalue
    subst hvalue
    exact Act.run_bind_congr fun _ _ => hsame

theorem searchesFrom_hbm {before : Bool} {device : δ} {rest : List δ} {state : σ}
    (hhbm : (platform.memoryType device state).value = .ok .hbm)
    (hrest : SearchesFrom platform mode commands errorType first addresses true rest
      (platform.command device commands.1 first (platform.memoryType device state).state).state) :
    SearchesFrom platform mode commands errorType first addresses before (device :: rest)
      state := by
  have hasked := holds_memoryType platform device state
  have hquery := holds_command platform device commands.1 first
    (platform.memoryType device state).state
  rw [hhbm] at hasked
  by_cases helsewhere : (platform.command device commands.1 first
      (platform.memoryType device state).state).value = .error (.os Errno.noDevice)
  · exact searchesFrom_elsewhere platform mode commands errorType first addresses hhbm helsewhere
      hrest
  have helse : isElsewhere (platform.command device commands.1 first
      (platform.memoryType device state).state).value = false :=
    Bool.eq_false_iff.mpr fun h => helsewhere (isElsewhere_eq_true_iff.mp h)
  cases hyes : succeeded
      (platform.command device commands.1 first (platform.memoryType device state).state).value with
  | true =>
    obtain ⟨count, hpos, hvalue⟩ := succeeded_eq_true_iff.mp hyes
    obtain ⟨talk, outcome, htaken, hrepair⟩ := holds_repairOn platform mode commands device first
      addresses _ hpos
    refine searchesFrom_taken platform mode commands errorType first addresses hhbm helsewhere
      htaken (hasked.bind ?_)
    rw [← hvalue]
    refine hquery.bind ?_
    rw [if_pos hyes]
    exact hrepair
  | false =>
    refine searchesFrom_taken platform mode commands errorType first addresses hhbm helsewhere
      (.refused hyes helsewhere) (hasked.bind (hquery.bind_silent ?_))
    rw [if_neg (by simp [hyes]), if_neg (by simp [helse])]
    exact .log_bind (.pure _ _)

theorem searchesFrom (before : Bool) (devices : List δ) (state : σ) :
    SearchesFrom platform mode commands errorType first addresses before devices state := by
  induction devices generalizing before state with
  | nil => exact searchesFrom_nil platform mode commands errorType first addresses before state
  | cons device rest ih =>
    by_cases hhbm : (platform.memoryType device state).value = .ok .hbm
    · exact searchesFrom_hbm platform mode commands errorType first addresses hhbm (ih true _)
    · exact searchesFrom_other platform mode commands errorType first addresses hhbm (ih before _)

end Search

end MemoryRepair.Repair
