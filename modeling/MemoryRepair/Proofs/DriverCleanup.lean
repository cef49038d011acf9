import MemoryRepair.Proofs.MonitorSession

/-!
The drivers around a session. They are loaded before it and unloaded after it, each time in
order and up to the first one that fails. If one cannot be loaded the monitor ends with that,
and the drivers before it stay loaded; otherwise the session runs, and however it ends the
unloading comes to every driver that no failure precedes.
-/
namespace MemoryRepair.Monitor

/-- A try to load or to unload the driver of a name. -/
def isAttempt (load : Bool) (name : String) : Entry → Bool
  | .driver other driver _ => other == load && driver == name
  | _ => false

/-- The drivers that come before one. -/
def driversBefore (name : String) : List String :=
  driverNames.takeWhile (· != name)

/-- What is noted of a pass over all drivers. -/
def Drivers.pass (drivers : Drivers) (load : Bool) : List Entry :=
  (drivers.reached load driverNames).map (drivers.attempt load)

theorem exists_answer {α : Type} {value : Except Overflow α} (h : value.toOption.isSome) :
    ∃ answer, value = .ok answer := by
  cases value with
  | error overflow => cases h
  | ok answer => exact ⟨answer, rfl⟩

section Attempts

variable (drivers : Drivers) {load : Bool} {name : String}

theorem isAttempt_log (line : LogLine) : isAttempt load name (.log line) = false := rfl

theorem not_isAttempt {entry : Entry} (h : ¬ entry.IsDriver load) :
    isAttempt load name entry = false := by
  cases entry with
  | driver other driver ran =>
    have hother : other ≠ load := fun hload => h ⟨driver, ran, by rw [hload]⟩
    simp [isAttempt, hother]
  | _ => rfl

theorem filter_isAttempt_eq_nil {entries : List Entry}
    (h : ∀ entry ∈ entries, ¬ entry.IsDriver load) :
    entries.filter (isAttempt load name) = [] := by
  rw [List.filter_eq_nil_iff]
  intro entry hmem
  rw [not_isAttempt (h entry hmem)]
  exact Bool.false_ne_true

/-- Tries to load drivers are none to unload one, and the other way round. -/
theorem filter_otherPass {other : Bool} (hother : other ≠ load) :
    (drivers.pass other).filter (isAttempt load name) = [] := by
  apply filter_isAttempt_eq_nil
  intro entry hmem hdriver
  obtain ⟨driver, ran, rfl⟩ := forall_attempts_isDriver drivers other _ entry hmem
  obtain ⟨_, _, hentry⟩ := hdriver
  cases hentry
  exact hother rfl

theorem reached_isPrefix (names : List String) : drivers.reached load names <+: names := by
  induction names with
  | nil => exact List.prefix_rfl
  | cons head rest ih =>
    rw [Drivers.reached, List.cons_prefix_cons]
    refine ⟨rfl, ?_⟩
    split
    · exact ih
    · exact List.nil_prefix

/-- A pass comes to a driver if all drivers before it succeed. -/
theorem mem_reached_iff {names : List String} : name ∈ drivers.reached load names ↔
    name ∈ names ∧
      ∀ other ∈ names.takeWhile (· != name), (drivers.exit load other).succeeded := by
  induction names with
  | nil => simp [Drivers.reached]
  | cons head rest ih =>
    rw [Drivers.reached, List.mem_cons, List.mem_cons]
    rcases eq_or_ne name head with rfl | hne
    · simp
    · have hbefore : (head :: rest).takeWhile (· != name) = head :: rest.takeWhile (· != name) :=
        List.takeWhile_cons_of_pos (bne_iff_ne.mpr hne.symm)
      rw [hbefore, List.forall_mem_cons]
      cases hexit : (drivers.exit load head).succeeded with
      | false => simp [hne]
      | true => simp [hne, ih]

/-- A pass tries a driver once if it comes to it. -/
theorem filter_attempts {names : List String} (hnodup : names.Nodup) :
    ((drivers.reached load names).map (drivers.attempt load)).filter (isAttempt load name) =
      if name ∈ drivers.reached load names then [drivers.attempt load name] else [] := by
  have hattempt : isAttempt load name ∘ drivers.attempt load = (· == name) := by
    funext other
    simp [Drivers.attempt, isAttempt]
  have hreached : (drivers.reached load names).Nodup :=
    hnodup.sublist (reached_isPrefix drivers names).sublist
  rw [List.filter_map, hattempt, List.filter_beq, hreached.count]
  split <;> rfl

/-- A pass over all drivers tries one of them once if all before it succeed. -/
theorem filter_pass (hname : name ∈ driverNames) :
    (drivers.pass load).filter (isAttempt load name) =
      if ∀ other ∈ driversBefore name, (drivers.exit load other).succeeded then
        [drivers.attempt load name]
      else [] := by
  rw [Drivers.pass, filter_attempts drivers (by decide)]
  exact if_congr ((mem_reached_iff drivers).trans (and_iff_right hname)) rfl rfl

theorem verdict_eq_ok_iff {names : List String} : drivers.verdict load names = .ok () ↔
    ∀ name ∈ names, (drivers.exit load name).succeeded := by
  induction names with
  | nil => simp [Drivers.verdict]
  | cons head rest ih =>
    rw [Drivers.verdict, List.forall_mem_cons]
    cases hexit : (drivers.exit load head).succeeded with
    | false => simp
    | true => simp [ih]

end Attempts

/-- What a computation leaves beside the log tells what it writes. -/
theorem writes_of_leaves {α : Type} {act : Act Machine α} {kind : Entry → Prop}
    (hlog : ∀ line, kind (.log line))
    (h : ∀ machine, act.Leaves machine fun _ _ entries => ∀ entry ∈ entries, kind entry) :
    Act.Writes kind act := by
  intro machine entry hmem
  obtain ⟨value, -, hentries⟩ := h machine
  cases entry with
  | log line => exact hlog line
  | _ => exact hentries _ ((mem_acts rfl).mpr hmem)

/-- Nothing between loading and unloading is a try of a driver. -/
theorem writes_trace (settings : Settings) (around : Surroundings) (load : Bool) :
    Act.Writes (fun entry => ¬ entry.IsDriver load) (trace settings around) := by
  have hlog : ∀ line, ¬ (Entry.log line).IsDriver load := by
    rintro line ⟨name, ran, hentry⟩
    cases hentry
  have hswitch : ∀ enable done, ¬ (Entry.tracepoint enable done).IsDriver load := by
    rintro enable done ⟨name, ran, hentry⟩
    cases hentry
  have hengage : Act.Writes (fun entry => ¬ entry.IsDriver load) (engage settings) := by
    refine writes_of_leaves hlog fun machine => (engage_leaves settings machine).mono ?_
    rintro _ _ _ (⟨inst, -, rfl⟩ | ⟨failure, -, -, hentries⟩) entry hmem
    · exact List.mem_singleton.mp hmem ▸ hswitch true true
    · exact hentries entry hmem ▸ hswitch true false
  have hdisengage : ∀ inst, Act.Writes (fun entry => ¬ entry.IsDriver load) (disengage inst) := by
    refine fun inst => writes_of_leaves hlog fun machine => (disengage_leaves inst machine).mono ?_
    rintro _ _ _ ⟨-, done, rfl, -⟩ entry hmem
    exact List.mem_singleton.mp hmem ▸ hswitch false done
  have hlisten : ∀ inst, Act.Writes (fun entry => ¬ entry.IsDriver load)
      (listen settings around inst) := by
    refine fun inst => (writes_listen settings around inst).mono ?_
    rintro _ hwork ⟨name, ran, rfl⟩
    exact hwork
  rw [trace_eq]
  refine .bind hengage fun engaged => ?_
  split
  · exact .pure _
  · exact .bind (hlisten _) fun _ => .bind (hdisengage _) fun _ => .pure _

/-- What a monitor that returns leaves. If a driver cannot be loaded it answers with that and
has done nothing else; otherwise it has loaded all drivers, answers as the session does, and
has come to unloading them after it. -/
inductive Framed (drivers : Drivers) (session : Ran Machine (Except Failure Unit))
    (machine : Machine) : Except Failure Unit → Machine → List Entry → Prop
  | refused {failure : Failure} (hverdict : drivers.verdict true driverNames = .error failure) :
      Framed drivers session machine (.error failure) machine (drivers.pass true)
  | complete {answer : Except Failure Unit} (hverdict : drivers.verdict true driverNames = .ok ())
      (hanswer : session.value = .ok answer) :
      Framed drivers session machine answer session.state
        (drivers.pass true ++ (acts session.journal ++ drivers.pass false))

theorem run_framed {settings : Settings} {around : Surroundings} {machine : Machine}
    {answer : Except Failure Unit}
    (hreturns : (Act.run (run settings around false) machine).value = .ok answer) :
    Framed around.drivers (Act.run (trace settings around) machine) machine answer
      (Act.run (run settings around false) machine).state
      (acts (Act.run (run settings around false) machine).journal) := by
  obtain ⟨loaded, hloaded, hmachine, hloads, rfl⟩ :=
    handleDrivers_attempts around.drivers true driverNames machine
  rw [run_eq, Act.run_bind_ok hloaded, hmachine] at hreturns ⊢
  rw [acts_append, hloads]
  cases hverdict : around.drivers.verdict true driverNames with
  | error failure =>
    rw [hverdict] at hreturns
    cases hreturns
    simp only [Act.run_pure]
    rw [acts_nil, List.append_nil]
    exact .refused hverdict
  | ok =>
    rw [hverdict] at hreturns
    cases hsession : (Act.run (trace settings around) machine).value with
    | error overflow =>
      -- An overflow of the session ends the run before anything is unloaded.
      rw [Act.run_bind_error hsession] at hreturns
      cases hreturns
    | ok result =>
      obtain ⟨_, hunloaded, hlast, hunloads⟩ :=
        unload_attempts around (Act.run (trace settings around) machine).state
      rw [Act.run_bind_ok hsession, Act.run_bind_ok hunloaded] at hreturns ⊢
      cases hreturns
      simp only [Act.run_pure, acts_append]
      rw [hlast, hunloads, acts_nil, List.append_nil]
      exact .complete hverdict hsession

section Tries

variable {drivers : Drivers} {session : Ran Machine (Except Failure Unit)}
  {machine after : Machine} {answer : Except Failure Unit} {entries : List Entry} {name : String}

theorem Framed.filter_loads (h : Framed drivers session machine answer after entries)
    (hsession : ∀ entry ∈ session.journal, ¬ entry.IsDriver true) (hname : name ∈ driverNames) :
    entries.filter (isAttempt true name) =
      if ∀ other ∈ driversBefore name, (drivers.exit true other).succeeded then
        [drivers.attempt true name]
      else [] := by
  rw [← filter_pass drivers hname]
  cases h with
  | refused hverdict => rfl
  | complete hverdict hanswer =>
    rw [List.filter_append, List.filter_append, filter_acts isAttempt_log,
      filter_isAttempt_eq_nil hsession, filter_otherPass drivers Bool.false_ne_true,
      List.append_nil, List.append_nil]

theorem Framed.filter_unloads (h : Framed drivers session machine answer after entries)
    (hsession : ∀ entry ∈ session.journal, ¬ entry.IsDriver false) (hname : name ∈ driverNames) :
    entries.filter (isAttempt false name) =
      if (∀ other ∈ driverNames, (drivers.exit true other).succeeded) ∧
          ∀ other ∈ driversBefore name, (drivers.exit false other).succeeded then
        [drivers.attempt false name]
      else [] := by
  cases h with
  | refused hverdict =>
    have hrefused : ¬ ∀ other ∈ driverNames, (drivers.exit true other).succeeded := by
      rw [← verdict_eq_ok_iff, hverdict]
      exact fun h => nomatch h
    rw [filter_otherPass drivers Bool.false_ne_true.symm, if_neg fun h => hrefused h.1]
  | complete hverdict hanswer =>
    have hloaded := (verdict_eq_ok_iff drivers).mp hverdict
    rw [List.filter_append, List.filter_append, filter_acts isAttempt_log,
      filter_isAttempt_eq_nil hsession, filter_otherPass drivers Bool.false_ne_true.symm,
      List.nil_append, List.nil_append, filter_pass drivers hname]
    exact if_congr (and_iff_right hloaded).symm rfl rfl

end Tries

/-- A monitor that returns has tried to load each driver before which none failed, once, and
has tried to unload one, once, exactly if all were loaded and none before it failed to be
unloaded, whatever came of the session. -/
theorem run_unloads {settings : Settings} {around : Surroundings} {machine : Machine}
    {answer : Except Failure Unit}
    (hreturns : (Act.run (run settings around false) machine).value = .ok answer) :
    let drivers := around.drivers
    let session := Act.run (trace settings around) machine
    let ran := Act.run (run settings around false) machine
    (∀ name ∈ driverNames, ran.journal.filter (isAttempt true name) =
      if ∀ other ∈ driversBefore name, (drivers.exit true other).succeeded then
        [drivers.attempt true name]
      else []) ∧
    (∀ name ∈ driverNames, ran.journal.filter (isAttempt false name) =
      if (∀ other ∈ driverNames, (drivers.exit true other).succeeded) ∧
          ∀ other ∈ driversBefore name, (drivers.exit false other).succeeded then
        [drivers.attempt false name]
      else []) ∧
    Framed drivers session machine answer ran.state (acts ran.journal) := by
  intro drivers session ran
  have hframed : Framed drivers session machine answer ran.state (acts ran.journal) :=
    run_framed hreturns
  have hsession : ∀ load, ∀ entry ∈ session.journal, ¬ entry.IsDriver load := fun load =>
    writes_trace settings around load machine
  refine ⟨fun name hname => ?_, fun name hname => ?_, hframed⟩
  · rw [← filter_acts isAttempt_log]
    exact hframed.filter_loads (hsession true) hname
  · rw [← filter_acts isAttempt_log]
    exact hframed.filter_unloads (hsession false) hname

/-- Listening fails for want of a header page, and a signal ends the program that unloads the
first driver. The second one is then not unloaded. -/
theorem run_unloads_killed :
    let settings : Settings := { Settings.initial with mounts := "/mounts" }
    let unload (name : String) : Exit :=
      if name = "hisi_mem_ras" then .signal 9 false [] else .status 0 []
    let around : Surroundings := ⟨⟨fun _ => .status 0 [], unload⟩, 1, []⟩
    let ran := Act.run (run settings around false) headless
    ∃ answer, ran.value = .ok answer ∧
      ran.journal.filter (isAttempt true "page_eject") = [.driver true "page_eject" true] ∧
      ran.journal.filter (isAttempt false "hisi_mem_ras") = [.driver false "hisi_mem_ras" true] ∧
      ran.journal.filter (isAttempt false "page_eject") = [] := by
  intro settings unload around ran
  obtain ⟨answer, hvalue⟩ : ∃ answer, ran.value = .ok answer :=
    exists_answer (by decide +kernel)
  obtain ⟨hloads, hunloads, -⟩ := run_unloads hvalue
  refine ⟨answer, hvalue, ?_, ?_, ?_⟩
  · exact hloads "page_eject" (by decide)
  · exact hunloads "hisi_mem_ras" (by decide)
  · exact hunloads "page_eject" (by decide)

/-- Each driver that was loaded has had one try to unload it. -/
def AllUnloaded (drivers : Drivers) (journal : List Entry) : Prop :=
  ∀ name ∈ driverNames, journal.any (isAttempt true name) → (drivers.exit true name).succeeded →
    (journal.filter (isAttempt false name)).length = 1

instance (drivers : Drivers) (journal : List Entry) : Decidable (AllUnloaded drivers journal) :=
  inferInstanceAs (Decidable (∀ _ ∈ driverNames, _ → _ → _))

/-- Neither of two monitors unloads what it has loaded. The first cannot load the second
driver, and the second cannot unload the first driver. -/
theorem loaded_not_unloaded :
    let failing (driver name : String) : Exit :=
      if name = driver then .status 1 [] else .status 0 []
    let loading : Drivers := ⟨failing "page_eject", fun _ => .status 0 []⟩
    let unloading : Drivers := ⟨fun _ => .status 0 [], failing "hisi_mem_ras"⟩
    let settings : Settings := { Settings.initial with mounts := "/mounts" }
    let ran (drivers : Drivers) := Act.run (run settings ⟨drivers, 1, []⟩ false) headless
    ((∃ answer, (ran loading).value = .ok answer) ∧
      ¬ AllUnloaded loading (ran loading).journal) ∧
    (∃ answer, (ran unloading).value = .ok answer) ∧
      ¬ AllUnloaded unloading (ran unloading).journal := by
  intro failing loading unloading settings ran
  refine ⟨⟨exists_answer ?_, ?_⟩, exists_answer ?_, ?_⟩ <;> decide +kernel

end MemoryRepair.Monitor
