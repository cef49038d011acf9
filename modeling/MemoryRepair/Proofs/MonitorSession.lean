import MemoryRepair.Proofs.ListeningEntries

/-!
A session of the monitor. Once the tracepoint is on it is turned off exactly once, after the
last event was handled and before a driver is unloaded, however listening ends; a session
that does not come so far handles nothing and turns nothing off. What the clean-up meets has
no part in the result. A pass over drivers tries each of them up to the first one that fails.
-/
namespace MemoryRepair

variable {σ α β : Type}

/-- A journal without its log lines. -/
def acts (journal : List Entry) : List Entry :=
  journal.filter fun entry => !entry.isLog

theorem acts_nil : acts [] = [] := rfl

theorem acts_append (journal more : List Entry) :
    acts (journal ++ more) = acts journal ++ acts more :=
  List.filter_append _ _

theorem mem_acts {entry : Entry} {journal : List Entry} (h : entry.isLog = false) :
    entry ∈ acts journal ↔ entry ∈ journal := by
  rw [acts, List.mem_filter, h]
  exact and_iff_left rfl

/-- What is no log line is found in a journal with its log lines or without them. -/
theorem filter_acts {keep : Entry → Bool} (hlog : ∀ line, keep (.log line) = false)
    (journal : List Entry) : (acts journal).filter keep = journal.filter keep := by
  rw [acts, List.filter_filter]
  congr 1
  funext entry
  cases entry with
  | log line => rw [hlog, Bool.false_and]
  | _ => exact Bool.and_true _

namespace Act

theorem pure_bind (value : α) (next : α → Act σ β) : Pure.pure value >>= next = next value := rfl

/-- From the state the computation ends without an overflow, with a value, a state and
entries beside the log of which the condition holds. -/
def Leaves (act : Act σ α) (state : σ) (post : α → σ → List Entry → Prop) : Prop :=
  ∃ value, (act.run state).value = .ok value ∧
    post value (act.run state).state (acts (act.run state).journal)

namespace Leaves

variable {act : Act σ α} {state : σ} {post : α → σ → List Entry → Prop}

theorem pure {value : α} (h : post value state []) : Leaves (Pure.pure value) state post :=
  ⟨value, rfl, h⟩

theorem step {f : σ → α × σ} (h : post (f state).1 (f state).2 []) :
    Leaves (Act.step f) state post :=
  ⟨(f state).1, rfl, h⟩

theorem log {line : LogLine} {post : Unit → σ → List Entry → Prop} (h : post () state []) :
    Leaves (Act.write (.log line)) state post :=
  ⟨(), rfl, h⟩

theorem bind {next : α → Act σ β} {mid : α → σ → List Entry → Prop}
    {post : β → σ → List Entry → Prop} (hfirst : Leaves act state mid)
    (hnext : ∀ value after entries, mid value after entries →
      Leaves (next value) after fun result last more => post result last (entries ++ more)) :
    Leaves (act >>= next) state post := by
  obtain ⟨value, hvalue, hmid⟩ := hfirst
  obtain ⟨result, hresult, hpost⟩ := hnext value _ _ hmid
  refine ⟨result, ?_, ?_⟩
  · rw [run_bind_ok hvalue]
    exact hresult
  · rw [run_bind_ok hvalue, acts_append]
    exact hpost

theorem log_bind {line : LogLine} {next : Unit → Act σ β} {post : β → σ → List Entry → Prop}
    (h : Leaves (next ()) state post) : Leaves (Act.write (.log line) >>= next) state post :=
  h

theorem state_bind {next : σ → Act σ β} {post : β → σ → List Entry → Prop}
    (h : Leaves (next state) state post) : Leaves (Act.state >>= next) state post :=
  h

theorem mono {other : α → σ → List Entry → Prop} (h : Leaves act state post)
    (himp : ∀ value after entries, post value after entries → other value after entries) :
    Leaves act state other := by
  obtain ⟨value, hvalue, hpost⟩ := h
  exact ⟨value, hvalue, himp value _ _ hpost⟩

theorem of_run {value : α} (h : (act.run state).value = .ok value) :
    Leaves act state fun result after entries =>
      result = value ∧ after = (act.run state).state ∧ entries = acts (act.run state).journal :=
  ⟨value, h, rfl, rfl, rfl⟩

/-- What is known of the value can be used for what is left. -/
theorem of_value (h : Leaves act state post) :
    Leaves act state fun value after entries =>
      act.run state = ⟨.ok value, after, (act.run state).journal⟩ ∧ post value after entries := by
  obtain ⟨value, hvalue, hpost⟩ := h
  refine ⟨value, hvalue, ?_, hpost⟩
  rw [← hvalue]

end Leaves

end Act

def Entry.IsDriver (load : Bool) (entry : Entry) : Prop :=
  ∃ name ran, entry = .driver load name ran

namespace Trace.Instance

variable (inst : Instance)

/-- The request that turns the tracepoint on or off. -/
def request (enable : Bool) : String :=
  (if enable then "" else "!") ++ (eventGroup ++ ":" ++ eventName) ++ "\n"

/-- A request that is not taken changes nothing. -/
theorem write_leaves (name : String) {value : String} (hvalue : Text.Utf8.encode value ≠ [])
    (machine : Machine) :
    (inst.write name value).Leaves machine fun result after entries =>
      entries = [] ∧ (result ≠ .ok () → after = machine) := by
  refine .state_bind ?_
  split
  · exact .log_bind (.pure ⟨rfl, fun _ => rfl⟩)
  · next place node hopen =>
    refine Act.Leaves.bind (show Act.Leaves _ machine fun taken after entries =>
      entries = [] ∧ ((∃ count, taken = .ok (count + 1)) ∨
        (∃ err, taken = .error err) ∧ after = machine) from .step ⟨rfl, ?_⟩) ?_
    · -- The request is not empty, so that no write which is taken looks like a failure.
      have hlength : (Text.Utf8.encode value).length ≠ 0 := fun h =>
        hvalue (List.eq_nil_of_length_eq_zero h)
      obtain ⟨count, hcount⟩ := Nat.exists_eq_succ_of_ne_zero hlength
      cases node with
      | file content => exact Or.inl ⟨count, congrArg Except.ok hcount⟩
      | pipe content => exact Or.inl ⟨count, congrArg Except.ok hcount⟩
      | _ => exact Or.inr ⟨⟨_, rfl⟩, rfl⟩
    · rintro taken after _ ⟨rfl, ⟨count, rfl⟩ | ⟨⟨err, rfl⟩, rfl⟩⟩
      · exact .pure ⟨rfl, fun h => absurd rfl h⟩
      · exact .pure ⟨rfl, fun _ => rfl⟩

/-- A tracepoint is turned on or off by one write, whose success is kept. -/
theorem toggle_leaves (enable : Bool) (machine : Machine) :
    let written := Act.run (inst.write "set_event" (request enable)) machine
    (inst.toggle eventGroup eventName enable).Leaves machine fun result after entries =>
      after = written.state ∧ ∃ done, entries = [.tracepoint enable done] ∧
        (done = true ↔ result = .ok ()) ∧ (done = true ↔ written.value = .ok (.ok ())) ∧
        (done = false → after = machine) := by
  intro written
  have hrequest : Text.Utf8.encode (request enable) ≠ [] := by
    cases enable <;> decide +kernel
  refine .bind (inst.write_leaves "set_event" hrequest machine).of_value ?_
  rintro result after _ ⟨hrun, rfl, hfailed⟩
  have hwritten : written.value = .ok result ∧ written.state = after :=
    ⟨congrArg Ran.value hrun, congrArg Ran.state hrun⟩
  have hentry : Act.Leaves (Act.write (.tracepoint enable result.toOption.isSome)) after
      fun _ last more => last = after ∧ more = [.tracepoint enable result.toOption.isSome] :=
    ⟨(), rfl, rfl, rfl⟩
  refine .bind hentry ?_
  rintro - _ _ ⟨rfl, rfl⟩
  cases result with
  | error err =>
    refine .log_bind (.pure ⟨hwritten.2.symm, false, rfl, by simp, ?_, fun _ => hfailed (by simp)⟩)
    simp [hwritten.1]
  | ok =>
    refine .log_bind (.pure ⟨hwritten.2.symm, true, rfl, by simp, ?_, by simp⟩)
    simp [hwritten.1]

end Trace.Instance

namespace Monitor

/-- The machine is as before, or has one more directory. -/
def Made (before after : Machine) : Prop :=
  after = before ∨
    ∃ path files, before.files.makeDirectory path = .ok files ∧ after = { before with files }

theorem create_leaves (mounts : String) (machine : Machine) :
    (Trace.Instance.create mounts).Leaves machine fun _ after entries =>
      entries = [] ∧ Made machine after := by
  refine .state_bind ?_
  split
  · exact .log_bind (.pure ⟨rfl, Or.inl rfl⟩)
  · split
    · exact .pure ⟨rfl, Or.inl rfl⟩
    · have hmade : ∀ path, (Trace.Instance.create.makeDirectory path).Leaves machine
          fun _ after entries => entries = [] ∧ Made machine after := by
        refine fun path => .step ⟨rfl, ?_⟩
        cases hmake : machine.files.makeDirectory path with
        | error err => exact Or.inl rfl
        | ok files => exact Or.inr ⟨path, files, hmake, rfl⟩
      refine .bind (hmade _) ?_
      rintro result after _ ⟨rfl, hafter⟩
      split
      · exact .log_bind (.pure ⟨rfl, hafter⟩)
      · split
        · exact .pure ⟨rfl, hafter⟩
        · exact .log_bind (.pure ⟨rfl, hafter⟩)

namespace Exit

/-- The program ran and exited with status zero. -/
def succeeded : Exit → Bool
  | .status 0 _ => true
  | _ => false

/-- The program could be run. -/
def ran : Exit → Bool
  | .cannotRun _ => false
  | _ => true

/-- What comes of a program that has not succeeded. -/
def failure (load : Bool) (name : String) : Exit → Failure
  | .cannotRun err => .io err
  | _ => .io (.other (program load ++ " " ++ name ++ " failed"))

end Exit

namespace Drivers

variable (drivers : Drivers) (load : Bool)

def exit (name : String) : Exit :=
  if load then drivers.load name else drivers.unload name

/-- What is noted of a driver when a pass comes to it. -/
def attempt (name : String) : Entry :=
  .driver load name (drivers.exit load name).ran

/-- The drivers that a pass comes to: all up to the first one that fails. -/
def reached : List String → List String
  | [] => []
  | name :: rest => name :: if (drivers.exit load name).succeeded then reached rest else []

/-- A pass fails as the first driver that fails. -/
def verdict : List String → Except Failure Unit
  | [] => .ok ()
  | name :: rest =>
    if (drivers.exit load name).succeeded then verdict rest
    else .error ((drivers.exit load name).failure load name)

end Drivers

section Passes

variable (drivers : Drivers) (load : Bool)

theorem handleDriver_attempts (name : String) (machine : Machine) :
    (handleDriver drivers load name).Leaves machine fun result after entries =>
      after = machine ∧ entries = [drivers.attempt load name] ∧
        result = drivers.verdict load [name] := by
  -- However the program ends, the try is noted, a line is logged and an answer is given.
  have hended : ∀ (ran : Bool) (line : LogLine) (answer : Except Failure Unit),
      Act.Leaves (do
        Act.write (.driver load name ran)
        Act.write (.log line)
        pure answer) machine fun result after entries =>
          after = machine ∧ entries = [.driver load name ran] ∧ result = answer :=
    fun _ _ answer => ⟨answer, rfl, rfl, rfl, rfl⟩
  unfold handleDriver Drivers.attempt Drivers.verdict Drivers.exit
  generalize (if load then drivers.load name else drivers.unload name) = exit
  cases exit with
  | cannotRun err => exact hended false _ _
  | status code errors =>
    cases code with
    | zero => exact hended true _ _
    | succ code => exact hended true _ _
  | signal number dumped errors => exact hended true _ _

/-- A pass tries each driver that it comes to once and in order, and leaves the machine
alone. -/
theorem handleDrivers_attempts (names : List String) (machine : Machine) :
    (handleDrivers drivers load names).Leaves machine fun result after entries =>
      after = machine ∧ entries = (drivers.reached load names).map (drivers.attempt load) ∧
        result = drivers.verdict load names := by
  induction names with
  | nil => exact .pure ⟨rfl, rfl, rfl⟩
  | cons name rest ih =>
    refine .bind (handleDriver_attempts drivers load name machine) ?_
    rintro _ _ _ ⟨rfl, rfl, rfl⟩
    cases hexit : (drivers.exit load name).succeeded with
    | false =>
      simp only [Drivers.verdict, Drivers.reached, hexit]
      exact .pure ⟨rfl, rfl, rfl⟩
    | true =>
      simp only [Drivers.verdict, Drivers.reached, hexit]
      refine ih.mono ?_
      rintro _ _ _ ⟨rfl, rfl, rfl⟩
      exact ⟨rfl, rfl, rfl⟩

theorem forall_attempts_isDriver (names : List String) :
    ∀ entry ∈ names.map (drivers.attempt load), entry.IsDriver load :=
  List.forall_mem_map.mpr fun name _ => ⟨name, _, rfl⟩

theorem handleDrivers_leaves (names : List String) (machine : Machine) :
    (handleDrivers drivers load names).Leaves machine fun _ after entries =>
      after = machine ∧ ∀ entry ∈ entries, entry.IsDriver load := by
  refine (handleDrivers_attempts drivers load names machine).mono ?_
  rintro _ _ _ ⟨rfl, rfl, -⟩
  exact ⟨rfl, forall_attempts_isDriver drivers load _⟩

end Passes

/-- Make the instance and turn the tracepoint on. -/
def engage (settings : Settings) : Act Machine (Except Failure Trace.Instance) := do
  match ← Trace.Instance.create settings.mounts with
  | .error failure => pure (.error failure)
  | .ok inst =>
    match ← inst.toggle Trace.eventGroup Trace.eventName true with
    | .error failure =>
      Act.warn ("Unable to enable " ++ Trace.eventGroup ++ ":" ++ Trace.eventName)
      pure (.error failure)
    | .ok () => pure (.ok inst)

/-- Turn the tracepoint off; a failure is only logged. -/
def disengage (inst : Trace.Instance) : Act Machine Unit := do
  match ← inst.toggle Trace.eventGroup Trace.eventName false with
  | .ok () => pure ()
  | .error _ => Act.warn ("Unable to disable " ++ Trace.eventGroup ++ ":" ++ Trace.eventName)

/-- All that comes before listening. -/
def start (settings : Settings) (around : Surroundings) (skipDrivers : Bool) :
    Act Machine (Except Failure Trace.Instance) :=
  if skipDrivers then engage settings
  else do
    match ← handleDrivers around.drivers true driverNames with
    | .error failure => pure (.error failure)
    | .ok () => engage settings

/-- Unload the drivers; a failure is only logged. -/
def unload (around : Surroundings) : Act Machine Unit := do
  match ← handleDrivers around.drivers false driverNames with
  | .ok () => pure ()
  | .error failure => Act.warn ("Unable to unload the drivers: " ++ failure.message)

theorem trace_eq (settings : Settings) (around : Surroundings) :
    trace settings around = (do
      match ← engage settings with
      | .error failure => pure (.error failure)
      | .ok inst =>
        let answer ← listen settings around inst
        disengage inst
        pure answer) := by
  unfold trace engage disengage
  rw [Act.bind_assoc]
  congr 1
  funext created
  cases created with
  | error failure => rfl
  | ok inst =>
    dsimp only
    rw [Act.bind_assoc]
    congr 1
    funext enabled
    cases enabled with
    | error failure => rfl
    | ok =>
      rw [Act.pure_bind]
      dsimp only
      congr 1
      funext answer
      rw [Act.bind_assoc]
      congr 1
      funext disabled
      cases disabled <;> rfl

theorem engage_leaves (settings : Settings) (machine : Machine) :
    (engage settings).Leaves machine fun result after entries =>
      (∃ inst, result = .ok inst ∧ entries = [.tracepoint true true]) ∨
      ∃ failure, result = .error failure ∧ Made machine after ∧
        ∀ entry ∈ entries, entry = .tracepoint true false := by
  refine .bind (create_leaves settings.mounts machine) ?_
  rintro created after _ ⟨rfl, hmade⟩
  cases created with
  | error failure => exact .pure (Or.inr ⟨failure, rfl, hmade, by simp⟩)
  | ok inst =>
    refine .bind (inst.toggle_leaves true after) ?_
    rintro enabled last _ ⟨-, done, rfl, hdone, -, hfailed⟩
    cases enabled with
    | error failure =>
      obtain rfl : done = false := by simpa using hdone
      obtain rfl := hfailed rfl
      exact .log_bind (.pure (Or.inr ⟨failure, rfl, hmade, by simp⟩))
    | ok =>
      obtain rfl : done = true := hdone.mpr rfl
      exact .pure (Or.inl ⟨inst, rfl, by simp⟩)

theorem disengage_leaves (inst : Trace.Instance) (machine : Machine) :
    let written := Act.run (inst.write "set_event" (Trace.Instance.request false)) machine
    (disengage inst).Leaves machine fun _ after entries =>
      after = written.state ∧ ∃ done, entries = [.tracepoint false done] ∧
        (done = true ↔ written.value = .ok (.ok ())) := by
  intro written
  refine .bind (inst.toggle_leaves false machine) ?_
  rintro disabled after _ ⟨hafter, done, rfl, -, hdone, -⟩
  cases disabled with
  | error failure => exact .log ⟨hafter, done, by simp, hdone⟩
  | ok => exact .pure ⟨hafter, done, by simp, hdone⟩

theorem unload_attempts (around : Surroundings) (machine : Machine) :
    let drivers := around.drivers
    (unload around).Leaves machine fun _ after entries =>
      after = machine ∧
        entries = (drivers.reached false driverNames).map (drivers.attempt false) := by
  refine .bind (handleDrivers_attempts around.drivers false driverNames machine) ?_
  rintro unloaded _ _ ⟨rfl, rfl, -⟩
  cases unloaded with
  | error failure => exact .log ⟨rfl, List.append_nil _⟩
  | ok => exact .pure ⟨rfl, List.append_nil _⟩

theorem unload_leaves (around : Surroundings) (machine : Machine) :
    (unload around).Leaves machine fun _ after entries =>
      after = machine ∧ ∀ entry ∈ entries, entry.IsDriver false := by
  refine (unload_attempts around machine).mono ?_
  rintro _ _ _ ⟨rfl, rfl⟩
  exact ⟨rfl, forall_attempts_isDriver _ _ _⟩

theorem run_eq (settings : Settings) (around : Surroundings) :
    run settings around false = (do
      match ← handleDrivers around.drivers true driverNames with
      | .error failure => pure (.error failure)
      | .ok () =>
        let answer ← trace settings around
        unload around
        pure answer) := by
  unfold run unload
  rw [if_neg Bool.false_ne_true]
  congr 1
  funext loaded
  cases loaded with
  | error failure => rfl
  | ok =>
    dsimp only
    congr 1
    funext answer
    rw [Act.bind_assoc]
    congr 1
    funext unloaded
    cases unloaded <;> rfl

/-- A session that did not come to listening. It has made no more than the directory of the
instance, and no more is noted than drivers and a failed try to turn the tracepoint on. -/
structure Unstarted (machine after : Machine) (entries : List Entry) : Prop where
  made : Made machine after
  entries : ∀ entry ∈ entries,
    entry = .tracepoint true false ∨ ∃ load, entry.IsDriver load

/-- A session that came to listening. The tracepoint is turned on before it and off after it,
and drivers are loaded before that and unloaded after that. The last change to the machine is
the write that turns the tracepoint off. -/
structure Bracketed {α : Type} (inst : Trace.Instance) (listened : Ran Machine α) (after : Machine)
    (entries : List Entry) (done : Bool) : Prop where
  order : ∃ loads unloads, entries = loads ++ .tracepoint true true ::
      (acts listened.journal ++ .tracepoint false done :: unloads) ∧
    (∀ entry ∈ loads, entry.IsDriver true) ∧ ∀ entry ∈ unloads, entry.IsDriver false
  work : ∀ entry ∈ listened.journal, entry.IsWork
  disabled :
    let written := Act.run (inst.write "set_event" (Trace.Instance.request false)) listened.state
    after = written.state ∧ (done = true ↔ written.value = .ok (.ok ()))

/-- What a session leaves, by what came of its start. -/
inductive Session (settings : Settings) (around : Surroundings) (machine : Machine)
    (start : Except Overflow (Except Failure Trace.Instance)) (begun : Machine) :
    Except Failure Unit → Machine → List Entry → Prop
  | unstarted {failure : Failure} {after : Machine} {entries : List Entry}
      (hstart : start = .ok (.error failure)) (h : Unstarted machine after entries) :
      Session settings around machine start begun (.error failure) after entries
  | bracketed {inst : Trace.Instance} {answer : Except Failure Unit} {after : Machine}
      {entries : List Entry} {done : Bool} (hstart : start = .ok (.ok inst))
      (hanswer : (Act.run (listen settings around inst) begun).value = .ok answer)
      (h : Bracketed inst (Act.run (listen settings around inst) begun) after entries done) :
      Session settings around machine start begun answer after entries

section Session

variable {settings : Settings} {around : Surroundings} {machine : Machine}

/-- Loading drivers before a session and unloading them after it. -/
theorem Session.surround {start : Except Overflow (Except Failure Trace.Instance)}
    {begun after : Machine} {answer : Except Failure Unit} {loads entries unloads : List Entry}
    (h : Session settings around machine start begun answer after entries)
    (hloads : ∀ entry ∈ loads, entry.IsDriver true)
    (hunloads : ∀ entry ∈ unloads, entry.IsDriver false) :
    Session settings around machine start begun answer after (loads ++ (entries ++ unloads)) := by
  cases h with
  | unstarted hstart h =>
    refine .unstarted hstart ⟨h.made, ?_⟩
    simp only [List.mem_append]
    rintro entry (hload | hentry | hunload)
    · exact Or.inr ⟨true, hloads entry hload⟩
    · exact h.entries entry hentry
    · exact Or.inr ⟨false, hunloads entry hunload⟩
  | bracketed hstart hanswer h =>
    -- The new drivers go to the outside, so that what stands between the switches is the same.
    obtain ⟨earlier, later, hentries, hearlier, hlater⟩ := h.order
    refine .bracketed hstart hanswer ⟨⟨loads ++ earlier, later ++ unloads, ?_, ?_, ?_⟩, h.work,
      h.disabled⟩
    · rw [hentries]
      simp only [List.append_assoc, List.cons_append]
    · exact List.forall_mem_append.mpr ⟨hloads, hearlier⟩
    · exact List.forall_mem_append.mpr ⟨hlater, hunloads⟩

/-- Listening ends without an overflow, if the start comes to it. -/
def Listens (settings : Settings) (around : Surroundings)
    (started : Ran Machine (Except Failure Trace.Instance)) : Prop :=
  ∀ inst, started.value = .ok (.ok inst) →
    ∃ answer, (Act.run (listen settings around inst) started.state).value = .ok answer

theorem trace_leaves (hlistens : Listens settings around (Act.run (engage settings) machine)) :
    (trace settings around).Leaves machine (Session settings around machine
      (Act.run (engage settings) machine).value (Act.run (engage settings) machine).state) := by
  rw [trace_eq]
  refine .bind (engage_leaves settings machine).of_value ?_
  rintro engaged after entries ⟨hrun, hengaged⟩
  have hvalue : (Act.run (engage settings) machine).value = .ok engaged := congrArg Ran.value hrun
  have hstate : (Act.run (engage settings) machine).state = after := congrArg Ran.state hrun
  obtain ⟨inst, rfl, rfl⟩ | ⟨failure, rfl, hmade, hentries⟩ := hengaged
  · -- Listening alone could overflow; every step around it ends by itself.
    obtain ⟨answer, hanswer⟩ := hlistens inst hvalue
    rw [hstate] at hanswer ⊢
    refine .bind (.of_run hanswer) ?_
    rintro _ _ _ ⟨rfl, rfl, rfl⟩
    refine .bind (disengage_leaves inst _) ?_
    rintro - last _ ⟨hlast, done, rfl, hdone⟩
    refine .pure (.bracketed hvalue hanswer ⟨⟨[], [], ?_, by simp, by simp⟩,
      writes_listen settings around inst after, hlast, hdone⟩)
    simp
  · refine .pure (.unstarted hvalue ⟨hmade, fun entry hmem => Or.inl ?_⟩)
    exact hentries entry (by simpa using hmem)

theorem run_leaves (settings : Settings) (around : Surroundings) (skipDrivers : Bool)
    (machine : Machine)
    (hlistens : Listens settings around (Act.run (start settings around skipDrivers) machine)) :
    (run settings around skipDrivers).Leaves machine (Session settings around machine
      (Act.run (start settings around skipDrivers) machine).value
      (Act.run (start settings around skipDrivers) machine).state) := by
  cases skipDrivers with
  | true => exact trace_leaves hlistens
  | false =>
    rw [run_eq]
    refine .bind (handleDrivers_leaves around.drivers true driverNames machine).of_value ?_
    rintro loaded after loads ⟨hrun, rfl, hloads⟩
    have hstart : start settings around false = (handleDrivers around.drivers true driverNames >>=
        fun loaded => match loaded with
          | .error failure => pure (.error failure)
          | .ok () => engage settings) := if_neg Bool.false_ne_true
    -- Loading leaves the machine alone, so that the rest starts from the machine itself.
    rw [hstart, Act.run_bind_ok (congrArg Ran.value hrun), congrArg Ran.state hrun] at hlistens ⊢
    cases loaded with
    | error failure =>
      refine .pure (.unstarted rfl ⟨Or.inl rfl, fun entry hmem => Or.inr ⟨true, ?_⟩⟩)
      exact hloads entry (by simpa using hmem)
    | ok =>
      refine .bind (trace_leaves hlistens) ?_
      rintro answer last entries hsession
      refine .bind (unload_leaves around last) ?_
      rintro - _ unloads ⟨rfl, hunloads⟩
      refine .pure ?_
      rw [List.append_nil]
      exact hsession.surround hloads hunloads

end Session

/-- The tracepoint is turned off, or a try to do so fails. -/
def isDisabling : Entry → Bool
  | .tracepoint false _ => true
  | _ => false

theorem isDisabling_log (line : LogLine) : isDisabling (.log line) = false := rfl

theorem filter_isDisabling_eq_nil {entries : List Entry}
    (h : ∀ entry ∈ entries, entry.IsWork ∨ entry = .tracepoint true false ∨
      ∃ load, entry.IsDriver load) : entries.filter isDisabling = [] := by
  rw [List.filter_eq_nil_iff]
  intro entry hmem
  rcases h entry hmem with hwork | rfl | ⟨load, name, ran, rfl⟩
  · cases entry <;> simp_all [isDisabling, Entry.IsWork]
  · exact Bool.false_ne_true
  · exact Bool.false_ne_true

theorem Unstarted.filter_isDisabling {machine after : Machine} {journal : List Entry}
    (h : Unstarted machine after (acts journal)) : journal.filter isDisabling = [] := by
  rw [← filter_acts isDisabling_log]
  exact filter_isDisabling_eq_nil fun entry hmem => Or.inr (h.entries entry hmem)

/-- There is one try to turn the tracepoint off. -/
theorem Bracketed.filter_isDisabling {α : Type} {inst : Trace.Instance} {listened : Ran Machine α}
    {after : Machine} {journal : List Entry} {done : Bool}
    (h : Bracketed inst listened after (acts journal) done) :
    journal.filter isDisabling = [.tracepoint false done] := by
  obtain ⟨loads, unloads, hentries, hloads, hunloads⟩ := h.order
  have hbefore : loads.filter isDisabling = [] := filter_isDisabling_eq_nil fun entry hmem =>
    Or.inr (Or.inr ⟨true, hloads entry hmem⟩)
  have hwork : listened.journal.filter isDisabling = [] := filter_isDisabling_eq_nil
    fun entry hmem => Or.inl (h.work entry hmem)
  have hafter : unloads.filter isDisabling = [] := filter_isDisabling_eq_nil fun entry hmem =>
    Or.inr (Or.inr ⟨false, hunloads entry hmem⟩)
  rw [← filter_acts isDisabling_log, hentries, List.filter_append, hbefore,
    List.filter_cons_of_neg (by decide), List.filter_append, filter_acts isDisabling_log, hwork,
    List.filter_cons_of_pos rfl, hafter]
  rfl

/-- Where listening ends without an overflow, the monitor ends with its answer or with the
failure of the start. If the tracepoint was turned on, one write to turn it off is tried,
after listening and before drivers are unloaded; if not, there is no such write, and nothing
was handled. -/
theorem run_brackets (settings : Settings) (around : Surroundings) (skipDrivers : Bool)
    (machine : Machine)
    (hlistens : Listens settings around (Act.run (start settings around skipDrivers) machine)) :
    let started := Act.run (start settings around skipDrivers) machine
    let ran := Act.run (run settings around skipDrivers) machine
    ∃ answer, ran.value = .ok answer ∧
      ((∃ failure, started.value = .ok (.error failure) ∧ answer = .error failure ∧
          .tracepoint true true ∉ ran.journal ∧ ran.journal.filter isDisabling = [] ∧
          Unstarted machine ran.state (acts ran.journal)) ∨
        ∃ inst done, started.value = .ok (.ok inst) ∧
          (Act.run (listen settings around inst) started.state).value = .ok answer ∧
          .tracepoint true true ∈ ran.journal ∧
          ran.journal.filter isDisabling = [.tracepoint false done] ∧
          Bracketed inst (Act.run (listen settings around inst) started.state) ran.state
            (acts ran.journal) done) := by
  intro started ran
  obtain ⟨answer, hvalue, hsession⟩ := run_leaves settings around skipDrivers machine hlistens
  refine ⟨answer, hvalue, ?_⟩
  have henabled : .tracepoint true true ∈ ran.journal ↔
      .tracepoint true true ∈ acts ran.journal := (mem_acts rfl).symm
  rw [henabled]
  generalize hentries : acts ran.journal = entries
  rw [show acts (Act.run (run settings around skipDrivers) machine).journal = entries from hentries]
    at hsession
  cases hsession with
  | unstarted hstart h =>
    refine Or.inl ⟨_, hstart, rfl, fun hmem => ?_, (hentries ▸ h).filter_isDisabling, h⟩
    rcases h.entries _ hmem with hentry | ⟨load, name, ran, hentry⟩ <;> cases hentry
  | bracketed hstart hanswer h =>
    refine Or.inr ⟨_, _, hstart, hanswer, ?_, (hentries ▸ h).filter_isDisabling, h⟩
    obtain ⟨loads, unloads, horder, -⟩ := h.order
    rw [horder]
    exact List.mem_append_right _ List.mem_cons_self

/-- A machine whose trace instance has a switch for tracepoints but no header page. -/
def headless : Machine :=
  { files := ⟨[(["mounts"], .file "debugfs /d debugfs".toUTF8.toList), (["d"], .directory),
      (["d", "tracing"], .directory), (["d", "tracing", "instances"], .directory),
      (["d", "tracing", "instances", "hbm_online_repair"], .directory),
      (["d", "tracing", "instances", "hbm_online_repair", "set_event"], .file [])]⟩ }

/-- Listening fails for want of a header page and the drivers cannot be unloaded. The
tracepoint is turned off all the same. -/
theorem run_brackets_headless :
    let settings : Settings := { Settings.initial with mounts := "/mounts" }
    let around : Surroundings := ⟨⟨fun _ => .status 0 [], fun _ => .cannotRun (.os 2)⟩, 1, []⟩
    let started := Act.run (start settings around false) headless
    let ran := Act.run (run settings around false) headless
    Listens settings around started ∧ .tracepoint true true ∈ ran.journal ∧
      ∃ inst done, ran.journal.filter isDisabling = [.tracepoint false done] ∧
        Bracketed inst (Act.run (listen settings around inst) started.state) ran.state
          (acts ran.journal) done := by
  intro settings around started ran
  have hstarted : (started.value.toOption.bind Except.toOption) =
      some ⟨"/d/tracing/instances/hbm_online_repair"⟩ := by decide +kernel
  have hlistens : Listens settings around started := by
    intro inst hinst
    rw [hinst] at hstarted
    cases hstarted
    have hended : (Act.run (listen settings around
        ⟨"/d/tracing/instances/hbm_online_repair"⟩) started.state).value.toOption.isSome := by
      decide +kernel
    cases hvalue : (Act.run (listen settings around
        ⟨"/d/tracing/instances/hbm_online_repair"⟩) started.state).value with
    | error overflow =>
      rw [hvalue] at hended
      cases hended
    | ok answer => exact ⟨answer, rfl⟩
  obtain ⟨answer, -, ⟨failure, hfailed, -⟩ | ⟨inst, done, -, -, henabled, hdisabled, h⟩⟩ :=
    run_brackets settings around false headless hlistens
  · rw [show started.value = _ from hfailed] at hstarted
    cases hstarted
  · exact ⟨hlistens, henabled, inst, done, hdisabled, h⟩

end Monitor

end MemoryRepair
