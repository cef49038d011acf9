import MemoryRepair.Machine
import MemoryRepair.Proofs.LedgerRecord
import MemoryRepair.Proofs.StoreOperations

/-!
The files of a machine keep the variables faithfully. A file that is put where no
directory stands leads no path astray, so that the variables stay where they are, and
each slot has a name of its own.
-/
namespace MemoryRepair

namespace FileTree

theorem lookup_eq_find (tree : FileTree) {place : Place} (hplace : place ≠ []) :
    tree.lookup place = (tree.nodes.find? (·.1 == place)).map (·.2) :=
  if_neg hplace

theorem lookup_set_self (tree : FileTree) {place : Place} (hplace : place ≠ []) (node : Node) :
    (tree.set place node).lookup place = some node := by
  rw [lookup_eq_find _ hplace]
  obtain ⟨nodes⟩ := tree
  by_cases hany : nodes.any (·.1 == place)
  · simp only [set, if_pos hany]
    induction nodes with
    | nil => simp at hany
    | cons entry rest ih =>
      obtain ⟨p, n⟩ := entry
      by_cases hp : p = place
      · simp [hp]
      · have hrest : rest.any (·.1 == place) := by simpa [hp] using hany
        simpa [hp] using ih hrest
  · have hnone : nodes.find? (·.1 == place) = none :=
      List.find?_eq_none.mpr fun entry hmem heq => hany (List.any_eq_true.mpr ⟨entry, hmem, heq⟩)
    simp [set, if_neg hany, List.find?_append, hnone]

theorem lookup_set_of_ne (tree : FileTree) {place other : Place} (hne : other ≠ place)
    (node : Node) : (tree.set place node).lookup other = tree.lookup other := by
  by_cases hroot : other = []
  · rw [hroot]
    rfl
  rw [lookup_eq_find _ hroot, lookup_eq_find _ hroot]
  obtain ⟨nodes⟩ := tree
  have hplace : (place == other) = false := beq_eq_false_iff_ne.mpr hne.symm
  by_cases hany : nodes.any (·.1 == place)
  · simp only [set, if_pos hany]
    clear hany
    induction nodes with
    | nil => rfl
    | cons entry rest ih =>
      obtain ⟨p, n⟩ := entry
      by_cases hp : p = place
      · subst hp
        simpa [hplace] using ih
      · by_cases hother : p = other
        · simp [hother, hne]
        · simpa [hp, hother] using ih
  · simp only [set, if_neg hany, List.find?_append, List.find?_singleton]
    simp [hplace]

/-- A path that leads somewhere still leads there after a node is put where no directory
stood, since only directories lie on the way. -/
theorem walk_set {tree : FileTree} {place : Place} (hplace : tree.lookup place ≠ some .directory)
    (node : Node) {here last : Place} {parts : List String}
    (h : tree.walk here parts = .ok last) : (tree.set place node).walk here parts = .ok last := by
  induction parts generalizing here with
  | nil => exact h
  | cons part rest ih =>
    rw [walk] at h ⊢
    have hdirectory : tree.lookup here = some .directory := by
      cases hhere : tree.lookup here with
      | none => simp [hhere] at h
      | some found => cases found <;> simp_all
    have hne : here ≠ place := fun heq => hplace (heq ▸ hdirectory)
    rw [lookup_set_of_ne tree hne node]
    simp only [hdirectory] at h ⊢
    split
    · next hsame => exact ih (by rwa [if_pos hsame] at h)
    · next hsame =>
      rw [if_neg hsame] at h
      split
      · next hup => exact ih (by rwa [if_pos hup] at h)
      · next hup =>
        rw [if_neg hup] at h
        split
        · next hlong => rw [if_pos hlong] at h; cases h
        · next hlong => exact ih (by rwa [if_neg hlong] at h)

theorem resolve_set {tree : FileTree} {place : Place}
    (hplace : tree.lookup place ≠ some .directory) (node : Node) {path : String} {last : Place}
    (h : tree.resolve path = .ok last) : (tree.set place node).resolve path = .ok last := by
  unfold resolve at h ⊢
  split
  · next hnul => rw [if_pos hnul] at h; cases h
  · next hnul =>
    rw [if_neg hnul] at h
    split
    · next hlong => rw [if_pos hlong] at h; cases h
    · next hlong =>
      rw [if_neg hlong] at h
      split
      · next hparts => rw [hparts] at h; exact walk_set hplace node h
      · next hparts => simp_all

end FileTree

namespace Machine

theorem fileName_injective {slot other : Slot} (h : slot.fileName = other.fileName) :
    slot = other := by
  revert slot other
  decide

theorem variablePlace_set {files : FileTree} {place : Place}
    (hplace : files.lookup place ≠ some .directory) (node : Node) {directory : String}
    {last : Place} (h : variablePlace files directory = .ok last) :
    variablePlace (files.set place node) directory = .ok last := by
  unfold variablePlace at h ⊢
  cases hresolved : files.resolve (Path.join directory (Slot.fileName 0)) with
  | error err =>
    rw [hresolved] at h
    cases h
  | ok found =>
    rw [hresolved] at h
    rw [FileTree.resolve_set hplace node hresolved]
    exact h

/-- A file put at a slot where no directory stands is all that changes. -/
theorem variableDirectory_setVariable (machine : Machine) (directory : String) (slot : Slot)
    (bytes : Bytes)
    (hslot : ∀ v, (variableDirectory machine.files directory).get slot = some v →
      ∃ content, v = .file content) :
    variableDirectory (machine.setVariable directory slot (.file bytes)).files directory =
      (variableDirectory machine.files directory).put slot (some (.file bytes)) := by
  unfold setVariable
  cases hplace : variablePlace machine.files directory with
  | error err =>
    simp only [variableDirectory, hplace]
    rfl
  | ok place =>
    have hnot : machine.files.lookup (place ++ [slot.fileName]) ≠ some .directory := by
      intro hdirectory
      obtain ⟨content, hcontent⟩ := hslot .directory (by
        simp only [variableDirectory, hplace, VariableDirectory.get, hdirectory]
        rfl)
      cases hcontent
    simp only [variableDirectory, hplace, variablePlace_set hnot (.file bytes) hplace,
      VariableDirectory.put]
    congr 1
    funext k
    by_cases hk : k = slot
    · rw [if_pos hk, hk, FileTree.lookup_set_self _ (by simp)]
      rfl
    · have hne : place ++ [k.fileName] ≠ place ++ [slot.fileName] := fun heq =>
        hk (fileName_injective (by simpa using heq))
      rw [if_neg hk, FileTree.lookup_set_of_ne _ hne]

theorem isImmutable_keeps (directory : String) (slot : Slot) (machine : Machine) :
    (isImmutable directory slot machine).2.files = machine.files ∧
      (isImmutable directory slot machine).2.script = machine.script := by
  unfold isImmutable
  split
  · exact ⟨rfl, rfl⟩
  · split
    · exact ⟨rfl, rfl⟩
    · split <;> exact ⟨rfl, rfl⟩

theorem changeAttribute_keeps (directory : String) (slot : Slot) (immutable : Bool)
    (machine : Machine) :
    (changeAttribute directory slot immutable machine).2.files = machine.files ∧
      (changeAttribute directory slot immutable machine).2.script = machine.script := by
  unfold changeAttribute
  split
  · split <;> exact ⟨rfl, rfl⟩
  · exact ⟨rfl, rfl⟩

theorem setImmutable_keeps (directory : String) (slot : Slot) (immutable : Bool)
    {machine : Machine} (hquiet : machine.script.sabotage = false) :
    (setImmutable directory slot immutable machine).2.files = machine.files ∧
      (setImmutable directory slot immutable machine).2.script = machine.script := by
  have hkeeps := changeAttribute_keeps directory slot immutable machine
  unfold setImmutable
  split
  · exact ⟨rfl, rfl⟩
  · split
    · next after hafter =>
      rw [if_neg (by simp [hquiet])]
      rwa [hafter] at hkeeps
    · exact hkeeps

theorem eq_file_of_variableOf {node : Node} {content : Bytes}
    (h : variableOf node = .file content) : node = .file content := by
  cases node <;> cases h
  rfl

theorem variablePlace_of_present {files : FileTree} {directory : String}
    {slots : Slot → Option Variable} (h : variableDirectory files directory = .present slots) :
    ∃ place, variablePlace files directory = .ok place ∧
      ∀ slot, slots slot = (files.lookup (place ++ [slot.fileName])).map variableOf := by
  unfold variableDirectory at h
  cases hplace : variablePlace files directory with
  | error err =>
    rw [hplace] at h
    cases h
  | ok place =>
    rw [hplace] at h
    cases h
    exact ⟨place, rfl, fun slot => rfl⟩

/-- A slot that shows a file is one of the files of the machine. -/
theorem lookup_of_get_file {files : FileTree} {directory : String} {slot : Slot} {content : Bytes}
    (h : (variableDirectory files directory).get slot = some (.file content)) :
    ∃ place, variablePlace files directory = .ok place ∧
      files.lookup (place ++ [slot.fileName]) = some (.file content) := by
  obtain ⟨slots, hdirectory⟩ := VariableDirectory.Reached.of_get h
  obtain ⟨place, hplace, hslots⟩ := variablePlace_of_present hdirectory
  rw [hdirectory, VariableDirectory.get, hslots, Option.map_eq_some_iff] at h
  obtain ⟨node, hnode, hfile⟩ := h
  exact ⟨place, hplace, eq_file_of_variableOf hfile ▸ hnode⟩

/-- What a machine answers when a slot is opened where a file or nothing stands. -/
theorem opened_openVariable (machine : Machine) (directory : String) (slot : Slot) (create : Bool)
    (hslot : ∀ v, (variableDirectory machine.files directory).get slot = some v →
      ∃ content, v = .file content) :
    (variableDirectory machine.files directory).Opened slot
      (openVariable directory slot create machine).1
      (variableDirectory (openVariable directory slot create machine).2.files directory) := by
  have hmade := variableDirectory_setVariable machine directory slot [] hslot
  unfold openVariable
  cases hdirectory : variableDirectory machine.files directory with
  | unreachable err =>
    cases hplace : variablePlace machine.files directory with
    | ok place => simp [variableDirectory, hplace] at hdirectory
    | error cause =>
      obtain rfl : cause = err := by simpa [variableDirectory, hplace] using hdirectory
      simp only [hdirectory]
      exact .unreachable cause
  | present slots =>
    obtain ⟨place, hplace, hslots⟩ := variablePlace_of_present hdirectory
    rw [hdirectory] at hslot hmade
    simp only [hplace]
    cases hnode : machine.files.lookup (place ++ [slot.fileName]) with
    | none =>
      have hnone : slots slot = none := by rw [hslots, hnode, Option.map_none]
      cases create with
      | false => simpa [hdirectory] using .refused slots (.os Errno.noEntry)
      | true => simpa [hmade] using .made hnone
    | some node =>
      have hsome : slots slot = some (variableOf node) := by rw [hslots, hnode, Option.map_some]
      obtain ⟨content, hcontent⟩ := hslot _ hsome
      obtain rfl := eq_file_of_variableOf hcontent
      simpa [hdirectory] using .found hsome

/-- A machine takes all bytes of a write to a file. -/
theorem writeVariable_of_file (machine : Machine) (directory : String) (slot : Slot)
    (bytes : Bytes) {content : Bytes}
    (hget : (variableDirectory machine.files directory).get slot = some (.file content)) :
    writeVariable directory slot bytes machine =
      (.ok bytes.length, machine.setVariable directory slot (.file (content ++ bytes))) := by
  obtain ⟨place, hplace, hnode⟩ := lookup_of_get_file hget
  simp only [writeVariable, setVariable, hplace, hnode]
  rfl

theorem openVariable_keeps (machine : Machine) (directory : String) (slot : Slot)
    (create : Bool) :
    (openVariable directory slot create machine).2.script = machine.script ∧
      (openVariable directory slot create machine).2.attributes = machine.attributes := by
  unfold openVariable setVariable
  repeat' split
  all_goals exact ⟨rfl, rfl⟩

theorem writeVariable_keeps (machine : Machine) (directory : String) (slot : Slot)
    (bytes : Bytes) :
    (writeVariable directory slot bytes machine).2.script = machine.script ∧
      (writeVariable directory slot bytes machine).2.attributes = machine.attributes := by
  unfold writeVariable
  repeat' split
  all_goals exact ⟨rfl, rfl⟩

/-- Without sabotage the variables of a machine change by the ledger's writes alone. -/
theorem faithful_variableStore (directory : String) :
    (variableStore directory).Faithful fun machine => machine.script.sabotage = false where
  open_directory machine slot create _ hslot :=
    opened_openVariable machine directory slot create hslot
  open_quiet machine slot create hquiet := by
    change (openVariable directory slot create machine).2.script.sabotage = false
    rw [(openVariable_keeps machine directory slot create).1, hquiet]
  write_directory machine slot bytes content _ hget := by
    have hput := variableDirectory_setVariable machine directory slot (content ++ bytes)
      fun v hv => ⟨content, Option.some.inj (hv.symm.trans hget)⟩
    change (variableDirectory machine.files directory).Written slot bytes
      (writeVariable directory slot bytes machine).1
      (variableDirectory (writeVariable directory slot bytes machine).2.files directory)
    have htaken := VariableDirectory.Written.taken hget (Nat.le_refl bytes.length)
    rw [List.take_length] at htaken
    rw [writeVariable_of_file machine directory slot bytes hget, hput]
    exact htaken
  write_quiet machine slot bytes hquiet := by
    change (writeVariable directory slot bytes machine).2.script.sabotage = false
    rw [(writeVariable_keeps machine directory slot bytes).1, hquiet]
  isImmutable_directory machine slot _ :=
    congrArg (variableDirectory · directory) (isImmutable_keeps directory slot machine).1
  isImmutable_quiet machine slot hquiet := by
    change (isImmutable directory slot machine).2.script.sabotage = false
    rw [(isImmutable_keeps directory slot machine).2, hquiet]
  setImmutable_directory machine slot immutable hquiet :=
    congrArg (variableDirectory · directory) (setImmutable_keeps directory slot immutable hquiet).1
  setImmutable_quiet machine slot immutable hquiet := by
    change (setImmutable directory slot immutable machine).2.script.sabotage = false
    rw [(setImmutable_keeps directory slot immutable hquiet).2, hquiet]

/-- The files of a machine do not fail. -/
theorem serves_variableStore (directory : String) :
    (variableStore directory).Serves fun machine => machine.script.sabotage = false where
  opens machine slot slots create front _ hdirectory hstarts := by
    obtain ⟨place, hplace, hslots⟩ := variablePlace_of_present hdirectory
    change (openVariable directory slot create machine).1 = .ok ()
    rw [hslots] at hstarts
    cases hnode : machine.files.lookup (place ++ [slot.fileName]) with
    | none =>
      rw [hnode] at hstarts
      cases hstarts
      simp only [openVariable, hplace, hnode, if_pos]
    | some node =>
      rw [hnode, Option.map_some] at hstarts
      generalize hv : some (variableOf node) = v at hstarts
      cases hstarts with
      | made => cases hv
      | found content =>
        obtain rfl := eq_file_of_variableOf (Option.some.inj hv)
        simp only [openVariable, hplace, hnode]
  whole machine slot bytes content _ hget :=
    congrArg Prod.fst (writeVariable_of_file machine directory slot bytes hget)

/-- The immutable attribute at the path of a slot. -/
def immutableAt (machine : Machine) (slot : Slot) : Bool :=
  if machine.script.inodes then false
  else (machine.attributes.lookup slot).getD machine.script.initial

theorem immutableAt_remember_self {machine : Machine} (h : machine.script.inodes = false)
    (slot : Slot) (immutable : Bool) :
    (machine.remember slot immutable).immutableAt slot = immutable := by
  simp [immutableAt, remember, h]

theorem lookup_filter_of_ne {entries : List (Slot × Bool)} {slot k : Slot} (h : k ≠ slot) :
    (entries.filter (·.1 != slot)).lookup k = entries.lookup k := by
  induction entries with
  | nil => rfl
  | cons entry rest ih =>
    obtain ⟨other, immutable⟩ := entry
    by_cases hother : other = slot
    · have hk : (k == other) = false := beq_eq_false_iff_ne.mpr (hother ▸ h)
      simp [hother, List.lookup_cons, hother ▸ hk, ih]
    · by_cases hk : k = other
      · simp [hother, hk]
      · have hne : (k == other) = false := beq_eq_false_iff_ne.mpr hk
        simp [hother, List.lookup_cons, hne, ih]

theorem immutableAt_remember_of_ne (machine : Machine) {slot k : Slot} (immutable : Bool)
    (h : k ≠ slot) : (machine.remember slot immutable).immutableAt k = machine.immutableAt k := by
  have hk : (k == slot) = false := beq_eq_false_iff_ne.mpr h
  simp only [immutableAt, remember, List.lookup_cons, hk, lookup_filter_of_ne h]

/-- The attributes depend on what was answered and set so far and on nothing else. -/
theorem immutableAt_congr {machine after : Machine}
    (h : after.script = machine.script ∧ after.attributes = machine.attributes) :
    after.immutableAt = machine.immutableAt := by
  funext slot
  rw [immutableAt, immutableAt, h.1, h.2]

theorem immutableAt_replaceByDirectory (directory : String) (slot : Slot) (machine : Machine) :
    (replaceByDirectory directory slot machine).2.immutableAt = machine.immutableAt := by
  unfold replaceByDirectory
  split <;> rfl

theorem immutableAt_isImmutable (directory : String) (slot : Slot) (machine : Machine) :
    (isImmutable directory slot machine).2.immutableAt = machine.immutableAt ∧
      ∀ immutable, (isImmutable directory slot machine).1 = .ok immutable →
        machine.immutableAt slot = immutable := by
  unfold isImmutable
  split
  · exact ⟨rfl, fun _ h => nomatch h⟩
  by_cases hinodes : machine.script.inodes
  · rw [if_pos hinodes]
    refine ⟨rfl, fun immutable h => ?_⟩
    cases hanswer : machine.inodeAnswers (Path.join directory slot.fileName) with
    | error err => simp [hanswer, Except.map] at h
    | ok => simpa [hanswer, Except.map, immutableAt, hinodes] using h
  · rw [if_neg hinodes]
    cases hlookup : machine.attributes.lookup slot with
    | some known =>
      refine ⟨rfl, fun immutable h => ?_⟩
      simpa [immutableAt, hinodes, hlookup] using h
    | none =>
      have hslot : machine.immutableAt slot = machine.script.initial := by
        simp [immutableAt, hinodes, hlookup]
      refine ⟨?_, fun immutable h => hslot.trans (Except.ok.inj h)⟩
      funext k
      by_cases hk : k = slot
      · rw [hk, hslot]
        exact immutableAt_remember_self (Bool.not_eq_true _ ▸ hinodes) slot _
      · exact immutableAt_remember_of_ne machine _ hk

theorem immutableAt_changeAttribute (directory : String) (slot : Slot) (immutable : Bool)
    (machine : Machine) :
    ((changeAttribute directory slot immutable machine).1 = .ok () →
      (changeAttribute directory slot immutable machine).2.immutableAt slot = immutable) ∧
    ∀ k, k ≠ slot →
      (changeAttribute directory slot immutable machine).2.immutableAt k =
        machine.immutableAt k := by
  unfold changeAttribute
  by_cases hinodes : machine.script.inodes
  · rw [if_pos hinodes]
    cases machine.inodeAnswers (Path.join directory slot.fileName) with
    | error err => exact ⟨fun h => (nomatch h), fun _ _ => rfl⟩
    | ok =>
      refine ⟨fun h => ?_, fun _ _ => rfl⟩
      cases immutable with
      | true => simp at h
      | false => simp [immutableAt, hinodes]
  · rw [if_neg hinodes]
    exact ⟨fun _ => immutableAt_remember_self (Bool.not_eq_true _ ▸ hinodes) slot immutable,
      fun _ hk => immutableAt_remember_of_ne machine immutable hk⟩

theorem immutableAt_setImmutable (directory : String) (slot : Slot) (immutable : Bool)
    (machine : Machine) :
    ((setImmutable directory slot immutable machine).1 = .ok () →
      (setImmutable directory slot immutable machine).2.immutableAt slot = immutable) ∧
    ∀ k, k ≠ slot →
      (setImmutable directory slot immutable machine).2.immutableAt k =
        machine.immutableAt k := by
  have hchange := immutableAt_changeAttribute directory slot immutable machine
  unfold setImmutable
  split
  · exact ⟨fun h => (nomatch h), fun _ _ => rfl⟩
  split
  · next after hafter =>
    rw [hafter] at hchange
    split
    · rw [immutableAt_replaceByDirectory]
      exact ⟨fun _ => hchange.1 rfl, hchange.2⟩
    · exact hchange
  · exact hchange

/-- The answers of a machine about the attribute tell of one attribute at each path, also
if clearing it replaces the file. -/
theorem flagged_variableStore (directory : String) :
    (variableStore directory).Flagged immutableAt where
  get_answer machine slot immutable h :=
    (immutableAt_isImmutable directory slot machine).2 immutable h
  get_keeps machine slot := (immutableAt_isImmutable directory slot machine).1
  change_done machine slot immutable h :=
    (immutableAt_setImmutable directory slot immutable machine).1 h
  change_keeps machine slot immutable k hk :=
    (immutableAt_setImmutable directory slot immutable machine).2 k hk
  open_keeps machine slot create :=
    immutableAt_congr (openVariable_keeps machine directory slot create)
  write_keeps machine slot bytes :=
    immutableAt_congr (writeVariable_keeps machine directory slot bytes)

end Machine

end MemoryRepair
