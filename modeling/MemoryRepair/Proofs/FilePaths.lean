import MemoryRepair.Proofs.MachineStore
import MemoryRepair.Proofs.TextPieces

/-!
Where paths lead. A path with an ordinary last letter leads to a name that ends with this
letter, so that paths with different last letters lead to different places. And where a
node that is no directory is put in the place of another one, every path leads where it
led before.
-/
namespace MemoryRepair

namespace Path

/-- The last letter of a joined path is that of its second part. -/
theorem getLast?_join (base : String) {more : String} {c : Char}
    (h : more.toList.getLast? = some c) : (join base more).toList.getLast? = some c := by
  have happend : ∀ front : String, (front ++ more).toList.getLast? = some c := by
    intro front
    rw [String.toList_append, List.getLast?_append, h, Option.some_or]
  unfold join
  split
  · exact h
  · split
    · exact happend base
    · exact happend (base ++ "/")

end Path

namespace FileTree

/-- A name that is not looked up specially is the last one of the place it leads to. -/
theorem walk_concat {tree : FileTree} {name : String} (hempty : name ≠ "") (hdot : name ≠ ".")
    (hup : name ≠ "..") {here place : Place} {parts : List String}
    (h : tree.walk here (parts ++ [name]) = .ok place) : ∃ front, place = front ++ [name] := by
  induction parts generalizing here with
  | nil =>
    rw [List.nil_append, walk] at h
    split at h
    · cases h
    · rw [if_neg (by simp [hempty, hdot]), if_neg hup] at h
      split at h
      · cases h
      · exact ⟨here, (Except.ok.inj h).symm⟩
    · cases h
  | cons part rest ih =>
    rw [List.cons_append, walk] at h
    split at h
    · cases h
    · split at h
      · exact ih h
      · split at h
        · exact ih h
        · split at h
          · cases h
          · exact ih h
    · cases h

theorem resolve_last {tree : FileTree} {path : String} {place : Place} {c : Char}
    (hlast : path.toList.getLast? = some c) (hslash : c ≠ '/') (hdot : c ≠ '.')
    (h : tree.resolve path = .ok place) :
    ∃ front letters, place = front ++ [String.ofList (letters ++ [c])] := by
  obtain ⟨letters, hletters⟩ := List.getLast?_eq_some_iff.mp hlast
  obtain ⟨pieces, piece, hsplit⟩ :=
    Text.splitBy_concat (· == '/') (beq_eq_false_iff_ne.mpr hslash) letters
  have hparts : Path.parts path =
      pieces.map String.ofList ++ [String.ofList (piece ++ [c])] := by
    rw [Path.parts, hletters, hsplit, List.map_append, List.map_singleton]
  -- The last letter keeps the name from being empty or one of the two names of directories.
  have hname : ∀ special : String, special.toList.getLast? ≠ some c →
      String.ofList (piece ++ [c]) ≠ special := by
    rintro special hspecial rfl
    simp at hspecial
  rw [resolve, hparts] at h
  split at h
  · cases h
  · split at h
    · cases h
    · cases pieces with
      | nil =>
        split at h
        · next heq => cases (List.cons.inj heq).2
        · cases h
      | cons first others =>
        rw [List.map_cons, List.cons_append] at h
        split at h
        · next part rest heq =>
          obtain ⟨-, hrest⟩ := List.cons.inj heq
          rw [← hrest] at h
          have hdots : some '.' ≠ some c := fun heq => hdot (Option.some.inj heq).symm
          obtain ⟨front, hfront⟩ := walk_concat (hname "" (by simp)) (hname "." hdots)
            (hname ".." hdots) h
          exact ⟨front, piece, hfront⟩
        · cases h

/-- Paths with different last letters lead to different places. -/
theorem place_ne {tree : FileTree} {path other : String} {place elsewhere : Place} {c d : Char}
    (hpath : path.toList.getLast? = some c) (hother : other.toList.getLast? = some d)
    (hne : c ≠ d) (hc : c ≠ '/' ∧ c ≠ '.') (hd : d ≠ '/' ∧ d ≠ '.')
    (h : tree.resolve path = .ok place) (helsewhere : tree.resolve other = .ok elsewhere) :
    place ≠ elsewhere := by
  obtain ⟨front, letters, rfl⟩ := resolve_last hpath hc.1 hc.2 h
  obtain ⟨otherFront, otherLetters, rfl⟩ := resolve_last hother hd.1 hd.2 helsewhere
  intro heq
  obtain ⟨-, hnames⟩ := List.append_inj' heq rfl
  have hletters : letters ++ [c] = otherLetters ++ [d] :=
    String.ofList_injective (List.singleton_inj.mp hnames)
  obtain ⟨-, hlast⟩ := List.append_inj' hletters rfl
  exact hne (List.singleton_inj.mp hlast)

/-- What is opened for writing stands at the place of its path, and is no directory. -/
theorem openWrite_eq_ok {tree : FileTree} {path : String} {place : Place} {node : Node}
    (h : tree.openWrite path = .ok (place, node)) :
    tree.resolve path = .ok place ∧ tree.lookup place = some node ∧ node ≠ .directory := by
  unfold openWrite find at h
  cases hplace : tree.resolve path with
  | error err => simp [hplace] at h
  | ok found =>
    cases hlookup : tree.lookup found with
    | none => simp [hplace, hlookup] at h
    | some what =>
      cases what <;> simp [hplace, hlookup] at h <;> (obtain ⟨rfl, rfl⟩ := h; simp [hlookup])

section Replace

variable {tree : FileTree} {place : Place} {old node : Node}

theorem walk_of_file {here : Place} (h : tree.lookup here = some node)
    (hfile : node ≠ .directory) (part : String) (rest : List String) :
    tree.walk here (part :: rest) = .error (.os Errno.notDirectory) := by
  rw [walk, h]
  cases node with
  | directory => exact absurd rfl hfile
  | _ => rfl

/-- Only directories lie on the way, so that it makes no difference what else stands
somewhere. -/
theorem walk_replace (hold : tree.lookup place = some old) (holdFile : old ≠ .directory)
    (hnodeFile : node ≠ .directory) (here : Place) (parts : List String) :
    (tree.set place node).walk here parts = tree.walk here parts := by
  have hplace : place ≠ [] := by
    rintro rfl
    exact holdFile (Option.some.inj hold).symm
  induction parts generalizing here with
  | nil => rfl
  | cons part rest ih =>
    by_cases hhere : here = place
    · subst hhere
      rw [walk_of_file hold holdFile, walk_of_file (lookup_set_self tree hplace node) hnodeFile]
    · rw [walk, walk, lookup_set_of_ne tree hhere]
      simp only [ih]

theorem resolve_replace (hold : tree.lookup place = some old) (holdFile : old ≠ .directory)
    (hnodeFile : node ≠ .directory) (path : String) :
    (tree.set place node).resolve path = tree.resolve path := by
  simp only [resolve, walk_replace hold holdFile hnodeFile]

end Replace

end FileTree

end MemoryRepair
