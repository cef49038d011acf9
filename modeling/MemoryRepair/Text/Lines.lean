import MemoryRepair.Text.Blank

/-!
Lines end with a line feed, and a carriage return right before it belongs to
the line end. A last line without a line feed counts, an empty rest does not.
-/
namespace MemoryRepair.Text

def stripReturn (line : List Char) : List Char :=
  match line.reverse with
  | '\r' :: rest => rest.reverse
  | _ => line

/-- The pieces between line feeds, read as lines. -/
def closeLines : List (List Char) → List (List Char)
  | [] => []
  | [rest] => if rest.isEmpty then [] else [rest]
  | line :: next :: rest => stripReturn line :: closeLines (next :: rest)

def lines (text : List Char) : List (List Char) :=
  closeLines (splitBy (· == '\n') text)

end MemoryRepair.Text
