import MemoryRepair.Text.Numeral
import MemoryRepair.Text.Printable

/-!
Quoted texts. A quotation mark or backslash is written after a backslash, five
controls have letters of their own, and every other character that is not
printable is written as its code point in hexadecimal.
-/
namespace MemoryRepair.Text

def escape (c : Char) : List Char :=
  match c with
  | '\x00' => ['\\', '0']
  | '\t' => ['\\', 't']
  | '\r' => ['\\', 'r']
  | '\n' => ['\\', 'n']
  | '\\' => ['\\', '\\']
  | '"' => ['\\', '"']
  | _ =>
    if isPrintable c then [c]
    else ['\\', 'u', '\x7b'] ++ Nat.toDigits 16 c.toNat ++ ['\x7d']

def quote (text : String) : String :=
  String.ofList (['"'] ++ text.toList.flatMap escape ++ ['"'])

end MemoryRepair.Text
