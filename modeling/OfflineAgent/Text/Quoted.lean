import OfflineAgent.Text.Hidden

/-!
A string between double quotes, for messages. What would not show, or would end the quotation, is
escaped.
-/

namespace OfflineAgent.Quoted

/-- A code point as lower-case hexadecimal digits, without leading zeros. -/
def hexText (n : Nat) : List Char :=
  Nat.toDigits 16 n

def escape (c : Char) : List Char :=
  match c with
  | '"' => ['\\', '"']
  | '\\' => ['\\', '\\']
  | '\n' => ['\\', 'n']
  | '\r' => ['\\', 'r']
  | '\t' => ['\\', 't']
  | '\x00' => ['\\', '0']
  | c =>
    if Text.isShown c then [c] else ['\\', 'u', '\x7b'] ++ hexText c.toNat ++ ['\x7d']

def quote (s : String) : String :=
  String.ofList ('"' :: s.toList.flatMap escape ++ ['"'])

end OfflineAgent.Quoted
