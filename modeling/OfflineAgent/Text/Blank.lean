/-!
White space in the sense of the Unicode property.
-/

namespace OfflineAgent.Text

def isBlank (c : Char) : Bool :=
  let n := c.toNat
  (0x09 ≤ n && n ≤ 0x0D) || n = 0x20 || n = 0x85 || n = 0xA0 || n = 0x1680 ||
    (0x2000 ≤ n && n ≤ 0x200A) || n = 0x2028 || n = 0x2029 || n = 0x202F || n = 0x205F ||
    n = 0x3000

def trimStart (text : List Char) : List Char :=
  text.dropWhile isBlank

def trim (text : String) : String :=
  String.ofList (trimStart (trimStart text.toList).reverse).reverse

end OfflineAgent.Text
