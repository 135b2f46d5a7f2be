import OfflineAgent.Text.Hex

/-!
Places in a YAML text, and the classes of characters that its grammar tells apart.
-/

namespace OfflineAgent.Yaml

/-- A place: how many characters lie before it, and its line and column from zero. -/
structure Mark where
  index : Nat
  line : Nat
  column : Nat
deriving DecidableEq, Repr

namespace Mark

def start : Mark := ⟨0, 0, 0⟩

def next (mark : Mark) : Mark :=
  { mark with index := mark.index + 1, column := mark.column + 1 }

def forward (mark : Mark) (count : Nat) : Mark :=
  { mark with index := mark.index + count, column := mark.column + count }

def nextLine (mark : Mark) (size : Nat) : Mark :=
  ⟨mark.index + size, mark.line + 1, 0⟩

end Mark

def isBreak (c : Char) : Bool :=
  c = '\n' || c = '\r' || c = '\u0085' || c = '\u2028' || c = '\u2029'

def isBlank (c : Char) : Bool :=
  c = ' ' || c = '\t'

def isSpacing (c : Char) : Bool :=
  isBlank c || isBreak c

def isNameChar (c : Char) : Bool :=
  ('a' ≤ c && c ≤ 'z') || ('A' ≤ c && c ≤ 'Z') || ('0' ≤ c && c ≤ '9') || c = '_' || c = '-'

def isDigit (c : Char) : Bool :=
  '0' ≤ c && c ≤ '9'

def isAllowed (c : Char) : Bool :=
  let n := c.toNat
  n = 0x09 || n = 0x0A || n = 0x0D || (0x20 ≤ n && n ≤ 0x7E) || n = 0x85 ||
    (0xA0 ≤ n && n ≤ 0xD7FF) || (0xE000 ≤ n && n ≤ 0xFFFD) || 0x10000 ≤ n

/-- What is unread, and where it starts. -/
structure Cursor where
  rest : List Char
  mark : Mark
deriving Repr

namespace Cursor

def startsWith (cursor : Cursor) (c : Char) : Bool :=
  cursor.rest.head? = some c

def skip (cursor : Cursor) : Cursor :=
  match cursor.rest with
  | [] => cursor
  | _ :: rest => ⟨rest, cursor.mark.next⟩

def skipCount (cursor : Cursor) (count : Nat) : Cursor :=
  ⟨cursor.rest.drop count, cursor.mark.forward count⟩

/-- The characters at the front of a class without line breaks. -/
def takeWhile (cursor : Cursor) (p : Char → Bool) : List Char × Cursor :=
  let (front, rest) := cursor.rest.span p
  (front, ⟨rest, cursor.mark.forward front.length⟩)

def skipWhile (cursor : Cursor) (p : Char → Bool) : Cursor :=
  (cursor.takeWhile p).2

def takeBreak (cursor : Cursor) : List Char × Cursor :=
  match cursor.rest with
  | '\r' :: '\n' :: rest => (['\n'], ⟨rest, cursor.mark.nextLine 2⟩)
  | c :: rest =>
    if c = '\u2028' || c = '\u2029' then ([c], ⟨rest, cursor.mark.nextLine 1⟩)
    else if isBreak c then (['\n'], ⟨rest, cursor.mark.nextLine 1⟩)
    else ([], cursor)
  | [] => ([], cursor)

def skipBreak (cursor : Cursor) : Cursor :=
  cursor.takeBreak.2

def atEnd (cursor : Cursor) : Bool :=
  cursor.rest.isEmpty

def atBreak (cursor : Cursor) : Bool :=
  cursor.rest.head?.any isBreak

def atBreakOrEnd (cursor : Cursor) : Bool :=
  cursor.atEnd || cursor.atBreak

def atSpacingOrEnd (cursor : Cursor) : Bool :=
  cursor.rest.head?.all isSpacing

end Cursor

def spacingAfter (count : Nat) (text : List Char) : Bool :=
  (text.drop count).head?.all isSpacing

/-- Whether a line starts with the sign between documents, or the one at the end of one. -/
def startsDocument (text : List Char) : Bool :=
  ['-', '-', '-'].isPrefixOf text && spacingAfter 3 text

def endsDocument (text : List Char) : Bool :=
  ['.', '.', '.'].isPrefixOf text && spacingAfter 3 text

def atDocumentSign (mark : Mark) (text : List Char) : Bool :=
  mark.column = 0 && (startsDocument text || endsDocument text)

end OfflineAgent.Yaml
