import OfflineAgent.Yaml.Token

/-!
Reading scalars. A line break inside a scalar that is not literal folds: it becomes a space, or if
empty lines follow it, as many line breaks as those.
-/

namespace OfflineAgent.Yaml

/-- The spacing met since the last character of a scalar: blanks, then if a line has ended, its
break and those of the empty lines after it. All are kept last first, as is `text`. -/
structure Folding where
  text : List Char
  blanks : List Char
  isBroken : Bool
  firstBreak : List Char
  laterBreaks : List Char

namespace Folding

def empty : Folding := ⟨[], [], false, [], []⟩

/-- A blank counts only as long as no line has ended since. -/
def addBlank (f : Folding) (c : Char) : Folding :=
  if f.isBroken then f else { f with blanks := c :: f.blanks }

def addBreak (f : Folding) (text : List Char) : Folding :=
  if f.isBroken then { f with laterBreaks := text ++ f.laterBreaks }
  else { f with blanks := [], isBroken := true, firstBreak := text }

/-- A line break that leaves no trace, but makes the blanks after it count for nothing. -/
def addEscapedBreak (f : Folding) : Folding :=
  { f with isBroken := true }

def join (f : Folding) : Folding :=
  let spacing :=
    if f.isBroken then
      if f.firstBreak = ['\n'] then if f.laterBreaks.isEmpty then [' '] else f.laterBreaks
      else f.laterBreaks ++ f.firstBreak
    else f.blanks
  ⟨spacing ++ f.text, [], false, [], []⟩

def addChar (f : Folding) (c : Char) : Folding :=
  let f := f.join
  { f with text := c :: f.text }

def result (f : Folding) : String :=
  String.ofList f.text.reverse

end Folding

def isFlowSign (c : Char) : Bool :=
  c = ',' || c = '[' || c = ']' || c = '\x7b' || c = '\x7d'

/-- A plain scalar. `fresh` says that the last character was spacing. A tab must not stand where
indentation is due. -/
def plainFrom (inFlow : Bool) (indent : Int) (fresh : Bool) (f : Folding) (mark : Mark) :
    List Char → Option (Folding × Cursor)
  | [] => some (f, ⟨[], mark⟩)
  | '\r' :: '\n' :: rest =>
    plainFrom inFlow indent true (f.addBreak ['\n']) (mark.nextLine 2) rest
  | c :: rest =>
    if isBlank c then
      if f.isBroken && c = '\t' && (mark.column : Int) < indent then none
      else plainFrom inFlow indent true (f.addBlank c) mark.next rest
    else if isBreak c then
      let text := if c = '\u2028' || c = '\u2029' then c else '\n'
      plainFrom inFlow indent true (f.addBreak [text]) (mark.nextLine 1) rest
    else
      let stop := some (f, (⟨c :: rest, mark⟩ : Cursor))
      if fresh && !inFlow && (mark.column : Int) < indent then stop
      else if fresh && atDocumentSign mark (c :: rest) then stop
      else if fresh && c = '#' then stop
      else if inFlow && c = ':' && rest.head?.any (fun d => isFlowSign d || d = '?') then none
      else if c = ':' && spacingAfter 0 rest then stop
      else if inFlow && isFlowSign c then stop
      else plainFrom inFlow indent false (f.addChar c) mark.next rest

/-- A scalar between single quotes, after the first one. A quote inside is written twice. -/
def singleFrom (f : Folding) (mark : Mark) : List Char → Option (Folding × Cursor)
  | [] => none
  | '\r' :: '\n' :: rest => singleFrom (f.addBreak ['\n']) (mark.nextLine 2) rest
  | '\'' :: '\'' :: rest =>
    if atDocumentSign mark ('\'' :: '\'' :: rest) then none
    else singleFrom (f.addChar '\'') (mark.forward 2) rest
  | c :: rest =>
    if c = '\'' then some (f.join, ⟨rest, mark.next⟩)
    else if atDocumentSign mark (c :: rest) then none
    else if isBlank c then singleFrom (f.addBlank c) mark.next rest
    else if isBreak c then
      let text := if c = '\u2028' || c = '\u2029' then c else '\n'
      singleFrom (f.addBreak [text]) (mark.nextLine 1) rest
    else singleFrom (f.addChar c) mark.next rest

def escaped? (c : Char) : Option Char :=
  match c with
  | '0' => some '\x00'
  | 'a' => some '\x07'
  | 'b' => some '\x08'
  | 't' | '\t' => some '\t'
  | 'n' => some '\n'
  | 'v' => some '\x0b'
  | 'f' => some '\x0c'
  | 'r' => some '\r'
  | 'e' => some '\x1b'
  | ' ' => some ' '
  | '"' => some '"'
  | '/' => some '/'
  | '\\' => some '\\'
  | 'N' => some '\u0085'
  | '_' => some '\u00a0'
  | 'L' => some '\u2028'
  | 'P' => some '\u2029'
  | _ => none

def hexLength? (c : Char) : Option Nat :=
  match c with
  | 'x' => some 2
  | 'u' => some 4
  | 'U' => some 8
  | _ => none

def isScalarValue (n : Nat) : Bool :=
  n < 0xD800 || (0xE000 ≤ n && n < 0x110000)

/-- Where the reader stands in a double-quoted scalar. -/
inductive Escape where
  | none
  | backslash
  | hex (missing value : Nat)

def doubleFrom (escape : Escape) (f : Folding) (mark : Mark) : List Char → Option (Folding × Cursor)
  | [] => Option.none
  | '\r' :: '\n' :: rest =>
    match escape with
    | .none => doubleFrom .none (f.addBreak ['\n']) (mark.nextLine 2) rest
    | .backslash => doubleFrom .none f.join.addEscapedBreak (mark.nextLine 2) rest
    | .hex _ _ => Option.none
  | c :: rest =>
    match escape with
    | .none =>
      if c = '"' then some (f.join, ⟨rest, mark.next⟩)
      else if atDocumentSign mark (c :: rest) then Option.none
      else if isBlank c then doubleFrom .none (f.addBlank c) mark.next rest
      else if isBreak c then
        let text := if c = '\u2028' || c = '\u2029' then c else '\n'
        doubleFrom .none (f.addBreak [text]) (mark.nextLine 1) rest
      else if c = '\\' then doubleFrom .backslash f mark.next rest
      else doubleFrom .none (f.addChar c) mark.next rest
    | .backslash =>
      if isBreak c then doubleFrom .none f.join.addEscapedBreak (mark.nextLine 1) rest
      else
        match hexLength? c, escaped? c with
        | some count, _ => doubleFrom (.hex count 0) f mark.next rest
        | Option.none, some d => doubleFrom .none (f.addChar d) mark.next rest
        | Option.none, Option.none => Option.none
    | .hex missing value =>
      match Hex.digitValue c with
      | some digit =>
        let value := 16 * value + digit
        if 1 < missing then doubleFrom (.hex (missing - 1) value) f mark.next rest
        else if isScalarValue value then
          doubleFrom .none (f.addChar (Char.ofNat value)) mark.next rest
        else Option.none
      | Option.none => Option.none

/-! Block scalars -/

inductive Chomping where
  | strip
  | clip
  | keep
deriving DecidableEq, Repr

def chomping? (c : Char) : Option Chomping :=
  if c = '+' then some .keep else if c = '-' then some .strip else none

/-- Chomping and indentation, in either order; an indentation of zero is none that can be given. -/
def blockHeader (cursor : Cursor) : Option ((Chomping × Nat) × Cursor) :=
  match cursor.rest with
  | c :: rest =>
    match chomping? c with
    | some chomping =>
      match rest with
      | d :: _ =>
        if isDigit d then
          if d = '0' then none else some ((chomping, d.toNat - 48), cursor.skipCount 2)
        else some ((chomping, 0), cursor.skip)
      | [] => some ((chomping, 0), cursor.skip)
    | none =>
      if isDigit c then
        if c = '0' then none
        else
          match rest.head?.bind chomping? with
          | some chomping => some ((chomping, c.toNat - 48), cursor.skipCount 2)
          | none => some ((.clip, c.toNat - 48), cursor.skip)
      else some ((.clip, 0), cursor)
  | [] => some ((.clip, 0), cursor)

/-- Spacing before a line of a block scalar: the breaks of empty lines, last first, and the largest
indentation met. Without an `indent` (zero) any number of spaces belongs to it. -/
def blockBreaks (indent : Nat) : Nat → List Char → Nat → Cursor → Option (List Char × Nat × Cursor)
  | 0, _, _, _ => none
  | fuel + 1, breaks, widest, cursor =>
    let spaces := (cursor.rest.takeWhile (· = ' ')).length
    let count := if indent = 0 then spaces else min spaces (indent - cursor.mark.column)
    let cursor := cursor.skipCount count
    let widest := max widest cursor.mark.column
    if (indent = 0 || cursor.mark.column < indent) && cursor.startsWith '\t' then none
    else if cursor.atBreak then
      let (text, cursor) := cursor.takeBreak
      blockBreaks indent fuel (text ++ breaks) widest cursor
    else some (breaks, widest, cursor)

/-- The lines of a block scalar. `pending` is the break of the line before, `breaks` those of empty
lines after it, all last first. A folded scalar keeps the breaks around lines that start with a
blank. -/
def blockLines (isLiteral : Bool) (indent : Nat) :
    Nat → List Char → List Char → List Char → Bool → Cursor →
      Option (List Char × List Char × List Char × Cursor)
  | 0, _, _, _, _, _ => none
  | fuel + 1, text, pending, breaks, afterBlank, cursor =>
    if cursor.mark.column = indent && !cursor.atEnd then
      let startsBlank := cursor.rest.head?.any isBlank
      let joint :=
        if !isLiteral && pending = ['\n'] && !afterBlank && !startsBlank then
          if breaks.isEmpty then [' '] else []
        else pending
      let (line, cursor) := cursor.takeWhile (!isBreak ·)
      let text := line.reverse ++ (breaks ++ (joint ++ text))
      let (pending, cursor) := cursor.takeBreak
      match blockBreaks indent (cursor.rest.length + 1) [] 0 cursor with
      | some (breaks, _, cursor) =>
        blockLines isLiteral indent fuel text pending breaks startsBlank cursor
      | none => none
    else some (text, pending, breaks, cursor)

/-- A block scalar after its sign; `parent` is the indentation around it. -/
def blockScalar (isLiteral : Bool) (parent : Int) (cursor : Cursor) : Option (String × Cursor) := do
  let ((chomping, increment), cursor) ← blockHeader cursor
  let cursor := cursor.skipWhile isBlank
  let cursor := if cursor.startsWith '#' then cursor.skipWhile (!isBreak ·) else cursor
  if !cursor.atBreakOrEnd then none
  let cursor := cursor.skipBreak
  let given := if increment = 0 then 0 else increment + parent.toNat
  let (breaks, widest, cursor) ← blockBreaks given (cursor.rest.length + 1) [] 0 cursor
  let indent := if given = 0 then max (max widest (parent + 1).toNat) 1 else given
  let (text, pending, breaks, cursor) ←
    blockLines isLiteral indent (cursor.rest.length + 1) [] [] breaks false cursor
  let tail := match chomping with
    | .strip => []
    | .clip => pending
    | .keep => breaks ++ pending
  return (String.ofList (tail ++ text).reverse, cursor)

end OfflineAgent.Yaml
