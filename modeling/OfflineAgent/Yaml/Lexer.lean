import OfflineAgent.Yaml.Names
import OfflineAgent.Yaml.Scalar

/-!
The tokens of a YAML text. Indentation shows as tokens of its own, and a key without a question mark
is found only at its colon: the tokens that open it are put in before it then. Main function:
`Yaml.tokens?`.
-/

namespace OfflineAgent.Yaml

/-- Something that is a key if a colon follows it on its line. It is `required` where nothing but a
key can stand. -/
structure KeyCandidate where
  required : Bool
  /-- How many tokens are before it. -/
  number : Nat
  mark : Mark
deriving Repr

/-- What is read, and what the text read so far allows next. -/
structure Lexer where
  cursor : Cursor
  tokens : Array Token
  indent : Int
  /-- The indentations around `indent`, innermost first. -/
  outer : List Int
  keyAllowed : Bool
  candidate : Option KeyCandidate
  /-- The candidates around the open brackets, innermost first. -/
  outerCandidates : List (Option KeyCandidate)
deriving Repr

namespace Lexer

def start (text : List Char) : Lexer :=
  ⟨⟨text, .start⟩, #[], -1, [], true, none, []⟩

def inFlow (lexer : Lexer) : Bool :=
  !lexer.outerCandidates.isEmpty

def mark (lexer : Lexer) : Mark :=
  lexer.cursor.mark

def column (lexer : Lexer) : Int :=
  lexer.mark.column

def push (lexer : Lexer) (token : Token) : Lexer :=
  { lexer with tokens := lexer.tokens.push token }

def insert (lexer : Lexer) (number : Nat) (kind : TokenKind) (mark : Mark) : Lexer :=
  { lexer with tokens := lexer.tokens.insertIdxIfInBounds number ⟨kind, mark, mark⟩ }

def take (lexer : Lexer) (kind : TokenKind) (count : Nat) : Lexer :=
  let cursor := lexer.cursor.skipCount count
  { lexer with cursor }.push ⟨kind, lexer.mark, cursor.mark⟩

def openBlock (lexer : Lexer) (column : Nat) (number : Nat) (kind : TokenKind) (mark : Mark) :
    Lexer :=
  if !lexer.inFlow && lexer.indent < column then
    { lexer with outer := lexer.indent :: lexer.outer, indent := column }.insert number kind mark
  else lexer

def closeBlocks (lexer : Lexer) (column : Int) : Lexer :=
  if lexer.inFlow then lexer else go lexer.outer lexer
where
  go : List Int → Lexer → Lexer
    | [], lexer => lexer
    | indent :: outer, lexer =>
      if column < lexer.indent then
        go outer ({ lexer with indent, outer }.push ⟨.blockEnd, lexer.mark, lexer.mark⟩)
      else lexer

def dropCandidate (lexer : Lexer) : Option Lexer :=
  if lexer.candidate.any (·.required) then none else some { lexer with candidate := none }

def addCandidate (lexer : Lexer) : Option Lexer :=
  if lexer.keyAllowed then do
    let required := !lexer.inFlow && lexer.indent = lexer.column
    let found : KeyCandidate := ⟨required, lexer.tokens.size, lexer.mark⟩
    return { ← lexer.dropCandidate with candidate := some found }
  else some lexer

/-- A key ends on its line, and before it has taken this many characters. -/
def maxKeyLength : Nat := 1024

def isStale (mark : Mark) (candidate : KeyCandidate) : Bool :=
  candidate.mark.line < mark.line || candidate.mark.index + maxKeyLength < mark.index

def dropStale (mark : Mark) : Option KeyCandidate → Option (Option KeyCandidate)
  | none => some none
  | some candidate =>
    if isStale mark candidate then if candidate.required then none else some none
    else some (some candidate)

def dropStaleCandidates (lexer : Lexer) : Option Lexer := do
  let candidate ← dropStale lexer.mark lexer.candidate
  let outerCandidates ← lexer.outerCandidates.mapM (dropStale lexer.mark)
  return { lexer with candidate, outerCandidates }

/-- Over spacing and comments. Tabs are no spacing where a key may start a line. -/
def skipSpacing (inFlow keyAllowed inComment : Bool) (mark : Mark) : List Char → Bool × Cursor
  | [] => (keyAllowed, ⟨[], mark⟩)
  | '\r' :: '\n' :: rest =>
    skipSpacing inFlow (keyAllowed || !inFlow) false (mark.nextLine 2) rest
  | c :: rest =>
    if isBreak c then skipSpacing inFlow (keyAllowed || !inFlow) false (mark.nextLine 1) rest
    else if inComment || c = ' ' || (c = '\t' && (inFlow || !keyAllowed)) ||
        (c = '\ufeff' && mark.index = 0) then
      skipSpacing inFlow keyAllowed inComment mark.next rest
    else if c = '#' then skipSpacing inFlow keyAllowed true mark.next rest
    else (keyAllowed, ⟨c :: rest, mark⟩)

def toToken (lexer : Lexer) : Lexer :=
  let (keyAllowed, cursor) :=
    skipSpacing lexer.inFlow lexer.keyAllowed false lexer.mark lexer.cursor.rest
  { lexer with keyAllowed, cursor }

/-! Tokens one by one -/

def endStream (lexer : Lexer) : Option Lexer := do
  let mark := lexer.mark
  let mark := if mark.column = 0 then mark else ⟨mark.index, mark.line + 1, 0⟩
  let lexer := { lexer with cursor := ⟨[], mark⟩ }.closeBlocks (-1)
  return (← lexer.dropCandidate).push ⟨.streamEnd, mark, mark⟩

def takeDirective (lexer : Lexer) : Option Lexer := do
  let lexer ← (lexer.closeBlocks (-1)).dropCandidate
  let ((kind, stop), cursor) ← directive lexer.cursor.skip
  return { lexer with cursor, keyAllowed := false }.push ⟨kind, lexer.mark, stop⟩

def takeDocumentSign (lexer : Lexer) (kind : TokenKind) : Option Lexer := do
  let lexer ← (lexer.closeBlocks (-1)).dropCandidate
  return { lexer with keyAllowed := false }.take kind 3

def openBracket (lexer : Lexer) (kind : TokenKind) : Option Lexer := do
  let lexer ← lexer.addCandidate
  let outerCandidates := lexer.candidate :: lexer.outerCandidates
  return { lexer with candidate := none, outerCandidates, keyAllowed := true }.take kind 1

def closeBracket (lexer : Lexer) (kind : TokenKind) : Option Lexer := do
  let lexer ← lexer.dropCandidate
  let lexer := match lexer.outerCandidates with
    | candidate :: outerCandidates => { lexer with candidate, outerCandidates }
    | [] => lexer
  return { lexer with keyAllowed := false }.take kind 1

def takeComma (lexer : Lexer) : Option Lexer := do
  return { ← lexer.dropCandidate with keyAllowed := true }.take .flowEntry 1

/-- A sign that starts an item or key of its own, outside brackets only where a key may stand. -/
def takeSign (lexer : Lexer) (block kind : TokenKind) (keyAllowed : Bool) : Option Lexer := do
  if !lexer.inFlow && !lexer.keyAllowed then none
  let column := lexer.mark.column
  let lexer ← (lexer.openBlock column lexer.tokens.size block lexer.mark).dropCandidate
  return { lexer with keyAllowed }.take kind 1

def takeDash (lexer : Lexer) : Option Lexer :=
  lexer.takeSign .blockSequenceStart .blockEntry true

def takeQuestion (lexer : Lexer) : Option Lexer :=
  lexer.takeSign .blockMappingStart .key !lexer.inFlow

def takeColon (lexer : Lexer) : Option Lexer :=
  match lexer.candidate with
  | some ⟨_, number, mark⟩ =>
    let lexer := lexer.insert number .key mark
    let lexer := lexer.openBlock mark.column number .blockMappingStart mark
    some ({ lexer with candidate := none, keyAllowed := false }.take .value 1)
  | none => lexer.takeSign .blockMappingStart .value !lexer.inFlow

def takeAnchor (lexer : Lexer) (kind : String → TokenKind) : Option Lexer := do
  let lexer ← lexer.addCandidate
  let (name, cursor) ← anchorName lexer.cursor.skip
  return { lexer with cursor, keyAllowed := false }.push ⟨kind name, lexer.mark, cursor.mark⟩

def takeTag (lexer : Lexer) : Option Lexer := do
  let lexer ← lexer.addCandidate
  let ((handle, suffix), cursor) ← tagName lexer.cursor
  if !cursor.atSpacingOrEnd && !(lexer.inFlow && cursor.startsWith ',') then none
  return { lexer with cursor, keyAllowed := false }.push
    ⟨.tag handle suffix, lexer.mark, cursor.mark⟩

def takeBlockScalar (lexer : Lexer) (style : Style) : Option Lexer := do
  let lexer ← lexer.dropCandidate
  let (text, cursor) ← blockScalar (style = .literal) lexer.indent lexer.cursor.skip
  return { lexer with cursor, keyAllowed := true }.push
    ⟨.scalar text style, lexer.mark, cursor.mark⟩

def takeQuoted (lexer : Lexer) (style : Style) : Option Lexer := do
  let lexer ← lexer.addCandidate
  let opened := lexer.cursor.skip
  let (folding, cursor) ←
    if style = .singleQuoted then singleFrom .empty opened.mark opened.rest
    else doubleFrom .none .empty opened.mark opened.rest
  return { lexer with cursor, keyAllowed := false }.push
    ⟨.scalar folding.result style, lexer.mark, cursor.mark⟩

def takePlain (lexer : Lexer) : Option Lexer := do
  let lexer ← lexer.addCandidate
  let (folding, cursor) ←
    plainFrom lexer.inFlow (lexer.indent + 1) false .empty lexer.mark lexer.cursor.rest
  return { lexer with cursor, keyAllowed := folding.isBroken }.push
    ⟨.scalar folding.result .plain, lexer.mark, cursor.mark⟩

/-- Signs that start no plain scalar, or only before a character that is no spacing. -/
def isSign (c : Char) : Bool :=
  ['-', '?', ':', ',', '[', ']', '\x7b', '\x7d', '#', '&', '*', '!', '|', '>', '\'', '"', '%', '@',
    '\x60'].contains c

def takeToken (lexer : Lexer) (c : Char) (rest : List Char) : Option Lexer :=
  let atLineStart := lexer.mark.column = 0
  let parted := spacingAfter 0 rest
  if atLineStart && c = '%' then lexer.takeDirective
  else if atLineStart && startsDocument (c :: rest) then lexer.takeDocumentSign .documentStart
  else if atLineStart && endsDocument (c :: rest) then lexer.takeDocumentSign .documentEnd
  else if c = '[' then lexer.openBracket .flowSequenceStart
  else if c = '\x7b' then lexer.openBracket .flowMappingStart
  else if c = ']' then lexer.closeBracket .flowSequenceEnd
  else if c = '\x7d' then lexer.closeBracket .flowMappingEnd
  else if c = ',' then lexer.takeComma
  else if c = '-' && parted then lexer.takeDash
  else if c = '?' && (lexer.inFlow || parted) then lexer.takeQuestion
  else if c = ':' && (lexer.inFlow || parted) then lexer.takeColon
  else if c = '*' then lexer.takeAnchor .reference
  else if c = '&' then lexer.takeAnchor .anchor
  else if c = '!' then lexer.takeTag
  else if c = '|' && !lexer.inFlow then lexer.takeBlockScalar .literal
  else if c = '>' && !lexer.inFlow then lexer.takeBlockScalar .folded
  else if c = '\'' then lexer.takeQuoted .singleQuoted
  else if c = '"' then lexer.takeQuoted .doubleQuoted
  else if (!isSpacing c && !isSign c) || c = '-' || ((c = '?' || c = ':') && !lexer.inFlow) then
    lexer.takePlain
  else none

/-- Reads to the end. Each token takes a character at least, so `fuel` may be their number. -/
def run : Nat → Lexer → Option Lexer
  | 0, lexer => lexer.toToken.endStream
  | fuel + 1, lexer => do
    let lexer ← lexer.toToken.dropStaleCandidates
    let lexer := lexer.closeBlocks lexer.column
    match lexer.cursor.rest with
    | [] => lexer.endStream
    | c :: rest => run fuel (← lexer.takeToken c rest)

end Lexer

/-- The tokens of a text, or none if it has a character or an order of them that YAML does not. -/
def tokens? (text : List Char) : Option (List Token) :=
  if text.all isAllowed then
    (Lexer.run (text.length + 1) (.start text)).map (·.tokens.toList)
  else none

end OfflineAgent.Yaml
