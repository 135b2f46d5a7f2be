import OfflineAgent.Text.Utf8
import OfflineAgent.Yaml.Token

/-!
Reading names: of anchors and references, of tags, and of the directives before a document.
-/

namespace OfflineAgent.Yaml

def endsAnchor (c : Char) : Bool :=
  isSpacing c || ['?', ':', ',', ']', '\x7d', '%', '@', '\x60'].contains c

def anchorName (cursor : Cursor) : Option (String × Cursor) :=
  let (name, cursor) := cursor.takeWhile isNameChar
  if name.isEmpty || !cursor.rest.head?.all endsAnchor then none
  else some (String.ofList name, cursor)

/-! Tags -/

/-- Characters of a tag. Some that part flow content are allowed only between angle brackets. -/
def isTagChar (isVerbatim : Bool) (c : Char) : Bool :=
  isNameChar c ||
    [';', '/', '?', ':', '@', '&', '=', '+', '$', '.', '!', '~', '*', '\'', '(', ')'].contains c ||
    (isVerbatim && (c = ',' || c = '[' || c = ']'))

def tagByte? : List Char → Option (UInt8 × List Char)
  | '%' :: high :: low :: rest =>
    match Hex.digitValue high, Hex.digitValue low with
    | some h, some l => some (UInt8.ofNat (16 * h + l), rest)
    | _, _ => none
  | _ => none

def byteCount? (b : UInt8) : Option Nat :=
  if b < 0x80 then some 1
  else if b &&& 0xE0 = 0xC0 then some 2
  else if b &&& 0xF0 = 0xE0 then some 3
  else if b &&& 0xF8 = 0xF0 then some 4
  else none

def tagBytes? : Nat → List Char → Option (List UInt8 × List Char)
  | 0, text => some ([], text)
  | count + 1, text => do
    let (b, rest) ← tagByte? text
    if b &&& 0xC0 != 0x80 then none
    let (bytes, rest) ← tagBytes? count rest
    return (b :: bytes, rest)

/-- A character of which every byte is written as digits, and how long it is so. -/
def tagEscape? (text : List Char) : Option (Char × Nat) := do
  let (b, rest) ← tagByte? text
  let count ← byteCount? b
  let (bytes, _) ← tagBytes? (count - 1) rest
  match Utf8.decode (b :: bytes) with
  | .ok [c] => return (c, 3 * count)
  | _ => return ('\ufffd', 3 * count)

/-- The characters of a tag at the front of a text. Each takes one at least, so `fuel` may be the
length of the text. -/
def tagText (isVerbatim : Bool) : Nat → List Char → Cursor → Option (List Char × Cursor)
  | 0, text, cursor => some (text.reverse, cursor)
  | fuel + 1, text, cursor =>
    match cursor.rest with
    | [] => some (text.reverse, cursor)
    | c :: _ =>
      if c = '%' then
        match tagEscape? cursor.rest with
        | some (d, count) => tagText isVerbatim fuel (d :: text) (cursor.skipCount count)
        | none => none
      else if isTagChar isVerbatim c then tagText isVerbatim fuel (c :: text) cursor.skip
      else some (text.reverse, cursor)

def tagSuffix (isVerbatim : Bool) (lead : List Char) (cursor : Cursor) :
    Option (List Char × Cursor) :=
  tagText isVerbatim cursor.rest.length lead.reverse cursor

/-- A handle: a sign, a name, and if it is there another sign. -/
def tagHandle (cursor : Cursor) : Option (List Char × Cursor) :=
  match cursor.rest with
  | '!' :: _ =>
    let (name, cursor) := cursor.skip.takeWhile isNameChar
    if cursor.startsWith '!' then some ('!' :: name ++ ['!'], cursor.skip)
    else some ('!' :: name, cursor)
  | _ => none

def isFullHandle (handle : List Char) : Bool :=
  1 < handle.length && handle.getLast? = some '!'

/-- Handle and suffix of a tag. A verbatim tag has an empty handle, and so has the sign alone. -/
def tagName (cursor : Cursor) : Option ((String × String) × Cursor) :=
  match cursor.rest with
  | '!' :: '<' :: _ => do
    let (suffix, cursor) ← tagSuffix true [] (cursor.skipCount 2)
    if suffix.isEmpty || !cursor.startsWith '>' then none
    else some (("", String.ofList suffix), cursor.skip)
  | _ => do
    let (handle, cursor) ← tagHandle cursor
    if isFullHandle handle then
      let (suffix, cursor) ← tagSuffix false [] cursor
      if suffix.isEmpty then none
      else some ((String.ofList handle, String.ofList suffix), cursor)
    else
      let (suffix, cursor) ← tagSuffix false handle.tail cursor
      if suffix.isEmpty then some (("", "!"), cursor)
      else some (("!", String.ofList suffix), cursor)

/-! Directives -/

/-- A number of a version has nine digits at most. -/
def versionNumber (cursor : Cursor) : Option (Nat × Cursor) :=
  let (digits, cursor) := cursor.takeWhile isDigit
  if digits.isEmpty || 9 < digits.length then none
  else some (digits.foldl (fun n c => 10 * n + (c.toNat - 48)) 0, cursor)

def versionDirective (cursor : Cursor) : Option (TokenKind × Cursor) := do
  let (major, cursor) ← versionNumber (cursor.skipWhile isBlank)
  if !cursor.startsWith '.' then none
  let (minor, cursor) ← versionNumber cursor.skip
  return (.version major minor, cursor)

def tagDirective (cursor : Cursor) : Option (TokenKind × Cursor) := do
  let (handle, cursor) ← tagHandle (cursor.skipWhile isBlank)
  if !isFullHandle handle && handle != ['!'] then none
  if !cursor.rest.head?.any isBlank then none
  let (lead, cursor) ← tagSuffix true [] (cursor.skipWhile isBlank)
  if lead.isEmpty || !cursor.atSpacingOrEnd then none
  return (.tagHandle (String.ofList handle) (String.ofList lead), cursor)

def directive (cursor : Cursor) : Option ((TokenKind × Mark) × Cursor) := do
  let (name, cursor) := cursor.takeWhile isNameChar
  if name.isEmpty || !cursor.atSpacingOrEnd then none
  let (kind, cursor) ←
    if name = "YAML".toList then versionDirective cursor
    else if name = "TAG".toList then tagDirective cursor
    else none
  let stop := cursor.mark
  let cursor := cursor.skipWhile isBlank
  let cursor := if cursor.startsWith '#' then cursor.skipWhile (!isBreak ·) else cursor
  if !cursor.atBreakOrEnd then none
  return ((kind, stop), cursor.skipBreak)

end OfflineAgent.Yaml
