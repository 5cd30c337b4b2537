import XdpSteering.Text.Numeral
import XdpSteering.Yaml.Token

/-!
# Directives, anchors and tags in YAML text

The tokens that say something about the document or about the node that follows.
-/

namespace XdpSteering.Yaml

open XdpSteering.Text

/-! ## Anchors -/

/-- Reads the name of an anchor or an alias, whose sign is at the cursor. -/
def readName (context : String) (cursor : Cursor) : Except Problem (String × Cursor) :=
  let start := cursor.mark
  let (name, cursor) := cursor.advance.spanLine isNameChar
  let ends := cursor.isGap 0 || cursor.test 0 fun char => "?:,]\x7d%@`".toList.contains char
  if name.isEmpty || !ends then
    .error ⟨"did not find expected alphabetic or numeric character", cursor.mark,
      some (context, start)⟩
  else .ok (String.ofList name, cursor)

/-! ## Tags -/

/-- How many octets a character has that begins with this one. -/
def octetCount (octet : UInt8) : Nat :=
  if octet < 0x80 then 1
  else if octet &&& 0xE0 = 0xC0 then 2
  else if octet &&& 0xF0 = 0xE0 then 3
  else if octet &&& 0xF8 = 0xF0 then 4
  else 0

/-- Reads the escaped octets of one character; `owed` is how many are missing, if one was read. -/
def readTagEscape (context : String × Mark) (octets : Octets) (owed : Option Nat)
    (cursor : Cursor) : Nat → Except Problem (Octets × Cursor)
  | 0 => .ok (octets, cursor)
  | fuel + 1 => do
    let fault := fun (problem : String) => Problem.mk problem cursor.mark (some context)
    match cursor.rest with
    | '%' :: high :: low :: _ =>
      match digit? 16 high, digit? 16 low with
      | some high, some low =>
        let octet := UInt8.ofNat (high * 16 + low)
        let owed ←
          match owed with
          | none =>
            if octetCount octet = 0 then throw (fault "found an incorrect leading UTF-8 octet")
            else pure (octetCount octet)
          | some owed =>
            if octet &&& 0xC0 = 0x80 then pure owed
            else throw (fault "found an incorrect trailing UTF-8 octet")
        if owed ≤ 1 then return (octets ++ [octet], cursor.skip 3)
        readTagEscape context (octets ++ [octet]) (some (owed - 1)) (cursor.skip 3) fuel
      | _, _ => throw (fault "did not find URI escaped octet")
    | _ => throw (fault "did not find URI escaped octet")

def readTagChars (inDirective : Bool) (context : String × Mark) (octets : Octets)
    (cursor : Cursor) : Nat → Except Problem (Octets × Cursor)
  | 0 => .ok (octets, cursor)
  | fuel + 1 =>
    match cursor.head with
    | none => .ok (octets, cursor)
    | some char =>
      if !(isTagChar inDirective char) then .ok (octets, cursor)
      else if char = '%' then do
        let (more, cursor) ← readTagEscape context [] none cursor 4
        readTagChars inDirective context (octets ++ more) cursor fuel
      else
        readTagChars inDirective context (octets ++ Utf8.encode char.toString) cursor.advance fuel

/-- Reads a tag whose first characters were read as a handle. It ends in front of an escaped zero.
-/
def readTagUri (inDirective longForm : Bool) (context : String × Mark) (handle : String)
    (cursor : Cursor) : Except Problem (Octets × Cursor) := do
  let head := String.ofList (handle.toList.drop 1)
  let (octets, next) ←
    readTagChars longForm context (Utf8.encode head) cursor cursor.rest.length
  if handle.isEmpty && octets.isEmpty then
    let what := if inDirective then "while parsing a %TAG directive" else "while parsing a tag"
    throw ⟨"did not find expected tag URI", next.mark, some (what, context.2)⟩
  return (octets.takeWhile (· ≠ 0), next)

/-- Reads the handle in front of a tag. -/
def readHandle (inDirective : Bool) (start : Mark) (cursor : Cursor) :
    Except Problem (String × Cursor) :=
  if !cursor.isAt '!' then
    let what := if inDirective then "while scanning a tag directive" else "while scanning a tag"
    .error ⟨"did not find expected '!'", cursor.mark, some (what, start)⟩
  else
    let (name, next) := cursor.advance.spanLine isNameChar
    if next.isAt '!' then .ok (String.ofList ('!' :: name ++ ['!']), next.advance)
    else if inDirective && !name.isEmpty then
      .error ⟨"did not find expected '!'", next.mark, some ("while parsing a tag directive", start)⟩
    else .ok (String.ofList ('!' :: name), next)

/-- The tag that is nothing but its sign. -/
def bareTag : Octets := [0x21]

/-- Reads a tag, whose sign is at the cursor: its handle and the rest of it. -/
def readTag (inFlow : Bool) (cursor : Cursor) : Except Problem (String × Octets × Cursor) := do
  let start := cursor.mark
  let parsing := ("while parsing a tag", start)
  let scanning := some ("while scanning a tag", start)
  let (handle, suffix, cursor) ←
    if cursor.peek 1 = some '<' then do
      let (suffix, cursor) ← readTagUri false true parsing "" (cursor.skip 2)
      if !cursor.isAt '>' then
        throw ⟨"did not find the expected '>'", cursor.mark, scanning⟩
      pure ("", suffix, cursor.advance)
    else do
      let (handle, next) ← readHandle false start cursor
      if 2 ≤ handle.length && handle.toList.getLast? = some '!' then
        let (suffix, cursor) ← readTagUri false false parsing "" next
        pure (handle, suffix, cursor)
      else
        let (suffix, cursor) ← readTagUri false false parsing handle next
        -- What was read as a handle belongs to the tag itself.
        pure (if suffix.isEmpty then ("", bareTag, cursor) else ("!", suffix, cursor))
  if (!inFlow || !cursor.isAt ',') && !cursor.isGap 0 then
    throw ⟨"did not find expected whitespace or line break", cursor.mark, scanning⟩
  return (handle, suffix, cursor)

/-! ## Directives -/

/-- Reads a part of a version number. -/
def readVersionPart (start : Mark) (cursor : Cursor) : Except Problem (Nat × Cursor) :=
  let context := some ("while scanning a %YAML directive", start)
  let (digits, next) := cursor.spanLine Char.isDigit
  if 9 < digits.length then
    .error ⟨"found extremely long version number", (cursor.skip 9).mark, context⟩
  else if digits.isEmpty then .error ⟨"did not find expected version number", next.mark, context⟩
  else .ok (digits.foldl (fun value digit => value * 10 + (digit.toNat - 48)) 0, next)

def readVersion (start : Mark) (cursor : Cursor) : Except Problem (TokenKind × Cursor) := do
  let (major, cursor) ← readVersionPart start (cursor.skipWhile isSpacing)
  if !cursor.isAt '.' then
    throw ⟨"did not find expected digit or '.' character", cursor.mark,
      some ("while scanning a %YAML directive", start)⟩
  let (minor, cursor) ← readVersionPart start cursor.advance
  return (.versionDirective major minor, cursor)

def readTagExpansion (start : Mark) (cursor : Cursor) : Except Problem (TokenKind × Cursor) := do
  let context := some ("while scanning a %TAG directive", start)
  let (handle, cursor) ← readHandle true start (cursor.skipWhile isSpacing)
  if !cursor.atSpacing then
    throw ⟨"did not find expected whitespace", cursor.mark, context⟩
  let (expansion, cursor) ←
    readTagUri true true ("while parsing a %TAG directive", start) ""
      (cursor.skipWhile isSpacing)
  if !cursor.isGap 0 then
    throw ⟨"did not find expected whitespace or line break", cursor.mark, context⟩
  return (.tagDirective handle expansion, cursor)

/-- Reads a directive, whose sign is at the cursor, with the rest of its line. -/
def readDirective (cursor : Cursor) : Except Problem (Token × Cursor) := do
  let start := cursor.mark
  let context := some ("while scanning a directive", start)
  let (name, cursor) := cursor.advance.spanLine isNameChar
  if name.isEmpty then
    throw ⟨"could not find expected directive name", cursor.mark, context⟩
  if !cursor.isGap 0 then
    throw ⟨"found unexpected non-alphabetical character", cursor.mark, context⟩
  let (kind, cursor) ←
    if name = "YAML".toList then readVersion start cursor
    else if name = "TAG".toList then readTagExpansion start cursor
    else throw ⟨"found unknown directive name", cursor.mark, context⟩
  let stop := cursor.mark
  let cursor := cursor.skipWhile isSpacing
  let cursor := if cursor.isAt '#' then cursor.skipWhile fun char => !isBreak char else cursor
  if !cursor.atLineEnd then
    throw ⟨"did not find expected comment or line break", cursor.mark, context⟩
  return (⟨kind, start, stop⟩, cursor.nextLine.2)

end XdpSteering.Yaml
