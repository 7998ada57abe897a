import EaQuant.Library.Utf8
import EaQuant.Quine.Protocol

/-!
# Canonical JSON bytes

`canonical.rs` renders one JSON value as compact ASCII JSON with sorted object keys: the form that
Python's `json.dumps` gives with `ensure_ascii`, `sort_keys` and the compact separators. A float is
refused rather than rendered. Keys are sorted as Rust's strings are compared, by their UTF-8 bytes.
The members of an object are rendered before they are sorted here, so that the recursion follows the
value; the order of rendering is not observable, since the only error has no content.
-/

namespace EaQuant.Quine

open EaQuant.Json (asciiBytes)

inductive CanonicalError
  | unsupportedNumber
  deriving DecidableEq

/-- The `Display` text of a canonical error. -/
def CanonicalError.text : CanonicalError → String
  | .unsupportedNumber => "a JSON number with a fraction or exponent is not canonical input"

/-- The four digits of the format `04x`. -/
def hexFour (code : ℕ) : List Char :=
  let digits := Nat.toDigits 16 code
  List.replicate (4 - digits.length) '0' ++ digits

/-- The bytes that a character of a string adds. -/
def writeCharacter (character : Char) : List UInt8 :=
  match character.toNat with
  | 0x22 => asciiBytes ['\\', '"']
  | 0x5c => asciiBytes ['\\', '\\']
  | 0x08 => asciiBytes ['\\', 'b']
  | 0x0c => asciiBytes ['\\', 'f']
  | 0x0a => asciiBytes ['\\', 'n']
  | 0x0d => asciiBytes ['\\', 'r']
  | 0x09 => asciiBytes ['\\', 't']
  | code =>
    if code < 0x20 ∨ 0x7f ≤ code then
      if code < 0x10000 then asciiBytes ('\\' :: 'u' :: hexFour code)
      else
        let code := code - 0x10000
        let high := 0xd800 ||| ((code >>> 10) &&& 0x3ff)
        let low := 0xdc00 ||| (code &&& 0x3ff)
        asciiBytes ('\\' :: 'u' :: hexFour high ++ '\\' :: 'u' :: hexFour low)
    else [UInt8.ofNat code]

def writeString (text : String) : List UInt8 :=
  asciiBytes ['"'] ++ text.toList.flatMap writeCharacter ++ asciiBytes ['"']

def writeNumber : Number → Except CanonicalError (List UInt8)
  | .posInt value => .ok (asciiBytes (toString value).toList)
  | .negInt value => .ok (asciiBytes (toString value).toList)
  | .float _ => .error .unsupportedNumber

/-- Rendered parts between commas. -/
def joinComma (parts : List (List UInt8)) : List UInt8 :=
  (parts.intersperse (asciiBytes [','])).flatten

/-- A rendered member: its key, a colon and its value. -/
def writeMember (member : String × List UInt8) : List UInt8 :=
  writeString member.1 ++ asciiBytes [':'] ++ member.2

/-- Rendered members in the order of their keys. -/
def sortMembers (members : List (String × List UInt8)) : List (String × List UInt8) :=
  members.insertionSort fun left right ↦ Utf8.bytes left.1 ≤ Utf8.bytes right.1

mutual

def canonicalJsonBytes : Value → Except CanonicalError (List UInt8)
  | .null => .ok (asciiBytes "null".toList)
  | .bool true => .ok (asciiBytes "true".toList)
  | .bool false => .ok (asciiBytes "false".toList)
  | .number number => writeNumber number
  | .string text => .ok (writeString text)
  | .array items => do
    let parts ← writeItems items
    pure (asciiBytes ['['] ++ joinComma parts ++ asciiBytes [']'])
  | .object members => do
    let parts ← writeMembers members
    pure (asciiBytes ['{'] ++ joinComma ((sortMembers parts).map writeMember) ++ asciiBytes ['}'])

def writeItems : List Value → Except CanonicalError (List (List UInt8))
  | [] => .ok []
  | item :: rest => do
    let part ← canonicalJsonBytes item
    let parts ← writeItems rest
    pure (part :: parts)

def writeMembers : List (String × Value) → Except CanonicalError (List (String × List UInt8))
  | [] => .ok []
  | (key, value) :: rest => do
    let part ← canonicalJsonBytes value
    let parts ← writeMembers rest
    pure ((key, part) :: parts)

end

example : canonicalJsonBytes (.object [("b", .bool true), ("a", .string "\n")]) =
    .ok (asciiBytes "\x7b\"a\":\"\\n\",\"b\":true\x7d".toList) := by rfl

end EaQuant.Quine
