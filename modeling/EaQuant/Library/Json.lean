import Mathlib.Algebra.GroupWithZero.Nat
import Mathlib.Algebra.Ring.Int.Defs
import Mathlib.Data.List.Sort
import Mathlib.Data.List.TakeDrop

/-!
# Compact ASCII JSON

JSON values without fractions, the text that `json.dumps` gives for them with `ensure_ascii` and
the compact separators, and the escapes of that text. The members of an object are written in the
order in which they are listed.

A code point is either written as itself or as an escape that is read back as the code point
(`writePoint_cases`), and every text is ASCII (`isAscii_encode`), so that bytes tell texts apart
(`asciiBytes_injective`).
-/

namespace EaQuant

/-- A JSON value whose numbers are integers. -/
inductive Json
  | null
  | bool (value : Bool)
  | int (value : ℤ)
  | text (value : String)
  | array (items : List Json)
  | object (members : List (String × Json))

namespace Json

/-! ### Hexadecimal digits and escapes -/

/-- The lowercase hexadecimal digit of a value below sixteen. -/
def hexDigit (value : ℕ) : Char :=
  if value < 10 then Char.ofNat (48 + value) else Char.ofNat (87 + value)

/-- The value of a lowercase hexadecimal digit. -/
def lowerHexValue (character : Char) : Option ℕ :=
  if '0' ≤ character ∧ character ≤ '9' then some (character.toNat - 48)
  else if 'a' ≤ character ∧ character ≤ 'f' then some (character.toNat - 87)
  else none

/-- The value of a hexadecimal digit, of either case, as the escapes that are read may have it. -/
def hexValue (character : Char) : Option ℕ :=
  if 'A' ≤ character ∧ character ≤ 'F' then some (character.toNat - 55)
  else lowerHexValue character

/-- The bytes of a text whose characters are ASCII. -/
def asciiBytes (text : List Char) : List UInt8 := text.map fun character ↦ character.val.toUInt8

/-- A UTF-16 code unit as an escape: a backslash, a `u` and four hexadecimal digits. -/
def unicodeEscape (unit : ℕ) : List Char :=
  ['\\', 'u', hexDigit (unit / 4096 % 16), hexDigit (unit / 256 % 16), hexDigit (unit / 16 % 16),
    hexDigit (unit % 16)]

/-- One code point of a string literal. Outside printable ASCII it is escaped, above the basic plane
as a surrogate pair. A surrogate, which a Python text may hold, is escaped as it is. -/
def writePoint : ℕ → List Char
  | 0x22 => ['\\', '"']
  | 0x5c => ['\\', '\\']
  | 0x08 => ['\\', 'b']
  | 0x0c => ['\\', 'f']
  | 0x0a => ['\\', 'n']
  | 0x0d => ['\\', 'r']
  | 0x09 => ['\\', 't']
  | code =>
    if code < 0x20 ∨ 0x7f ≤ code then
      if code < 0x10000 then unicodeEscape code
      else
        unicodeEscape (0xd800 + (code - 0x10000) / 1024 % 1024) ++
          unicodeEscape (0xdc00 + (code - 0x10000) % 1024)
    else [Char.ofNat code]

def writeCharacter (character : Char) : List Char := writePoint character.toNat

/-! ### Characters -/

/-- The characters of a text. An ASCII text is read off its bytes, which evaluates faster. -/
def characters (text : String) : List Char :=
  let bytes := text.toByteArray.data.toList
  if bytes.all fun byte ↦ decide (byte < 128) then bytes.map fun byte ↦ Char.ofNat byte.toNat
  else text.toList

/-- A character whose bytes are below 128 is its one byte. -/
theorem map_utf8EncodeChar {character : Char}
    (h : ∀ byte ∈ String.utf8EncodeChar character, byte < 128) :
    (String.utf8EncodeChar character).map (fun byte ↦ Char.ofNat byte.toNat) = [character] := by
  simp only [String.utf8EncodeChar] at h ⊢
  split_ifs at h ⊢ with hone htwo hthree
  · have hlt : character.val.toNat % 256 = character.val.toNat := Nat.mod_eq_of_lt (by omega)
    simp only [List.map_cons, List.map_nil, UInt8.toNat_ofNat', hlt]
    exact congrArg (fun c ↦ [c]) (Char.ofNat_toNat character)
  all_goals
    have hfirst := h _ List.mem_cons_self
    rw [UInt8.lt_iff_toNat_lt, UInt8.toNat_ofNat'] at hfirst
    have hbound : (128 : UInt8).toNat = 128 := rfl
    omega

theorem characters_eq (text : String) : characters text = text.toList := by
  have hbytes : text.toByteArray.data.toList = text.toList.flatMap String.utf8EncodeChar := by
    rw [← String.utf8Encode_toList, List.utf8Encode, List.data_toByteArray]
  simp only [characters, hbytes]
  generalize text.toList = list
  split_ifs with h
  · rw [List.all_eq_true] at h
    induction list with
    | nil => rfl
    | cons character rest ih =>
      rw [List.flatMap_cons] at h ⊢
      rw [List.map_append, ih fun byte hbyte ↦ h byte (List.mem_append_right _ hbyte),
        map_utf8EncodeChar fun byte hbyte ↦
          of_decide_eq_true (h byte (List.mem_append_left _ hbyte))]
      rfl
  · rfl

/-- A string literal with its quotes. -/
def writeText (text : String) : List Char :=
  '"' :: (characters text).flatMap writeCharacter ++ ['"']

theorem writeText_eq (text : String) :
    writeText text = '"' :: text.toList.flatMap writeCharacter ++ ['"'] := by
  rw [writeText, characters_eq]

def writeInt : ℤ → List Char
  | .ofNat value => Nat.toDigits 10 value
  | .negSucc value => '-' :: Nat.toDigits 10 (value + 1)

/-- Written parts between commas. -/
def joinComma : List (List Char) → List Char
  | [] => []
  | [part] => part
  | part :: next :: rest => part ++ ',' :: joinComma (next :: rest)

mutual

/-- The compact ASCII text of a value. -/
def encode : Json → List Char
  | null => ['n', 'u', 'l', 'l']
  | bool true => ['t', 'r', 'u', 'e']
  | bool false => ['f', 'a', 'l', 's', 'e']
  | int value => writeInt value
  | text value => writeText value
  | array items => '[' :: joinComma (encodeItems items) ++ [']']
  | object members => '{' :: joinComma (encodeMembers members) ++ ['}']

def encodeItems : List Json → List (List Char)
  | [] => []
  | item :: rest => encode item :: encodeItems rest

def encodeMembers : List (String × Json) → List (List Char)
  | [] => []
  | (key, value) :: rest => (writeText key ++ ':' :: encode value) :: encodeMembers rest

end

/-- The bytes of the compact ASCII text. -/
def bytes (value : Json) : List UInt8 := asciiBytes value.encode

/-! ### Reading -/

/-- Four hexadecimal digits as a code unit. -/
def readUnit : List Char → Option (ℕ × List Char)
  | a :: b :: c :: d :: rest => do
    let a ← hexValue a
    let b ← hexValue b
    let c ← hexValue c
    let d ← hexValue d
    some (a * 4096 + b * 256 + c * 16 + d, rest)
  | _ => none

/-- The high half of a surrogate pair. -/
def isHigh (unit : ℕ) : Bool := decide (0xd800 ≤ unit) && decide (unit < 0xdc00)

/-- The low half of a surrogate pair. -/
def isLow (unit : ℕ) : Bool := decide (0xdc00 ≤ unit) && decide (unit < 0xe000)

/-- The code point above the basic plane that a surrogate pair stands for. -/
def combine (high low : ℕ) : ℕ := 0x10000 + (high - 0xd800) * 1024 + (low - 0xdc00)

/-- The low half of a surrogate pair, where the text goes on with the escape of one. -/
def readLow : List Char → Option (ℕ × List Char)
  | '\\' :: 'u' :: rest => (readUnit rest).filter fun found ↦ isLow found.1
  | _ => none

/-- A code unit that has been read, together with the low half behind it if it is a high one. -/
def joinLow (unit : ℕ × List Char) : ℕ × List Char :=
  if isHigh unit.1 then ((readLow unit.2).map fun low ↦ (combine unit.1 low.1, low.2)).getD unit
  else unit

/-- The code point of an escape, after its backslash. -/
def readEscape : List Char → Option (ℕ × List Char)
  | '"' :: rest => some (0x22, rest)
  | '\\' :: rest => some (0x5c, rest)
  | '/' :: rest => some (0x2f, rest)
  | 'b' :: rest => some (0x08, rest)
  | 'f' :: rest => some (0x0c, rest)
  | 'n' :: rest => some (0x0a, rest)
  | 'r' :: rest => some (0x0d, rest)
  | 't' :: rest => some (0x09, rest)
  | 'u' :: rest => (readUnit rest).map joinLow
  | _ => none

/-- The value of a word, if the input continues with it. -/
def readWord (word : List Char) (value : Json) (input : List Char) : Option (Json × List Char) :=
  if word.isPrefixOf input then some (value, input.drop word.length) else none

/-! ### Characters -/

theorem hexValue_hexDigit : ∀ value < 16, hexValue (hexDigit value) = some value := by decide

theorem readUnit_hexDigits {unit : ℕ} (h : unit < 65536) (rest : List Char) :
    readUnit (hexDigit (unit / 4096 % 16) :: hexDigit (unit / 256 % 16) ::
      hexDigit (unit / 16 % 16) :: hexDigit (unit % 16) :: rest) = some (unit, rest) := by
  have hvalue (value : ℕ) : hexValue (hexDigit (value % 16)) = some (value % 16) :=
    hexValue_hexDigit _ (Nat.mod_lt _ (by decide))
  simp only [readUnit, hvalue, Option.bind_eq_bind, Option.bind_some, Option.some.injEq,
    Prod.mk.injEq, and_true]
  omega

theorem readEscape_unicodeEscape {unit : ℕ} (h : unit < 65536) (rest : List Char) :
    readEscape ((unicodeEscape unit).tail ++ rest) = some (joinLow (unit, rest)) := by
  simp only [unicodeEscape, List.tail_cons, List.cons_append, List.nil_append, readEscape,
    readUnit_hexDigits h, Option.map_some]

theorem readLow_unicodeEscape {unit : ℕ} (h : unit < 65536) (rest : List Char) :
    readLow (unicodeEscape unit ++ rest) = if isLow unit then some (unit, rest) else none := by
  simp only [unicodeEscape, List.cons_append, List.nil_append, readLow, readUnit_hexDigits h,
    Option.filter_some]

theorem joinLow_of_not_high {unit : ℕ} (h : isHigh unit = false) (rest : List Char) :
    joinLow (unit, rest) = (unit, rest) := if_neg (by simp [h])

theorem isHigh_iff {unit : ℕ} : isHigh unit = true ↔ 0xd800 ≤ unit ∧ unit < 0xdc00 := by
  simp [isHigh]

theorem isLow_iff {unit : ℕ} : isLow unit = true ↔ 0xdc00 ≤ unit ∧ unit < 0xe000 := by
  simp [isLow]

/-- A surrogate pair is read as the code point that it stands for. -/
theorem joinLow_of_pair {high low : ℕ} (hhigh : isHigh high = true) (hlow : isLow low = true)
    (rest : List Char) : joinLow (high, unicodeEscape low ++ rest) = (combine high low, rest) := by
  have hunit : low < 65536 := Nat.lt_trans (isLow_iff.mp hlow).2 (by decide)
  simp only [joinLow, hhigh, if_true, readLow_unicodeEscape hunit, hlow, Option.map_some,
    Option.getD_some]

/-- The two halves of a code point above the basic plane give it back. -/
theorem combine_surrogates {code : ℕ} (hlow : 0x10000 ≤ code) (hhigh : code < 0x110000) :
    combine (0xd800 + (code - 0x10000) / 1024 % 1024) (0xdc00 + (code - 0x10000) % 1024) = code := by
  unfold combine
  omega

/-- A code point is written as an escape that is read back, or as itself. -/
theorem writePoint_cases {code : ℕ} (hbound : code < 0x110000) :
    (∃ tail, writePoint code = '\\' :: tail ∧
      (∀ rest, readEscape (tail ++ rest) = some (joinLow (code, rest))) ∧
      ∀ rest, readLow ('\\' :: (tail ++ rest)) = if isLow code then some (code, rest) else none) ∨
    (writePoint code = [Char.ofNat code] ∧ code ≠ 0x22 ∧ code ≠ 0x5c ∧ 0x20 ≤ code ∧
      code < 0x7f) := by
  unfold writePoint
  split
  case h_8 h₁ h₂ h₃ h₄ h₅ h₆ h₇ =>
    by_cases hprint : code < 0x20 ∨ 0x7f ≤ code
    case neg => exact .inr ⟨if_neg hprint, h₁, h₂, by omega, by omega⟩
    rw [if_pos hprint]
    by_cases hplane : code < 0x10000
    · rw [if_pos hplane]
      exact .inl ⟨(unicodeEscape code).tail, rfl, readEscape_unicodeEscape hplane,
        readLow_unicodeEscape hplane⟩
    · rw [if_neg hplane]
      have hfirst : isHigh (0xd800 + (code - 0x10000) / 1024 % 1024) = true :=
        isHigh_iff.mpr (by omega)
      have hsecond : isLow (0xdc00 + (code - 0x10000) % 1024) = true := isLow_iff.mpr (by omega)
      have hhigh : ¬isHigh code = true := fun h ↦ by
        have hless := (isHigh_iff.mp h).2
        omega
      have hlow : ¬isLow code = true := fun h ↦ by
        have hless := (isLow_iff.mp h).2
        omega
      have hapart : ¬isLow (0xd800 + (code - 0x10000) / 1024 % 1024) = true := fun h ↦ by
        have hless := (isLow_iff.mp h).1
        omega
      have hunit : 0xd800 + (code - 0x10000) / 1024 % 1024 < 65536 := by omega
      refine .inl ⟨(unicodeEscape (0xd800 + (code - 0x10000) / 1024 % 1024)).tail ++
        unicodeEscape (0xdc00 + (code - 0x10000) % 1024), rfl, fun rest ↦ ?_, fun rest ↦ ?_⟩
      · rw [List.append_assoc, readEscape_unicodeEscape hunit, joinLow_of_pair hfirst hsecond,
          combine_surrogates (Nat.le_of_not_lt hplane) hbound,
          joinLow_of_not_high (Bool.eq_false_of_not_eq_true hhigh)]
      · rw [if_neg hlow, List.append_assoc]
        exact (readLow_unicodeEscape hunit _).trans (if_neg hapart)
  all_goals exact .inl ⟨[_], rfl, fun rest ↦ rfl, fun rest ↦ rfl⟩

theorem toNat_lt (character : Char) : character.toNat < 0x110000 := by
  rcases character.valid with h | h
  · exact Nat.lt_trans h (by decide)
  · exact h.2

theorem writeCharacter_ne_nil (character : Char) : writeCharacter character ≠ [] := by
  unfold writeCharacter writePoint
  split <;> (try split_ifs) <;> simp [unicodeEscape]

theorem length_le_flatMap_writeCharacter (characters : List Char) :
    characters.length ≤ (characters.flatMap writeCharacter).length := by
  induction characters with
  | nil => exact Nat.le_refl 0
  | cons head tail ih =>
    have hhead := List.length_pos_iff.mpr (writeCharacter_ne_nil head)
    simp only [List.length_cons, List.flatMap_cons, List.length_append]
    omega

/-! ### Numbers -/

/-- The text does not continue a number. -/
def Stops (rest : List Char) : Prop := ∀ head ∈ rest.head?, head.isDigit = false

theorem stops_nil : Stops [] := by simp [Stops]

theorem stops_cons {head : Char} (h : head.isDigit = false) (rest : List Char) :
    Stops (head :: rest) := by simpa [Stops] using h

theorem takeWhile_digits {digits rest : List Char} (hdigits : ∀ c ∈ digits, c.isDigit = true)
    (hrest : Stops rest) : (digits ++ rest).takeWhile Char.isDigit = digits := by
  rw [List.takeWhile_append_of_pos hdigits]
  cases rest with
  | nil => simp
  | cons head tail => simp [hrest head rfl]

theorem dropWhile_digits {digits rest : List Char} (hdigits : ∀ c ∈ digits, c.isDigit = true)
    (hrest : Stops rest) : (digits ++ rest).dropWhile Char.isDigit = rest := by
  rw [List.dropWhile_append_of_pos hdigits]
  cases rest with
  | nil => simp
  | cons head tail => simp [hrest head rfl]

theorem isDigit_toDigits {value : ℕ} : ∀ c ∈ Nat.toDigits 10 value, c.isDigit = true :=
  fun _ hc ↦ Nat.isDigit_of_mem_toDigits (by decide) (by decide) hc

/-! ### Bytes -/

/-- Every character is ASCII. -/
def IsAscii (text : List Char) : Prop := ∀ character ∈ text, character.toNat < 128

@[simp] theorem isAscii_nil : IsAscii [] := by simp [IsAscii]

@[simp] theorem isAscii_cons (head : Char) (tail : List Char) :
    IsAscii (head :: tail) ↔ head.toNat < 128 ∧ IsAscii tail := by simp [IsAscii]

@[simp] theorem isAscii_append (first second : List Char) :
    IsAscii (first ++ second) ↔ IsAscii first ∧ IsAscii second := by
  simp only [IsAscii, List.mem_append, or_imp, forall_and]

theorem isAscii_unicodeEscape (unit : ℕ) : IsAscii (unicodeEscape unit) := by
  have hdigit : ∀ value < 16, (hexDigit value).toNat < 128 := by decide
  have hmod (value : ℕ) : (hexDigit (value % 16)).toNat < 128 :=
    hdigit _ (Nat.mod_lt _ (by decide))
  simp [unicodeEscape, hmod]

theorem isAscii_writeCharacter (character : Char) : IsAscii (writeCharacter character) := by
  unfold writeCharacter writePoint
  split
  case h_8 code h₁ h₂ h₃ h₄ h₅ h₆ h₇ =>
    split_ifs with hprint hplane
    · exact isAscii_unicodeEscape _
    · simp [isAscii_unicodeEscape]
    · simp only [isAscii_cons, isAscii_nil, and_true, Char.ofNat_toNat]
      omega
  all_goals simp

theorem isAscii_writeText (value : String) : IsAscii (writeText value) := by
  have hbody : IsAscii (value.toList.flatMap writeCharacter) := by
    intro character hcharacter
    obtain ⟨source, -, hsource⟩ := List.mem_flatMap.mp hcharacter
    exact isAscii_writeCharacter source character hsource
  simp [writeText_eq, hbody]

theorem isAscii_writeInt (value : ℤ) : IsAscii (writeInt value) := by
  have hdigits (value : ℕ) : IsAscii (Nat.toDigits 10 value) := by
    intro character hcharacter
    have hdigit := isDigit_toDigits character hcharacter
    simp only [Char.isDigit, Bool.and_eq_true, decide_eq_true_eq] at hdigit
    exact Nat.lt_of_le_of_lt (UInt32.le_iff_toNat_le.mp hdigit.2) (by decide)
  cases value with
  | ofNat value => exact hdigits value
  | negSucc value => simp [writeInt, hdigits]

theorem isAscii_joinComma (parts : List (List Char)) (h : ∀ part ∈ parts, IsAscii part) :
    IsAscii (joinComma parts) := by
  induction parts using joinComma.induct with
  | case1 => simp [joinComma]
  | case2 part => exact h part List.mem_cons_self
  | case3 part next rest ih =>
    have hrest := ih fun other hother ↦ h other (List.mem_cons_of_mem _ hother)
    simp [joinComma, h part List.mem_cons_self, hrest]

mutual

theorem isAscii_encode : ∀ value : Json, IsAscii (encode value)
  | null => by simp [encode]
  | bool true => by simp [encode]
  | bool false => by simp [encode]
  | int value => isAscii_writeInt value
  | text value => isAscii_writeText value
  | array items => by simp [encode, isAscii_joinComma _ (isAscii_encodeItems items)]
  | object members => by simp [encode, isAscii_joinComma _ (isAscii_encodeMembers members)]

theorem isAscii_encodeItems : ∀ (items : List Json), ∀ part ∈ encodeItems items, IsAscii part
  | [] => by simp [encodeItems]
  | item :: rest => by
    simpa [encodeItems] using ⟨isAscii_encode item, isAscii_encodeItems rest⟩

theorem isAscii_encodeMembers : ∀ (members : List (String × Json)),
    ∀ part ∈ encodeMembers members, IsAscii part
  | [] => by simp [encodeMembers]
  | (key, value) :: rest => by
    simpa [encodeMembers, isAscii_writeText key, isAscii_encode value] using
      isAscii_encodeMembers rest

end

/-- ASCII characters with one byte are one character. -/
theorem toUInt8_injective {first second : Char} (hfirst : first.toNat < 128)
    (hsecond : second.toNat < 128) (h : first.val.toUInt8 = second.val.toUInt8) :
    first = second := by
  have hbyte := congrArg UInt8.toNat h
  simp only [UInt32.toNat_toUInt8] at hbyte
  change first.toNat % 2 ^ 8 = second.toNat % 2 ^ 8 at hbyte
  rw [Nat.mod_eq_of_lt (by omega), Nat.mod_eq_of_lt (by omega)] at hbyte
  rw [← Char.ofNat_toNat first, hbyte, Char.ofNat_toNat]

theorem asciiBytes_injective {first second : List Char} (hfirst : IsAscii first)
    (hsecond : IsAscii second) (h : asciiBytes first = asciiBytes second) : first = second := by
  induction first generalizing second with
  | nil =>
    cases second with
    | nil => rfl
    | cons head tail => cases h
  | cons head tail ih =>
    cases second with
    | nil => cases h
    | cons other rest =>
      simp only [isAscii_cons] at hfirst hsecond
      simp only [asciiBytes, List.map_cons, List.cons.injEq] at h
      rw [toUInt8_injective hfirst.1 hsecond.1 h.1, ih hfirst.2 hsecond.2 h.2]

example : encode (array [int (-10), text "\n\"", bool true]) = "[-10,\"\\n\\\"\",true]".toList := by
  decide

/-! ### Keys -/

mutual

/-- No object within a value has a key twice. -/
def distinctKeys : Json → Bool
  | array items => distinctKeysItems items
  | object members => decide (members.map Prod.fst).Nodup && distinctKeysMembers members
  | _ => true

def distinctKeysItems : List Json → Bool
  | [] => true
  | item :: rest => distinctKeys item && distinctKeysItems rest

def distinctKeysMembers : List (String × Json) → Bool
  | [] => true
  | (_, value) :: rest => distinctKeys value && distinctKeysMembers rest

end

mutual

/-- A value with the members of every object in the order of their keys. -/
def sortKeys : Json → Json
  | array items => array (sortKeysItems items)
  | object members =>
    object ((sortKeysMembers members).insertionSort fun first second ↦ first.1 ≤ second.1)
  | value => value

def sortKeysItems : List Json → List Json
  | [] => []
  | item :: rest => sortKeys item :: sortKeysItems rest

def sortKeysMembers : List (String × Json) → List (String × Json)
  | [] => []
  | (key, value) :: rest => (key, sortKeys value) :: sortKeysMembers rest

end

/-! ### Lengths -/

theorem length_writeCharacter_le (character : Char) : (writeCharacter character).length ≤ 12 := by
  unfold writeCharacter writePoint
  split <;> try simp
  split_ifs <;> simp [unicodeEscape]

theorem length_writeText_le (value : String) : (writeText value).length ≤ 12 * value.length + 2 := by
  have hflat : ∀ characters : List Char,
      (characters.flatMap writeCharacter).length ≤ 12 * characters.length := by
    intro characters
    induction characters with
    | nil => simp
    | cons head tail ih =>
      have hhead := length_writeCharacter_le head
      simp only [List.flatMap_cons, List.length_append, List.length_cons]
      omega
  have hvalue := hflat value.toList
  simp only [writeText_eq, List.length_cons, List.length_append, List.length_nil]
  rw [String.length_toList] at hvalue
  omega

/-- An unsigned 64-bit integer takes twenty characters at most. -/
theorem length_writeInt_le {number : ℕ} (h : number < 2 ^ 64) :
    (writeInt number).length ≤ 20 :=
  (Nat.length_toDigits_le_iff (by decide) (by decide)).mpr (h.trans (by decide))

theorem length_joinComma_le (parts : List (List Char)) :
    (joinComma parts).length ≤ (parts.map fun part ↦ part.length + 1).sum := by
  induction parts with
  | nil => simp [joinComma]
  | cons part rest ih =>
    cases rest with
    | nil => simp [joinComma]
    | cons next rest =>
      simp only [joinComma, List.length_append, List.length_cons, List.map_cons,
        List.sum_cons] at ih ⊢
      omega

mutual

/-- The length of the text of a value, with a comma after each part. -/
def weight : Json → ℕ
  | null => 4
  | bool _ => 5
  | int value => (writeInt value).length
  | text value => (writeText value).length
  | array items => itemsWeight items + 2
  | object members => membersWeight members + 2

def itemsWeight : List Json → ℕ
  | [] => 0
  | item :: rest => weight item + 1 + itemsWeight rest

def membersWeight : List (String × Json) → ℕ
  | [] => 0
  | (key, value) :: rest => (writeText key).length + weight value + 2 + membersWeight rest

end

mutual

theorem length_encode_le : ∀ value : Json, (encode value).length ≤ weight value
  | null => by simp [encode, weight]
  | bool true => by simp [encode, weight]
  | bool false => by simp [encode, weight]
  | int value => by simp [encode, weight]
  | text value => by simp [encode, weight]
  | array items => by
    have hjoin := length_joinComma_le (encodeItems items)
    have hitems := length_encodeItems_le items
    simp only [encode, weight, List.length_cons, List.length_append, List.length_nil]
    omega
  | object members => by
    have hjoin := length_joinComma_le (encodeMembers members)
    have hmembers := length_encodeMembers_le members
    simp only [encode, weight, List.length_cons, List.length_append, List.length_nil]
    omega

theorem length_encodeItems_le : ∀ items : List Json,
    ((encodeItems items).map fun part ↦ part.length + 1).sum ≤ itemsWeight items
  | [] => by simp [encodeItems, itemsWeight]
  | item :: rest => by
    have hitem := length_encode_le item
    have hrest := length_encodeItems_le rest
    simp only [encodeItems, itemsWeight, List.map_cons, List.sum_cons]
    omega

theorem length_encodeMembers_le : ∀ members : List (String × Json),
    ((encodeMembers members).map fun part ↦ part.length + 1).sum ≤ membersWeight members
  | [] => by simp [encodeMembers, membersWeight]
  | (key, value) :: rest => by
    have hvalue := length_encode_le value
    have hrest := length_encodeMembers_le rest
    simp only [encodeMembers, membersWeight, List.map_cons, List.sum_cons, List.length_append,
      List.length_cons]
    omega

end

theorem length_bytes_le (value : Json) : value.bytes.length ≤ value.weight := by
  rw [bytes, asciiBytes, List.length_map]
  exact length_encode_le value

theorem itemsWeight_map_le {α : Type*} {document : α → Json} {items : List α} {bound : ℕ}
    (h : ∀ item ∈ items, weight (document item) ≤ bound) :
    itemsWeight (items.map document) ≤ items.length * (bound + 1) := by
  induction items with
  | nil => simp [itemsWeight]
  | cons item rest ih =>
    rw [List.forall_mem_cons] at h
    have hrest := ih h.2
    rw [List.map_cons, itemsWeight, List.length_cons, Nat.succ_mul]
    omega

/-! ### Texts without escapes -/

/-- A character that is written as it is. -/
def isPlain (character : Char) : Bool :=
  0x20 ≤ character.toNat && character.toNat < 0x7f && character != '"' && character != '\\'

theorem writeCharacter_of_plain {character : Char} (h : isPlain character = true) :
    writeCharacter character = [character] := by
  simp only [isPlain, Bool.and_eq_true, decide_eq_true_eq, bne_iff_ne, ne_eq] at h
  obtain ⟨⟨⟨hlow, hhigh⟩, hquote⟩, hslash⟩ := h
  have hquote : character.toNat ≠ 0x22 := fun heq ↦ hquote (Char.toNat_inj.mp heq)
  have hslash : character.toNat ≠ 0x5c := fun heq ↦ hslash (Char.toNat_inj.mp heq)
  unfold writeCharacter writePoint
  split
  all_goals first | omega | skip
  rw [if_neg (by omega), Char.ofNat_toNat]

theorem isPlain_of_range {low high character : Char}
    (h : low.toNat ≤ character.toNat ∧ character.toNat ≤ high.toNat) (hlow : 0x23 ≤ low.toNat)
    (hhigh : high.toNat < 0x7f) (hslash : high.toNat < 0x5c ∨ 0x5c < low.toNat) :
    isPlain character = true := by
  have hne {other : Char} (hother : other.toNat < low.toNat ∨ high.toNat < other.toNat) :
      character ≠ other := by
    rintro rfl
    omega
  have hquote : '"'.toNat = 0x22 := rfl
  have hbackslash : '\\'.toNat = 0x5c := rfl
  simp only [isPlain, Bool.and_eq_true, decide_eq_true_eq, bne_iff_ne]
  exact ⟨⟨⟨by omega, by omega⟩, hne (by omega)⟩, hne (by omega)⟩

/-- A text whose characters are written as they are. -/
def IsPlain (text : String) : Prop := text.toList.all isPlain = true

instance (text : String) : Decidable (IsPlain text) := inferInstanceAs (Decidable (_ = _))

theorem isPlain_iff {text : String} :
    IsPlain text ↔ ∀ character ∈ text.toList, isPlain character = true := List.all_eq_true

theorem length_writeText_of_plain {text : String} (h : IsPlain text) :
    (writeText text).length = text.length + 2 := by
  have hflat : ∀ characters : List Char, (∀ character ∈ characters, isPlain character = true) →
      characters.flatMap writeCharacter = characters := by
    intro characters hplain
    induction characters with
    | nil => rfl
    | cons head tail ih =>
      rw [List.forall_mem_cons] at hplain
      rw [List.flatMap_cons, writeCharacter_of_plain hplain.1, ih hplain.2, List.singleton_append]
  rw [writeText_eq, hflat _ (isPlain_iff.mp h), List.length_append, List.length_cons,
    List.length_singleton, String.length_toList]

end Json

end EaQuant
