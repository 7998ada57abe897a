import EaQuant.Library.Digits
import EaQuant.Library.JsonEquality

/-!
# Reading JSON

The reader `json.loads`: JSON text with its white space and all its escapes, and the payloads in
UTF-8 that hold such a text. A number with a fraction or an exponent, which `Json` has no value for,
is not read here. `loads_encode` and `loadsBytes_bytes` say that a written value is read back. It
makes the writer injective (`encode_injective`), also as bytes (`bytes_injective`), so two documents
with one canonical text are one document.
-/

namespace EaQuant.Json

/-! ### The reader -/

/-- The white space between the parts of a text. -/
def isSpace (character : Char) : Bool :=
  character = ' ' || character = '\t' || character = '\n' || character = '\r'

def skipSpace (input : List Char) : List Char := input.dropWhile isSpace

/-- The code points of a string literal up to its closing quote, none of them a control. -/
def loadPoints : ℕ → List Char → Option (List ℕ × List Char)
  | 0, _ => none
  | _ + 1, [] => none
  | fuel + 1, head :: rest =>
    if head = '"' then some ([], rest)
    else (if head = '\\' then readEscape rest
      else if head.toNat < 0x20 then none else some (head.toNat, rest)).bind fun first ↦
        (loadPoints fuel first.2).map fun found ↦ (first.1 :: found.1, found.2)

/-- The text of code points, none of them a surrogate. -/
def textOfPoints (points : List ℕ) : Option String :=
  if points.all fun point ↦ !(isHigh point || isLow point) then
    some (String.ofList (points.map Char.ofNat))
  else none

/-- The text of a string literal, and what is behind its closing quote. -/
def loadText (fuel : ℕ) (input : List Char) : Option (String × List Char) :=
  (loadPoints fuel input).bind fun found ↦
    (textOfPoints found.1).map fun text ↦ (text, found.2)

/-- A fraction or an exponent goes on behind an integer. -/
def continuesNumber (rest : List Char) : Bool :=
  rest.head? = some '.' || rest.head? = some 'e' || rest.head? = some 'E'

/-- A run of digits without a leading zero that is a whole number. -/
def loadNat (input : List Char) : Option (ℕ × List Char) :=
  match input.takeWhile Char.isDigit with
  | [] => none
  | '0' :: _ :: _ => none
  | digits =>
    if continuesNumber (input.dropWhile Char.isDigit) then none
    else some (Nat.ofDigitChars 10 digits 0, input.dropWhile Char.isDigit)

mutual

/-- A value at the front of a text, and the text behind it. -/
def loadValue : ℕ → List Char → Option (Json × List Char)
  | 0, _ => none
  | _ + 1, [] => none
  | fuel + 1, head :: rest =>
    if head = '"' then
      (loadText fuel rest).map fun found ↦ (text found.1, found.2)
    else if head = '[' then
      if (skipSpace rest).head? = some ']' then some (array [], (skipSpace rest).tail)
      else (loadItems fuel (skipSpace rest)).map fun found ↦ (array found.1, found.2)
    else if head = '{' then
      if (skipSpace rest).head? = some '}' then some (object [], (skipSpace rest).tail)
      else (loadMembers fuel (skipSpace rest)).map fun found ↦ (object found.1, found.2)
    else if head = '-' then (loadNat rest).map fun found ↦ (int (-found.1), found.2)
    else if head.isDigit then (loadNat (head :: rest)).map fun found ↦ (int found.1, found.2)
    else if head = 'n' then readWord ['u', 'l', 'l'] null rest
    else if head = 't' then readWord ['r', 'u', 'e'] (bool true) rest
    else if head = 'f' then readWord ['a', 'l', 's', 'e'] (bool false) rest
    else none

/-- The items of an array, after its opening bracket. -/
def loadItems : ℕ → List Char → Option (List Json × List Char)
  | 0, _ => none
  | fuel + 1, input => (loadValue fuel input).bind fun item ↦
    let rest := skipSpace item.2
    if rest.head? = some ']' then some ([item.1], rest.tail)
    else if rest.head? = some ',' then
      (loadItems fuel (skipSpace rest.tail)).map fun found ↦ (item.1 :: found.1, found.2)
    else none

/-- The members of an object, after its opening brace. -/
def loadMembers : ℕ → List Char → Option (List (String × Json) × List Char)
  | 0, _ => none
  | fuel + 1, input => (loadMember fuel input).bind fun member ↦
    let rest := skipSpace member.2
    if rest.head? = some '}' then some ([member.1], rest.tail)
    else if rest.head? = some ',' then
      (loadMembers fuel (skipSpace rest.tail)).map fun found ↦ (member.1 :: found.1, found.2)
    else none

/-- A key, a colon and a value. -/
def loadMember : ℕ → List Char → Option ((String × Json) × List Char)
  | 0, _ => none
  | fuel + 1, input =>
    if input.head? = some '"' then (loadText fuel input.tail).bind fun key ↦
      let rest := skipSpace key.2
      if rest.head? = some ':' then
        (loadValue fuel (skipSpace rest.tail)).map fun found ↦
          ((key.1, found.1), found.2)
      else none
    else none

end

/-- `json.loads` of a text. -/
def loads (input : List Char) : Option Json :=
  (loadValue (input.length + 1) (skipSpace input)).bind fun found ↦
    if skipSpace found.2 = [] then some found.1 else none

/-- `json.loads` of a payload in UTF-8. -/
def loadsBytes (payload : List UInt8) : Option Json :=
  (ByteArray.utf8Decode? ⟨payload.toArray⟩).bind fun characters ↦ loads characters.toList

/-- The value of a key in the `dict` of an object: its last member with the key. -/
def dictGet (members : List (String × Json)) (key : String) : Option Json :=
  members.reverse.lookup key

/-- The keys of the `dict` of an object are the given ones. -/
def dictKeysAre (members : List (String × Json)) (keys : List String) : Bool :=
  (members.all fun member ↦ keys.contains member.1) &&
    keys.all fun key ↦ (members.map Prod.fst).contains key

/-- A value that is a text. -/
def textOf : Option Json → Option String
  | some (.text value) => some value
  | _ => none

/-- A value that is an integer. -/
def intOf : Option Json → Option ℤ
  | some (.int value) => some value
  | _ => none

/-- A value that is an array. -/
def itemsOf : Option Json → Option (List Json)
  | some (.array items) => some items
  | _ => none

/-- A value that is an object. -/
def membersOf : Option Json → Option (List (String × Json))
  | some (.object members) => some members
  | _ => none

/-! ### Spaces and characters -/

variable {input : List Char} {head character : Char} {first second value : Json} {key : String}

theorem skipSpace_of_head? (h : ∀ head ∈ input.head?, isSpace head = false) :
    skipSpace input = input := by
  cases input with
  | nil => rfl
  | cons head tail => rw [skipSpace, List.dropWhile_cons_of_neg (by rw [h head rfl]; decide)]

@[simp] theorem skipSpace_cons (h : isSpace head = false) (rest : List Char) :
    skipSpace (head :: rest) = head :: rest :=
  skipSpace_of_head? fun _ hmem ↦ by cases hmem; exact h

theorem toNat_ofNat_of_lt {code : ℕ} (h : code < 0x7f) : (Char.ofNat code).toNat = code := by
  rw [Char.ofNat, dif_pos (.inl (Nat.lt_trans h (by decide)))]
  rfl

theorem loadPoints_writePoint (fuel : ℕ) {code : ℕ} (hbound : code < 0x110000) (rest : List Char) :
    loadPoints (fuel + 1) (writePoint code ++ rest) =
      (loadPoints fuel (joinLow (code, rest)).2).map fun found ↦
        ((joinLow (code, rest)).1 :: found.1, found.2) := by
  rcases writePoint_cases hbound with
    ⟨tail, hwrite, hread, -⟩ | ⟨hwrite, hquote, hslash, hprint, hless⟩
  · rw [hwrite, List.cons_append, loadPoints, if_neg (by decide), if_pos rfl, hread]
    rfl
  · have hcode : (Char.ofNat code).toNat = code := toNat_ofNat_of_lt hless
    have hhigh : isHigh code = false := Bool.eq_false_of_not_eq_true fun h ↦ by
      have hle := (isHigh_iff.mp h).1
      omega
    rw [joinLow_of_not_high hhigh, hwrite, List.singleton_append, loadPoints, if_neg, if_neg,
      if_neg (by omega), Option.bind_some, hcode]
    · exact fun h ↦ hslash (by rw [← hcode, h]; rfl)
    · exact fun h ↦ hquote (by rw [← hcode, h]; rfl)

/-- The code points that a text is read as: a high surrogate and a low one behind it are one. -/
def joinPairs : List ℕ → List ℕ
  | high :: low :: rest =>
    if isHigh high && isLow low then combine high low :: joinPairs rest
    else high :: joinPairs (low :: rest)
  | rest => rest

/-- The next code point of a literal is a low surrogate exactly where one was written. -/
theorem readLow_flatMap {points : List ℕ} (hbound : ∀ point ∈ points, point < 0x110000)
    (rest : List Char) : readLow (points.flatMap writePoint ++ '"' :: rest) =
      points.head?.bind fun low ↦
        if isLow low then some (low, points.tail.flatMap writePoint ++ '"' :: rest) else none := by
  cases points with
  | nil => rfl
  | cons low more =>
    rw [List.flatMap_cons, List.append_assoc, List.head?_cons, Option.bind_some, List.tail_cons]
    rcases writePoint_cases (hbound low List.mem_cons_self) with
      ⟨tail, hwrite, -, hread⟩ | ⟨hwrite, -, hslash, hprint, hless⟩
    · rw [hwrite, List.cons_append, hread]
    · have hcode : (Char.ofNat low).toNat = low := toNat_ofNat_of_lt hless
      have hne : Char.ofNat low ≠ '\\' := fun h ↦ hslash (by rw [← hcode, h]; rfl)
      have hlow : ¬isLow low = true := fun h ↦ by
        have hle := (isLow_iff.mp h).1
        omega
      rw [hwrite, List.singleton_append, if_neg hlow]
      unfold readLow
      split
      · next h => exact absurd (List.cons.inj h).1 hne
      · rfl

/-- A literal is read back up to its closing quote, but for the surrogate pairs of its text. -/
theorem loadPoints_flatMap (points : List ℕ) (rest : List Char) {fuel : ℕ}
    (hbound : ∀ point ∈ points, point < 0x110000) (hfuel : points.length < fuel) :
    loadPoints fuel (points.flatMap writePoint ++ '"' :: rest) = some (joinPairs points, rest) := by
  obtain ⟨fuel, rfl⟩ := Nat.exists_eq_succ_of_ne_zero (Nat.ne_of_gt (Nat.zero_lt_of_lt hfuel))
  induction points using joinPairs.induct generalizing fuel with
  | case1 high low more hpair ih =>
    obtain ⟨hhigh, hlow⟩ := Bool.and_eq_true_iff.mp hpair
    have hothers : ∀ point ∈ low :: more, point < 0x110000 := fun point hmem ↦
      hbound point (List.mem_cons_of_mem _ hmem)
    obtain ⟨fuel, rfl⟩ : ∃ rest, fuel = rest + 1 := Nat.exists_eq_succ_of_ne_zero (by
      rw [List.length_cons] at hfuel
      omega)
    rw [joinPairs, if_pos hpair, List.flatMap_cons, List.append_assoc,
      loadPoints_writePoint _ (hbound high List.mem_cons_self)]
    simp only [joinLow, hhigh, readLow_flatMap hothers, List.head?_cons, Option.bind_some, hlow,
      if_true, Option.map_some, Option.getD_some, List.tail_cons]
    rw [ih (fun point hmem ↦ hothers point (List.mem_cons_of_mem _ hmem)) fuel (by
      simp only [List.length_cons] at hfuel
      omega)]
    rfl
  | case2 high low more hpair ih =>
    have hothers : ∀ point ∈ low :: more, point < 0x110000 := fun point hmem ↦
      hbound point (List.mem_cons_of_mem _ hmem)
    obtain ⟨fuel, rfl⟩ : ∃ rest, fuel = rest + 1 := Nat.exists_eq_succ_of_ne_zero (by
      rw [List.length_cons] at hfuel
      omega)
    have hjoin : joinLow (high, (low :: more).flatMap writePoint ++ '"' :: rest) =
        (high, (low :: more).flatMap writePoint ++ '"' :: rest) := by
      cases hhigh : isHigh high with
      | false => exact joinLow_of_not_high hhigh _
      | true =>
        have hlow : isLow low = false := by simpa [hhigh] using hpair
        simp only [joinLow, readLow_flatMap hothers, List.head?_cons, Option.bind_some, hlow,
          Bool.false_eq_true, if_false, Option.map_none, Option.getD_none, ite_self]
    rw [joinPairs, if_neg hpair, List.flatMap_cons, List.append_assoc,
      loadPoints_writePoint _ (hbound high List.mem_cons_self), hjoin, ih hothers fuel (by
        rw [List.length_cons] at hfuel
        omega)]
    rfl
  | case3 points hshape =>
    cases points with
    | nil => rfl
    | cons code more =>
      cases more with
      | cons next more => exact absurd rfl (hshape code next more)
      | nil =>
        obtain ⟨fuel, rfl⟩ : ∃ rest, fuel = rest + 1 := Nat.exists_eq_succ_of_ne_zero (by
          rw [List.length_singleton] at hfuel
          omega)
        have hjoin : joinLow (code, '"' :: rest) = (code, '"' :: rest) := by
          unfold joinLow
          split_ifs <;> rfl
        rw [List.flatMap_cons, List.flatMap_nil, List.append_nil,
          loadPoints_writePoint _ (hbound code List.mem_cons_self), hjoin]
        rfl

/-- A text is read as itself where it holds no high surrogate with a low one behind it. -/
theorem joinPairs_eq_self_iff {points : List ℕ} : joinPairs points = points ↔
    points.IsChain fun first second ↦ ¬(isHigh first = true ∧ isLow second = true) := by
  have hlength (points : List ℕ) : (joinPairs points).length ≤ points.length := by
    induction points using joinPairs.induct with
    | case1 high low more hpair ih =>
      rw [joinPairs, if_pos hpair]
      simp only [List.length_cons]
      omega
    | case2 high low more hpair ih =>
      rw [joinPairs, if_neg hpair]
      simp only [List.length_cons] at ih ⊢
      omega
    | case3 points hshape => rw [joinPairs.eq_2 _ hshape]
  induction points using joinPairs.induct with
  | case1 high low more hpair ih =>
    have hless := hlength more
    rw [joinPairs, if_pos hpair]
    constructor
    · intro h
      have heq := congrArg List.length h
      simp only [List.length_cons] at heq
      omega
    · intro h
      exact absurd (Bool.and_eq_true_iff.mp hpair) (List.isChain_cons_cons.mp h).1
  | case2 high low more hpair ih =>
    have hapart : ¬(isHigh high = true ∧ isLow low = true) := fun h ↦
      hpair (Bool.and_eq_true_iff.mpr h)
    rw [joinPairs, if_neg hpair, List.cons_inj_right, List.isChain_cons_cons]
    exact ih.trans (and_iff_right hapart).symm
  | case3 points hshape =>
    rw [joinPairs.eq_2 _ hshape]
    cases points with
    | nil => simp
    | cons code more =>
      cases more with
      | cons next more => exact absurd rfl (hshape code next more)
      | nil => simp

theorem toNat_lt_or_le (character : Char) : character.toNat < 0xd800 ∨ 0xe000 ≤ character.toNat := by
  rcases character.valid with h | h
  · exact .inl h
  · exact .inr h.1

theorem loadText_flatMap (value : String) (rest : List Char) {fuel : ℕ}
    (hfuel : value.toList.length < fuel) :
    loadText fuel (value.toList.flatMap writeCharacter ++ '"' :: rest) = some (value, rest) := by
  have hhigh (character : Char) : isHigh character.toNat = false :=
    Bool.eq_false_of_not_eq_true fun h ↦ (toNat_lt_or_le character).elim
      (fun hless ↦ absurd (isHigh_iff.mp h).1 (Nat.not_le.mpr hless))
      fun hlarge ↦ absurd (isHigh_iff.mp h).2 (by omega)
  have hlow (character : Char) : isLow character.toNat = false :=
    Bool.eq_false_of_not_eq_true fun h ↦ (toNat_lt_or_le character).elim
      (fun hless ↦ absurd (isLow_iff.mp h).1 (by omega))
      fun hlarge ↦ absurd (isLow_iff.mp h).2 (by omega)
  have hpoints : joinPairs (value.toList.map Char.toNat) = value.toList.map Char.toNat := by
    refine joinPairs_eq_self_iff.mpr (List.Pairwise.isChain ?_)
    exact List.pairwise_map.mpr (List.pairwise_of_forall fun first _ ↦ by simp [hhigh first])
  have htext : textOfPoints (value.toList.map Char.toNat) = some value := by
    have hcharacters : (value.toList.map Char.toNat).map Char.ofNat = value.toList := by
      rw [List.map_map]
      exact List.map_id'' Char.ofNat_toNat _
    rw [textOfPoints, if_pos (by simp [hhigh, hlow]), hcharacters, String.ofList_toList]
  have hread := loadPoints_flatMap (value.toList.map Char.toNat) rest
    (List.forall_mem_map.mpr fun character _ ↦ toNat_lt character)
    (by rwa [List.length_map] : (value.toList.map Char.toNat).length < fuel)
  rw [List.flatMap_map, hpoints] at hread
  have hwrite : value.toList.flatMap writeCharacter =
      value.toList.flatMap fun character ↦ writePoint character.toNat := rfl
  rw [loadText, hwrite, hread, Option.bind_some, htext]
  rfl

/-! ### Numbers -/

/-- The text ends a number. -/
structure Ends (rest : List Char) : Prop where
  stops : Stops rest
  whole : continuesNumber rest = false

theorem ends_nil : Ends [] := ⟨stops_nil, rfl⟩

theorem ends_cons (hdigit : head.isDigit = false)
    (hhead : continuesNumber [head] = false) (rest : List Char) : Ends (head :: rest) :=
  ⟨stops_cons hdigit rest, by simpa [continuesNumber] using hhead⟩

/-- The digits of a number have no leading zero. -/
theorem toDigits_ne_zero_cons (value : ℕ) (next : Char) (rest : List Char) :
    Nat.toDigits 10 value ≠ '0' :: next :: rest := by
  intro hdigits
  cases value with
  | zero =>
    rw [Nat.toDigits_zero] at hdigits
    cases hdigits
  | succ value =>
    have hhead := Digits.head?_toDigits (Nat.succ_pos value)
    rw [hdigits] at hhead
    exact hhead rfl

theorem loadNat_toDigits (value : ℕ) {rest : List Char} (hrest : Ends rest) :
    loadNat (Nat.toDigits 10 value ++ rest) = some (value, rest) := by
  unfold loadNat
  rw [takeWhile_digits isDigit_toDigits hrest.stops, dropWhile_digits isDigit_toDigits hrest.stops,
    hrest.whole]
  split
  case h_1 hnil => exact absurd hnil Nat.toDigits_ne_nil
  case h_2 next tail hzero => exact absurd hzero (toDigits_ne_zero_cons value next tail)
  case h_3 => rw [Nat.ofDigitChars_ten_toDigits]; rfl

/-- What `loadValue` does on a digit. -/
theorem loadValue_digit (hdigit : head.isDigit = true) (fuel : ℕ)
    (rest : List Char) : loadValue (fuel + 1) (head :: rest) =
      (loadNat (head :: rest)).map fun found ↦ (int found.1, found.2) := by
  have hne {other : Char} (h : other.isDigit = false) : head ≠ other := by
    rintro rfl
    rw [hdigit] at h
    cases h
  rw [loadValue, if_neg (hne (by decide)), if_neg (hne (by decide)), if_neg (hne (by decide)),
    if_neg (hne (by decide)), if_pos hdigit]

theorem loadValue_writeInt (value : ℤ) {rest : List Char} (hrest : Ends rest) (fuel : ℕ) :
    loadValue (fuel + 1) (writeInt value ++ rest) = some (int value, rest) := by
  cases value with
  | ofNat value =>
    have hread := loadNat_toDigits value hrest
    have hdigits := @isDigit_toDigits value
    simp only [writeInt]
    cases hlist : Nat.toDigits 10 value with
    | nil => exact absurd hlist Nat.toDigits_ne_nil
    | cons head tail =>
      rw [hlist] at hread hdigits
      rw [List.cons_append, loadValue_digit (hdigits head List.mem_cons_self), ← List.cons_append,
        hread]
      rfl
  | negSucc value =>
    have hread := loadNat_toDigits (value + 1) hrest
    simp only [writeInt, List.cons_append, loadValue]
    rw [if_neg (by decide), if_neg (by decide), if_neg (by decide), if_pos trivial, hread]
    rfl

/-! ### Written values -/

theorem isSpace_of_isDigit (h : character.isDigit = true) :
    isSpace character = false := by
  have hne {other : Char} (hother : other.isDigit = false) : character ≠ other := by
    rintro rfl
    rw [h] at hother
    cases hother
  simp only [isSpace, hne (by decide : ' '.isDigit = false), hne (by decide : '\t'.isDigit = false),
    hne (by decide : '\n'.isDigit = false), hne (by decide : '\r'.isDigit = false), decide_false,
    Bool.or_self]

/-- A written value begins with a character that is no space and closes nothing. -/
theorem exists_head_encode (value : Json) : ∃ head tail, encode value = head :: tail ∧
    isSpace head = false ∧ head ≠ ']' ∧ head ≠ '}' := by
  cases value with
  | int value =>
    cases value with
    | ofNat value =>
      cases hlist : Nat.toDigits 10 value with
      | nil => exact absurd hlist Nat.toDigits_ne_nil
      | cons head tail =>
        have hdigit := isDigit_toDigits head (by rw [hlist]; exact List.mem_cons_self)
        refine ⟨head, tail, hlist, isSpace_of_isDigit hdigit, ?_, ?_⟩ <;> rintro rfl <;>
          exact absurd hdigit (by decide)
    | negSucc value => exact ⟨'-', _, rfl, rfl, by decide, by decide⟩
  | bool value => cases value <;> exact ⟨_, _, rfl, rfl, by decide, by decide⟩
  | text value => exact ⟨'"', _, writeText_eq value, rfl, by decide, by decide⟩
  | null => exact ⟨_, _, rfl, rfl, by decide, by decide⟩
  | array items => exact ⟨'[', _, rfl, rfl, by decide, by decide⟩
  | object members => exact ⟨'{', _, rfl, rfl, by decide, by decide⟩

theorem skipSpace_encode (value : Json) (rest : List Char) :
    skipSpace (encode value ++ rest) = encode value ++ rest := by
  obtain ⟨head, tail, hencode, hspace, -⟩ := exists_head_encode value
  rw [hencode, List.cons_append, skipSpace_cons hspace]

theorem skipSpace_items {items : List Json} (hitems : items ≠ []) (rest : List Char) :
    skipSpace (joinComma (encodeItems items) ++ rest) = joinComma (encodeItems items) ++ rest ∧
      (joinComma (encodeItems items) ++ rest).head? ≠ some ']' := by
  obtain ⟨item, items, rfl⟩ := List.exists_cons_of_ne_nil hitems
  obtain ⟨head, tail, hencode, hspace, hbracket, -⟩ := exists_head_encode item
  cases items with
  | nil => simp [encodeItems, joinComma, hencode, hspace, hbracket]
  | cons next items => simp [encodeItems, joinComma, hencode, hspace, hbracket]
variable {members : List (String × Json)}


theorem skipSpace_members (hmembers : members ≠ []) (rest : List Char) :
    skipSpace (joinComma (encodeMembers members) ++ rest) =
        joinComma (encodeMembers members) ++ rest ∧
      (joinComma (encodeMembers members) ++ rest).head? ≠ some '}' := by
  obtain ⟨⟨key, value⟩, members, rfl⟩ := List.exists_cons_of_ne_nil hmembers
  have hquote : isSpace '"' = false := rfl
  cases members with
  | nil => simp [encodeMembers, joinComma, writeText_eq, hquote]
  | cons next members => simp [encodeMembers, joinComma, writeText_eq, hquote]

theorem ends_bracket (rest : List Char) : Ends (']' :: rest) := ends_cons rfl rfl rest

theorem ends_brace (rest : List Char) : Ends ('}' :: rest) := ends_cons rfl rfl rest

theorem ends_comma (rest : List Char) : Ends (',' :: rest) := ends_cons rfl rfl rest

theorem loadValue_writeText (value : String) (rest : List Char) {fuel : ℕ}
    (hfuel : (writeText value).length < fuel + 1) :
    loadValue (fuel + 1) (writeText value ++ rest) = some (text value, rest) := by
  have hlength := length_le_flatMap_writeCharacter value.toList
  simp only [writeText_eq, List.cons_append, List.length_cons, List.length_append] at hfuel
  simp only [writeText_eq, List.cons_append, List.append_assoc, List.nil_append, loadValue, if_pos]
  rw [loadText_flatMap _ _ (by omega)]
  rfl

mutual

/-- A written value is read back, and the reader stops right behind it. -/
theorem loadValue_encode : ∀ (value : Json) (rest : List Char) (fuel : ℕ), Ends rest →
    (encode value).length < fuel → loadValue fuel (encode value ++ rest) = some (value, rest)
  | _, _, 0, _, hfuel => absurd hfuel (Nat.not_lt_zero _)
  | null, rest, _ + 1, _, _ => by simp [encode, loadValue, readWord]
  | bool true, rest, _ + 1, _, _ => by simp [encode, loadValue, readWord]
  | bool false, rest, _ + 1, _, _ => by simp [encode, loadValue, readWord]
  | int value, rest, fuel + 1, hrest, _ => loadValue_writeInt value hrest fuel
  | text value, rest, fuel + 1, _, hfuel => loadValue_writeText value rest hfuel
  | array [], rest, _ + 1, _, _ => by
    have hspace : isSpace ']' = false := rfl
    simp [encode, encodeItems, joinComma, loadValue, hspace]
  | object [], rest, _ + 1, _, _ => by
    have hspace : isSpace '}' = false := rfl
    simp [encode, encodeMembers, joinComma, loadValue, hspace]
  | array (item :: items), rest, fuel + 1, _, hfuel => by
    simp only [encode, List.cons_append, List.length_cons, List.length_append,
      List.length_nil] at hfuel
    have hread := loadItems_encode (item :: items) rest fuel (List.cons_ne_nil _ _) (by omega)
    obtain ⟨hspace, hopen⟩ := skipSpace_items (List.cons_ne_nil item items) (']' :: rest)
    simp only [encode, List.cons_append, List.append_assoc, List.nil_append, loadValue, hspace]
    rw [if_neg (by decide), if_pos trivial, if_neg hopen, hread]
    rfl
  | object (member :: members), rest, fuel + 1, _, hfuel => by
    simp only [encode, List.cons_append, List.length_cons, List.length_append,
      List.length_nil] at hfuel
    have hread := loadMembers_encode (member :: members) rest fuel (List.cons_ne_nil _ _)
      (by omega)
    obtain ⟨hspace, hopen⟩ := skipSpace_members (List.cons_ne_nil member members) ('}' :: rest)
    simp only [encode, List.cons_append, List.append_assoc, List.nil_append, loadValue, hspace]
    rw [if_neg (by decide), if_neg (by decide), if_pos trivial, if_neg hopen, hread]
    rfl

theorem loadItems_encode : ∀ (items : List Json) (rest : List Char) (fuel : ℕ), items ≠ [] →
    (joinComma (encodeItems items)).length + 1 < fuel →
    loadItems fuel (joinComma (encodeItems items) ++ ']' :: rest) = some (items, rest)
  | _, _, 0, _, hfuel => absurd hfuel (Nat.not_lt_zero _)
  | [], _, _, hitems, _ => absurd rfl hitems
  | [item], rest, fuel + 1, _, hfuel => by
    simp only [encodeItems, joinComma] at hfuel
    have hread := loadValue_encode item (']' :: rest) fuel (ends_bracket rest) (by omega)
    have hspace : isSpace ']' = false := rfl
    simp [encodeItems, joinComma, loadItems, hread, hspace]
  | item :: next :: items, rest, fuel + 1, _, hfuel => by
    simp only [encodeItems, joinComma, List.length_append, List.length_cons] at hfuel
    have hread := loadValue_encode item
      (',' :: (joinComma (encodeItems (next :: items)) ++ ']' :: rest)) fuel (ends_comma _)
      (by omega)
    have hrest := loadItems_encode (next :: items) rest fuel (List.cons_ne_nil _ _)
      (by simp only [encodeItems]; omega)
    have hnext := (skipSpace_items (List.cons_ne_nil next items) (']' :: rest)).1
    have hspace : isSpace ',' = false := rfl
    simp only [encodeItems] at hread hrest hnext
    simp [encodeItems, joinComma, loadItems, hread, hrest, hspace, hnext]

/-- Written members are read back, with the closing brace behind them. -/
theorem loadMembers_encode : ∀ (members : List (String × Json)) (rest : List Char) (fuel : ℕ),
    members ≠ [] → (joinComma (encodeMembers members)).length + 1 < fuel →
    loadMembers fuel (joinComma (encodeMembers members) ++ '}' :: rest) = some (members, rest)
  | _, _, 0, _, hfuel => absurd hfuel (Nat.not_lt_zero _)
  | [], _, _, hmembers, _ => absurd rfl hmembers
  | [(key, value)], rest, fuel + 1, _, hfuel => by
    simp only [encodeMembers, joinComma, List.length_append, List.length_cons] at hfuel
    have hread := loadMember_encode key value ('}' :: rest) fuel (ends_brace rest) (by omega)
    have hspace : isSpace '}' = false := rfl
    simp [encodeMembers, joinComma, loadMembers, hread, hspace]
  | (key, value) :: (nextKey, next) :: members, rest, fuel + 1, _, hfuel => by
    simp only [encodeMembers, joinComma, List.length_append, List.length_cons] at hfuel
    have hread := loadMember_encode key value
      (',' :: (joinComma (encodeMembers ((nextKey, next) :: members)) ++ '}' :: rest)) fuel
      (ends_comma _) (by omega)
    have hrest := loadMembers_encode ((nextKey, next) :: members) rest fuel
      (List.cons_ne_nil _ _) (by simp only [encodeMembers]; omega)
    have hnext := (skipSpace_members (List.cons_ne_nil (nextKey, next) members) ('}' :: rest)).1
    have hspace : isSpace ',' = false := rfl
    simp only [encodeMembers] at hread hrest hnext
    simp [encodeMembers, joinComma, loadMembers, hread, hrest, hspace, hnext]

theorem loadMember_encode (key : String) (value : Json) (rest : List Char) (fuel : ℕ)
    (hrest : Ends rest) (hfuel : (writeText key).length + (encode value).length < fuel) :
    loadMember fuel (writeText key ++ ':' :: (encode value ++ rest)) =
      some ((key, value), rest) := by
  obtain ⟨fuel, rfl⟩ := Nat.exists_eq_succ_of_ne_zero (Nat.ne_of_gt (Nat.zero_lt_of_lt hfuel))
  have hlength := length_le_flatMap_writeCharacter key.toList
  simp only [writeText_eq, List.cons_append, List.length_cons, List.length_append,
    List.length_nil] at hfuel
  have hkey := loadText_flatMap key (':' :: (encode value ++ rest))
    (by omega : key.toList.length < fuel)
  have hread := loadValue_encode value rest fuel hrest (by omega)
  have hspace : isSpace ':' = false := rfl
  simp [writeText_eq, loadMember, hkey, hread, hspace, skipSpace_encode]

end

/-- The reader gives back exactly the value that was written. -/
theorem loads_encode (value : Json) : loads (encode value) = some value := by
  have hread := loadValue_encode value [] ((encode value).length + 1) ends_nil (Nat.lt_succ_self _)
  have hspace := skipSpace_encode value []
  rw [List.append_nil] at hread hspace
  rw [loads, hspace, hread]
  rfl

/-- Two values with one text are one value. -/
theorem encode_injective (h : encode first = encode second) :
    first = second := by
  have hread := congrArg loads h
  rwa [loads_encode, loads_encode, Option.some.injEq] at hread

/-- Two values with the same bytes are one value. -/
theorem bytes_injective (h : first.bytes = second.bytes) :
    first = second :=
  encode_injective (asciiBytes_injective (isAscii_encode first) (isAscii_encode second) h)

/-- ASCII text is its own encoding. -/
theorem utf8Encode_of_isAscii (h : IsAscii input) :
    input.utf8Encode = ⟨(asciiBytes input).toArray⟩ := by
  have hbytes : input.flatMap String.utf8EncodeChar = asciiBytes input := by
    induction input with
    | nil => rfl
    | cons head tail ih =>
      obtain ⟨hhead, htail⟩ := (isAscii_cons head tail).mp h
      have hsize : head.utf8Size = 1 := Char.utf8Size_eq_one_iff.mpr (by
        rw [UInt32.le_iff_toNat_le]
        exact Nat.le_of_lt_succ hhead)
      rw [List.flatMap_cons, ih htail, String.utf8EncodeChar_eq_singleton hsize]
      rfl
  refine ByteArray.ext ?_
  rw [List.utf8Encode, List.data_toByteArray, hbytes]

theorem utf8ByteSize_encode (value : Json) :
    (String.ofList value.encode).utf8ByteSize = value.encode.length := by
  rw [← String.size_toByteArray]
  show (value.encode.utf8Encode).size = _
  rw [utf8Encode_of_isAscii (isAscii_encode value)]
  simp [ByteArray.size, asciiBytes]

theorem loadsBytes_bytes (value : Json) : loadsBytes value.bytes = some value := by
  rw [loadsBytes, bytes, ← utf8Encode_of_isAscii (isAscii_encode value),
    List.utf8Decode?_utf8Encode, Option.bind_some, loads_encode]

/-- A written value is read back from its line. -/
theorem loadsBytes_line (value : Json) : loadsBytes (value.bytes ++ [10]) = some value := by
  have hnewline : asciiBytes ['\n'] = [10] := by decide
  have hline : value.bytes ++ [10] = asciiBytes (value.encode ++ ['\n']) := by
    rw [asciiBytes, List.map_append, ← asciiBytes, ← asciiBytes, hnewline, bytes]
  have hascii : IsAscii (value.encode ++ ['\n']) :=
    (isAscii_append _ _).mpr ⟨isAscii_encode value, by simp [isAscii_cons]⟩
  have hends : Ends ['\n'] := ends_cons rfl rfl []
  have hread := loadValue_encode value ['\n'] ((value.encode ++ ['\n']).length + 1) hends (by
    rw [List.length_append]
    omega)
  rw [loadsBytes, hline, ← utf8Encode_of_isAscii hascii, List.utf8Decode?_utf8Encode,
    Option.bind_some, loads, skipSpace_encode, hread]
  rfl

/-! ### Integers -/

mutual

/-- The integers within a value. -/
def integers : Json → List ℤ
  | int number => [number]
  | array items => integersItems items
  | object members => integersMembers members
  | _ => []

def integersItems : List Json → List ℤ
  | [] => []
  | item :: rest => integers item ++ integersItems rest

def integersMembers : List (String × Json) → List ℤ
  | [] => []
  | (_, value) :: rest => integers value ++ integersMembers rest

end

/-- Every integer has as few digits as Python converts from a text and to one by default. -/
def shortIntegers (value : Json) : Bool :=
  value.integers.all fun number ↦ decide ((Nat.toDigits 10 number.natAbs).length ≤ 4300)

theorem integersMembers_eq (members : List (String × Json)) :
    integersMembers members = members.flatMap fun member ↦ integers member.2 := by
  induction members with
  | nil => rfl
  | cons head rest ih => rw [integersMembers, ih, List.flatMap_cons]

mutual

/-- Sorting the keys only permutes the integers of a value. -/
theorem integers_sortKeys : ∀ value : Json, (integers value.sortKeys).Perm (integers value)
  | null => .nil
  | bool _ => .nil
  | int _ => .refl _
  | text _ => .nil
  | array items => integersItems_sortKeys items
  | object members => by
    rw [sortKeys, integers, integersMembers_eq]
    refine ((List.perm_insertionSort _ _).flatMap_right _).trans ?_
    rw [← integersMembers_eq]
    exact integersMembers_sortKeys members

theorem integersItems_sortKeys : ∀ items : List Json,
    (integersItems (sortKeysItems items)).Perm (integersItems items)
  | [] => .nil
  | item :: rest => (integers_sortKeys item).append (integersItems_sortKeys rest)

theorem integersMembers_sortKeys : ∀ members : List (String × Json),
    (integersMembers (sortKeysMembers members)).Perm (integersMembers members)
  | [] => .nil
  | (_, value) :: rest => (integers_sortKeys value).append (integersMembers_sortKeys rest)

end

theorem shortIntegers_sortKeys (value : Json) : shortIntegers value.sortKeys = shortIntegers value :=
  (integers_sortKeys value).all_eq

/-! ### Dictionaries -/

section Dictionaries

variable {members : List (String × Json)}

theorem lookup_eq_some_iff {listed : List (String × Json)} (h : (listed.map Prod.fst).Nodup)
    {key : String} {value : Json} :
    listed.lookup key = some value ↔ (key, value) ∈ listed := by
  induction listed with
  | nil => simp
  | cons head rest ih =>
    obtain ⟨name, content⟩ := head
    rw [List.map_cons, List.nodup_cons] at h
    by_cases hkey : key = name
    · subst hkey
      have hother : (key, value) ∉ rest := fun hmem ↦
        h.1 (List.mem_map.mpr ⟨(key, value), hmem, rfl⟩)
      simp [hother, eq_comm]
    · have hne : (key == name) = false := beq_false_of_ne hkey
      simp [List.lookup_cons, hne, ih h.2, hkey]

theorem dictGet_eq_some_iff (h : (members.map Prod.fst).Nodup) {key : String} {value : Json} :
    dictGet members key = some value ↔ (key, value) ∈ members := by
  have hreverse : (members.reverse.map Prod.fst).Nodup := by
    rw [List.map_reverse, List.nodup_reverse]
    exact h
  rw [dictGet, lookup_eq_some_iff hreverse, List.mem_reverse]

theorem dictKeysAre_iff {keys : List String} : dictKeysAre members keys = true ↔
    ∀ key, key ∈ members.map Prod.fst ↔ key ∈ keys := by
  simp only [dictKeysAre, Bool.and_eq_true, List.all_eq_true, List.contains_iff_mem]
  constructor
  · rintro ⟨hknown, hgiven⟩ key
    constructor
    · intro hmem
      obtain ⟨member, hmember, rfl⟩ := List.mem_map.mp hmem
      exact hknown member hmember
    · exact hgiven key
  · intro h
    exact ⟨fun member hmember ↦ (h member.1).mp (List.mem_map_of_mem hmember),
      fun key hkey ↦ (h key).mpr hkey⟩

/-- An object with its keys in order is the same dictionary, its values with theirs in order. -/
theorem exists_sortKeys_object (h : (members.map Prod.fst).Nodup) :
    ∃ sorted, (object members).sortKeys = object sorted ∧
      sorted.Perm (members.map fun member ↦ (member.1, member.2.sortKeys)) ∧
      (∀ key, dictGet sorted key = (dictGet members key).map sortKeys) ∧
      ∀ keys, dictKeysAre sorted keys = dictKeysAre members keys := by
  let sorted := (sortKeysMembers members).insertionSort fun first second ↦ first.1 ≤ second.1
  have hperm : sorted.Perm (members.map fun member ↦ (member.1, member.2.sortKeys)) := by
    rw [← sortKeysMembers_eq]
    exact List.perm_insertionSort _ _
  have hkeys : (sorted.map Prod.fst).Perm (members.map Prod.fst) := by
    have hmapped := hperm.map Prod.fst
    rwa [List.map_map] at hmapped
  have hnodup : (sorted.map Prod.fst).Nodup := hkeys.nodup_iff.mpr h
  refine ⟨sorted, rfl, hperm, fun key ↦ Option.ext fun value ↦ ?_, fun keys ↦ ?_⟩
  · rw [dictGet_eq_some_iff hnodup, hperm.mem_iff, List.mem_map, Option.map_eq_some_iff]
    constructor
    · rintro ⟨member, hmember, heq⟩
      cases heq
      exact ⟨member.2, (dictGet_eq_some_iff h).mpr hmember, rfl⟩
    · rintro ⟨content, hcontent, rfl⟩
      exact ⟨(key, content), (dictGet_eq_some_iff h).mp hcontent, rfl⟩
  · rw [Bool.eq_iff_iff, dictKeysAre_iff, dictKeysAre_iff]
    simp only [hkeys.mem_iff]

variable {value : Option Json}

theorem textOf_eq_some {text : String} :
    textOf value = some text ↔ value = some (.text text) := by
  rcases value with _ | value
  · exact ⟨nofun, nofun⟩
  · cases value <;> simp [textOf]

theorem intOf_eq_some {number : ℤ} :
    intOf value = some number ↔ value = some (.int number) := by
  rcases value with _ | value
  · exact ⟨nofun, nofun⟩
  · cases value <;> simp [intOf]

theorem itemsOf_eq_some {items : List Json} :
    itemsOf value = some items ↔ value = some (.array items) := by
  rcases value with _ | value
  · exact ⟨nofun, nofun⟩
  · cases value <;> simp [itemsOf]
variable {members : List (String × Json)}


theorem membersOf_eq_some :
    membersOf value = some members ↔ value = some (.object members) := by
  rcases value with _ | value
  · exact ⟨nofun, nofun⟩
  · cases value <;> simp [membersOf]

theorem nodup_of_distinctKeys (h : (object members).distinctKeys = true) :
    (members.map Prod.fst).Nodup := by
  rw [distinctKeys, Bool.and_eq_true, decide_eq_true_eq] at h
  exact h.1

theorem distinctKeys_of_dictGet {key : String} {value : Json}
    (h : (object members).distinctKeys = true) (hget : dictGet members key = some value) :
    value.distinctKeys = true := by
  have hmem := (dictGet_eq_some_iff (nodup_of_distinctKeys h)).mp hget
  rw [distinctKeys, Bool.and_eq_true] at h
  exact distinctKeys_member h.2 _ hmem

theorem textOf_map_sortKeys (value : Option Json) : textOf (value.map sortKeys) = textOf value := by
  rcases value with _ | value
  · rfl
  · cases value <;> rfl

theorem intOf_map_sortKeys (value : Option Json) : intOf (value.map sortKeys) = intOf value := by
  rcases value with _ | value
  · rfl
  · cases value <;> rfl

theorem itemsOf_map_sortKeys (value : Option Json) :
    itemsOf (value.map sortKeys) = (itemsOf value).map fun items ↦ items.map sortKeys := by
  rcases value with _ | value
  · rfl
  · cases value with
    | array items => exact congrArg some (sortKeysItems_eq items)
    | _ => rfl

/-- A dictionary is the list of its keys with their values. -/
theorem perm_of_dictKeysAre (h : (members.map Prod.fst).Nodup) {keys : List String}
    (hkeys : dictKeysAre members keys = true) (hnodup : keys.Nodup) :
    members.Perm (keys.map fun key ↦ (key, (dictGet members key).getD null)) := by
  have hlisted : (keys.map fun key ↦ (key, (dictGet members key).getD null)).Nodup :=
    hnodup.map fun _ _ heq ↦ congrArg Prod.fst heq
  rw [List.perm_ext_iff_of_nodup h.of_map hlisted]
  rintro ⟨key, value⟩
  rw [List.mem_map]
  constructor
  · intro hmem
    have hkey := (dictKeysAre_iff.mp hkeys key).mp (List.mem_map.mpr ⟨(key, value), hmem, rfl⟩)
    exact ⟨key, hkey, by rw [(dictGet_eq_some_iff h).mpr hmem, Option.getD_some]⟩
  · rintro ⟨other, hother, heq⟩
    obtain ⟨⟨name, content⟩, hmem, rfl⟩ :=
      List.mem_map.mp ((dictKeysAre_iff.mp hkeys other).mpr hother)
    rw [(dictGet_eq_some_iff h).mpr hmem, Option.getD_some] at heq
    cases heq
    exact hmem

theorem encodeItems_eq_map (items : List Json) : encodeItems items = items.map encode := by
  induction items with
  | nil => rfl
  | cons item rest ih => rw [encodeItems, ih, List.map_cons]

theorem encodeMembers_eq_map (members : List (String × Json)) : encodeMembers members =
    members.map fun member ↦ writeText member.1 ++ ':' :: member.2.encode := by
  induction members with
  | nil => rfl
  | cons member rest ih => rw [encodeMembers, ih, List.map_cons]

theorem length_encode_array_le (items : List Json) : (array items).encode.length ≤
    2 + (items.map fun item ↦ item.encode.length).sum + items.length := by
  have hitems := encodeItems_eq_map items
  have hcount : ∀ parts : List (List Char), (parts.map fun part ↦ part.length + 1).sum =
      (parts.map List.length).sum + parts.length := by
    intro parts
    induction parts with
    | nil => rfl
    | cons part rest ih =>
      simp only [List.map_cons, List.sum_cons, ih, List.length_cons]
      omega
  have hparts := length_joinComma_le (encodeItems items)
  rw [hcount, hitems, List.map_map, List.length_map] at hparts
  simp only [encode, hitems, List.length_cons, List.length_append, List.length_nil]
  simp only [Function.comp_def] at hparts
  omega

theorem length_encode_object_le (members : List (String × Json)) : (object members).encode.length ≤
    2 + (members.map fun member ↦
      (writeText member.1).length + 2 + member.2.encode.length).sum := by
  have hmembers := encodeMembers_eq_map members
  have hparts := length_joinComma_le (encodeMembers members)
  have hlength : ((encodeMembers members).map fun part ↦ part.length + 1) =
      members.map fun member ↦ (writeText member.1).length + 2 + member.2.encode.length := by
    rw [hmembers, List.map_map]
    refine List.map_congr_left fun member _ ↦ ?_
    simp only [Function.comp_apply, List.length_append, List.length_cons]
    omega
  rw [hlength] at hparts
  simp only [encode, List.length_cons, List.length_append, List.length_nil]
  omega

/-- The length of a value of a dictionary, with the keys within it in order. -/
def valueLength (members : List (String × Json)) (key : String) : ℕ :=
  (dictGet members key).elim 0 fun value ↦ value.sortKeys.encode.length

theorem length_sortKeys_object_le (h : (members.map Prod.fst).Nodup) {keys : List String}
    (hkeys : dictKeysAre members keys = true) (hnodup : keys.Nodup) :
    (object members).sortKeys.encode.length ≤ 2 + (keys.map fun key ↦
      (writeText key).length + 2 + valueLength members key).sum := by
  obtain ⟨sorted, hsorted, hperm, -⟩ := exists_sortKeys_object h
  have hsum : (sorted.map fun member ↦
      (writeText member.1).length + 2 + member.2.encode.length).sum =
      (keys.map fun key ↦ (writeText key).length + 2 + valueLength members key).sum := by
    have hlisted := perm_of_dictKeysAre h hkeys hnodup
    rw [(hperm.map _).sum_nat, List.map_map, (hlisted.map _).sum_nat, List.map_map]
    refine congrArg List.sum (List.map_congr_left fun key hkey ↦ ?_)
    obtain ⟨⟨name, content⟩, hmem, rfl⟩ :=
      List.mem_map.mp ((dictKeysAre_iff.mp hkeys key).mpr hkey)
    have hget := (dictGet_eq_some_iff h).mpr hmem
    simp only [Function.comp_apply, valueLength, hget, Option.getD_some, Option.elim_some]
  rw [hsorted, ← hsum]
  exact length_encode_object_le sorted

end Dictionaries

/-! ### Least lengths -/

theorem sum_length_le_joinComma (parts : List (List Char)) :
    (parts.map List.length).sum ≤ (joinComma parts).length := by
  induction parts with
  | nil => exact le_rfl
  | cons part rest ih =>
    cases rest with
    | nil => simp [joinComma]
    | cons next rest =>
      rw [List.map_cons, List.sum_cons, joinComma, List.length_append, List.length_cons]
      omega

/-- The texts of the items of an array are within its text. -/
theorem sum_length_le_array (items : List Json) :
    (items.map fun item ↦ item.encode.length).sum ≤ (array items).encode.length := by
  have hparts := sum_length_le_joinComma (encodeItems items)
  rw [encodeItems_eq_map, List.map_map] at hparts
  simp only [encode, encodeItems_eq_map, List.length_cons, List.length_append, List.length_nil]
  exact hparts.trans (by omega)

/-- The texts of a key and of its value are within that of the object. -/
theorem length_member_le_object (h : (key, value) ∈ members) :
    (writeText key).length + value.encode.length ≤ (object members).encode.length := by
  have hparts := sum_length_le_joinComma (encodeMembers members)
  have hmem : (writeText key ++ ':' :: value.encode).length ∈
      (encodeMembers members).map List.length := by
    rw [encodeMembers_eq_map]
    exact List.mem_map_of_mem (List.mem_map_of_mem h)
  obtain ⟨before, after, hsplit⟩ := List.append_of_mem hmem
  rw [hsplit, List.sum_append_nat, List.sum_cons, List.length_append, List.length_cons] at hparts
  simp only [encode, List.length_cons, List.length_append, List.length_nil]
  omega

/-- The text of a member of an object is within its text. -/
theorem length_le_object (h : (key, value) ∈ members) :
    value.encode.length ≤ (object members).encode.length :=
  (Nat.le_add_left _ _).trans (length_member_le_object h)

/-- The same of the text with sorted keys. -/
theorem length_member_le_sortKeys (hnodup : (members.map Prod.fst).Nodup) {key : String}
    {value : Json} (h : (key, value) ∈ members) :
    (writeText key).length + value.sortKeys.encode.length ≤
      (object members).sortKeys.encode.length := by
  obtain ⟨sorted, hsorted, hperm, -⟩ := exists_sortKeys_object hnodup
  rw [hsorted]
  exact length_member_le_object (hperm.mem_iff.mpr (List.mem_map_of_mem h))

/-- Characters that are all escaped alike. -/
theorem length_flatMap_replicate (length : ℕ) :
    ((List.replicate length character).flatMap writeCharacter).length =
      length * (writeCharacter character).length := by
  rw [List.length_flatMap, List.map_replicate, List.sum_replicate_nat]

end EaQuant.Json
