import Mathlib.Computability.RegularExpressions

/-!
# Decimal digits

Lists of decimal digits as numerals: a list is the numeral of its value with zeros in front of it
(`padded_value`), so that lists of one length and one value are one list. Below them, the regular
expressions that patterns of digits are made of.
-/

namespace EaQuant.Digits

/-- Every character is a decimal digit. -/
def AllDigits (characters : List Char) : Prop := ∀ character ∈ characters, character.isDigit = true

/-- The number that a list of digits denotes. -/
def value (digits : List Char) : ℕ := Nat.ofDigitChars 10 digits 0

/-- A numeral with zeros in front, up to a width. -/
def padded (width number : ℕ) : List Char :=
  List.replicate (width - (Nat.toDigits 10 number).length) '0' ++ Nat.toDigits 10 number

@[simp] theorem allDigits_nil : AllDigits [] := by simp [AllDigits]

@[simp] theorem allDigits_cons (head : Char) (tail : List Char) :
    AllDigits (head :: tail) ↔ head.isDigit = true ∧ AllDigits tail := by simp [AllDigits]

@[simp] theorem allDigits_append (first second : List Char) :
    AllDigits (first ++ second) ↔ AllDigits first ∧ AllDigits second := by
  simp only [AllDigits, List.mem_append, or_imp, forall_and]

theorem allDigits_toDigits (number : ℕ) : AllDigits (Nat.toDigits 10 number) :=
  fun _ h ↦ Nat.isDigit_of_mem_toDigits (by decide) (by decide) h

theorem allDigits_padded (width number : ℕ) : AllDigits (padded width number) := by
  refine (allDigits_append _ _).mpr ⟨?_, allDigits_toDigits number⟩
  intro character hcharacter
  rw [(List.mem_replicate.mp hcharacter).2]
  decide

theorem length_padded (width number : ℕ) :
    (padded width number).length = max width (Nat.toDigits 10 number).length := by
  simp only [padded, List.length_append, List.length_replicate]
  omega

@[simp] theorem value_nil : value [] = 0 := rfl

@[simp] theorem value_toDigits (number : ℕ) : value (Nat.toDigits 10 number) = number :=
  Nat.ofDigitChars_ten_toDigits

@[simp] theorem value_padded (width number : ℕ) : value (padded width number) = number := by
  rw [value, padded, Nat.ofDigitChars_append, Nat.ofDigitChars_replicate_zero, Nat.mul_zero]
  exact value_toDigits number

theorem value_append (first second : List Char) :
    value (first ++ second) = 10 ^ second.length * value first + value second := by
  rw [value, Nat.ofDigitChars_append, Nat.ofDigitChars_eq_ofDigitChars_zero]
  rfl

/-- A digit is the numeral of its value. -/
theorem exists_digitChar {digit : Char} (h : digit.isDigit = true) :
    ∃ number < 10, digit = Nat.digitChar number ∧ value [digit] = number := by
  have hrange : 48 ≤ digit.toNat ∧ digit.toNat ≤ 57 := by
    simp only [Char.isDigit, Bool.and_eq_true, decide_eq_true_eq] at h
    exact ⟨UInt32.le_iff_toNat_le.mp h.1, UInt32.le_iff_toNat_le.mp h.2⟩
  have hnumerals : ∀ number < 10, Char.ofNat (48 + number) = Nat.digitChar number := by decide
  refine ⟨digit.toNat - 48, by omega, ?_, ?_⟩
  · rw [← hnumerals _ (by omega), show 48 + (digit.toNat - 48) = digit.toNat by omega,
      Char.ofNat_toNat]
  · simp [value, Nat.ofDigitChars_cons]

variable {number width : ℕ} {input digits : List Char}

/-- A digit behind a numeral. -/
theorem toDigits_mul_add {digit : ℕ} (hpos : 0 < number) (hdigit : digit < 10) :
    Nat.toDigits 10 (10 * number + digit) = Nat.toDigits 10 number ++ [Nat.digitChar digit] := by
  rw [← Nat.toDigits_append_toDigits (by decide) hpos hdigit, Nat.toDigits_of_lt_base hdigit]

/-- A digit behind a padded numeral. -/
theorem padded_mul_add {digit : ℕ} (hwidth : 0 < width) (hdigit : digit < 10) :
    padded (width + 1) (10 * number + digit) = padded width number ++ [Nat.digitChar digit] := by
  by_cases hpos : 0 < number
  · rw [padded, padded, toDigits_mul_add hpos hdigit, List.length_append, List.length_singleton,
      Nat.add_sub_add_right, List.append_assoc]
  · obtain rfl : number = 0 := by omega
    rw [Nat.mul_zero, Nat.zero_add, padded, padded, Nat.toDigits_of_lt_base hdigit,
      Nat.toDigits_zero]
    obtain ⟨rest, rfl⟩ := Nat.exists_eq_succ_of_ne_zero hwidth.ne'
    rw [List.length_singleton, List.length_singleton, Nat.succ_eq_add_one, Nat.add_sub_cancel,
      Nat.add_sub_cancel, List.replicate_succ', List.append_assoc]

/-- A list of digits is the padded numeral of its value. -/
theorem padded_value (hdigits : AllDigits digits) (hne : digits ≠ []) :
    padded digits.length (value digits) = digits := by
  induction digits using List.reverseRecOn with
  | nil => exact absurd rfl hne
  | append_singleton front last ih =>
    obtain ⟨hfront, hlast⟩ := (allDigits_append _ _).mp hdigits
    obtain ⟨digit, hdigit, rfl, hvalue⟩ := exists_digitChar (hlast last List.mem_cons_self)
    rw [value_append, hvalue, List.length_append, List.length_singleton, Nat.pow_one]
    by_cases hnil : front = []
    · subst hnil
      rw [value_nil, Nat.mul_zero, Nat.zero_add, padded, Nat.toDigits_of_lt_base hdigit]
      rfl
    · rw [padded_mul_add (List.length_pos_iff.mpr hnil) hdigit, ih hfront hnil]

/-- Lists of digits of one length and one value are one list. -/
theorem eq_of_value {first second : List Char} (hfirst : AllDigits first)
    (hsecond : AllDigits second) (hlength : first.length = second.length)
    (hvalue : value first = value second) : first = second := by
  by_cases hnil : first = []
  · subst hnil
    exact (List.length_eq_zero_iff.mp hlength.symm).symm
  · have hne : second ≠ [] := by
      intro h
      rw [h, List.length_nil] at hlength
      exact hnil (List.length_eq_zero_iff.mp hlength)
    rw [← padded_value hfirst hnil, ← padded_value hsecond hne, hlength, hvalue]

/-- Digits denote a number with no more digits than they are. -/
theorem value_lt (hdigits : AllDigits digits) :
    value digits < 10 ^ digits.length := by
  by_cases hne : digits = []
  · subst hne
    exact Nat.one_pos
  · have hlength := congrArg List.length (padded_value hdigits hne)
    rw [length_padded] at hlength
    exact (Nat.length_toDigits_le_iff (by decide) (List.length_pos_iff.mpr hne)).mp (by omega)

/-- A numeral has no zero in front of other digits. -/
theorem toDigits_value (hdigits : AllDigits digits) (hne : digits ≠ [])
    (hhead : digits.head? ≠ some '0' ∨ digits.length = 1) :
    Nat.toDigits 10 (value digits) = digits := by
  have hpadded := padded_value hdigits hne
  rw [padded] at hpadded
  cases hmissing : digits.length - (Nat.toDigits 10 (value digits)).length with
  | zero =>
    rw [hmissing] at hpadded
    exact hpadded
  | succ missing =>
    rw [hmissing, List.replicate_succ, List.cons_append] at hpadded
    rcases hhead with hhead | hlength
    · rw [← hpadded] at hhead
      exact absurd rfl hhead
    · have hpos : 0 < (Nat.toDigits 10 (value digits)).length := Nat.length_toDigits_pos
      omega

/-- The numeral of a positive number does not begin with a zero. -/
theorem head?_toDigits (hpos : 0 < number) :
    (Nat.toDigits 10 number).head? ≠ some '0' := by
  intro hhead
  obtain ⟨rest, hrest⟩ : ∃ rest, Nat.toDigits 10 number = '0' :: rest := by
    cases hdigits : Nat.toDigits 10 number with
    | nil => exact absurd hdigits Nat.toDigits_ne_nil
    | cons head rest =>
      rw [hdigits, List.head?_cons, Option.some.injEq] at hhead
      exact ⟨rest, by rw [hhead]⟩
  have hvalue : number = value rest := by
    have hfront : value ['0'] = 0 := rfl
    rw [← value_toDigits number, hrest, ← List.singleton_append, value_append, hfront, Nat.mul_zero,
      Nat.zero_add]
  have hdigits := ((allDigits_cons '0' rest).mp (hrest ▸ allDigits_toDigits number)).2
  have hlength := congrArg List.length hrest
  rw [List.length_cons] at hlength
  by_cases hnil : rest = []
  · rw [hnil, value_nil] at hvalue
    omega
  · have hlt := value_lt hdigits
    rw [← hvalue] at hlt
    have hle := (Nat.length_toDigits_le_iff (by decide) (List.length_pos_iff.mpr hnil)).mpr hlt
    omega

/-- A numeral without the zeros in front of it. -/
theorem dropWhile_padded (hpos : 0 < number) :
    (padded width number).dropWhile (· = '0') = Nat.toDigits 10 number := by
  have hzeros : ∀ character ∈ List.replicate (width - (Nat.toDigits 10 number).length) '0',
      decide (character = '0') = true := by
    intro character hcharacter
    exact decide_eq_true (List.mem_replicate.mp hcharacter).2
  rw [padded, List.dropWhile_append_of_pos hzeros]
  have hhead := head?_toDigits hpos
  cases hdigits : Nat.toDigits 10 number with
  | nil => rfl
  | cons head rest =>
    rw [hdigits, List.head?_cons, ne_eq, Option.some.injEq] at hhead
    rw [List.dropWhile_cons_of_neg (by simpa using hhead)]

/-- The last digit of a numeral. -/
theorem getLast?_padded :
    (padded width number).getLast? = some (Nat.digitChar (number % 10)) := by
  have hlast : (Nat.toDigits 10 number).getLast? = some (Nat.digitChar (number % 10)) := by
    by_cases hsmall : number < 10
    · rw [Nat.toDigits_of_lt_base hsmall, Nat.mod_eq_of_lt hsmall]
      rfl
    · rw [Nat.toDigits_of_base_le (by decide) (Nat.le_of_not_lt hsmall), List.getLast?_append]
      rfl
  rw [padded, List.getLast?_append, hlast]
  rfl

/-! ### Patterns -/

open RegularExpression

/-- One of the characters of a text, as `[...]`. -/
def oneOf (text : String) : RegularExpression Char := (text.toList.map char).foldr (· + ·) 0

/-- An expression or nothing, as `?`. -/
def optional (pattern : RegularExpression Char) : RegularExpression Char := pattern + 1

theorem oneOf_rmatch {text : String} :
    (oneOf text).rmatch input = true ↔ ∃ character ∈ text.toList, input = [character] := by
  unfold oneOf
  induction text.toList with
  | nil => simp
  | cons head tail ih =>
    rw [List.map_cons, List.foldr_cons, add_rmatch_iff, char_rmatch_iff, ih]
    simp

theorem optional_rmatch {pattern : RegularExpression Char} :
    (optional pattern).rmatch input = true ↔ pattern.rmatch input = true ∨ input = [] := by
  rw [optional, add_rmatch_iff, one_rmatch_iff]

/-- `[0-9]`. -/
def anyDigit : RegularExpression Char := oneOf "0123456789"

/-- `[1-9]`. -/
def nonzeroDigit : RegularExpression Char := oneOf "123456789"

theorem anyDigit_rmatch :
    anyDigit.rmatch input = true ↔ ∃ character, character.isDigit = true ∧ input = [character] := by
  rw [anyDigit, oneOf_rmatch]
  constructor
  · rintro ⟨character, hmem, rfl⟩
    have hall : ("0123456789".toList.all Char.isDigit) = true := by decide
    exact ⟨character, List.all_eq_true.mp hall character hmem, rfl⟩
  · rintro ⟨character, hdigit, rfl⟩
    obtain ⟨number, hnumber, rfl, -⟩ := exists_digitChar hdigit
    have hall : ∀ number < 10, Nat.digitChar number ∈ "0123456789".toList := by decide
    exact ⟨_, hall number hnumber, rfl⟩

theorem nonzeroDigit_rmatch :
    nonzeroDigit.rmatch input = true ↔
      ∃ character, character.isDigit = true ∧ character ≠ '0' ∧ input = [character] := by
  rw [nonzeroDigit, oneOf_rmatch]
  constructor
  · rintro ⟨character, hmem, rfl⟩
    have hall : ("123456789".toList.all fun character ↦
        character.isDigit && character != '0') = true := by decide
    have hcharacter := List.all_eq_true.mp hall character hmem
    rw [Bool.and_eq_true, bne_iff_ne] at hcharacter
    exact ⟨character, hcharacter.1, hcharacter.2, rfl⟩
  · rintro ⟨character, hdigit, hzero, rfl⟩
    obtain ⟨number, hnumber, rfl, -⟩ := exists_digitChar hdigit
    have hall : ∀ number < 10, Nat.digitChar number ≠ '0' →
        Nat.digitChar number ∈ "123456789".toList := by decide
    exact ⟨_, hall number hnumber hzero, rfl⟩

theorem star_anyDigit_rmatch :
    (star anyDigit).rmatch input = true ↔ AllDigits input := by
  rw [star_rmatch_iff]
  constructor
  · rintro ⟨parts, rfl, hparts⟩ character hcharacter
    obtain ⟨part, hpart, hmem⟩ := List.mem_flatten.mp hcharacter
    obtain ⟨digit, hdigit, rfl⟩ := anyDigit_rmatch.mp (hparts part hpart).2
    rw [List.mem_singleton.mp hmem]
    exact hdigit
  · intro hdigits
    refine ⟨input.map fun character ↦ [character], ?_, ?_⟩
    · induction input with
      | nil => rfl
      | cons head tail ih =>
        rw [List.map_cons, List.flatten_cons, ← ih ((allDigits_cons head tail).mp hdigits).2]
        rfl
    · rintro part hpart
      obtain ⟨character, hcharacter, rfl⟩ := List.mem_map.mp hpart
      exact ⟨by simp, anyDigit_rmatch.mpr ⟨character, hdigits character hcharacter, rfl⟩⟩

end EaQuant.Digits
