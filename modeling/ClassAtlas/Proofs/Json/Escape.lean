import ClassAtlas.Json.Printer
import ClassAtlas.Json.Reader

/-!
Strings that are written as JSON read back.

What is read are code units, and each character is written as one or more of them. A way to write
characters is faithful if it yields the units of each character and these units give the character
back; both ways that are in use are.
-/

namespace ClassAtlas

namespace Text

/-- Four hexadecimal digits name a 16-bit unit. -/
theorem hex_four {unit : Nat} (fits : unit < 0x10000) :
    hex 4 unit = [(unit / 4096).digitChar, (unit / 256 % 16).digitChar, (unit / 16 % 16).digitChar,
      (unit % 16).digitChar] := by
  have more : ∀ {value : Nat}, 16 ≤ value →
      Nat.toDigits 16 value = Nat.toDigits 16 (value / 16) ++ [(value % 16).digitChar] :=
    fun large => Nat.toDigits_of_base_le (by omega) large
  have last : ∀ {value : Nat}, value < 16 → Nat.toDigits 16 value = [value.digitChar] :=
    fun small => Nat.toDigits_of_lt_base small
  have zero : (0 : Nat).digitChar = '0' := rfl
  rw [hex]
  by_cases one : unit < 16
  · simp [last one, show unit / 4096 = 0 by omega, show unit / 256 % 16 = 0 by omega,
      show unit / 16 % 16 = 0 by omega, show unit % 16 = unit by omega, zero, List.replicate]
  by_cases two : unit < 256
  · simp [more (show 16 ≤ unit by omega), last (show unit / 16 < 16 by omega),
      show unit / 4096 = 0 by omega, show unit / 256 % 16 = 0 by omega,
      show unit / 16 % 16 = unit / 16 by omega, zero, List.replicate]
  by_cases three : unit < 4096
  · simp [more (show 16 ≤ unit by omega), more (show 16 ≤ unit / 16 by omega),
      last (show unit / 16 / 16 < 16 by omega), show unit / 4096 = 0 by omega,
      show unit / 256 % 16 = unit / 16 / 16 by omega, zero]
  · simp [more (show 16 ≤ unit by omega), more (show 16 ≤ unit / 16 by omega),
      more (show 16 ≤ unit / 16 / 16 by omega), last (show unit / 16 / 16 / 16 < 16 by omega),
      show unit / 4096 = unit / 16 / 16 / 16 by omega,
      show unit / 256 % 16 = unit / 16 / 16 % 16 by omega]

end Text

namespace Json

theorem hexDigit?_digitChar {digit : Nat} (small : digit < 16) :
    hexDigit? digit.digitChar = some digit := by
  have all : ∀ digit < 16, hexDigit? (Nat.digitChar digit) = some digit := by decide
  exact all digit small

/-- An escaped unit is read as that unit. -/
theorem stringUnits?_escapedUnit {unit : Nat} (fits : unit < 0x10000) (units : List Nat)
    (rest : List Char) :
    stringUnits? units (escapedUnit unit ++ rest) = stringUnits? (unit :: units) rest := by
  have value : ((unit / 4096 * 16 + unit / 256 % 16) * 16 + unit / 16 % 16) * 16 + unit % 16 = unit := by
    omega
  have digits : hexUnit? (unit / 4096).digitChar (unit / 256 % 16).digitChar
      (unit / 16 % 16).digitChar (unit % 16).digitChar = some unit := by
    simp only [hexUnit?, hexDigit?_digitChar (show unit / 4096 < 16 by omega),
      hexDigit?_digitChar (show unit / 256 % 16 < 16 by omega),
      hexDigit?_digitChar (show unit / 16 % 16 < 16 by omega),
      hexDigit?_digitChar (show unit % 16 < 16 by omega), Option.bind_eq_bind, Option.bind_some, value]
  rw [escapedUnit, Text.hex_four fits]
  simp [stringUnits?, digits]

/-- A form of characters in strings that reads back, with the code units of each character. -/
structure Faithful (escape : Char → List Char) (code : Char → List Nat) : Prop where
  /-- The form of a character is read as its units. -/
  read : ∀ char units rest,
    stringUnits? units (escape char ++ rest) = stringUnits? ((code char).reverse ++ units) rest
  /-- The units of a character stand for it. -/
  stand : ∀ char units, charsOfUnits (code char ++ units) = char :: charsOfUnits units

theorem charsOfUnits_cons {unit : Nat} (scalar : ¬ (0xd800 ≤ unit ∧ unit ≤ 0xdfff))
    (units : List Nat) : charsOfUnits (unit :: units) = Char.ofNat unit :: charsOfUnits units := by
  cases units with
  | nil => simp [charsOfUnits, scalar]
  | cons next rest =>
    have high : ¬ (0xd800 ≤ unit ∧ unit ≤ 0xdbff ∧ 0xdc00 ≤ next ∧ next ≤ 0xdfff) := by omega
    rw [charsOfUnits, if_neg high, if_neg scalar]

/-- The number of a character is below or above those of the surrogates. -/
theorem scalar_toNat (char : Char) :
    char.toNat < 0xd800 ∨ 0xdfff < char.toNat ∧ char.toNat < 0x110000 :=
  char.valid

theorem not_surrogate (char : Char) : ¬ (0xd800 ≤ char.toNat ∧ char.toNat ≤ 0xdfff) := by
  have scalar := scalar_toNat char
  omega

/-- A character that is not escaped is read as it is. -/
theorem stringUnits?_char {char : Char} (quote : char ≠ '"') (backslash : char ≠ '\\')
    (printable : 32 ≤ char.toNat) (units : List Nat) (rest : List Char) :
    stringUnits? units (char :: rest) = stringUnits? (char.toNat :: units) rest := by
  rw [stringUnits?]
  · rw [if_neg (by omega)]
  all_goals simp_all

theorem escapedChar_read (char : Char) (units : List Nat) (rest : List Char) :
    stringUnits? units (escapedChar char ++ rest) = stringUnits? (char.toNat :: units) rest := by
  have short : ∀ {mark : Char}, mark ≠ 'u' → escapeCode? mark = some char.toNat →
      stringUnits? units (['\\', mark] ++ rest) = stringUnits? (char.toNat :: units) rest := by
    intro mark notUnit coded
    rw [List.cons_append, List.singleton_append, stringUnits?]
    · simp [coded]
    · simp_all
  rw [escapedChar]
  split
  case isTrue same => exact short (by decide) (by simp_all; rfl)
  case isFalse quote =>
  split
  case isTrue same => exact short (by decide) (by simp_all; rfl)
  case isFalse backslash =>
  split
  case isTrue same => exact short (by decide) (by simp_all; rfl)
  split
  case isTrue same => exact short (by decide) (by simp_all; rfl)
  split
  case isTrue same => exact short (by decide) (by simp_all; rfl)
  split
  case isTrue same => exact short (by decide) (by simp_all; rfl)
  split
  case isTrue same => exact short (by decide) (by simp_all; rfl)
  split
  case isTrue control => exact stringUnits?_escapedUnit (by omega) units rest
  case isFalse printable =>
    exact stringUnits?_char (by simpa using quote) (by simpa using backslash) (by omega) units rest

/-- The 16-bit units of a character. -/
def utf16 (char : Char) : List Nat :=
  if char.toNat < 0x10000 then [char.toNat]
  else
    let offset := char.toNat - 0x10000
    [0xd800 + offset / 1024, 0xdc00 + offset % 1024]

theorem asciiChar_read (char : Char) (units : List Nat) (rest : List Char) :
    stringUnits? units (asciiChar char ++ rest) =
      stringUnits? ((utf16 char).reverse ++ units) rest := by
  have scalar := scalar_toNat char
  rw [asciiChar]
  split
  case isTrue ascii =>
    rw [escapedChar_read, utf16, if_pos (by omega)]
    rfl
  split
  case isTrue small =>
    rw [stringUnits?_escapedUnit small, utf16, if_pos small]
    rfl
  case isFalse large =>
    rw [List.append_assoc, stringUnits?_escapedUnit (by omega), stringUnits?_escapedUnit (by omega),
      utf16, if_neg large]
    rfl

/-- The two surrogates of a character stand for it. -/
theorem charsOfUnits_utf16 (char : Char) (units : List Nat) :
    charsOfUnits (utf16 char ++ units) = char :: charsOfUnits units := by
  have scalar := scalar_toNat char
  rw [utf16]
  split
  case isTrue small =>
    rw [List.singleton_append, charsOfUnits_cons (not_surrogate char), Char.ofNat_toNat]
  case isFalse large =>
    have paired : 0x10000 + (0xd800 + (char.toNat - 0x10000) / 1024 - 0xd800) * 1024 +
        (0xdc00 + (char.toNat - 0x10000) % 1024 - 0xdc00) = char.toNat := by omega
    rw [List.cons_append, List.singleton_append, charsOfUnits, if_pos (by omega), paired,
      Char.ofNat_toNat]

/-- Characters written in ASCII. -/
theorem asciiChar_faithful : Faithful asciiChar utf16 where
  read := asciiChar_read
  stand := charsOfUnits_utf16

section Strings

variable {escape : Char → List Char} {code : Char → List Nat}

theorem Faithful.stringUnits? (faithful : Faithful escape code) (chars rest : List Char)
    (units : List Nat) :
    stringUnits? units (chars.flatMap escape ++ '"' :: rest) =
      some (units.reverse ++ chars.flatMap code, rest) := by
  induction chars generalizing units with
  | nil => simp [Json.stringUnits?]
  | cons char chars inductionHypothesis =>
    rw [List.flatMap_cons, List.append_assoc, faithful.read, inductionHypothesis]
    simp

theorem Faithful.charsOfUnits (faithful : Faithful escape code) (chars : List Char) :
    charsOfUnits (chars.flatMap code) = chars := by
  induction chars with
  | nil => rfl
  | cons char chars inductionHypothesis =>
    rw [List.flatMap_cons, faithful.stand, inductionHypothesis]

/-- A string reads back after its opening quote. -/
theorem Faithful.readText (faithful : Faithful escape code) (text : String) (rest : List Char) :
    readText (text.toList.flatMap escape ++ '"' :: rest) = .ok (text, rest) := by
  simp [Json.readText, faithful.stringUnits?, faithful.charsOfUnits]

end Strings

end Json

end ClassAtlas
