import ClassAtlas.Proofs.Json.Escape
import ClassAtlas.Proofs.Text.Search

/-!
Values that are written as JSON read back.

A written value is read off the front of any text in which it is followed by what may follow a value.
Lists and objects are read item by item, so the result for them comes from that for their items; the
text is at least as long as the number of values in it, which is what the reader is given as fuel.
-/

namespace ClassAtlas.Json

/-- Whether characters are a fraction, or none. -/
def IsFraction (chars : List Char) : Prop :=
  chars = [] ∨ ∃ digits, chars = '.' :: digits ∧ digits ≠ [] ∧ ∀ char ∈ digits, char.isDigit = true

/-- Whether characters are an exponent, or none. -/
def IsExponent (chars : List Char) : Prop :=
  chars = [] ∨ ∃ mark sign digits, chars = mark :: sign ++ digits ∧ (mark = 'e' ∨ mark = 'E') ∧
    (sign = [] ∨ sign = ['+'] ∨ sign = ['-']) ∧ digits ≠ [] ∧ ∀ char ∈ digits, char.isDigit = true

/-- A numeral that is not that of an integer: it has a fraction or an exponent, or is a name. -/
inductive IsNumeral : String → Prop where
  | finite (negative : Bool) (whole : Nat) {fraction exponent : List Char}
      (isFraction : IsFraction fraction) (isExponent : IsExponent exponent)
      (given : fraction ≠ [] ∨ exponent ≠ []) :
      IsNumeral (String.ofList
        ((if negative then ['-'] else []) ++ Nat.toDigits 10 whole ++ fraction ++ exponent))
  | notNumber : IsNumeral "NaN"
  | infinity : IsNumeral "Infinity"
  | negativeInfinity : IsNumeral "-Infinity"

/-- A value that the reader can give: its integers are not too long, each of its objects has distinct
keys, and it is not nested deeper than given. -/
inductive ReadsBack : Nat → Json → Prop where
  | null (depth : Nat) : ReadsBack depth .null
  | bool (depth : Nat) (value : Bool) : ReadsBack depth (.bool value)
  | int (depth : Nat) {value : Int}
      (short : (Nat.toDigits 10 value.natAbs).length ≤ Text.maxNumeralDigits) :
      ReadsBack depth (.int value)
  | real (depth : Nat) {numeral : String} (isNumeral : IsNumeral numeral) :
      ReadsBack depth (.real numeral)
  | str (depth : Nat) (text : String) : ReadsBack depth (.str text)
  | list {depth : Nat} {items : List Json} (each : ∀ item ∈ items, ReadsBack depth item) :
      ReadsBack (depth + 1) (.list items)
  | object {depth : Nat} {members : List (String × Json)} (distinct : (members.map (·.1)).Nodup)
      (each : ∀ member ∈ members, ReadsBack depth member.2) :
      ReadsBack (depth + 1) (.object members)

/-- Whether a text may follow a value that is written. -/
def Follows : List Char → Prop
  | [] => True
  | char :: _ => char = ',' ∨ char = ']' ∨ char = '\x7d'

section Numbers

variable {rest : List Char}

theorem Follows.spanDigits (follows : Follows rest) : spanDigits rest = ([], rest) := by
  cases rest with
  | nil => rfl
  | cons char _ => rcases follows with rfl | rfl | rfl <;> rfl

theorem Follows.spanFraction (follows : Follows rest) : spanFraction rest = ([], rest) := by
  cases rest with
  | nil => rfl
  | cons char _ => rcases follows with rfl | rfl | rfl <;> rfl

theorem Follows.spanExponent (follows : Follows rest) : spanExponent rest = ([], rest) := by
  cases rest with
  | nil => rfl
  | cons char _ => rcases follows with rfl | rfl | rfl <;> rfl

theorem spanDigits_append {digits : List Char} (all : ∀ char ∈ digits, char.isDigit = true)
    (ahead : spanDigits rest = ([], rest)) : spanDigits (digits ++ rest) = (digits, rest) := by
  simp only [Json.spanDigits, Prod.mk.injEq] at ahead ⊢
  rw [List.takeWhile_append_of_pos all, List.dropWhile_append_of_pos all, ahead.1, ahead.2]
  simp

/-- Only zero is written with a leading zero. -/
theorem toDigits_eq_zero_cons {value : Nat} {tail : List Char}
    (leads : Nat.toDigits 10 value = '0' :: tail) : tail = [] := by
  induction value using Nat.strongRecOn generalizing tail with
  | ind value inductionHypothesis =>
    by_cases small : value < 10
    · rw [Nat.toDigits_of_lt_base small] at leads
      simp_all
    · rw [Nat.toDigits_of_base_le (by omega) (by omega)] at leads
      cases front : Nat.toDigits 10 (value / 10) with
      | nil => exact absurd front Nat.toDigits_ne_nil
      | cons first more =>
        rw [front, List.cons_append, List.cons.injEq] at leads
        rw [leads.1] at front
        have single := inductionHypothesis (value / 10) (by omega) front
        have zero : value / 10 = 0 := by
          rw [← Nat.ofDigitChars_toDigits (b := 10) (n := value / 10) (by omega) (by omega), front,
            single]
          rfl
        omega

theorem spanInteger_append (value : Nat) (ahead : spanDigits rest = ([], rest)) :
    spanInteger (Nat.toDigits 10 value ++ rest) = (Nat.toDigits 10 value, rest) := by
  have all : ∀ char ∈ Nat.toDigits 10 value, char.isDigit = true :=
    fun char member => Nat.isDigit_of_mem_toDigits (by omega) (by omega) member
  unfold spanInteger
  split
  case h_2 => exact spanDigits_append all ahead
  case h_1 tail leads =>
    cases digits : Nat.toDigits 10 value with
    | nil => exact absurd digits Nat.toDigits_ne_nil
    | cons first more =>
      rw [digits, List.cons_append, List.cons.injEq] at leads
      rw [leads.1] at digits
      have single := toDigits_eq_zero_cons digits
      rw [leads.1, ← leads.2, single]
      rfl

/-- The digits of a number are read as that number. -/
theorem readUnsigned_append {value : Nat}
    (short : (Nat.toDigits 10 value).length ≤ Text.maxNumeralDigits) (follows : Follows rest)
    (negative : Bool) :
    readUnsigned negative (Nat.toDigits 10 value ++ rest) =
      .ok (.int (if negative then -(value : Int) else value), rest) := by
  have read : (Nat.toDigits 10 value).foldl
      (fun value digit => value * 10 + (digit.toNat - 48)) 0 = value := by
    have known := Nat.ofDigitChars_toDigits (b := 10) (n := value) (by omega) (by omega)
    simpa [Nat.ofDigitChars, Nat.mul_comm] using known
  have some : (Nat.toDigits 10 value).isEmpty = false := by simp
  simp [readUnsigned, spanInteger_append value follows.spanDigits, follows.spanFraction, follows.spanExponent,
    read, some, Nat.not_lt.mpr short]

theorem isDigit_ne {char other : Char} (digit : char.isDigit = true) (isOther : other.isDigit = false) :
    char ≠ other := by
  rintro rfl
  rw [digit] at isOther
  cases isOther

/-- After the digits of an integer an exponent is neither a digit nor a fraction. -/
theorem IsExponent.not_ahead {exponent : List Char} (isExponent : IsExponent exponent)
    (follows : Follows rest) :
    spanDigits (exponent ++ rest) = ([], exponent ++ rest) ∧
      spanFraction (exponent ++ rest) = ([], exponent ++ rest) := by
  obtain rfl | ⟨mark, sign, digits, rfl, rfl | rfl, -⟩ := isExponent
  · exact ⟨follows.spanDigits, follows.spanFraction⟩
  · exact ⟨rfl, rfl⟩
  · exact ⟨rfl, rfl⟩

theorem spanFraction_append {fraction : List Char} (isFraction : IsFraction fraction)
    (ahead : spanDigits rest = ([], rest)) (notAhead : spanFraction rest = ([], rest)) :
    spanFraction (fraction ++ rest) = (fraction, rest) := by
  obtain rfl | ⟨digits, rfl, some, all⟩ := isFraction
  · exact notAhead
  · simp [spanFraction, spanDigits_append all ahead, some]

theorem IsFraction.spanDigits_append {fraction : List Char} (isFraction : IsFraction fraction)
    (ahead : spanDigits rest = ([], rest)) :
    spanDigits (fraction ++ rest) = ([], fraction ++ rest) := by
  obtain rfl | ⟨digits, rfl, -⟩ := isFraction
  · exact ahead
  · rfl

theorem spanExponent_append {exponent : List Char} (isExponent : IsExponent exponent)
    (follows : Follows rest) : spanExponent (exponent ++ rest) = (exponent, rest) := by
  obtain rfl | ⟨mark, sign, digits, rfl, isMark, isSign, some, all⟩ := isExponent
  · exact follows.spanExponent
  · have span := Json.spanDigits_append all follows.spanDigits
    have marked : (mark == 'e' || mark == 'E') = true := by
      rcases isMark with rfl | rfl <;> rfl
    rcases isSign with rfl | rfl | rfl
    · cases digits with
      | nil => exact absurd rfl some
      | cons first more =>
        have digit := all first List.mem_cons_self
        simp only [List.cons_append, List.nil_append, spanExponent, marked, if_true] at span ⊢
        split
        case h_1 plus => exact absurd (List.cons.inj plus).1 (isDigit_ne digit rfl)
        case h_2 minus => exact absurd (List.cons.inj minus).1 (isDigit_ne digit rfl)
        case h_3 => simp [span]
    · simp [spanExponent, marked, span, some]
    · simp [spanExponent, marked, span, some]

/-- A numeral with a fraction or an exponent is kept as it is written. -/
theorem readUnsigned_real (whole : Nat) {fraction exponent : List Char}
    (isFraction : IsFraction fraction) (isExponent : IsExponent exponent)
    (given : fraction ≠ [] ∨ exponent ≠ []) (follows : Follows rest) (negative : Bool) :
    readUnsigned negative (Nat.toDigits 10 whole ++ (fraction ++ (exponent ++ rest))) =
      .ok (.real (String.ofList
        ((if negative then ['-'] else []) ++ Nat.toDigits 10 whole ++ fraction ++ exponent)), rest) := by
  obtain ⟨noDigit, noPoint⟩ := isExponent.not_ahead follows
  have some : (Nat.toDigits 10 whole).isEmpty = false := by simp
  have kept : (!fraction.isEmpty || !exponent.isEmpty) = true := by
    rcases given with fractionGiven | exponentGiven
    · simp [fractionGiven]
    · simp [exponentGiven]
  simp only [readUnsigned, spanInteger_append whole (isFraction.spanDigits_append noDigit),
    spanFraction_append isFraction noDigit noPoint, spanExponent_append isExponent follows, some, kept]
  simp

/-- A value that starts with a digit is a number. -/
theorem readValue_digit {char : Char} (digit : char.isDigit = true) (tail : List Char)
    (fuel depth : Nat) :
    readValue (fuel + 1) depth (char :: tail) = readUnsigned false (char :: tail) := by
  rw [readValue, readNumber]
  all_goals
    rintro _ equal
    exact isDigit_ne digit rfl (List.cons.inj equal).1

/-- A value that starts with a sign and a digit is a number. -/
theorem readValue_minus {char : Char} (digit : char.isDigit = true) (tail : List Char)
    (fuel depth : Nat) :
    readValue (fuel + 1) depth ('-' :: char :: tail) = readUnsigned true (char :: tail) := by
  rw [readValue, readNumber]
  all_goals simp
  rintro _ rfl
  cases digit

theorem exists_toDigits (value : Nat) :
    ∃ first more, Nat.toDigits 10 value = first :: more ∧ first.isDigit = true := by
  cases digits : Nat.toDigits 10 value with
  | nil => exact absurd digits Nat.toDigits_ne_nil
  | cons first more =>
    have member : first ∈ Nat.toDigits 10 value := by simp [digits]
    exact ⟨first, more, rfl, Nat.isDigit_of_mem_toDigits (by omega) (by omega) member⟩

theorem readValue_int {value : Int}
    (short : (Nat.toDigits 10 value.natAbs).length ≤ Text.maxNumeralDigits) (follows : Follows rest)
    (fuel depth : Nat) :
    readValue (fuel + 1) depth ((Text.decimalInt value).toList ++ rest) = .ok (.int value, rest) := by
  cases value with
  | ofNat value =>
    obtain ⟨first, more, digits, digit⟩ := exists_toDigits value
    have read : readUnsigned false (Nat.toDigits 10 value ++ rest) = _ :=
      readUnsigned_append short follows false
    rw [digits, List.cons_append] at read
    simpa [Text.decimalInt, Text.decimal, digits, readValue_digit digit] using read
  | negSucc value =>
    obtain ⟨first, more, digits, digit⟩ := exists_toDigits (value + 1)
    have read : readUnsigned true (Nat.toDigits 10 (value + 1) ++ rest) =
        .ok (.int (-((value + 1 : Nat) : Int)), rest) :=
      readUnsigned_append short follows true
    rw [digits, List.cons_append] at read
    simpa [Text.decimalInt, Text.decimal, digits, readValue_minus digit, Int.negSucc_eq] using read

theorem readValue_real {numeral : String} (isNumeral : IsNumeral numeral) (follows : Follows rest)
    (fuel depth : Nat) :
    readValue (fuel + 1) depth (numeral.toList ++ rest) = .ok (.real numeral, rest) := by
  cases isNumeral with
  | @finite negative whole fraction exponent isFraction isExponent given =>
    obtain ⟨first, more, digits, digit⟩ := exists_toDigits whole
    have read := readUnsigned_real whole isFraction isExponent given follows negative
    rw [digits, List.cons_append] at read
    cases negative with
    | true => simpa [digits, readValue_minus digit] using read
    | false => simpa [digits, readValue_digit digit] using read
  | notNumber => simp [readValue]
  | infinity => simp [readValue]
  | negativeInfinity => simp [readValue]

end Numbers

section Values

variable {escape : Char → List Char} {code : Char → List Nat} {depth : Nat}

/-- Whether a value is read off the front of a text that starts with its written form. -/
def IsRead (escape : Char → List Char) (depth : Nat) (value : Json) : Prop :=
  ∀ fuel rest, (renderWith escape value).length ≤ fuel → Follows rest →
    readValue fuel depth ((renderWith escape value).toList ++ rest) = .ok (value, rest)

theorem toList_renderText (escape : Char → List Char) (text : String) :
    (renderText escape text).toList = '"' :: (text.toList.flatMap escape ++ ['"']) := by
  simp [renderText]

theorem toList_renderWith_list (escape : Char → List Char) (items : List Json) :
    (renderWith escape (.list items)).toList =
      '[' :: ((Text.join ", " (renderItems escape items)).toList ++ [']']) := by
  simp [renderWith]

theorem toList_renderWith_object (escape : Char → List Char) (members : List (String × Json)) :
    (renderWith escape (.object members)).toList =
      '\x7b' :: ((Text.join ", " (renderMembers escape members)).toList ++ ['\x7d']) := by
  simp [renderWith]

theorem skipBlanks_digit {char : Char} (digit : char.isDigit = true) (tail : List Char) :
    skipBlanks (char :: tail) = char :: tail := by
  have others : ∀ blank : Char, blank.isDigit = false → (char == blank) = false :=
    fun blank notDigit => beq_eq_false_iff_ne.mpr (isDigit_ne digit notDigit)
  simp [skipBlanks, others ' ' rfl, others '\t' rfl, others '\n' rfl, others '\r' rfl]

/-- The first character of a written value is neither a blank nor the end of a list. -/
theorem ReadsBack.exists_head {value : Json} (readsBack : ReadsBack depth value)
    (escape : Char → List Char) :
    ∃ first more, (renderWith escape value).toList = first :: more ∧
      (∀ tail, skipBlanks (first :: tail) = first :: tail) ∧ first ≠ ']' := by
  cases readsBack with
  | null => exact ⟨'n', ['u', 'l', 'l'], by simp [renderWith], fun _ => rfl, by decide⟩
  | bool _ value =>
    cases value with
    | true => exact ⟨'t', ['r', 'u', 'e'], by simp [renderWith], fun _ => rfl, by decide⟩
    | false => exact ⟨'f', ['a', 'l', 's', 'e'], by simp [renderWith], fun _ => rfl, by decide⟩
  | @int _ value _ =>
    cases value with
    | ofNat value =>
      obtain ⟨first, more, digits, digit⟩ := exists_toDigits value
      exact ⟨first, more, by simp [renderWith, Text.decimalInt, Text.decimal, digits],
        skipBlanks_digit digit, isDigit_ne digit rfl⟩
    | negSucc value =>
      exact ⟨'-', Nat.toDigits 10 (value + 1), by simp [renderWith, Text.decimalInt, Text.decimal],
        fun _ => rfl, by decide⟩
  | real _ isNumeral =>
    rw [renderWith]
    cases isNumeral with
    | @finite negative whole fraction exponent isFraction isExponent given =>
      obtain ⟨first, more, digits, digit⟩ := exists_toDigits whole
      cases negative with
      | true =>
        refine ⟨'-', Nat.toDigits 10 whole ++ fraction ++ exponent, by simp, fun _ => rfl, by decide⟩
      | false =>
        refine ⟨first, more ++ fraction ++ exponent, by simp [digits], skipBlanks_digit digit,
          isDigit_ne digit rfl⟩
    | notNumber => exact ⟨'N', ['a', 'N'], by simp, fun _ => rfl, by decide⟩
    | infinity => exact ⟨'I', ['n', 'f', 'i', 'n', 'i', 't', 'y'], by simp, fun _ => rfl, by decide⟩
    | negativeInfinity =>
      exact ⟨'-', ['I', 'n', 'f', 'i', 'n', 'i', 't', 'y'], by simp, fun _ => rfl, by decide⟩
  | str _ text =>
    rw [renderWith]
    exact ⟨'"', _, toList_renderText escape text, fun _ => rfl, by decide⟩
  | list => exact ⟨'[', _, toList_renderWith_list escape _, fun _ => rfl, by decide⟩
  | object => exact ⟨'\x7b', _, toList_renderWith_object escape _, fun _ => rfl, by decide⟩

theorem toList_join_cons_cons (first second : String) (rest : List String) :
    (Text.join ", " (first :: second :: rest)).toList =
      first.toList ++ ',' :: ' ' :: (Text.join ", " (second :: rest)).toList := by
  simp [Text.join_cons_cons]

theorem length_join_cons_cons (first second : String) (rest : List String) :
    (Text.join ", " (first :: second :: rest)).length =
      first.length + 2 + (Text.join ", " (second :: rest)).length := by
  rw [Text.join_cons_cons, String.length_append, String.length_append]
  rfl

theorem skipBlanks_space (chars : List Char) : skipBlanks (' ' :: chars) = skipBlanks chars := rfl

theorem skipBlanks_quote (chars : List Char) : skipBlanks ('"' :: chars) = '"' :: chars := rfl

theorem skipBlanks_comma (chars : List Char) : skipBlanks (',' :: chars) = ',' :: chars := rfl

/-- A list that is written starts with its first item. -/
theorem exists_head_join {item : Json} (readsBack : ReadsBack depth item)
    (escape : Char → List Char) (items : List Json) :
    ∃ first more, (Text.join ", " (renderItems escape (item :: items))).toList = first :: more ∧
      (∀ tail, skipBlanks (first :: tail) = first :: tail) ∧ first ≠ ']' := by
  obtain ⟨first, more, head, blank, bracket⟩ := readsBack.exists_head escape
  cases items with
  | nil => exact ⟨first, more, head, blank, bracket⟩
  | cons second rest =>
    refine ⟨first, more ++ ',' :: ' ' :: (Text.join ", " (renderItems escape (second :: rest))).toList,
      ?_, blank, bracket⟩
    simp only [renderItems, toList_join_cons_cons, head, List.cons_append]

/-- The items of a list are read one after the other. -/
theorem readItems_render {item : Json} {items : List Json}
    (readsBack : ∀ one ∈ item :: items, ReadsBack depth one)
    (each : ∀ one ∈ item :: items, IsRead escape depth one) (before : List Json) {fuel : Nat}
    (enough : (Text.join ", " (renderItems escape (item :: items))).length < fuel)
    (rest : List Char) :
    readItems fuel depth before
        ((Text.join ", " (renderItems escape (item :: items))).toList ++ ']' :: rest) =
      .ok (.list (before.reverse ++ item :: items), rest) := by
  obtain _ | fuel := fuel
  · omega
  induction items generalizing item before fuel with
  | nil =>
    have read := each item List.mem_cons_self fuel (']' :: rest) (Nat.le_of_lt_succ enough)
      (.inr (.inl rfl))
    rw [renderItems, renderItems, Text.join, readItems, read]
    simp [skipBlanks]
  | cons second items inductionHypothesis =>
    obtain ⟨first, more, head, blank, -⟩ :=
      exists_head_join (readsBack second (by simp)) escape items
    have split := toList_join_cons_cons (renderWith escape item) (renderWith escape second)
      (renderItems escape items)
    have length := length_join_cons_cons (renderWith escape item) (renderWith escape second)
      (renderItems escape items)
    simp only [renderItems] at enough head ⊢
    have read := each item List.mem_cons_self fuel (',' :: ' ' :: (first :: more ++ ']' :: rest))
      (by omega) (.inl rfl)
    obtain _ | fuel := fuel
    · omega
    have later := inductionHypothesis (fun one member => readsBack one (List.mem_cons_of_mem item member))
      (fun one member => each one (List.mem_cons_of_mem item member)) (item :: before) fuel
      (by simp only [renderItems]; omega)
    simp only [renderItems, head] at later
    rw [split, head, List.append_assoc, readItems]
    simp only [List.cons_append] at read later ⊢
    rw [read]
    simp only [skipBlanks_comma, skipBlanks_space, blank, later]
    simp

theorem insertMember_new {members : List (String × Json)} {key : String}
    (new : key ∉ members.map (·.1)) (value : Json) :
    insertMember members key value = members ++ [(key, value)] := by
  induction members with
  | nil => rfl
  | cons member rest inductionHypothesis =>
    simp only [List.map_cons, List.mem_cons, not_or] at new
    have other : (member.1 == key) = false := beq_eq_false_iff_ne.mpr (Ne.symm new.1)
    rw [insertMember, other, inductionHypothesis new.2]
    rfl

/-- The written form of a member. -/
theorem toList_member (escape : Char → List Char) (key : String) (value : Json) :
    (renderText escape key ++ ": " ++ renderWith escape value).toList =
      '"' :: (key.toList.flatMap escape ++ '"' :: ':' :: ' ' :: (renderWith escape value).toList) := by
  simp [toList_renderText]

theorem notMem_keys {before after : List (String × Json)} {key : String} {value : Json}
    (distinct : ((before ++ (key, value) :: after).map (·.1)).Nodup) : key ∉ before.map (·.1) := by
  simp only [List.map_append, List.nodup_append, List.map_cons] at distinct
  exact fun known => distinct.2.2 key known key List.mem_cons_self rfl

/-- One member of an object is read, and then what follows it. -/
theorem readMembers_member (faithful : Faithful escape code) {key : String} {value : Json}
    (readsBack : ReadsBack depth value) (isRead : IsRead escape depth value)
    {before : List (String × Json)} (new : key ∉ before.map (·.1)) {fuel : Nat}
    (enough : (renderWith escape value).length ≤ fuel) (rest : List Char) :
    readMembers (fuel + 1) depth before
        ((renderText escape key ++ ": " ++ renderWith escape value).toList ++ '\x7d' :: rest) =
      .ok (.object (before ++ [(key, value)]), rest) ∧
    readMembers (fuel + 1) depth before
        ((renderText escape key ++ ": " ++ renderWith escape value).toList ++ ',' :: rest) =
      readMembers fuel depth (before ++ [(key, value)]) (skipBlanks rest) := by
  obtain ⟨first, more, head, blank, -⟩ := readsBack.exists_head escape
  have read (stop : Char) (follows : Follows (stop :: rest)) :
      readValue fuel depth (first :: (more ++ stop :: rest)) = .ok (value, stop :: rest) := by
    have read := isRead fuel (stop :: rest) enough follows
    rwa [head, List.cons_append] at read
  have colon : ∀ chars, skipBlanks (':' :: chars) = ':' :: chars := fun _ => rfl
  have brace : skipBlanks ('\x7d' :: rest) = '\x7d' :: rest := rfl
  rw [toList_member, head, List.cons_append, List.cons_append, readMembers, readMembers]
  simp only [List.append_assoc, List.cons_append, faithful.readText, colon, skipBlanks_space, blank,
    read '\x7d' (.inr (.inr rfl)), read ',' (.inl rfl), brace, skipBlanks_comma, insertMember_new new,
    and_self]

/-- The members of an object start with a quote. -/
theorem exists_head_members (escape : Char → List Char) (member : String × Json)
    (members : List (String × Json)) :
    ∃ more, (Text.join ", " (renderMembers escape (member :: members))).toList = '"' :: more := by
  obtain ⟨key, value⟩ := member
  cases members with
  | nil => exact ⟨_, toList_member escape key value⟩
  | cons second members =>
    simp only [renderMembers, toList_join_cons_cons, toList_member, List.cons_append]
    exact ⟨_, rfl⟩

/-- The members of an object are read one after the other. -/
theorem readMembers_render (faithful : Faithful escape code) {member : String × Json}
    {members : List (String × Json)} (readsBack : ∀ one ∈ member :: members, ReadsBack depth one.2)
    (each : ∀ one ∈ member :: members, IsRead escape depth one.2) (before : List (String × Json))
    (distinct : ((before ++ member :: members).map (·.1)).Nodup) {fuel : Nat}
    (enough : (Text.join ", " (renderMembers escape (member :: members))).length < fuel)
    (rest : List Char) :
    readMembers fuel depth before
        ((Text.join ", " (renderMembers escape (member :: members))).toList ++ '\x7d' :: rest) =
      .ok (.object (before ++ member :: members), rest) := by
  obtain _ | fuel := fuel
  · omega
  induction members generalizing member before fuel with
  | nil =>
    obtain ⟨key, value⟩ := member
    have fits : (renderWith escape value).length ≤ fuel := by
      simp only [renderMembers, Text.join, String.length_append] at enough
      omega
    rw [renderMembers, renderMembers, Text.join]
    exact (readMembers_member faithful (readsBack (key, value) List.mem_cons_self)
      (each (key, value) List.mem_cons_self) (notMem_keys distinct) fits rest).1
  | cons second members inductionHypothesis =>
    obtain ⟨key, value⟩ := member
    obtain ⟨more, head⟩ := exists_head_members escape second members
    have split := toList_join_cons_cons (renderText escape key ++ ": " ++ renderWith escape value)
      (renderText escape second.1 ++ ": " ++ renderWith escape second.2) (renderMembers escape members)
    have length := length_join_cons_cons (renderText escape key ++ ": " ++ renderWith escape value)
      (renderText escape second.1 ++ ": " ++ renderWith escape second.2) (renderMembers escape members)
    simp only [renderMembers, String.length_append] at enough length head ⊢
    have fits : (renderWith escape value).length ≤ fuel := by omega
    obtain _ | fuel := fuel
    · omega
    have later := inductionHypothesis (fun one member => readsBack one (List.mem_cons_of_mem _ member))
      (fun one member => each one (List.mem_cons_of_mem _ member)) (before ++ [(key, value)])
      (by simpa using distinct) fuel (by simp only [renderMembers]; omega)
    simp only [renderMembers, head] at later
    rw [split, List.append_assoc, head]
    simp only [List.cons_append] at later ⊢
    rw [(readMembers_member faithful (readsBack (key, value) List.mem_cons_self)
      (each (key, value) List.mem_cons_self) (notMem_keys distinct) fits _).2]
    simp only [skipBlanks_space, skipBlanks_quote, later]
    simp

theorem ReadsBack.isRead_of_succ {value : Json} (readsBack : ReadsBack depth value)
    (read : ∀ fuel rest, (renderWith escape value).length ≤ fuel + 1 → Follows rest →
      readValue (fuel + 1) depth ((renderWith escape value).toList ++ rest) = .ok (value, rest)) :
    IsRead escape depth value := by
  rintro (_ | fuel) rest enough follows
  · obtain ⟨first, more, head, -⟩ := readsBack.exists_head escape
    rw [← String.length_toList, head] at enough
    simp at enough
  · exact read fuel rest enough follows

theorem ReadsBack.isRead (faithful : Faithful escape code) {value : Json}
    (readsBack : ReadsBack depth value) : IsRead escape depth value := by
  induction readsBack with
  | null depth =>
    refine (ReadsBack.null depth).isRead_of_succ fun fuel rest _ _ => ?_
    simp [renderWith, readValue]
  | bool depth value =>
    refine (ReadsBack.bool depth value).isRead_of_succ fun fuel rest _ _ => ?_
    cases value <;> simp [renderWith, readValue]
  | int depth short =>
    refine (ReadsBack.int depth short).isRead_of_succ fun fuel rest _ follows => ?_
    rw [renderWith]
    exact readValue_int short follows fuel depth
  | real depth isNumeral =>
    refine (ReadsBack.real depth isNumeral).isRead_of_succ fun fuel rest _ follows => ?_
    rw [renderWith]
    exact readValue_real isNumeral follows fuel depth
  | str depth text =>
    refine (ReadsBack.str depth text).isRead_of_succ fun fuel rest _ _ => ?_
    rw [renderWith, toList_renderText, List.cons_append, readValue, List.append_assoc]
    simp [faithful.readText, Except.map]
  | @list depth items each inductionHypothesis =>
    refine (ReadsBack.list each).isRead_of_succ fun fuel rest enough _ => ?_
    rw [toList_renderWith_list, List.cons_append, List.append_assoc, readValue]
    cases items with
    | nil => simp [renderItems, Text.join, skipBlanks]
    | cons item items =>
      obtain ⟨first, more, head, blank, bracket⟩ :=
        exists_head_join (each item List.mem_cons_self) escape items
      have fits : (Text.join ", " (renderItems escape (item :: items))).length < fuel := by
        rw [← String.length_toList, toList_renderWith_list] at enough
        simp only [List.length_cons, List.length_append, String.length_toList, List.length_nil] at enough
        omega
      have read := readItems_render each inductionHypothesis [] fits rest
      rw [head] at read ⊢
      simp only [List.cons_append, List.nil_append, blank] at read ⊢
      split
      · simp_all
      · exact read
  | @object depth members distinct each inductionHypothesis =>
    refine (ReadsBack.object distinct each).isRead_of_succ fun fuel rest enough _ => ?_
    rw [toList_renderWith_object, List.cons_append, List.append_assoc, readValue]
    cases members with
    | nil => simp [renderMembers, Text.join, skipBlanks]
    | cons member members =>
      obtain ⟨more, head⟩ := exists_head_members escape member members
      have fits : (Text.join ", " (renderMembers escape (member :: members))).length < fuel := by
        rw [← String.length_toList, toList_renderWith_object] at enough
        simp only [List.length_cons, List.length_append, String.length_toList, List.length_nil] at enough
        omega
      have read := readMembers_render faithful each inductionHypothesis [] distinct fits rest
      rw [head] at read ⊢
      simp only [List.cons_append, List.nil_append, skipBlanks_quote] at read ⊢
      exact read

/-- A value is what its written form is read as. -/
theorem parse_renderWith (faithful : Faithful escape code) {value : Json}
    (readsBack : ReadsBack maxDepth value) : parse (renderWith escape value) = .ok value := by
  obtain ⟨first, more, head, blank, -⟩ := readsBack.exists_head escape
  have read := readsBack.isRead faithful ((renderWith escape value).length + 1) []
    (Nat.le_succ _) trivial
  rw [List.append_nil, head] at read
  rw [parse, head, blank, read]
  rfl

theorem parse_renderAscii {value : Json} (readsBack : ReadsBack maxDepth value) :
    parse value.renderAscii = .ok value :=
  parse_renderWith asciiChar_faithful readsBack

end Values

section Writable

theorem anyLongInteger_eq_false {items : List Json} :
    anyLongInteger items = false ↔ ∀ item ∈ items, item.hasLongInteger = false := by
  induction items with
  | nil => simp [anyLongInteger]
  | cons item rest inductionHypothesis => simp [anyLongInteger, inductionHypothesis]

theorem anyLongMember_eq_false {members : List (String × Json)} :
    anyLongMember members = false ↔ ∀ member ∈ members, member.2.hasLongInteger = false := by
  induction members with
  | nil => simp [anyLongMember]
  | cons member rest inductionHypothesis => simp [anyLongMember, inductionHypothesis]

theorem itemNesting_le {items : List Json} {depth : Nat} :
    itemNesting items ≤ depth ↔ ∀ item ∈ items, item.nesting ≤ depth := by
  induction items with
  | nil => simp [itemNesting]
  | cons item rest inductionHypothesis =>
    rw [itemNesting, Nat.max_le, inductionHypothesis, List.forall_mem_cons]

theorem memberNesting_le {members : List (String × Json)} {depth : Nat} :
    memberNesting members ≤ depth ↔ ∀ member ∈ members, member.2.nesting ≤ depth := by
  induction members with
  | nil => simp [memberNesting]
  | cons member rest inductionHypothesis =>
    rw [memberNesting, Nat.max_le, inductionHypothesis, List.forall_mem_cons]

/-- A value whose numbers are numbers and whose objects have distinct keys, as all values that are
read are. -/
inductive IsProper : Json → Prop where
  | null : IsProper .null
  | bool (value : Bool) : IsProper (.bool value)
  | int (value : Int) : IsProper (.int value)
  | real {numeral : String} (isNumeral : IsNumeral numeral) : IsProper (.real numeral)
  | str (text : String) : IsProper (.str text)
  | list {items : List Json} (each : ∀ item ∈ items, IsProper item) : IsProper (.list items)
  | object {members : List (String × Json)} (distinct : (members.map (·.1)).Nodup)
      (each : ∀ member ∈ members, IsProper member.2) : IsProper (.object members)

/-- Whether a value can be written. -/
structure IsWritable (value : Json) : Prop where
  short : value.hasLongInteger = false
  shallow : value.nesting ≤ maxDepth

theorem IsProper.readsBack {value : Json} (proper : value.IsProper)
    (short : value.hasLongInteger = false) {depth : Nat} (shallow : value.nesting ≤ depth) :
    ReadsBack depth value := by
  induction proper generalizing depth with
  | null => exact .null depth
  | bool value => exact .bool depth value
  | int value =>
    exact .int depth (by simpa [hasLongInteger] using short)
  | real isNumeral => exact .real depth isNumeral
  | str text => exact .str depth text
  | list _ inductionHypothesis =>
    rw [hasLongInteger] at short
    rw [nesting] at shallow
    obtain ⟨depth, rfl⟩ := Nat.exists_eq_add_of_le' (Nat.le_of_add_left_le shallow)
    refine .list fun item member => ?_
    exact inductionHypothesis item member (anyLongInteger_eq_false.mp short item member)
      (itemNesting_le.mp (Nat.le_of_succ_le_succ shallow) item member)
  | object distinct _ inductionHypothesis =>
    rw [hasLongInteger] at short
    rw [nesting] at shallow
    obtain ⟨depth, rfl⟩ := Nat.exists_eq_add_of_le' (Nat.le_of_add_left_le shallow)
    refine .object distinct fun member listed => ?_
    exact inductionHypothesis member listed (anyLongMember_eq_false.mp short member listed)
      (memberNesting_le.mp (Nat.le_of_succ_le_succ shallow) member listed)

end Writable

end ClassAtlas.Json
