import Edn.Literal
import Mathlib.Data.List.Basic

/-!
# The texts of atoms, by grammar

A number is an optional sign, digits, and marks behind them; a character is the character itself, a
name, or a code; a string is made of plain characters and escapes. The tests of `Literal` cut texts
from both ends, and are shown here to accept exactly these texts. An integer is never a float, so
the order in which a token is tested does not matter, as `tokenKind?_eq_some_iff` says.
-/

namespace Edn.Literal

/-! ## The grammars -/

/-- One or more decimal digits. -/
def Digits (text : List Char) : Prop :=
  text ≠ [] ∧ ∀ c ∈ text, c.isDigit = true

/-- One sign, or none. -/
inductive OptionalSign : List Char → Prop
  | absent : OptionalSign []
  | sign {c : Char} : c = '+' ∨ c = '-' → OptionalSign [c]

/-- A mark, or nothing. -/
inductive OptionalMark (mark : Char) : List Char → Prop
  | absent : OptionalMark mark []
  | present : OptionalMark mark [mark]

/-- A point and digits, of which there may be none, or nothing. -/
inductive OptionalFraction : List Char → Prop
  | absent : OptionalFraction []
  | point {digits : List Char} : (∀ c ∈ digits, c.isDigit = true) → OptionalFraction ('.' :: digits)

/-- An `e` of either case, an optional sign and digits, or nothing. -/
inductive OptionalExponent : List Char → Prop
  | absent : OptionalExponent []
  | power {e : Char} {sign digits : List Char} : e = 'e' ∨ e = 'E' → OptionalSign sign →
    Digits digits → OptionalExponent (e :: (sign ++ digits))

/-- An optional sign, digits, and perhaps `N`. -/
inductive IntegerText : List Char → Prop
  | intro {sign digits mark : List Char} : OptionalSign sign → Digits digits →
    OptionalMark 'N' mark → IntegerText (sign ++ (digits ++ mark))

/-- An optional sign, digits, and at least one of fraction, exponent and `M`. -/
inductive FloatText : List Char → Prop
  | intro {sign whole fraction exponent mark : List Char} : OptionalSign sign → Digits whole →
    OptionalFraction fraction → OptionalExponent exponent → OptionalMark 'M' mark →
    fraction ++ exponent ++ mark ≠ [] →
    FloatText (sign ++ (whole ++ fraction ++ exponent ++ mark))

/-- A digit stands at the front, or a sign before a digit. -/
inductive NumericStart : List Char → Prop
  | digit {c : Char} {text : List Char} : c.isDigit = true → NumericStart (c :: text)
  | signed {sign c : Char} {text : List Char} : sign = '+' ∨ sign = '-' → c.isDigit = true →
    NumericStart (sign :: c :: text)

/-- What can follow a backslash outside strings. -/
inductive CharacterText : List Char → Prop
  | single (c : Char) : CharacterText [c]
  | named {name : String} : name ∈ characterNames → CharacterText name.toList
  | unicode {digits : List Char} : digits.length = 4 → (∀ c ∈ digits, isHexDigit c = true) →
    CharacterText ('u' :: digits)
  | octal {digits : List Char} : digits ≠ [] → digits.length ≤ 3 →
    (∀ c ∈ digits, isOctalDigit c = true) → octalValue digits ≤ 255 → CharacterText ('o' :: digits)

/-- What can stand between the quotes of a string. -/
inductive StringText : List Char → Prop
  | nil : StringText []
  | plain {c : Char} {text : List Char} : c ≠ '"' → c ≠ '\\' → StringText text →
    StringText (c :: text)
  | escape {c : Char} {text : List Char} : c ∈ ['t', 'r', 'n', '\\', '"', 'b', 'f'] →
    StringText text → StringText ('\\' :: c :: text)
  | unicode {digits text : List Char} : digits.length = 4 → (∀ c ∈ digits, isHexDigit c = true) →
    StringText text → StringText ('\\' :: 'u' :: (digits ++ text))

/-! ## Cutting texts -/

theorem isSign_iff {c : Char} : isSign c = true ↔ c = '+' ∨ c = '-' := by
  simp [isSign]

theorem isDigits_iff {text : List Char} : isDigits text = true ↔ Digits text := by
  simp [isDigits, Digits]

theorem not_isSign_of_isDigit {c : Char} (digit : c.isDigit = true) : isSign c = false := by
  rw [Bool.eq_false_iff, ne_eq, isSign_iff]
  rintro (rfl | rfl) <;> exact absurd digit (by decide)

theorem exists_dropSign (text : List Char) :
    ∃ sign, OptionalSign sign ∧ text = sign ++ dropSign text := by
  cases text with
  | nil => exact ⟨[], .absent, rfl⟩
  | cons c text =>
    cases signed : isSign c with
    | true => exact ⟨[c], .sign (isSign_iff.1 signed), by simp [dropSign, signed]⟩
    | false => exact ⟨[], .absent, by simp [dropSign, signed]⟩

theorem dropSign_append {sign digits : List Char} (rest : List Char) (signed : OptionalSign sign)
    (number : Digits digits) : dropSign (sign ++ (digits ++ rest)) = digits ++ rest := by
  cases signed with
  | absent =>
    obtain ⟨filled, all⟩ := number
    obtain ⟨c, digits, rfl⟩ := List.exists_cons_of_ne_nil filled
    simp [dropSign, not_isSign_of_isDigit (all c List.mem_cons_self)]
  | sign plus_or_minus => simp [dropSign, isSign_iff.2 plus_or_minus]

theorem exists_splitMark (mark : Char) (text : List Char) :
    ∃ tail, OptionalMark mark tail ∧ text = (splitMark mark text).1 ++ tail ∧
      ((splitMark mark text).2 = true ↔ tail ≠ []) := by
  unfold splitMark
  split
  · next last =>
    refine ⟨[mark], .present, ?_, by simp⟩
    rw [List.dropLast_append_getLast? mark last]
  · exact ⟨[], .absent, by simp, by simp⟩

theorem splitMark_append {mark : Char} {text tail : List Char} (tailed : OptionalMark mark tail)
    (other : text.getLast? ≠ some mark) :
    splitMark mark (text ++ tail) = (text, !tail.isEmpty) := by
  cases tailed with
  | absent => simp [splitMark, other]
  | present => simp [splitMark]

theorem splitAt_cut (stop : Char → Bool) (text : List Char) :
    (∀ c ∈ (splitAt stop text).1, stop c = false) ∧
      match (splitAt stop text).2 with
      | none => text = (splitAt stop text).1
      | some rest => ∃ c, stop c = true ∧ text = (splitAt stop text).1 ++ c :: rest := by
  induction text with
  | nil => exact ⟨by simp [splitAt], rfl⟩
  | cons c text ih =>
    cases stops : stop c with
    | true => simp [splitAt, stops]
    | false =>
      cases found : splitAt stop text with
      | mk before after =>
        rw [found] at ih
        obtain ⟨none_stops, cut⟩ := ih
        simp only [splitAt, stops, found, Bool.false_eq_true, if_false]
        refine ⟨List.forall_mem_cons.2 ⟨stops, none_stops⟩, ?_⟩
        cases after with
        | none => exact congrArg (c :: ·) cut
        | some rest =>
          obtain ⟨d, stopped, whole⟩ := cut
          exact ⟨d, stopped, congrArg (c :: ·) whole⟩

theorem splitAt_of_forall {stop : Char → Bool} {text : List Char}
    (none_stops : ∀ c ∈ text, stop c = false) : splitAt stop text = (text, none) := by
  induction text with
  | nil => rfl
  | cons c text ih =>
    obtain ⟨first, others⟩ := List.forall_mem_cons.1 none_stops
    simp [splitAt, first, ih others]

theorem splitAt_append_cons {stop : Char → Bool} {before : List Char} {c : Char}
    (rest : List Char) (none_stops : ∀ c ∈ before, stop c = false) (stops : stop c = true) :
    splitAt stop (before ++ c :: rest) = (before, some rest) := by
  induction before with
  | nil => simp [splitAt, stops]
  | cons d before ih =>
    obtain ⟨first, others⟩ := List.forall_mem_cons.1 none_stops
    simp [splitAt, first, ih others]

/-! ## Integers -/

theorem Digits.getLast?_ne {digits : List Char} (number : Digits digits) {mark : Char}
    (no_digit : mark.isDigit = false) : digits.getLast? ≠ some mark := by
  intro last
  have := number.2 mark (List.mem_of_getLast? last)
  rw [no_digit] at this
  cases this

theorem isInteger_iff {text : List Char} : isInteger text = true ↔ IntegerText text := by
  constructor
  · intro tested
    obtain ⟨sign, signed, whole⟩ := exists_dropSign text
    obtain ⟨mark, marked, cut, -⟩ := exists_splitMark 'N' (dropSign text)
    rw [whole, cut]
    exact .intro signed (isDigits_iff.1 tested) marked
  · intro parts
    rcases parts with ⟨signed, number, marked⟩
    rw [isInteger, dropSign_append _ signed number,
      splitMark_append marked (number.getLast?_ne rfl), isDigits_iff]
    exact number

/-! ## Floats -/

/-- Whether a character announces an exponent. -/
def isPower (c : Char) : Bool := c = 'e' || c = 'E'

theorem exists_fraction {text digits : List Char} {fraction : Option (List Char)}
    (cut : splitAt (· = '.') text = (digits, fraction))
    (all : (fraction.all fun digits => digits.all Char.isDigit) = true) :
    ∃ tail, OptionalFraction tail ∧ text = digits ++ tail ∧
      (fraction.isSome = true ↔ tail ≠ []) := by
  have found := (splitAt_cut (· = '.') text).2
  rw [cut] at found
  cases fraction with
  | none => exact ⟨[], .absent, by simpa using found, by simp⟩
  | some rest =>
    obtain ⟨c, point, whole⟩ := found
    obtain rfl : c = '.' := by simpa using point
    exact ⟨'.' :: rest, .point (by simpa using all), whole, by simp⟩

theorem exists_exponent {text mantissa : List Char} {exponent : Option (List Char)}
    (cut : splitAt isPower text = (mantissa, exponent))
    (all : (exponent.all fun digits => isDigits (dropSign digits)) = true) :
    ∃ tail, OptionalExponent tail ∧ text = mantissa ++ tail ∧
      (exponent.isSome = true ↔ tail ≠ []) := by
  have found := (splitAt_cut isPower text).2
  rw [cut] at found
  cases exponent with
  | none => exact ⟨[], .absent, by simpa using found, by simp⟩
  | some rest =>
    obtain ⟨e, power, whole⟩ := found
    obtain ⟨sign, signed, rest_eq⟩ := exists_dropSign rest
    have digits : Digits (dropSign rest) := isDigits_iff.1 (by simpa using all)
    refine ⟨e :: rest, ?_, whole, by simp⟩
    rw [rest_eq]
    exact .power (by simpa [isPower] using power) signed digits

theorem Digits.ne {digits : List Char} (number : Digits digits) {c : Char} (among : c ∈ digits)
    {d : Char} (no_digit : d.isDigit = false) : c ≠ d := by
  intro same
  subst same
  have := number.2 c among
  rw [no_digit] at this
  cases this

theorem mantissa_char {digits tail : List Char} (whole : Digits digits)
    (fraction : OptionalFraction tail) {c : Char} (among : c ∈ digits ++ tail) :
    c.isDigit = true ∨ c = '.' := by
  rcases List.mem_append.1 among with front | behind
  · exact Or.inl (whole.2 c front)
  · cases fraction with
    | absent => cases behind
    | point all =>
      rcases List.mem_cons.1 behind with rfl | behind
      · exact Or.inr rfl
      · exact Or.inl (all c behind)

theorem OptionalExponent.char {tail : List Char} (exponent : OptionalExponent tail) {c : Char}
    (among : c ∈ tail) : c.isDigit = true ∨ c ∈ ['e', 'E', '+', '-'] := by
  cases exponent with
  | absent => cases among
  | power either signed number =>
    rcases List.mem_cons.1 among with rfl | among
    · rcases either with rfl | rfl <;> simp
    · rcases List.mem_append.1 among with front | behind
      · cases signed with
        | absent => cases front
        | sign either =>
          obtain rfl := List.mem_singleton.1 front
          rcases either with rfl | rfl <;> simp
      · exact Or.inl (number.2 c behind)

theorem not_isPower_of_isDigit {c : Char} (digit : c.isDigit = true) : isPower c = false := by
  simp only [isPower, Bool.or_eq_false_iff, decide_eq_false_iff_not]
  constructor <;> rintro rfl <;> cases digit

theorem splitAt_point {digits tail : List Char} (whole : Digits digits)
    (fraction : OptionalFraction tail) :
    ∃ behind, splitAt (· = '.') (digits ++ tail) = (digits, behind) ∧
      (behind.all fun digits => digits.all Char.isDigit) = true ∧
      (behind.isSome = true ↔ tail ≠ []) := by
  have before : ∀ c ∈ digits, decide (c = '.') = false := fun c among =>
    decide_eq_false (whole.ne among rfl)
  cases fraction with
  | absent => exact ⟨none, by rw [List.append_nil, splitAt_of_forall before], rfl, by simp⟩
  | @point behind all =>
    exact ⟨some behind, splitAt_append_cons behind before rfl, by simpa using all, by simp⟩

theorem splitAt_power {mantissa tail : List Char} (before : ∀ c ∈ mantissa, isPower c = false)
    (exponent : OptionalExponent tail) :
    ∃ behind, splitAt isPower (mantissa ++ tail) = (mantissa, behind) ∧
      (behind.all fun digits => isDigits (dropSign digits)) = true ∧
      (behind.isSome = true ↔ tail ≠ []) := by
  cases exponent with
  | absent => exact ⟨none, by rw [List.append_nil, splitAt_of_forall before], rfl, by simp⟩
  | @power e sign digits either signed number =>
    have bare : dropSign (sign ++ digits) = digits := by
      simpa using dropSign_append [] signed number
    refine ⟨some (sign ++ digits), splitAt_append_cons _ before ?_, ?_, by simp⟩
    · simpa [isPower] using either
    · simpa [bare] using isDigits_iff.2 number

theorem isFloat_eq (text : List Char) :
    isFloat text =
      let tail := splitMark 'M' (dropSign text)
      let powers := splitAt isPower tail.1
      let points := splitAt (· = '.') powers.1
      (isDigits points.1 && (points.2.all fun digits => digits.all Char.isDigit) &&
        (powers.2.all fun digits => isDigits (dropSign digits)) &&
        (points.2.isSome || powers.2.isSome || tail.2)) :=
  rfl

theorem isFloat_iff {text : List Char} : isFloat text = true ↔ FloatText text := by
  rw [isFloat_eq]
  constructor
  · intro tested
    simp only [Bool.and_eq_true, Bool.or_eq_true] at tested
    obtain ⟨⟨⟨whole, fraction⟩, exponent⟩, some_mark⟩ := tested
    obtain ⟨sign, signed, text_eq⟩ := exists_dropSign text
    obtain ⟨mark, marked, tail_eq, mark_iff⟩ := exists_splitMark 'M' (dropSign text)
    obtain ⟨power, powered, body_eq, power_iff⟩ := exists_exponent rfl exponent
    obtain ⟨point, pointed, mantissa_eq, point_iff⟩ := exists_fraction rfl fraction
    rw [text_eq, tail_eq, body_eq, mantissa_eq]
    apply FloatText.intro signed (isDigits_iff.1 whole) pointed powered marked
    rw [point_iff, power_iff, mark_iff] at some_mark
    rcases some_mark with (filled | filled) | filled <;> simp [filled]
  · intro parts
    rcases parts with ⟨signed, whole, fraction, exponent, marked, some_mark⟩
    rename_i sign digits point power mark
    have no_mark : (digits ++ point ++ power).getLast? ≠ some 'M' := by
      intro last
      rcases List.mem_append.1 (List.mem_of_getLast? last) with among | among
      · rcases mantissa_char whole fraction among with digit | ⟨⟨⟩⟩
        cases digit
      · rcases exponent.char among with digit | listed
        · cases digit
        · exact absurd listed (by decide)
    have no_power : ∀ c ∈ digits ++ point, isPower c = false := by
      intro c among
      rcases mantissa_char whole fraction among with digit | rfl
      · exact not_isPower_of_isDigit digit
      · rfl
    obtain ⟨behind, cut, all_digits, point_iff⟩ := splitAt_point whole fraction
    obtain ⟨behind', cut', all_digits', power_iff⟩ := splitAt_power no_power exponent
    have bare : dropSign (sign ++ (digits ++ point ++ power ++ mark)) =
        digits ++ point ++ power ++ mark := by
      simpa only [List.append_assoc] using dropSign_append (point ++ (power ++ mark)) signed whole
    simp only [bare, splitMark_append marked no_mark, cut', cut, isDigits_iff.2 whole, all_digits,
      all_digits', Bool.and_self, Bool.true_and, Bool.or_eq_true, point_iff, power_iff]
    by_contra none
    simp only [not_or, not_not, Bool.not_eq_true, Bool.not_eq_false', List.isEmpty_iff] at none
    obtain ⟨⟨rfl, rfl⟩, rfl⟩ := none
    exact some_mark rfl

/-! ## The kind of a token -/

theorem OptionalSign.char {sign : List Char} (signed : OptionalSign sign) {c : Char}
    (among : c ∈ sign) : c = '+' ∨ c = '-' := by
  cases signed with
  | absent => cases among
  | sign either =>
    obtain rfl := List.mem_singleton.1 among
    exact either

theorem IntegerText.char {text : List Char} (integer : IntegerText text) {c : Char}
    (among : c ∈ text) : c.isDigit = true ∨ c ∈ ['+', '-', 'N'] := by
  obtain ⟨signed, number, marked⟩ := integer
  rcases List.mem_append.1 among with front | among
  · rcases signed.char front with rfl | rfl <;> simp
  · rcases List.mem_append.1 among with inside | behind
    · exact Or.inl (number.2 c inside)
    · cases marked with
      | absent => cases behind
      | present =>
        obtain rfl := List.mem_singleton.1 behind
        simp

theorem FloatText.exists_mark {text : List Char} (float : FloatText text) :
    ∃ c ∈ text, c ∈ ['.', 'e', 'E', 'M'] := by
  obtain ⟨-, -, fraction, exponent, marked, some_mark⟩ := float
  cases fraction with
  | point => exact ⟨'.', by simp, by simp⟩
  | absent =>
    cases exponent with
    | @power e _ _ either => exact ⟨e, by simp, by rcases either with rfl | rfl <;> simp⟩
    | absent =>
      cases marked with
      | present => exact ⟨'M', by simp, by simp⟩
      | absent => exact absurd rfl some_mark

theorem FloatText.not_integerText {text : List Char} (float : FloatText text) :
    ¬ IntegerText text := by
  intro integer
  obtain ⟨c, among, mark⟩ := float.exists_mark
  rcases integer.char among with digit | listed
  · simp only [List.mem_cons, List.not_mem_nil, or_false] at mark
    rcases mark with rfl | rfl | rfl | rfl <;> cases digit
  · simp only [List.mem_cons, List.not_mem_nil, or_false] at mark listed
    rcases mark with rfl | rfl | rfl | rfl <;> revert listed <;> decide

theorem looksNumeric_iff {text : List Char} : looksNumeric text = true ↔ NumericStart text := by
  constructor
  · intro tested
    match text with
    | [] => cases tested
    | [c] => exact .digit (by simpa [looksNumeric] using tested)
    | c :: d :: text =>
      simp only [looksNumeric, List.head?_cons, Option.any_some, Bool.or_eq_true,
        Bool.and_eq_true] at tested
      rcases tested with digit | ⟨signed, digit⟩
      · exact .digit digit
      · exact .signed (isSign_iff.1 signed) digit
  · intro which
    rcases which with digit | ⟨signed, digit⟩
    · simp [looksNumeric, digit]
    · simp [looksNumeric, isSign_iff.2 signed, digit]

theorem numericStart_append {sign digits : List Char} (rest : List Char)
    (signed : OptionalSign sign) (number : Digits digits) :
    NumericStart (sign ++ (digits ++ rest)) := by
  obtain ⟨filled, all⟩ := number
  obtain ⟨c, digits, rfl⟩ := List.exists_cons_of_ne_nil filled
  have digit := all c List.mem_cons_self
  cases signed with
  | absent => exact .digit digit
  | sign either => exact .signed either digit

theorem IntegerText.numericStart {text : List Char} (integer : IntegerText text) :
    NumericStart text := by
  obtain ⟨signed, number, -⟩ := integer
  exact numericStart_append _ signed number

theorem FloatText.numericStart {text : List Char} (float : FloatText text) :
    NumericStart text := by
  obtain ⟨signed, whole, -, -, -, -⟩ := float
  rw [List.append_assoc, List.append_assoc]
  exact numericStart_append _ signed whole

/-- The texts of tokens that are no keywords. -/
inductive TokenText : AtomKind → List Char → Prop
  | integer {text : List Char} : IntegerText text → TokenText .integer text
  | float {text : List Char} : FloatText text → TokenText .float text
  | symbol {text : List Char} : ¬ NumericStart text → TokenText .symbol text

theorem tokenKind?_eq_some_iff {text : List Char} {kind : AtomKind} :
    tokenKind? text = some kind ↔ TokenText kind text := by
  unfold tokenKind?
  constructor
  · intro found
    split at found
    · next plain =>
      cases found
      exact .symbol fun numeric => by simp [looksNumeric_iff.2 numeric] at plain
    · split at found
      · next integer =>
        cases found
        exact .integer (isInteger_iff.1 integer)
      · split at found
        · next float =>
          cases found
          exact .float (isFloat_iff.1 float)
        · cases found
  · intro which
    rcases which with integer | float | plain
    · simp [looksNumeric_iff.2 integer.numericStart, isInteger_iff.2 integer]
    · have no_integer : isInteger text ≠ true := fun tested =>
        float.not_integerText (isInteger_iff.1 tested)
      simp [looksNumeric_iff.2 float.numericStart, no_integer, isFloat_iff.2 float]
    · have no_number : looksNumeric text ≠ true := fun tested =>
        plain (looksNumeric_iff.1 tested)
      simp [no_number]

/-! ## Characters -/

theorem isCharacter_iff {text : List Char} : isCharacter text = true ↔ CharacterText text := by
  unfold isCharacter
  simp only [Bool.or_eq_true, decide_eq_true_eq, List.contains_iff_mem]
  constructor
  · intro which
    rcases which with (one | listed) | coded
    · obtain ⟨c, rfl⟩ := List.length_eq_one_iff.1 one
      exact .single c
    · simpa using CharacterText.named listed
    · split at coded
      · next digits =>
        simp only [Bool.and_eq_true, decide_eq_true_eq, List.all_eq_true] at coded
        exact .unicode coded.1 coded.2
      · next digits =>
        simp only [Bool.and_eq_true, decide_eq_true_eq, List.all_eq_true, Bool.not_eq_true',
          List.isEmpty_eq_false_iff] at coded
        obtain ⟨⟨⟨filled, short⟩, octal⟩, small⟩ := coded
        exact .octal filled short octal small
      · cases coded
  · intro which
    rcases which with _ | listed | ⟨four, hex⟩ | ⟨filled, short, octal, small⟩
    · exact Or.inl (Or.inl rfl)
    · exact Or.inl (Or.inr (by simpa using listed))
    · right
      simp only [Bool.and_eq_true, decide_eq_true_eq, List.all_eq_true]
      exact ⟨four, hex⟩
    · right
      simp only [Bool.and_eq_true, decide_eq_true_eq, List.all_eq_true, Bool.not_eq_true',
        List.isEmpty_eq_false_iff]
      exact ⟨⟨⟨filled, short⟩, octal⟩, small⟩

end Edn.Literal
