import Edn.Number.Printer
import Edn.Number.Reader
import Edn.Proofs.RoundTrip
import Mathlib.Data.List.TakeDrop
import Mathlib.Data.Nat.Digits.Defs

/-!
# The numbers that number atoms stand for

The reader decides by one grammar which tokens are numbers, and numbers are made from the texts of
atoms by another. Every text of the first grammar is a text of the second and means what it should:
`Literal.IntegerOf` and `Literal.FloatOf` give the texts their numbers, digit by digit, and
`readInteger?_of_integerOf` and `readFloat?_of_floatOf` find them. So no number atom that has been
read, at any depth, is without its number (`number?_of_ofDeliveries`).
-/

namespace Edn

namespace Literal

/-! ## What the texts mean -/

/-- The natural that decimal digits stand for, the first of which counts most. -/
def natural (digits : List Char) : Nat := Nat.ofDigits 10 (digits.reverse.map digitValue)

/-- The text of an integer, and the integer. -/
inductive IntegerOf : List Char → Int → Prop
  | intro {sign digits mark : List Char} : OptionalSign sign → Digits digits →
    OptionalMark 'N' mark →
    IntegerOf (sign ++ (digits ++ mark)) (negateIf (sign = ['-']) (natural digits : Int))

/-- The text of an exponent, and the power of ten; or nothing. -/
inductive ExponentOf : List Char → Int → Prop
  | absent : ExponentOf [] 0
  | power {e : Char} {sign digits : List Char} : e = 'e' ∨ e = 'E' → OptionalSign sign →
    Digits digits →
    ExponentOf (e :: (sign ++ digits)) (negateIf (sign = ['-']) (natural digits : Int))

/-- The text of an unsigned decimal, and the decimal. Behind the front of the fraction, which is the
point, there are only digits. -/
inductive DecimalOf : List Char → Decimal → Prop
  | intro {whole fraction exponent : List Char} {power : Int} : Digits whole →
    OptionalFraction fraction → ExponentOf exponent power →
    DecimalOf (whole ++ fraction ++ exponent)
      ⟨natural (whole ++ fraction.tail), power - fraction.tail.length⟩

/-- The text of a floating-point number, with its sign and its decimal. -/
inductive FloatOf : List Char → List Char → Decimal → Prop
  | intro {sign number mark : List Char} {decimal : Decimal} : OptionalSign sign →
    DecimalOf number decimal → OptionalMark 'M' mark →
    FloatOf (sign ++ (number ++ mark)) sign decimal

theorem IntegerText.exists_integerOf {text : List Char} (integer : IntegerText text) :
    ∃ value, IntegerOf text value := by
  cases integer with
  | intro signed digits mark => exact ⟨_, .intro signed digits mark⟩

theorem IntegerOf.integerText {text : List Char} {value : Int} (integer : IntegerOf text value) :
    IntegerText text := by
  cases integer with
  | intro signed digits mark => exact .intro signed digits mark

theorem OptionalExponent.exists_exponentOf {text : List Char} (exponent : OptionalExponent text) :
    ∃ power, ExponentOf text power := by
  cases exponent with
  | absent => exact ⟨_, .absent⟩
  | power either signed digits => exact ⟨_, .power either signed digits⟩

theorem ExponentOf.optionalExponent {text : List Char} {power : Int}
    (exponent : ExponentOf text power) : OptionalExponent text := by
  cases exponent with
  | absent => exact .absent
  | power either signed digits => exact .power either signed digits

theorem FloatText.exists_floatOf {text : List Char} (float : FloatText text) :
    ∃ sign decimal, FloatOf text sign decimal := by
  cases float with
  | @intro sign whole fraction exponent mark signed digits pointed powered marked _ =>
    rcases powered.exists_exponentOf with ⟨power, exponent_of⟩
    exact ⟨sign, _, .intro signed (.intro digits pointed exponent_of) marked⟩

/-! ## Digits -/

theorem naturalOf_eq (digits : List Char) : naturalOf digits = natural digits := by
  -- Digits are added from the left and count from the right, so the induction is on the last one.
  induction digits using List.reverseRecOn with
  | nil => rfl
  | append_singleton digits c ih =>
    have last : naturalOf (digits ++ [c]) = 10 * naturalOf digits + digitValue c := by
      rw [naturalOf, List.foldl_append]
      rfl
    rw [last, ih, natural, natural, List.reverse_append, List.reverse_singleton,
      List.singleton_append, List.map_cons, Nat.ofDigits_cons, Nat.add_comm]

theorem natural_toDigits (n : Nat) : natural (Nat.toDigits 10 n) = n := by
  rw [← naturalOf_eq]
  exact Nat.ofDigitChars_ten_toDigits

theorem digits_toDigits (n : Nat) : Digits (Nat.toDigits 10 n) :=
  ⟨Nat.toDigits_ne_nil, fun _ among => Nat.isDigit_of_mem_toDigits (by decide) (by decide) among⟩

theorem readNatural?_of_digits {digits : List Char} (number : Digits digits) :
    readNatural? digits = some (natural digits) := by
  rcases number with ⟨filled, all⟩
  rcases List.exists_cons_of_ne_nil filled with ⟨c, others, rfl⟩
  have first := all c List.mem_cons_self
  have behind : (others.all fun d => d.isDigit || d = '_') = true :=
    List.all_eq_true.2 fun d among => by simp [all d (List.mem_cons_of_mem c among)]
  rw [readNatural?, if_pos (by rw [first, behind]; rfl), List.filter_eq_self.2 all, naturalOf_eq]

/-! ## Signs and marks -/

theorem splitSign_append {sign : List Char} {c : Char} (rest : List Char)
    (some_sign : OptionalSign sign) (digit : c.isDigit = true) :
    splitSign (sign ++ c :: rest) = (decide (sign = ['-']), c :: rest) := by
  cases some_sign with
  | absent =>
    rw [List.nil_append]
    unfold splitSign
    split
    · next same => exact absurd digit ((List.cons.inj same).1 ▸ by decide)
    · next same => exact absurd digit ((List.cons.inj same).1 ▸ by decide)
    · rfl
  | sign either => rcases either with rfl | rfl <;> rfl

/-- A plus may be dropped before the sign is looked at: no second sign comes after it. -/
theorem splitSign_dropPlus_append {sign : List Char} {c : Char} (rest : List Char)
    (some_sign : OptionalSign sign) (digit : c.isDigit = true) :
    splitSign (dropPlus (sign ++ c :: rest)) = (decide (sign = ['-']), c :: rest) := by
  cases some_sign with
  | absent =>
    have bare : dropPlus (c :: rest) = c :: rest := by
      unfold dropPlus
      split
      · next same => exact absurd digit ((List.cons.inj same).1 ▸ by decide)
      · rfl
    rw [List.nil_append, bare]
    exact splitSign_append rest .absent digit
  | sign either =>
    rcases either with rfl | rfl
    · exact splitSign_append rest .absent digit
    · rfl

theorem dropMark_append {mark : Char} {text tail : List Char} (marked : OptionalMark mark tail)
    (unmarked : ∀ c ∈ text, c ≠ mark) : dropMark mark (text ++ tail) = text := by
  cases marked with
  | absent =>
    have other : text.getLast? ≠ some mark := fun last =>
      unmarked mark (List.mem_of_getLast? last) rfl
    rw [List.append_nil, dropMark, if_neg other]
  | present => rw [dropMark, if_pos List.getLast?_concat, List.dropLast_concat]

theorem OptionalSign.ne {sign : List Char} (some_sign : OptionalSign sign) {mark : Char}
    (no_sign : isSign mark = false) : ∀ c ∈ sign, c ≠ mark := by
  intro c among same
  subst same
  have signed := isSign_iff.2 (some_sign.char among)
  rw [no_sign] at signed
  cases signed

/-! ## Integers -/

theorem readInteger?_of_integerOf {text : List Char} {value : Int}
    (integer : IntegerOf text value) : readInteger? text = some value := by
  cases integer with
  | @intro sign digits mark some_sign number marked =>
    have unmarked : ∀ c ∈ sign ++ digits, c ≠ 'N' :=
      List.forall_mem_append.2 ⟨some_sign.ne rfl, fun _ inside => number.ne inside rfl⟩
    have read := readNatural?_of_digits number
    rcases List.exists_cons_of_ne_nil number.1 with ⟨c, others, rfl⟩
    have digit := number.2 c List.mem_cons_self
    rw [← List.append_assoc, readInteger?, dropMark_append marked unmarked,
      splitSign_dropPlus_append others some_sign digit]
    dsimp only
    rw [read]
    rfl

theorem integerOf_toDigits {sign : List Char} (some_sign : OptionalSign sign) (n : Nat) :
    IntegerOf (sign ++ Nat.toDigits 10 n) (negateIf (sign = ['-']) (n : Int)) := by
  have written : IntegerOf _ _ := .intro some_sign (digits_toDigits n) .absent
  rwa [List.append_nil, natural_toDigits] at written

/-- The text of an integer means that integer. -/
theorem integerOf_render (value : Int) :
    IntegerOf (Number.integer value).render.toList value := by
  rw [Number.render, Int.toString_eq_repr, Int.repr_eq_if]
  split
  · next natural =>
    have written := integerOf_toDigits .absent value.toNat
    rw [Nat.repr_eq_ofList_toDigits, String.toList_ofList]
    rwa [Int.toNat_of_nonneg natural] at written
  · next negative =>
    have written := integerOf_toDigits (.sign (.inr rfl)) (-value).toNat
    rw [String.toList_append, Nat.repr_eq_ofList_toDigits, String.toList_ofList,
      String.toList_ofList]
    have opposite : negateIf (decide (['-'] = ['-'])) (-value) = value := Int.neg_neg value
    rwa [Int.toNat_of_nonneg (by omega), opposite] at written

/-! ## Floats -/

theorem readExponent?_of_exponentOf {text : List Char} {power : Int}
    (exponent : ExponentOf text power) : readExponent? text = some power := by
  cases exponent with
  | absent => rfl
  | @power e sign digits either some_sign number =>
    have tested : digits ≠ [] ∧ digits.all Char.isDigit = true :=
      ⟨number.1, List.all_eq_true.2 number.2⟩
    rcases List.exists_cons_of_ne_nil number.1 with ⟨c, others, rfl⟩
    have digit := number.2 c List.mem_cons_self
    rw [readExponent?, if_pos either, splitSign_append others some_sign digit]
    dsimp only
    rw [if_pos tested, naturalOf_eq]
    rfl

/-- What is an exponent or empty has no digit and no point at the front. -/
theorem ExponentOf.front {text : List Char} {power : Int} (exponent : ExponentOf text power) :
    ∀ c ∈ text.head?, c.isDigit = false ∧ c ≠ '.' := by
  intro c first
  cases exponent with
  | absent => cases first
  | power either =>
    cases first
    rcases either with rfl | rfl <;> decide

theorem span_digits {digits rest : List Char} (all : ∀ c ∈ digits, c.isDigit = true)
    (stops : ∀ c ∈ rest.head?, c.isDigit = false) :
    (digits ++ rest).span Char.isDigit = (digits, rest) := by
  rw [List.span_eq_takeWhile_dropWhile, List.takeWhile_append_of_pos all,
    List.dropWhile_append_of_pos all]
  cases rest with
  | nil => simp
  | cons c rest =>
    have stop : ¬ c.isDigit = true := Bool.eq_false_iff.1 (stops c rfl)
    rw [List.takeWhile_cons_of_neg stop, List.dropWhile_cons_of_neg stop, List.append_nil]

theorem readFraction_append {fraction exponent : List Char} {power : Int}
    (pointed : OptionalFraction fraction) (powered : ExponentOf exponent power) :
    readFraction (fraction ++ exponent) = (fraction.tail, exponent) := by
  cases pointed with
  | absent =>
    rw [List.nil_append]
    unfold readFraction
    split
    · exact absurd rfl (powered.front '.' rfl).2
    · rfl
  | point all => exact span_digits all fun c first => (powered.front c first).1

theorem readDecimal?_of_decimalOf {text : List Char} {decimal : Decimal}
    (number : DecimalOf text decimal) : readDecimal? text = some decimal := by
  cases number with
  | @intro whole fraction exponent power digits pointed powered =>
    have stops : ∀ c ∈ (fraction ++ exponent).head?, c.isDigit = false := by
      intro c first
      cases pointed with
      | absent => exact (powered.front c first).1
      | point _ =>
        cases first
        rfl
    have filled : ¬ (whole = [] ∧ fraction.tail = []) := fun none_left => digits.1 none_left.1
    rw [List.append_assoc, readDecimal?, span_digits digits.2 stops]
    dsimp only
    rw [readFraction_append pointed powered]
    dsimp only
    rw [if_neg filled, readExponent?_of_exponentOf powered, naturalOf_eq]
    rfl

theorem DecimalOf.exists_front {text : List Char} {decimal : Decimal}
    (number : DecimalOf text decimal) : ∃ c rest, text = c :: rest ∧ c.isDigit = true := by
  cases number with
  | intro whole _ _ =>
    rcases List.exists_cons_of_ne_nil whole.1 with ⟨c, others, rfl⟩
    exact ⟨c, _, rfl, whole.2 c List.mem_cons_self⟩

theorem DecimalOf.unmarked {text : List Char} {decimal : Decimal}
    (number : DecimalOf text decimal) : ∀ c ∈ text, c ≠ 'M' := by
  intro c among same
  subst same
  cases number with
  | intro whole fraction exponent =>
    rcases List.mem_append.1 among with inside | inside
    · rcases mantissa_char whole fraction inside with digit | point
      · cases digit
      · cases point
    · rcases exponent.optionalExponent.char inside with digit | listed
      · cases digit
      · exact absurd listed (by decide)

theorem readFloat?_of_floatOf {text sign : List Char} {decimal : Decimal}
    (float : FloatOf text sign decimal) :
    readFloat? text = some (negateIf (sign = ['-']) decimal.toFloat) := by
  cases float with
  | @intro _ number mark _ some_sign decimal_of marked =>
    have unmarked : ∀ c ∈ sign ++ number, c ≠ 'M' :=
      List.forall_mem_append.2 ⟨some_sign.ne rfl, decimal_of.unmarked⟩
    have read : readMagnitude? number = some decimal.toFloat := by
      rw [readMagnitude?, readDecimal?_of_decimalOf decimal_of]
    rcases decimal_of.exists_front with ⟨c, others, rfl, digit⟩
    rw [← List.append_assoc, readFloat?, dropMark_append marked unmarked,
      splitSign_dropPlus_append others some_sign digit]
    dsimp only
    rw [read]
    rfl

end Literal

/-! ## The numbers of what is read -/

open Literal Grammar

variable {settings : Settings}

/-- The atoms of what is read have texts of the grammar, at any depth. -/
theorem atomText_of_ofDeliveries {deliveries : List Delivery} {value : Value} {kind : AtomKind}
    {text : String} (read : value ∈ Document.ofDeliveries settings deliveries)
    (inside : Value.Part (.atom kind text) value) : AtomText settings kind text.toList := by
  by_cases failed : ∃ message, Document.ofDeliveries settings deliveries = [.error message]
  · rcases failed with ⟨message, failed⟩
    rw [failed] at read
    obtain rfl := List.mem_singleton.1 read
    cases inside
  · have no_error : ∀ message, Document.ofDeliveries settings deliveries ≠ [.error message] :=
      fun message same => failed ⟨message, same⟩
    have readable := Document.readable_of_ofDeliveries rfl no_error value read
    rcases readable.part inside with ⟨depth, part⟩
    cases part with
    | atom legal => exact legal

theorem number?_integer {text : String} {n : Int} (integer : IntegerOf text.toList n) :
    (Value.atom .integer text).number? = some (.integer n) := by
  rw [Value.number?, readInteger?_of_integerOf integer, Option.map_some]

theorem number?_float {text : String} {sign : List Char} {decimal : Decimal}
    (float : FloatOf text.toList sign decimal) :
    (Value.atom .float text).number? =
      some (.float (negateIf (sign = ['-']) decimal.toFloat)) := by
  rw [Value.number?, readFloat?_of_floatOf float, Option.map_some]

/-- The text of an integer is read as one atom, whatever is accepted beside it. -/
theorem ofBytes_render_integer (settings : Settings) (n : Int) :
    Document.ofBytes settings (Utf8.encode (Number.integer n).render.toList) =
      [.atom .integer (Number.integer n).render] := by
  have legal : AtomText settings .integer (Number.integer n).render.toList :=
    .integer (integerOf_render n).integerText
  have read := Document.ofBytes_encode_written (Value.Readable.atom legal)
  have text : (Value.atom .integer (Number.integer n).render).written =
      (Number.integer n).render.toList := List.append_nil _
  rwa [text] at read

/-- Every number atom that is read, at any depth of any value and whatever the input and the
settings, has its number. That of an integer is the integer of its sign and digits, exactly; and
that integer, printed, is read as one atom again, whose number it is. That of a float is the
floating-point number of its decimal. -/
theorem number?_of_ofDeliveries {deliveries : List Delivery} {value part : Value}
    (read : value ∈ Document.ofDeliveries settings deliveries) (inside : part.Part value) :
    (∀ text, part = .atom .integer text → ∃ n, IntegerOf text.toList n ∧
      part.number? = some (.integer n) ∧
      ∀ again, ∃ printed,
        Document.ofBytes again (Utf8.encode (Number.integer n).render.toList) =
          [.atom .integer printed] ∧
        (Value.atom .integer printed).number? = some (.integer n)) ∧
    (∀ text, part = .atom .float text → ∃ sign decimal, FloatOf text.toList sign decimal ∧
      part.number? = some (.float (negateIf (sign = ['-']) decimal.toFloat))) := by
  constructor
  · intro text same
    subst same
    cases atomText_of_ofDeliveries read inside with
    | integer legal =>
      rcases legal.exists_integerOf with ⟨n, integer⟩
      refine ⟨n, integer, number?_integer integer, fun again => ?_⟩
      exact ⟨_, ofBytes_render_integer again n, number?_integer (integerOf_render n)⟩
  · intro text same
    subst same
    cases atomText_of_ofDeliveries read inside with
    | float legal =>
      rcases legal.exists_floatOf with ⟨sign, decimal, float⟩
      exact ⟨sign, decimal, float, number?_float float⟩

/-- An integer with a sign, zeros in front and a mark; and beside it, as the key of an entry, a
float with a point that no digits follow, an exponent and a mark. -/
theorem number?_of_ofDeliveries_nested :
    let integer := Value.atom .integer "+007N"
    let float := Value.atom .float "1.e5M"
    let value := Value.sequence .vector [integer, .dictionary [(float, .atom .integer "-0")]]
    let text := "[+007N \x7b1.e5M -0\x7d]".toList
    value ∈ Document.ofDeliveries .edn [.bytes (Utf8.encode text)] ∧
    integer.number? = some (.integer 7) ∧
    (∀ again, ∃ printed,
      Document.ofBytes again (Utf8.encode (Number.integer 7).render.toList) =
        [.atom .integer printed] ∧
      (Value.atom .integer printed).number? = some (.integer 7)) ∧
    ∃ sign decimal, FloatOf "1.e5M".toList sign decimal ∧
      float.number? = some (.float (negateIf (sign = ['-']) decimal.toFloat)) := by
  intro integer float value text
  have read : value ∈ Document.ofDeliveries .edn [.bytes (Utf8.encode text)] := by
    have whole : Document.ofDeliveries .edn [.bytes (Utf8.encode text)] = [value] := by
      decide +kernel
    rw [whole]
    exact List.mem_cons_self
  have integer_inside : integer.Part value := .item List.mem_cons_self .whole
  have float_inside : float.Part value :=
    .item (List.mem_cons_of_mem _ List.mem_cons_self) (.key List.mem_cons_self .whole)
  have seven : integer.number? = some (.integer 7) := rfl
  rcases (number?_of_ofDeliveries read integer_inside).1 _ rfl with ⟨n, -, found, printed⟩
  obtain rfl : 7 = n := Number.integer.inj (Option.some.inj (seven.symm.trans found))
  exact ⟨read, seven, printed, (number?_of_ofDeliveries read float_inside).2 _ rfl⟩

end Edn
