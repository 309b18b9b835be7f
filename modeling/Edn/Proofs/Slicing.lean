import Edn.Proofs.AtomText
import Edn.Proofs.Utf8

/-!
# Numbers cut at byte offsets

A text that is kept in UTF-8 is cut at an offset in bytes, and that fails inside a character. The
tests for numbers look for a character and cut before and one byte behind it. That is right because
all characters they look for are encoded in one byte (`Utf8.splitSliced?_eq`), so a float can be
told by slices, whatever characters stand around them, and is never cut inside one.
-/

namespace Edn.Utf8

/-! ## Slices -/

/-- Whether the bytes begin or end at the offset, or a character begins there: then the byte is none
of those that stand inside a character. -/
def isBoundary (bytes : List UInt8) (offset : Nat) : Bool :=
  offset = 0 ||
    match bytes[offset]? with
    | none => offset = bytes.length
    | some byte => byte.toNat < 0x80 || 0xC0 ≤ byte.toNat

/-- The texts before and behind an offset in bytes, or none if the offset is past the end or inside
a character. -/
def cut? (text : List Char) (offset : Nat) : Option (List Char × List Char) :=
  if isBoundary (encode text) offset then do
    let before ← decode? ((encode text).take offset)
    let behind ← decode? ((encode text).drop offset)
    return (before, behind)
  else none

/-- The offset in bytes at which the first character of a kind stands. -/
def find? (stop : Char → Bool) : List Char → Option Nat
  | [] => none
  | c :: text =>
    if stop c then some 0 else (find? stop text).map ((encodeChar c).length + ·)

/-- The text before the first character of a kind, and what follows one byte behind the offset of
that character. -/
def splitSliced? (stop : Char → Bool) (text : List Char) :
    Option (List Char × Option (List Char)) :=
  match find? stop text with
  | none => some (text, none)
  | some offset => do
    let (before, _) ← cut? text offset
    let (_, behind) ← cut? text (offset + 1)
    return (before, some behind)

variable {stop : Char → Bool} {text front behind : List Char} {c : Char}

theorem exists_head_encodeChar (c : Char) :
    ∃ byte bytes, encodeChar c = byte :: bytes ∧ (byte.toNat < 0x80 ∨ 0xC0 ≤ byte.toNat) := by
  have small := toNat_lt c
  simp only [encodeChar]
  repeat' split
  all_goals
    refine ⟨_, _, rfl, ?_⟩
    rw [UInt8.toNat_ofNat']
    omega

theorem isBoundary_encode_append (front behind : List Char) :
    isBoundary (encode (front ++ behind)) (encode front).length = true := by
  rw [isBoundary, encode_append, List.getElem?_append_right (Nat.le_refl _), Nat.sub_self]
  cases behind with
  | nil => simp [encode]
  | cons c behind =>
    obtain ⟨byte, bytes, encoded, begins⟩ := exists_head_encodeChar c
    simp [encode, encoded, begins]

/-- A text is cut where the encoding of a part of it ends. -/
theorem cut?_append (front behind : List Char) :
    cut? (front ++ behind) (encode front).length = some (front, behind) := by
  rw [cut?, if_pos (isBoundary_encode_append front behind), encode_append, List.take_left,
    List.drop_left, decode?_encode, decode?_encode]
  rfl

theorem le_length_of_isBoundary {bytes : List UInt8} {offset : Nat}
    (boundary : isBoundary bytes offset = true) : offset ≤ bytes.length := by
  rw [isBoundary, Bool.or_eq_true, decide_eq_true_eq] at boundary
  cases found : bytes[offset]? with
  | none =>
    rw [found] at boundary
    rcases boundary with rfl | last
    · exact Nat.zero_le _
    · exact Nat.le_of_eq (of_decide_eq_true last)
  | some byte =>
    obtain ⟨inside, -⟩ := List.getElem?_eq_some_iff.1 found
    exact Nat.le_of_lt inside

/-- A text is cut at an offset just if the encoding of a part of it ends there, and is cut into that
part and the rest. -/
theorem cut?_eq_some_iff {offset : Nat} : cut? text offset = some (front, behind) ↔
    text = front ++ behind ∧ offset = (encode front).length := by
  constructor
  · intro parts
    unfold cut? at parts
    split at parts
    · next boundary =>
      obtain ⟨_, first, parts⟩ := Option.bind_eq_some_iff.1 parts
      obtain ⟨_, second, parts⟩ := Option.bind_eq_some_iff.1 parts
      cases parts
      have front_eq := encode_of_decode? first
      have behind_eq := encode_of_decode? second
      have whole : encode (front ++ behind) = encode text := by
        rw [encode_append, front_eq, behind_eq, List.take_append_drop]
      have decoded := decode?_encode (front ++ behind)
      rw [whole, decode?_encode] at decoded
      refine ⟨Option.some.inj decoded, ?_⟩
      rw [front_eq, List.length_take, Nat.min_eq_left (le_length_of_isBoundary boundary)]
    · cases parts
  · rintro ⟨rfl, rfl⟩
    exact cut?_append front behind

theorem find?_of_forall (none_stops : ∀ c ∈ text, stop c = false) : find? stop text = none := by
  induction text with
  | nil => rfl
  | cons c text ih =>
    obtain ⟨first, others⟩ := List.forall_mem_cons.1 none_stops
    simp [find?, first, ih others]

theorem find?_append_cons (behind : List Char) (none_stops : ∀ c ∈ front, stop c = false)
    (stops : stop c = true) : find? stop (front ++ c :: behind) = some (encode front).length := by
  induction front with
  | nil => simp [find?, stops, encode]
  | cons d front ih =>
    obtain ⟨first, others⟩ := List.forall_mem_cons.1 none_stops
    simp [find?, first, ih others, encode]

theorem length_encode_append_singleton (narrow : c.toNat < 0x80) :
    (encode (front ++ [c])).length = (encode front).length + 1 := by
  simp [encode, encodeChar, narrow]

/-- Slices split a text as it is split by characters, if every character looked for has one byte. -/
theorem splitSliced?_eq (narrow : ∀ c, stop c = true → c.toNat < 0x80) (text : List Char) :
    splitSliced? stop text = some (Literal.splitAt stop text) := by
  obtain ⟨none_stops, whole⟩ := Literal.splitAt_cut stop text
  cases split_eq : Literal.splitAt stop text with
  | mk front behind =>
    rw [split_eq] at none_stops whole
    cases behind with
    | none =>
      obtain rfl : text = front := whole
      rw [splitSliced?, find?_of_forall none_stops]
    | some behind =>
      obtain ⟨c, stops, rfl⟩ := whole
      have at_offset : cut? (front ++ c :: behind) (encode front).length =
          some (front, c :: behind) := cut?_eq_some_iff.2 ⟨rfl, rfl⟩
      have one_behind : cut? (front ++ c :: behind) ((encode front).length + 1) =
          some (front ++ [c], behind) :=
        cut?_eq_some_iff.2 ⟨List.append_cons front c behind,
          (length_encode_append_singleton (narrow c stops)).symm⟩
      simp only [splitSliced?, find?_append_cons behind none_stops stops, at_offset, one_behind]
      rfl

/-- One byte behind a character of two bytes the text cannot be cut. -/
example : splitSliced? (· = 'é') ['1', 'é', '2'] = none := by decide

end Edn.Utf8

namespace Edn.Literal

/-! ## Numbers -/

/-- Whether the text is a floating-point number, told by slices; none if a slice falls inside a
character. -/
def isFloatSliced? (text : List Char) : Option Bool := do
  let (body, marked) := splitMark 'M' (dropSign text)
  let (mantissa, exponent) ← Utf8.splitSliced? isPower body
  let (whole, fraction) ← Utf8.splitSliced? (· = '.') mantissa
  return isDigits whole && (fraction.all fun digits => digits.all Char.isDigit) &&
    (exponent.all fun digits => isDigits (dropSign digits)) &&
    (fraction.isSome || exponent.isSome || marked)

theorem isFloatSliced?_eq (text : List Char) : isFloatSliced? text = some (isFloat text) := by
  have power : ∀ c, isPower c = true → c.toNat < 0x80 := by
    intro c stops
    simp only [isPower, Bool.or_eq_true, decide_eq_true_eq] at stops
    rcases stops with rfl | rfl <;> decide
  have point : ∀ c, decide (c = '.') = true → c.toNat < 0x80 := by
    intro c stops
    obtain rfl := of_decide_eq_true stops
    decide
  rw [isFloat_eq]
  simp only [isFloatSliced?, Utf8.splitSliced?_eq power, Utf8.splitSliced?_eq point]
  rfl

/-- The tests for numbers accept exactly the texts of the two grammars, no text is of both, and a
float is told without a slice that falls inside a character, whatever the text. -/
theorem isInteger_isFloat_exact (text : List Char) :
    (isInteger text = true ↔ IntegerText text) ∧
    (isFloat text = true ↔ FloatText text) ∧
    ¬ (isInteger text = true ∧ isFloat text = true) ∧
    isFloatSliced? text = some (isFloat text) := by
  refine ⟨isInteger_iff, isFloat_iff, ?_, isFloatSliced?_eq text⟩
  rintro ⟨integer, float⟩
  exact (isFloat_iff.1 float).not_integerText (isInteger_iff.1 integer)

end Edn.Literal
