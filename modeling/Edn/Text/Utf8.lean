/-!
# UTF-8, one byte at a time

`Utf8.step` is the whole of the encoding's rules: it takes the sequence begun so far, if any, and
the next byte. Which bytes may come second depends on the first, so overlong forms, surrogates and
values past the last code point are refused at the byte that shows them, and what was taken up to
there is the length of the invalid sequence. `Utf8.encodeChar` writes the only sequence that `step`
accepts for a character.
-/

namespace Edn.Utf8

/-- A sequence that still lacks bytes. -/
structure Begun where
  /-- The bits read so far. -/
  value : Nat
  /-- The number of bytes read so far. -/
  seen : Nat
  /-- The number of bytes to come. -/
  missing : Nat
  /-- The least byte that may come next. -/
  low : Nat
  /-- The greatest byte that may come next. -/
  high : Nat
  deriving Repr, DecidableEq

/-- What one more byte makes of the input. -/
inductive Step
  /-- The byte completes this character. -/
  | char (c : Char)
  /-- The sequence needs more bytes. -/
  | more (begun : Begun)
  /-- The byte cannot stand here; the invalid sequence has this many bytes. -/
  | invalid (length : Nat)
  deriving Repr, DecidableEq

/-- The first byte of a sequence. -/
def lead (byte : UInt8) : Step :=
  let b := byte.toNat
  if b < 0x80 then .char (Char.ofNat b)
  else if b < 0xC2 then .invalid 1
  else if b < 0xE0 then .more ⟨b - 0xC0, 1, 1, 0x80, 0xBF⟩
  else if b = 0xE0 then .more ⟨b - 0xE0, 1, 2, 0xA0, 0xBF⟩
  else if b = 0xED then .more ⟨b - 0xE0, 1, 2, 0x80, 0x9F⟩
  else if b < 0xF0 then .more ⟨b - 0xE0, 1, 2, 0x80, 0xBF⟩
  else if b = 0xF0 then .more ⟨b - 0xF0, 1, 3, 0x90, 0xBF⟩
  else if b < 0xF4 then .more ⟨b - 0xF0, 1, 3, 0x80, 0xBF⟩
  else if b = 0xF4 then .more ⟨b - 0xF0, 1, 3, 0x80, 0x8F⟩
  else .invalid 1

/-- A later byte of a sequence. -/
def follow (begun : Begun) (byte : UInt8) : Step :=
  let b := byte.toNat
  if begun.low ≤ b ∧ b ≤ begun.high then
    let value := begun.value * 64 + (b - 0x80)
    if begun.missing = 1 then .char (Char.ofNat value)
    else .more ⟨value, begun.seen + 1, begun.missing - 1, 0x80, 0xBF⟩
  else .invalid begun.seen

/-- The next byte, after a sequence begun or between characters. -/
def step : Option Begun → UInt8 → Step
  | none => lead
  | some begun => follow begun

/-- What stands behind the characters that bytes begin with. -/
inductive Remainder
  /-- Nothing. -/
  | whole
  /-- The first bytes of a character, and not all of them. -/
  | begun
  /-- A sequence that begins no character; it has this many bytes. -/
  | invalid (length : Nat)
  deriving Repr, DecidableEq

/-- The characters that bytes after `begun` begin with, and what stands behind them. -/
def validateFrom (begun : Option Begun) : List UInt8 → List Char × Remainder
  | [] => ([], if begun.isNone then .whole else .begun)
  | byte :: bytes =>
    match step begun byte with
    | .char c =>
      let (text, remainder) := validateFrom none bytes
      (c :: text, remainder)
    | .more begun => validateFrom (some begun) bytes
    | .invalid length => ([], .invalid length)

/-- The characters that the bytes begin with, and what stands behind them. -/
def validate (bytes : List UInt8) : List Char × Remainder :=
  validateFrom none bytes

theorem missing_of_lead_more {byte : UInt8} {begun : Begun} (more : lead byte = .more begun) :
    0 < begun.missing ∧ begun.missing < 4 := by
  simp only [lead] at more
  repeat' split at more
  all_goals simp only [Step.more.injEq, reduceCtorEq] at more
  all_goals
    subst more
    exact ⟨Nat.succ_pos _, by simp only; omega⟩

theorem missing_of_follow_more {begun begun' : Begun} {byte : UInt8}
    (more : follow begun byte = .more begun') :
    begun.missing ≠ 1 ∧ begun'.missing = begun.missing - 1 := by
  simp only [follow] at more
  split at more
  · split at more
    · cases more
    · next several =>
      rw [Step.more.injEq] at more
      subst more
      exact ⟨several, rfl⟩
  · cases more

theorem length_lt_of_validateFrom_begun {begun : Begun} {bytes : List UInt8}
    (lacking : 0 < begun.missing) (validated : validateFrom (some begun) bytes = ([], .begun)) :
    bytes.length < begun.missing := by
  induction bytes generalizing begun with
  | nil => exact lacking
  | cons byte bytes ih =>
    simp only [validateFrom, step] at validated
    split at validated
    · cases validated
    · next begun' more =>
      obtain ⟨several, fewer⟩ := missing_of_follow_more more
      have := ih (by omega) validated
      simp only [List.length_cons]
      omega
    · cases validated

/-- Four bytes are never the beginning of a character. -/
theorem length_lt_of_validate_begun {bytes : List UInt8}
    (validated : validate bytes = ([], .begun)) : bytes.length < 4 := by
  cases bytes with
  | nil => decide
  | cons byte bytes =>
    simp only [validate, validateFrom, step] at validated
    split at validated
    · cases validated
    · next begun more =>
      obtain ⟨lacking, few⟩ := missing_of_lead_more more
      have := length_lt_of_validateFrom_begun lacking validated
      simp only [List.length_cons]
      omega
    · cases validated

/-- The characters that the bytes encode, or none if they are not UTF-8. -/
def decode? (bytes : List UInt8) : Option (List Char) :=
  match validate bytes with
  | (text, .whole) => some text
  | _ => none

/-- The bytes of one character. -/
def encodeChar (c : Char) : List UInt8 :=
  let v := c.toNat
  if v < 0x80 then [UInt8.ofNat v]
  else if v < 0x800 then [UInt8.ofNat (0xC0 + v / 64), UInt8.ofNat (0x80 + v % 64)]
  else if v < 0x10000 then
    [UInt8.ofNat (0xE0 + v / 4096), UInt8.ofNat (0x80 + v / 64 % 64),
      UInt8.ofNat (0x80 + v % 64)]
  else
    [UInt8.ofNat (0xF0 + v / 262144), UInt8.ofNat (0x80 + v / 4096 % 64),
      UInt8.ofNat (0x80 + v / 64 % 64), UInt8.ofNat (0x80 + v % 64)]

/-- A character has at least one byte. -/
theorem encodeChar_ne_nil (c : Char) : encodeChar c ≠ [] := by
  simp only [encodeChar]
  repeat' split
  all_goals exact List.cons_ne_nil _ _

/-- The bytes of a text. -/
def encode (text : List Char) : List UInt8 :=
  text.flatMap encodeChar

theorem encode_append (front behind : List Char) :
    encode (front ++ behind) = encode front ++ encode behind :=
  List.flatMap_append

theorem length_encode_cons_pos (c : Char) (text : List Char) :
    0 < (encode (c :: text)).length := by
  rw [encode, List.flatMap_cons, List.length_append]
  exact Nat.add_pos_left (List.length_pos_iff.2 (encodeChar_ne_nil c)) _

end Edn.Utf8
