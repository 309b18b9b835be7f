import Edn.Text.Utf8

/-!
# Validation against the encoding of single characters

`Utf8.step` follows ranges of bytes, `Utf8.encodeChar` divides a code point, and they are two
accounts of one code: the bytes that `step` takes for a character, one by one, are those that
`encodeChar` writes for it (`Spells.eq_encodeChar`, `spells_encodeChar`). What `validate` finds is
read off from this: the characters it returns are the longest text whose encoding the bytes begin
with (`eq_encode_append_of_validate`), and what stands behind them is nothing, the beginning of a
character, or a sequence that begins none (`invalidAt_of_validate`).
-/

namespace Edn.Utf8

/-- Taken one by one after `begun`, the bytes make up the character. -/
inductive Spells : Option Begun → List UInt8 → Char → Prop
  | last {begun : Option Begun} {byte : UInt8} {c : Char} :
    step begun byte = .char c → Spells begun [byte] c
  | more {begun : Option Begun} {next : Begun} {byte : UInt8} {bytes : List UInt8} {c : Char} :
    step begun byte = .more next → Spells (some next) bytes c → Spells begun (byte :: bytes) c

/-! ## One byte -/

theorem lead_eq_char {a : UInt8} {c : Char} (taken : lead a = .char c) :
    a.toNat < 0x80 ∧ c = Char.ofNat a.toNat := by
  simp only [lead] at taken
  repeat' split at taken
  all_goals simp only [Step.char.injEq, reduceCtorEq] at taken
  next low => exact ⟨low, taken.symm⟩

/-- What the first byte says about the sequence that it begins. -/
theorem lead_eq_more {a : UInt8} {s : Begun} (taken : lead a = .more s) :
    s.seen = 1 ∧
      ((s.missing = 1 ∧ a.toNat = 0xC0 + s.value ∧ 2 ≤ s.value ∧ s.value < 0x20 ∧
        s.low = 0x80 ∧ s.high = 0xBF) ∨
      (s.missing = 2 ∧ a.toNat = 0xE0 + s.value ∧ s.value < 0x10 ∧
        (s.value = 0 → s.low = 0xA0) ∧ (s.value ≠ 0 → s.low = 0x80) ∧
        (s.value = 13 → s.high = 0x9F) ∧ (s.value ≠ 13 → s.high = 0xBF)) ∨
      (s.missing = 3 ∧ a.toNat = 0xF0 + s.value ∧ s.value ≤ 4 ∧
        (s.value = 0 → s.low = 0x90) ∧ (s.value ≠ 0 → s.low = 0x80) ∧
        (s.value = 4 → s.high = 0x8F) ∧ (s.value ≠ 4 → s.high = 0xBF))) := by
  simp only [lead] at taken
  repeat' split at taken
  all_goals simp only [Step.more.injEq, reduceCtorEq] at taken
  all_goals
    subst taken
    simp only [true_and, and_true, implies_true]
    omega

theorem lead_eq_invalid {a : UInt8} {length : Nat} (refused : lead a = .invalid length) :
    length = 1 ∧ 0x80 ≤ a.toNat ∧ (a.toNat < 0xC2 ∨ 0xF4 < a.toNat) := by
  simp only [lead] at refused
  repeat' split at refused
  all_goals simp only [Step.invalid.injEq, reduceCtorEq] at refused
  all_goals omega

theorem exists_lead_more {a : UInt8} (least : 0xC2 ≤ a.toNat) (most : a.toNat ≤ 0xF4) :
    ∃ s, lead a = .more s := by
  cases taken : lead a with
  | char c =>
    have := lead_eq_char taken
    omega
  | more s => exact ⟨s, rfl⟩
  | invalid length =>
    have := lead_eq_invalid taken
    omega

theorem follow_eq_char {s : Begun} {b : UInt8} {c : Char} (taken : follow s b = .char c) :
    s.missing = 1 ∧ s.low ≤ b.toNat ∧ b.toNat ≤ s.high ∧
      c = Char.ofNat (s.value * 64 + (b.toNat - 0x80)) := by
  simp only [follow] at taken
  split at taken
  · next within =>
    split at taken
    · next single =>
      rw [Step.char.injEq] at taken
      exact ⟨single, within.1, within.2, taken.symm⟩
    · cases taken
  · cases taken

theorem follow_eq_more {s s' : Begun} {b : UInt8} (taken : follow s b = .more s') :
    s.missing ≠ 1 ∧ s.low ≤ b.toNat ∧ b.toNat ≤ s.high ∧
      s' = ⟨s.value * 64 + (b.toNat - 0x80), s.seen + 1, s.missing - 1, 0x80, 0xBF⟩ := by
  simp only [follow] at taken
  split at taken
  · next within =>
    split at taken
    · cases taken
    · next several =>
      rw [Step.more.injEq] at taken
      exact ⟨several, within.1, within.2, taken.symm⟩
  · cases taken

theorem follow_of_mem {s : Begun} {b : UInt8} (low : s.low ≤ b.toNat) (high : b.toNat ≤ s.high) :
    follow s b =
      if s.missing = 1 then .char (Char.ofNat (s.value * 64 + (b.toNat - 0x80)))
      else .more ⟨s.value * 64 + (b.toNat - 0x80), s.seen + 1, s.missing - 1, 0x80, 0xBF⟩ := by
  simp only [follow]
  rw [if_pos ⟨low, high⟩]

/-! ## The bytes of a character -/

theorem charOfNat_toNat {n : Nat} (valid : n.isValidChar) : (Char.ofNat n).toNat = n := by
  unfold Char.ofNat
  rw [dif_pos valid]
  rfl

theorem toNat_lt (c : Char) : c.toNat < 0x110000 := by
  have valid : c.toNat.isValidChar := c.valid
  simp only [Nat.isValidChar] at valid
  omega

theorem ofNat_eq_of_toNat {b : UInt8} {n : Nat} (same : b.toNat = n) : UInt8.ofNat n = b := by
  rw [← same, UInt8.ofNat_toNat]

theorem Spells.one_more {s : Begun} {bytes : List UInt8} {c : Char}
    (spelled : Spells (some s) bytes c) (single : s.missing = 1) :
    ∃ b, bytes = [b] ∧ follow s b = .char c := by
  cases spelled with
  | last taken => exact ⟨_, rfl, taken⟩
  | more taken _ => exact absurd single (follow_eq_more taken).1

theorem Spells.several_more {s : Begun} {bytes : List UInt8} {c : Char}
    (spelled : Spells (some s) bytes c) (several : s.missing ≠ 1) :
    ∃ b s' rest, bytes = b :: rest ∧ follow s b = .more s' ∧ Spells (some s') rest c := by
  cases spelled with
  | last taken => exact absurd (follow_eq_char taken).1 several
  | more taken rest => exact ⟨_, _, _, rfl, taken, rest⟩

/-- Only the encoding of a character makes it up. -/
theorem Spells.eq_encodeChar {bytes : List UInt8} {c : Char} (spelled : Spells none bytes c) :
    bytes = encodeChar c := by
  cases spelled with
  | last taken =>
    obtain ⟨small, rfl⟩ := lead_eq_char taken
    have value := charOfNat_toNat (n := UInt8.toNat _) (Or.inl (Nat.lt_trans small (by decide)))
    simp only [encodeChar, value, if_pos small, UInt8.ofNat_toNat]
  | @more _ s a bytes _ taken rest =>
    obtain ⟨-, ⟨one, first, bounds⟩ | ⟨two, first, bounds⟩ | ⟨three, first, bounds⟩⟩ :=
      lead_eq_more taken
    · obtain ⟨b, rfl, taken⟩ := rest.one_more one
      obtain ⟨-, lowB, highB, same⟩ := follow_eq_char taken
      have value := charOfNat_toNat (n := s.value * 64 + (b.toNat - 0x80)) (Or.inl (by omega))
      simp only [same, encodeChar, value]
      rw [if_neg (by omega), if_pos (by omega), ofNat_eq_of_toNat (b := a) (by omega),
        ofNat_eq_of_toNat (b := b) (by omega)]
    · obtain ⟨b, s', rest', rfl, taken, rest⟩ := rest.several_more (by omega)
      obtain ⟨-, lowB, highB, rfl⟩ := follow_eq_more taken
      obtain ⟨d, rfl, taken⟩ := rest.one_more (by simp only; omega)
      obtain ⟨-, lowD, highD, same⟩ := follow_eq_char taken
      simp only at lowD highD ⊢
      have value := charOfNat_toNat
        (n := (s.value * 64 + (b.toNat - 0x80)) * 64 + (d.toNat - 0x80))
        (by simp only [Nat.isValidChar]; omega)
      simp only [same, encodeChar, value]
      rw [if_neg (by omega), if_neg (by omega), if_pos (by omega),
        ofNat_eq_of_toNat (b := a) (by omega), ofNat_eq_of_toNat (b := b) (by omega),
        ofNat_eq_of_toNat (b := d) (by omega)]
    · obtain ⟨b, s', rest', rfl, taken, rest⟩ := rest.several_more (by omega)
      obtain ⟨-, lowB, highB, rfl⟩ := follow_eq_more taken
      obtain ⟨d, s'', rest'', rfl, taken, rest⟩ := rest.several_more (by simp only; omega)
      obtain ⟨-, lowD, highD, rfl⟩ := follow_eq_more taken
      obtain ⟨e, rfl, taken⟩ := rest.one_more (by simp only; omega)
      obtain ⟨-, lowE, highE, same⟩ := follow_eq_char taken
      simp only at lowD highD lowE highE ⊢
      have value := charOfNat_toNat
        (n := ((s.value * 64 + (b.toNat - 0x80)) * 64 + (d.toNat - 0x80)) * 64 + (e.toNat - 0x80))
        (by simp only [Nat.isValidChar]; omega)
      simp only [same, encodeChar, value]
      rw [if_neg (by omega), if_neg (by omega), if_neg (by omega),
        ofNat_eq_of_toNat (b := a) (by omega), ofNat_eq_of_toNat (b := b) (by omega),
        ofNat_eq_of_toNat (b := d) (by omega), ofNat_eq_of_toNat (b := e) (by omega)]

theorem char_ofNat_of_eq {n : Nat} {c : Char} (same : n = c.toNat) :
    Step.char (Char.ofNat n) = .char c := by
  rw [same, Char.ofNat_toNat]

/-- The encoding of a character makes it up. -/
theorem spells_encodeChar (c : Char) : Spells none (encodeChar c) c := by
  have valid : c.toNat.isValidChar := c.valid
  simp only [Nat.isValidChar] at valid
  have byte {n : Nat} (small : n < 256) : (UInt8.ofNat n).toNat = n :=
    UInt8.toNat_ofNat_of_lt' small
  have last := byte (n := 0x80 + c.toNat % 64) (by omega)
  simp only [encodeChar]
  split
  · next small =>
    apply Spells.last
    simp only [step, lead, byte (Nat.lt_trans small (by decide)), if_pos small, Char.ofNat_toNat]
  split
  · have first := byte (n := 0xC0 + c.toNat / 64) (by omega)
    obtain ⟨s, taken⟩ := exists_lead_more (a := .ofNat (0xC0 + c.toNat / 64)) (by omega) (by omega)
    have facts := lead_eq_more taken
    refine .more taken (.last ?_)
    rw [step, follow_of_mem (by omega) (by omega), if_pos (by omega)]
    exact char_ofNat_of_eq (by omega)
  have third := byte (n := 0x80 + c.toNat / 64 % 64) (by omega)
  split
  · have first := byte (n := 0xE0 + c.toNat / 4096) (by omega)
    obtain ⟨s, taken⟩ :=
      exists_lead_more (a := .ofNat (0xE0 + c.toNat / 4096)) (by omega) (by omega)
    have facts := lead_eq_more taken
    refine .more taken (.more ((follow_of_mem ?_ ?_).trans (if_neg ?_)) (.last ?_))
    · omega
    · omega
    · omega
    rw [step, follow_of_mem (by simp only; omega) (by simp only; omega),
      if_pos (by simp only; omega)]
    exact char_ofNat_of_eq (by simp only; omega)
  · have first := byte (n := 0xF0 + c.toNat / 262144) (by omega)
    have second := byte (n := 0x80 + c.toNat / 4096 % 64) (by omega)
    obtain ⟨s, taken⟩ :=
      exists_lead_more (a := .ofNat (0xF0 + c.toNat / 262144)) (by omega) (by omega)
    have facts := lead_eq_more taken
    refine .more taken (.more ((follow_of_mem ?_ ?_).trans (if_neg ?_)) ?_)
    · omega
    · omega
    · omega
    refine .more ((follow_of_mem ?_ ?_).trans (if_neg ?_)) (.last ?_)
    · simp only; omega
    · simp only; omega
    · simp only; omega
    rw [step, follow_of_mem (by simp only; omega) (by simp only; omega),
      if_pos (by simp only; omega)]
    exact char_ofNat_of_eq (by simp only; omega)

/-! ## The beginning of a character -/

/-- The bytes are the beginning of a character and not all of it. -/
def Begins (bytes : List UInt8) : Prop :=
  ∃ c more, more ≠ [] ∧ encodeChar c = bytes ++ more

/-- Taken one by one after `begun`, the bytes complete no character and leave `after`. -/
inductive Leaves : Option Begun → List UInt8 → Option Begun → Prop
  | nil {begun : Option Begun} : Leaves begun [] begun
  | cons {begun after : Option Begun} {next : Begun} {byte : UInt8} {bytes : List UInt8} :
    step begun byte = .more next → Leaves (some next) bytes after →
    Leaves begun (byte :: bytes) after

/-- Some byte may come next in the sequence begun, if there is one. -/
def Open (begun : Option Begun) : Prop :=
  ∀ s, begun = some s → 0 < s.missing ∧ s.low ≤ s.high ∧ s.high < 256

theorem Open.none : Open none := fun _ same => nomatch same

/-- The number of bytes of the sequence begun. -/
def seen (begun : Option Begun) : Nat := (begun.map Begun.seen).getD 0

theorem Open.step {begun : Option Begun} {next : Begun} {byte : UInt8} (before : Open begun)
    (taken : step begun byte = .more next) :
    Open (some next) ∧ seen (some next) = seen begun + 1 := by
  cases begun with
  | none =>
    have facts := lead_eq_more taken
    refine ⟨?_, facts.1⟩
    intro s same
    obtain rfl := Option.some.inj same
    omega
  | some s =>
    obtain ⟨positive, -, -⟩ := before s rfl
    obtain ⟨several, -, -, rfl⟩ := follow_eq_more taken
    refine ⟨?_, rfl⟩
    intro s' same
    obtain rfl := Option.some.inj same
    simp only
    omega

theorem Leaves.open {begun after : Option Begun} {bytes : List UInt8}
    (left : Leaves begun bytes after) (before : Open begun) :
    Open after ∧ seen after = seen begun + bytes.length := by
  induction left with
  | nil => exact ⟨before, rfl⟩
  | cons taken _ ih =>
    obtain ⟨next, count⟩ := before.step taken
    obtain ⟨last, total⟩ := ih next
    refine ⟨last, ?_⟩
    rw [total, count, List.length_cons]
    omega

/-- What has been begun can be completed. -/
theorem Open.exists_spells {begun : Option Begun} (before : Open begun) :
    ∃ bytes c, Spells begun bytes c := by
  cases begun with
  | none => exact ⟨_, 'a', spells_encodeChar 'a'⟩
  | some s =>
    generalize count : s.missing = missing
    induction missing generalizing s with
    | zero => exact absurd count (Nat.ne_of_gt (before s rfl).1)
    | succ missing ih =>
      obtain ⟨positive, ordered, small⟩ := before s rfl
      have value : (UInt8.ofNat s.low).toNat = s.low :=
        UInt8.toNat_ofNat_of_lt' (Nat.lt_of_le_of_lt ordered small)
      have taken := follow_of_mem (s := s) (b := .ofNat s.low) (by omega) (by omega)
      split at taken
      · exact ⟨_, _, .last taken⟩
      · obtain ⟨bytes, c, spelled⟩ := ih _ (before.step taken).1 (by simp only; omega)
        exact ⟨_, c, .more taken spelled⟩

theorem Leaves.append_spells {begun after : Option Begun} {bytes more : List UInt8} {c : Char}
    (left : Leaves begun bytes after) (spelled : Spells after more c) :
    Spells begun (bytes ++ more) c := by
  induction left with
  | nil => exact spelled
  | cons taken _ ih => exact .more taken (ih spelled)

theorem Spells.ne_nil {begun : Option Begun} {bytes : List UInt8} {c : Char}
    (spelled : Spells begun bytes c) : bytes ≠ [] := by
  cases spelled <;> exact List.cons_ne_nil _ _

/-- The first bytes of what makes up a character complete none. -/
theorem Spells.leaves {begun : Option Begun} {bytes more : List UInt8} {c : Char}
    (spelled : Spells begun (bytes ++ more) c) (lacking : more ≠ []) :
    ∃ after, Leaves begun bytes after := by
  induction bytes generalizing begun with
  | nil => exact ⟨begun, .nil⟩
  | cons byte bytes ih =>
    rw [List.cons_append] at spelled
    generalize tail : bytes ++ more = rest at spelled
    cases spelled with
    | last => exact absurd (List.append_eq_nil_iff.1 tail).2 lacking
    | more taken rest =>
      subst tail
      obtain ⟨after, left⟩ := ih rest
      exact ⟨after, .cons taken left⟩

theorem begins_iff {bytes : List UInt8} : Begins bytes ↔ ∃ after, Leaves none bytes after := by
  constructor
  · intro parts
    rcases parts with ⟨c, more, lacking, same⟩
    exact (same ▸ spells_encodeChar c).leaves lacking
  · intro parts
    rcases parts with ⟨after, left⟩
    obtain ⟨more, c, spelled⟩ := (left.open .none).1.exists_spells
    exact ⟨c, more, spelled.ne_nil, (left.append_spells spelled).eq_encodeChar.symm⟩

/-! ## Validation -/

theorem Spells.validateFrom_append {begun : Option Begun} {bytes : List UInt8} {c : Char}
    (spelled : Spells begun bytes c) (rest : List UInt8) :
    validateFrom begun (bytes ++ rest) = (c :: (validate rest).1, (validate rest).2) := by
  induction spelled with
  | last taken => simp only [List.cons_append, List.nil_append, validateFrom, taken, validate]
  | more taken _ ih => simpa only [List.cons_append, validateFrom, taken] using ih

theorem validate_encode_append (text : List Char) (rest : List UInt8) :
    validate (encode text ++ rest) = (text ++ (validate rest).1, (validate rest).2) := by
  induction text with
  | nil => rfl
  | cons c text ih =>
    rw [encode, List.flatMap_cons, List.append_assoc, ← encode, validate,
      (spells_encodeChar c).validateFrom_append, ih]
    rfl

/-- Decoding undoes encoding. -/
theorem decode?_encode (text : List Char) : decode? (encode text) = some text := by
  have validated : validate (encode text) = (text, .whole) := by
    simpa [validate, validateFrom] using validate_encode_append text []
  simp only [decode?, validated]

/-- More bytes do not change an invalid sequence. -/
theorem validateFrom_append_of_invalid {begun : Option Begun} {bytes : List UInt8} {length : Nat}
    (validated : validateFrom begun bytes = ([], .invalid length)) (more : List UInt8) :
    validateFrom begun (bytes ++ more) = ([], .invalid length) := by
  induction bytes generalizing begun with
  | nil => cases begun <;> cases validated
  | cons byte bytes ih =>
    simp only [List.cons_append, validateFrom] at validated ⊢
    split at validated
    · cases validated
    · exact ih validated
    · exact validated

theorem spells_of_validateFrom_cons {begun : Option Begun} {bytes : List UInt8} {c : Char}
    {text : List Char} {remainder : Remainder}
    (validated : validateFrom begun bytes = (c :: text, remainder)) :
    ∃ first rest, bytes = first ++ rest ∧ Spells begun first c ∧
      validate rest = (text, remainder) := by
  induction bytes generalizing begun with
  | nil => cases validated
  | cons byte bytes ih =>
    simp only [validateFrom] at validated
    split at validated
    · next taken =>
      cases validated
      exact ⟨[byte], bytes, rfl, .last taken, rfl⟩
    · next taken =>
      obtain ⟨first, rest, rfl, spelled, validated⟩ := ih validated
      exact ⟨byte :: first, rest, rfl, .more taken spelled, validated⟩
    · cases validated

/-- The characters that are found are encoded at the front of the bytes. -/
theorem eq_encode_append_of_validate {bytes : List UInt8} {text : List Char}
    {remainder : Remainder} (validated : validate bytes = (text, remainder)) :
    ∃ rest, bytes = encode text ++ rest ∧ validate rest = ([], remainder) := by
  induction text generalizing bytes with
  | nil => exact ⟨bytes, rfl, validated⟩
  | cons c text ih =>
    obtain ⟨first, tail, rfl, spelled, found⟩ := spells_of_validateFrom_cons validated
    obtain ⟨rest, rfl, behind⟩ := ih found
    refine ⟨rest, ?_, behind⟩
    rw [spelled.eq_encodeChar, ← List.append_assoc]
    rfl

/-- No character is encoded at the front of what stands behind the characters that are found. -/
theorem not_encodeChar_prefix_of_validate {rest : List UInt8} {remainder : Remainder}
    (validated : validate rest = ([], remainder)) (c : Char) : ¬ encodeChar c <+: rest := by
  intro parts
  rcases parts with ⟨more, rfl⟩
  rw [validate, (spells_encodeChar c).validateFrom_append] at validated
  cases validated

/-- The bytes begin with an invalid sequence of `length` bytes: as many as can begin a character,
but at least one. -/
structure InvalidAt (bytes : List UInt8) (length : Nat) : Prop where
  positive : 0 < length
  within : length ≤ bytes.length
  no_char : ∀ c, ¬ encodeChar c <+: bytes
  begins : 1 < length → Begins (bytes.take length)
  maximal : ∀ count, length < count → ¬ Begins (bytes.take count)

theorem eq_nil_of_validateFrom_whole {begun : Option Begun} {rest : List UInt8}
    (validated : validateFrom begun rest = ([], .whole)) : rest = [] := by
  induction rest generalizing begun with
  | nil => rfl
  | cons byte rest ih =>
    simp only [validateFrom] at validated
    split at validated
    · cases validated
    · cases ih validated
      simp [validateFrom] at validated
    · cases validated

theorem encode_of_decode? {bytes : List UInt8} {text : List Char}
    (decoded : decode? bytes = some text) : encode text = bytes := by
  unfold decode? at decoded
  split at decoded
  · next found validated =>
    cases decoded
    obtain ⟨rest, rfl, behind⟩ := eq_encode_append_of_validate validated
    rw [eq_nil_of_validateFrom_whole behind, List.append_nil]
  · cases decoded

theorem leaves_of_validateFrom_begun {begun : Option Begun} {rest : List UInt8}
    (validated : validateFrom begun rest = ([], .begun)) :
    ∃ after, Leaves begun rest (some after) := by
  induction rest generalizing begun with
  | nil =>
    cases begun with
    | none => cases validated
    | some s => exact ⟨s, .nil⟩
  | cons byte rest ih =>
    simp only [validateFrom] at validated
    split at validated
    · cases validated
    · next taken =>
      obtain ⟨after, left⟩ := ih validated
      exact ⟨after, .cons taken left⟩
    · cases validated

theorem begins_of_validate {rest : List UInt8} (validated : validate rest = ([], .begun)) :
    rest ≠ [] ∧ Begins rest := by
  obtain ⟨after, left⟩ := leaves_of_validateFrom_begun validated
  refine ⟨?_, begins_iff.2 ⟨_, left⟩⟩
  intro same
  subst same
  cases validated

theorem leaves_of_validateFrom_invalid {begun : Option Begun} {rest : List UInt8} {length : Nat}
    (validated : validateFrom begun rest = ([], .invalid length)) :
    ∃ read byte more after, rest = read ++ byte :: more ∧ Leaves begun read after ∧
      step after byte = .invalid length := by
  induction rest generalizing begun with
  | nil => cases begun <;> cases validated
  | cons byte rest ih =>
    simp only [validateFrom] at validated
    split at validated
    · cases validated
    · next taken =>
      obtain ⟨read, byte', more, after, rfl, left, refused⟩ := ih validated
      exact ⟨byte :: read, byte', more, after, rfl, .cons taken left, refused⟩
    · next refused =>
      cases validated
      exact ⟨[], byte, rest, begun, rfl, .nil, refused⟩

/-- Bytes that leave something begun do not begin a character together with a byte that is then
refused. -/
theorem Leaves.not_begins {begun after last : Option Begun} {read more : List UInt8} {byte : UInt8}
    {length : Nat} (left : Leaves begun read after) (refused : step after byte = .invalid length) :
    ¬ Leaves begun (read ++ byte :: more) last := by
  intro beyond
  induction left with
  | nil =>
    cases beyond with
    | cons taken _ => cases refused.symm.trans taken
  | cons taken _ ih =>
    cases beyond with
    | cons taken' beyond =>
      cases taken.symm.trans taken'
      exact ih refused beyond

/-- An invalid sequence is as long as what was begun, and at least one byte. -/
theorem length_of_step_invalid {begun : Option Begun} {byte : UInt8} {length : Nat}
    (refused : step begun byte = .invalid length) :
    length = if begun = none then 1 else seen begun := by
  cases begun with
  | none => exact (lead_eq_invalid refused).1
  | some s =>
    simp only [step, follow] at refused
    repeat' split at refused
    all_goals cases refused
    rfl

/-- An invalid sequence that is reported is one, and the length reported is its length. -/
theorem invalidAt_of_validate {rest : List UInt8} {length : Nat}
    (validated : validate rest = ([], .invalid length)) : InvalidAt rest length := by
  obtain ⟨read, byte, more, after, rfl, left, refused⟩ :=
    leaves_of_validateFrom_invalid validated
  have count : seen after = read.length := by
    rw [(left.open .none).2]
    exact Nat.zero_add _
  have size : length = max 1 read.length := by
    rw [length_of_step_invalid refused]
    split
    · next empty => rw [← count, empty]; rfl
    · next some_begun =>
      have : read ≠ [] := by
        intro same
        subst same
        cases left
        exact some_begun rfl
      have := List.length_pos_iff.2 this
      omega
  refine ⟨by omega, ?_, not_encodeChar_prefix_of_validate validated, ?_, ?_⟩
  · simp only [List.length_append, List.length_cons]
    omega
  · intro several
    rw [List.take_left' (by omega)]
    exact begins_iff.2 ⟨after, left⟩
  · intro count beyond begins
    obtain ⟨last, left'⟩ := begins_iff.1 begins
    rw [List.take_append, List.take_of_length_le (by omega)] at left'
    obtain ⟨extra, same⟩ : ∃ extra, count - read.length = extra + 1 :=
      ⟨count - read.length - 1, by omega⟩
    rw [same, List.take_succ_cons] at left'
    exact left.not_begins refused left'

end Edn.Utf8
