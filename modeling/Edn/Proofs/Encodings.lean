import Edn.Proofs.Utf8
import Edn.Value.OfNode
import Mathlib.Data.Nat.Digits.Defs

/-!
# The encoding of a source does not show

Both encodings are exact: what is encoded is decoded to the same text, and no other bytes are
decoded to that text. Of the fixed-width encoding it is also said which bytes are decoded at all,
in terms of the numbers that its units make up (`Utf32.unit`). So a tree of nodes may be handed over
in either encoding: a `Draft` is such a tree before its texts are encoded, and the same is built of
it whichever encoding is chosen (`Value.build_encoded`).
-/

namespace Edn

/-! ## Units of four bytes -/

namespace Utf32

/-- The number that the four bytes of a unit make up, the least significant byte first. -/
def unit (bytes : List UInt8) (index : Nat) : Nat :=
  Nat.ofDigits 256 (((bytes.drop (4 * index)).take 4).map UInt8.toNat)

variable {a b c d : UInt8} {bytes : List UInt8} {text : List Char}

theorem unit_zero : unit (a :: b :: c :: d :: bytes) 0 =
    a.toNat + b.toNat * 0x100 + c.toNat * 0x10000 + d.toNat * 0x1000000 := by
  simp only [unit, Nat.mul_zero, List.drop_zero, List.take_succ_cons, List.take_zero,
    List.map_cons, List.map_nil, Nat.ofDigits_cons, Nat.ofDigits_nil]
  omega

theorem unit_succ (index : Nat) :
    unit (a :: b :: c :: d :: bytes) (index + 1) = unit bytes index := by
  simp only [unit, Nat.mul_succ, List.drop_succ_cons]

theorem toNat_of_scalar? {point : Nat} {char : Char} (found : scalar? point = some char) :
    char.toNat = point := by
  by_cases valid : point.isValidChar
  · rw [scalar?, dif_pos valid] at found
    cases found
    rfl
  · rw [scalar?, dif_neg valid] at found
    cases found

theorem scalar?_toNat (char : Char) : scalar? char.toNat = some char := by
  have valid : char.toNat.isValidChar := char.valid
  rw [scalar?, dif_pos valid]
  rfl

theorem isSome_scalar?_iff {point : Nat} : (scalar? point).isSome = true ↔ point.isValidChar := by
  by_cases valid : point.isValidChar
  · rw [scalar?, dif_pos valid]
    exact iff_of_true rfl valid
  · rw [scalar?, dif_neg valid]
    exact iff_of_false Bool.noConfusion valid

theorem decode?_cons : decode? (a :: b :: c :: d :: bytes) =
    (scalar? (unit (a :: b :: c :: d :: bytes) 0)).bind fun char =>
      (decode? bytes).map (char :: ·) := by
  rw [unit_zero, decode?]

/-- Fewer than four bytes, but some, are neither decoded nor whole units. -/
theorem decode?_eq_none_of_cut (some_byte : bytes ≠ [])
    (cut : ∀ a b c d rest, bytes ≠ a :: b :: c :: d :: rest) :
    decode? bytes = none ∧ ¬ 4 ∣ bytes.length := by
  refine ⟨?_, ?_⟩
  · rw [decode?]
    · exact some_byte
    · exact cut
  · rcases bytes with _ | ⟨a, _ | ⟨b, _ | ⟨c, _ | ⟨d, rest⟩⟩⟩⟩
    · exact absurd rfl some_byte
    · simp
    · simp
    · simp
    · exact absurd rfl (cut a b c d rest)

theorem unit_encodeChar_append (char : Char) (bytes : List UInt8) :
    unit (encodeChar char ++ bytes) 0 = char.toNat := by
  have small := Utf8.toNat_lt char
  simp only [encodeChar, List.cons_append, List.nil_append, unit_zero, UInt8.toNat_ofNat']
  omega

theorem decode?_encodeChar_append (char : Char) (bytes : List UInt8) :
    decode? (encodeChar char ++ bytes) = (decode? bytes).map (char :: ·) := by
  have whole := unit_encodeChar_append char bytes
  simp only [encodeChar, List.cons_append, List.nil_append] at whole ⊢
  rw [decode?_cons, whole, scalar?_toNat, Option.bind_some]

theorem decode?_encode (text : List Char) : decode? (text.flatMap encodeChar) = some text := by
  induction text with
  | nil => rfl
  | cons char text ih => rw [List.flatMap_cons, decode?_encodeChar_append, ih, Option.map_some]

theorem encodeChar_of_scalar? {char : Char}
    (found : scalar? (unit (a :: b :: c :: d :: bytes) 0) = some char) :
    encodeChar char = [a, b, c, d] := by
  have whole := toNat_of_scalar? found
  rw [unit_zero] at whole
  have := a.toNat_lt
  have := b.toNat_lt
  have := c.toNat_lt
  have := d.toNat_lt
  simp only [encodeChar, whole, List.cons.injEq, and_true, ← UInt8.toNat_inj, UInt8.toNat_ofNat']
  refine ⟨?_, ?_, ?_, ?_⟩
  · omega
  · omega
  · omega
  · omega

/-- Only the text that bytes encode is decoded from them. -/
theorem encode_of_decode? (decoded : decode? bytes = some text) :
    text.flatMap encodeChar = bytes := by
  induction bytes using decode?.induct generalizing text with
  | case1 =>
    cases decoded
    rfl
  | case2 a b c d bytes ih =>
    rw [decode?_cons] at decoded
    obtain ⟨char, found, decoded⟩ := Option.bind_eq_some_iff.1 decoded
    obtain ⟨others, behind, rfl⟩ := Option.map_eq_some_iff.1 decoded
    rw [List.flatMap_cons, encodeChar_of_scalar? found, ih behind]
    rfl
  | case3 bytes some_byte cut =>
    rw [(decode?_eq_none_of_cut some_byte cut).1] at decoded
    cases decoded

theorem isSome_decode?_cons : (decode? (a :: b :: c :: d :: bytes)).isSome = true ↔
    (unit (a :: b :: c :: d :: bytes) 0).isValidChar ∧ (decode? bytes).isSome = true := by
  rw [decode?_cons, ← isSome_scalar?_iff]
  cases scalar? (unit (a :: b :: c :: d :: bytes) 0) with
  | none => simp
  | some char => simp

/-- Bytes are decoded just if they are whole units and each of these is a scalar value. -/
theorem isSome_decode?_iff (bytes : List UInt8) : (decode? bytes).isSome = true ↔
    4 ∣ bytes.length ∧ ∀ index, 4 * index < bytes.length → (unit bytes index).isValidChar := by
  induction bytes using decode?.induct with
  | case1 => simp [decode?]
  | case2 a b c d bytes ih =>
    rw [isSome_decode?_cons, ih]
    constructor
    · rintro ⟨first, whole, others⟩
      refine ⟨by simpa using whole, fun index inside => ?_⟩
      cases index with
      | zero => exact first
      | succ index =>
        rw [unit_succ]
        exact others index (by simp only [List.length_cons] at inside; omega)
    · rintro ⟨whole, each⟩
      refine ⟨each 0 (by simp), by simpa using whole, fun index inside => ?_⟩
      rw [← unit_succ (a := a) (b := b) (c := c) (d := d)]
      exact each (index + 1) (by simp only [List.length_cons]; omega)
  | case3 bytes some_byte cut =>
    obtain ⟨refused, left_over⟩ := decode?_eq_none_of_cut some_byte cut
    simp [refused, left_over]

end Utf32

/-! ## Both encodings -/

namespace Encoding

theorem decode?_encode (encoding : Encoding) (text : String) :
    encoding.decode? (encoding.encode text) = some text := by
  cases encoding with
  | utf8 => rw [decode?, encode, Utf8.decode?_encode, Option.map_some, String.ofList_toList]
  | utf32le => rw [decode?, encode, Utf32.decode?_encode, Option.map_some, String.ofList_toList]

theorem encode_of_decode? {encoding : Encoding} {bytes : List UInt8} {text : String}
    (decoded : encoding.decode? bytes = some text) : encoding.encode text = bytes := by
  cases encoding with
  | utf8 =>
    obtain ⟨chars, found, rfl⟩ := Option.map_eq_some_iff.1 decoded
    rw [encode, String.toList_ofList, Utf8.encode_of_decode? found]
  | utf32le =>
    obtain ⟨chars, found, rfl⟩ := Option.map_eq_some_iff.1 decoded
    rw [encode, String.toList_ofList, Utf32.encode_of_decode? found]

theorem textOf_encode (encoding : Encoding) (text : String) :
    encoding.textOf (encoding.encode text) = text := by
  rw [textOf, decode?_encode, Option.getD_some]

end Encoding

/-! ## Trees of nodes -/

/-- A node whose texts have not been encoded. -/
inductive Draft
  | error (fault : Fault)
  | endOfInput
  | atom (kind : AtomKind) (text : String)
  | unknownAtom (code : UInt16) (text : String)
  | sequence (kind : SequenceKind) (items : List Draft)
  | dictionary (entries : List (Draft × Draft))
  | tagged (tag content : Draft)
  | wrapped (kind : WrapperKind) (content : Draft)
  | unknown (code : UInt16)

namespace Draft

variable (encoding : Encoding)

mutual

/-- The node as a source with this encoding hands it over. -/
def encoded : Draft → Node
  | error fault => .error fault
  | endOfInput => .endOfInput
  | atom kind text => .ofText encoding kind text
  | unknownAtom code text => .unknownAtom code (encoding.encode text)
  | sequence kind items => .sequence kind (encodedItems items)
  | dictionary entries => .dictionary (encodedEntries entries)
  | tagged tag content => .tagged (encoded tag) (encoded content)
  | wrapped kind content => .wrapped kind (encoded content)
  | unknown code => .unknown code

/-- The nodes in order. -/
def encodedItems : List Draft → List Node
  | [] => []
  | draft :: drafts => encoded draft :: encodedItems drafts

/-- The entries in order. -/
def encodedEntries : List (Draft × Draft) → List (Node × Node)
  | [] => []
  | (key, value) :: drafts => (encoded key, encoded value) :: encodedEntries drafts

end

end Draft

namespace Value

variable (one other : Encoding)

mutual

/-- What is built of a draft, or why nothing is, does not depend on the encoding. -/
theorem build_encoded : ∀ (draft : Draft) (depth : Nat),
    build one (draft.encoded one) depth = build other (draft.encoded other) depth
  | .error _, _ | .endOfInput, _ | .unknownAtom _ _, _ | .unknown _, _ => by
    simp only [Draft.encoded, build]
  | .atom _ _, _ => by
    simp only [Draft.encoded, Node.ofText, build, Encoding.textOf_encode]
  | .sequence _ _, 0 | .dictionary _, 0 | .tagged _ _, 0 | .wrapped _ _, 0 => by
    simp only [Draft.encoded, build]
  | .sequence _ items, depth + 1 => by
    simp only [Draft.encoded, build, buildItems_encoded items depth]
  | .dictionary entries, depth + 1 => by
    simp only [Draft.encoded, build, buildEntries_encoded entries depth]
  | .tagged tag content, depth + 1 => by
    simp only [Draft.encoded, build, build_encoded tag depth, build_encoded content depth]
  | .wrapped _ content, depth + 1 => by
    simp only [Draft.encoded, build, build_encoded content depth]

theorem buildItems_encoded : ∀ (drafts : List Draft) (depth : Nat),
    buildItems one (Draft.encodedItems one drafts) depth =
      buildItems other (Draft.encodedItems other drafts) depth
  | [], _ => by simp only [Draft.encodedItems, buildItems]
  | draft :: drafts, depth => by
    simp only [Draft.encodedItems, buildItems, build_encoded draft depth,
      buildItems_encoded drafts depth]

theorem buildEntries_encoded : ∀ (drafts : List (Draft × Draft)) (depth : Nat),
    buildEntries one (Draft.encodedEntries one drafts) depth =
      buildEntries other (Draft.encodedEntries other drafts) depth
  | [], _ => by simp only [Draft.encodedEntries, buildEntries]
  | (key, value) :: drafts, depth => by
    simp only [Draft.encodedEntries, buildEntries, build_encoded key depth,
      build_encoded value depth, buildEntries_encoded drafts depth]

end

theorem ofNode_encoded (depth : Nat) (draft : Draft) :
    ofNode one depth (draft.encoded one) = ofNode other depth (draft.encoded other) := by
  have built := build_encoded one other draft depth
  cases draft <;> simp only [Draft.encoded, Node.ofText, ofNode] at built ⊢ <;> rw [built]

end Value

/-- Both encodings are exact, and which one a source uses cannot be told from the values built. What
is encoded is decoded to the same text, and only the bytes that encode a text are decoded to it.
Units of four bytes are decoded just if none is cut short and each is a scalar value. A tree of
nodes with given texts stands for the same value, or fails with the same error, in both. -/
theorem Encoding.never_shows :
    (∀ (encoding : Encoding) (text : String),
      encoding.decode? (encoding.encode text) = some text) ∧
    (∀ (encoding : Encoding) (bytes : List UInt8) (text : String),
      encoding.decode? bytes = some text → encoding.encode text = bytes) ∧
    (∀ bytes : List UInt8, (Encoding.utf32le.decode? bytes).isSome = true ↔
      4 ∣ bytes.length ∧
        ∀ index, 4 * index < bytes.length → (Utf32.unit bytes index).isValidChar) ∧
    ∀ (draft : Draft) (depth : Nat),
      Value.ofNode .utf8 depth (draft.encoded .utf8) =
        Value.ofNode .utf32le depth (draft.encoded .utf32le) := by
  refine ⟨Encoding.decode?_encode, fun _ _ _ => Encoding.encode_of_decode?, fun bytes => ?_,
    fun draft depth => Value.ofNode_encoded .utf8 .utf32le depth draft⟩
  rw [Encoding.decode?, Option.isSome_map]
  exact Utf32.isSome_decode?_iff bytes

/-- A surrogate, a unit past the last code point, and the most significant byte first. -/
example :
    Encoding.utf32le.decode? [0x00, 0xD8, 0x00, 0x00] = none ∧
    Encoding.utf32le.decode? [0x00, 0x00, 0x11, 0x00] = none ∧
    Encoding.utf32le.decode? [0x00, 0x00, 0x00, 0x61] = none := by
  decide

end Edn
