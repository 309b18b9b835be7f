import Edn.Proofs.AtomText
import Edn.Text.Alphabetic

/-!
# Characters that can stand in a token under every setting

A character that cannot is one of the finitely many in `separators`, so a class of characters that
avoids these consists of token characters. That holds of letters and digits, and hence of all
numbers and of every name of a character.
-/

namespace Edn

open Literal

/-- The code points of white space. -/
def blankPoints : List Nat :=
  [0x9, 0xA, 0xB, 0xC, 0xD, 0x20, 0x85, 0xA0, 0x1680, 0x2000, 0x2001, 0x2002, 0x2003, 0x2004,
  0x2005, 0x2006, 0x2007, 0x2008, 0x2009, 0x200A, 0x2028, 0x2029, 0x202F, 0x205F, 0x3000]

/-- Every character that some setting keeps out of tokens. -/
def separators : List Char :=
  blankPoints.map Char.ofNat ++ [',', '(', ')', '[', ']', '{', '}', '"', ';', '\\']

theorem mem_separators_of_isBlank {c : Char} (blank : isBlank c = true) : c ∈ separators := by
  have listed : c.toNat ∈ blankPoints := by
    have ascending : blankRanges.ascendingFrom 0 = true := by decide
    obtain ⟨range, member, low, high⟩ := (CodeRanges.contains_iff ascending).1 blank
    simp only [blankRanges, List.mem_cons, List.not_mem_nil, or_false] at member
    simp only [blankPoints, List.mem_cons, List.not_mem_nil, or_false]
    rcases member with rfl | rfl | rfl | rfl | rfl | rfl | rfl | rfl | rfl | rfl <;> omega
  refine List.mem_append_left _ (List.mem_map.2 ⟨c.toNat, listed, ?_⟩)
  exact Char.ofNat_toNat c

theorem mem_separators_of_isDelimiter {c : Char} (delimiter : isDelimiter c = true) :
    c ∈ separators := by
  apply List.mem_append_right
  simp only [isDelimiter, Bool.or_eq_true, decide_eq_true_eq] at delimiter
  simp only [List.mem_cons, List.not_mem_nil, or_false]
  tauto

variable (settings : Settings)

theorem Settings.isTokenChar_of_notMem {c : Char} (apart : c ∉ separators) :
    settings.isTokenChar c = true := by
  have no_blank : Edn.isBlank c = false :=
    Bool.eq_false_iff.2 fun blank => apart (mem_separators_of_isBlank blank)
  have no_delimiter : isDelimiter c = false :=
    Bool.eq_false_iff.2 fun delimiter => apart (mem_separators_of_isDelimiter delimiter)
  have no_comma : c ≠ ',' := by
    intro same
    subst same
    exact apart (List.mem_append_right _ List.mem_cons_self)
  simp [isTokenChar, Settings.isBlank, no_blank, no_delimiter, no_comma]

/-- A class that no separator belongs to consists of token characters. -/
theorem Settings.isTokenChar_of_class {p : Char → Bool} {c : Char}
    (apart : separators.any p = false) (belongs : p c = true) :
    settings.isTokenChar c = true := by
  apply settings.isTokenChar_of_notMem
  intro listed
  exact List.any_eq_false.1 apart c listed belongs

theorem Settings.isTokenChar_of_isDigit {c : Char} (digit : c.isDigit = true) :
    settings.isTokenChar c = true :=
  settings.isTokenChar_of_class (by decide) digit

theorem Settings.isTokenChar_of_isHexDigit {c : Char} (digit : isHexDigit c = true) :
    settings.isTokenChar c = true :=
  settings.isTokenChar_of_class (by decide) digit

theorem Settings.isTokenChar_of_isOctalDigit {c : Char} (digit : isOctalDigit c = true) :
    settings.isTokenChar c = true :=
  settings.isTokenChar_of_class (by decide) digit

theorem Settings.isTokenChar_of_isAlphabetic {c : Char} (letter : isAlphabetic c = true) :
    settings.isTokenChar c = true :=
  settings.isTokenChar_of_class (by decide +kernel) letter

theorem Settings.isBlank_eq {c : Char} (no_comma : c ≠ ',') :
    settings.isBlank c = Edn.isBlank c := by
  simp [Settings.isBlank, no_comma]

theorem Settings.isBlank_of_isTokenChar {settings : Settings} {c : Char}
    (inside : settings.isTokenChar c = true) :
    settings.isBlank c = false ∧ isDelimiter c = false := by
  simpa [isTokenChar] using inside

theorem isBlank_of_isTokenChar {settings : Settings} {c : Char}
    (inside : settings.isTokenChar c = true) : isBlank c = false := by
  have apart := (Settings.isBlank_of_isTokenChar inside).1
  simp only [Settings.isBlank, Bool.or_eq_false_iff] at apart
  exact apart.1

/-! ## Texts that are tokens -/

namespace Literal

theorem OptionalMark.char {mark : Char} {tail : List Char} (marked : OptionalMark mark tail)
    {c : Char} (among : c ∈ tail) : c = mark := by
  cases marked with
  | absent => cases among
  | present => exact List.mem_singleton.1 among

theorem FloatText.char {text : List Char} (float : FloatText text) {c : Char} (among : c ∈ text) :
    c.isDigit = true ∨ c ∈ ['+', '-', '.', 'e', 'E', 'M'] := by
  obtain ⟨signed, whole, fraction, exponent, marked, -⟩ := float
  simp only [List.mem_append] at among
  rcases among with front | ((among | among) | among) | behind
  · rcases signed.char front with rfl | rfl <;> simp
  · exact Or.inl (whole.2 c among)
  · rcases mantissa_char whole fraction (List.mem_append_right _ among) with digit | rfl
    · exact Or.inl digit
    · simp
  · rcases exponent.char among with digit | listed
    · exact Or.inl digit
    · simp only [List.mem_cons, List.not_mem_nil, or_false] at listed ⊢
      tauto
  · rw [marked.char behind]
    simp

theorem IntegerText.isTokenChar {text : List Char} (integer : IntegerText text) :
    ∀ c ∈ text, settings.isTokenChar c = true := by
  intro c among
  rcases integer.char among with digit | listed
  · exact settings.isTokenChar_of_isDigit digit
  · exact settings.isTokenChar_of_class (p := (['+', '-', 'N'].contains ·)) (by decide)
      (by simpa using listed)

theorem FloatText.isTokenChar {text : List Char} (float : FloatText text) :
    ∀ c ∈ text, settings.isTokenChar c = true := by
  intro c among
  rcases float.char among with digit | listed
  · exact settings.isTokenChar_of_isDigit digit
  · exact settings.isTokenChar_of_class (p := (['+', '-', '.', 'e', 'E', 'M'].contains ·))
      (by decide) (by simpa using listed)

/-- What names a character is the character itself or a token. -/
theorem CharacterText.eq_singleton_or_isTokenChar {text : List Char}
    (text_of : CharacterText text) :
    (∃ c, text = [c]) ∨ ∀ c ∈ text, settings.isTokenChar c = true := by
  cases text_of with
  | single c => exact Or.inl ⟨c, rfl⟩
  | @named name listed =>
    right
    intro c among
    have letters : ∀ name ∈ characterNames, name.toList.all isAlphabetic = true := by decide
    exact settings.isTokenChar_of_isAlphabetic (List.all_eq_true.1 (letters name listed) c among)
  | unicode _ hex =>
    right
    refine List.forall_mem_cons.2 ⟨settings.isTokenChar_of_notMem (by decide), ?_⟩
    intro c among
    exact settings.isTokenChar_of_isHexDigit (hex c among)
  | octal _ _ octal _ =>
    right
    refine List.forall_mem_cons.2 ⟨settings.isTokenChar_of_notMem (by decide), ?_⟩
    intro c among
    exact settings.isTokenChar_of_isOctalDigit (octal c among)

theorem CharacterText.ne_nil {text : List Char} (text_of : CharacterText text) : text ≠ [] := by
  cases text_of with
  | single c => exact List.cons_ne_nil _ _
  | @named name listed =>
    have filled : ∀ name ∈ characterNames, name.toList ≠ [] := by decide
    exact filled name listed
  | unicode _ _ => exact List.cons_ne_nil _ _
  | octal _ _ _ _ => exact List.cons_ne_nil _ _

end Literal

end Edn
