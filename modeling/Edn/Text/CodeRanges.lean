/-!
# Sets of characters given by ascending ranges of code points, both ends included

The tables of character properties are values of this type; `CodeRanges.contains` stops at the
first range that lies above the code point asked for.
-/

namespace Edn

/-- Ranges of code points, ascending and apart from each other. -/
abbrev CodeRanges := List (Nat × Nat)

namespace CodeRanges

/-- Whether one of the ranges holds the code point. -/
def contains (point : Nat) : CodeRanges → Bool
  | [] => false
  | (low, high) :: above =>
    if point < low then false else if point ≤ high then true else contains point above

/-- Every range is in order and lies above the one before it. -/
def ascendingFrom (least : Nat) : CodeRanges → Bool
  | [] => true
  | (low, high) :: above =>
    decide (least ≤ low) && decide (low ≤ high) && ascendingFrom (high + 1) above

theorem le_of_mem_of_ascendingFrom {least : Nat} {ranges : CodeRanges}
    (ascending : ranges.ascendingFrom least = true) :
    ∀ range ∈ ranges, least ≤ range.1 := by
  induction ranges generalizing least with
  | nil => simp
  | cons first above ih =>
    intro range member
    simp only [ascendingFrom, Bool.and_eq_true, decide_eq_true_eq] at ascending
    rcases List.mem_cons.1 member with rfl | member
    · exact ascending.1.1
    · have := ih ascending.2 range member
      omega

/-- In an ascending table the early stop loses nothing. -/
theorem contains_iff {least point : Nat} {ranges : CodeRanges}
    (ascending : ranges.ascendingFrom least = true) :
    ranges.contains point = true ↔ ∃ range ∈ ranges, range.1 ≤ point ∧ point ≤ range.2 := by
  induction ranges generalizing least with
  | nil => simp [contains]
  | cons range above ih =>
    obtain ⟨low, high⟩ := range
    simp only [ascendingFrom, Bool.and_eq_true, decide_eq_true_eq] at ascending
    obtain ⟨⟨-, ordered⟩, rest⟩ := ascending
    unfold contains
    by_cases below : point < low
    · simp only [below, if_true]
      constructor
      · simp
      · rintro ⟨entry, member, le, -⟩
        rcases List.mem_cons.1 member with rfl | member
        · simp at le; omega
        · have := le_of_mem_of_ascendingFrom rest entry member
          omega
    · by_cases within : point ≤ high
      · simp only [below, within, if_true, if_false, true_iff]
        exact ⟨(low, high), by simp, by simp; omega, within⟩
      · simp only [below, within, if_false]
        rw [ih rest]
        constructor
        · rintro ⟨entry, member, bounds⟩
          exact ⟨entry, List.mem_cons_of_mem _ member, bounds⟩
        · rintro ⟨entry, member, bounds⟩
          rcases List.mem_cons.1 member with rfl | member
          · exact absurd bounds.2 within
          · exact ⟨entry, member, bounds⟩

end CodeRanges

end Edn
