import Edn.Lexeme

/-!
Reading a lexeme never adds characters to what is still to be taken, and takes at least one unless
the text has ended.
-/

namespace Edn.Lexeme

theorem size_skipBlank_lt {settings : Settings} {comment : Bool} {cursor after : Cursor}
    {found : Char × Position}
    (skipped : skipBlank settings comment cursor = (.ok (some found), after)) :
    after.size < cursor.size := by
  fun_induction skipBlank settings comment cursor with
  | case1 | case2 => cases skipped
  | case3 _ _ _ _ _ _ ih => have := ih skipped; omega
  | case4 _ _ _ _ _ _ _ ih => have := ih skipped; omega
  | case5 _ _ _ _ _ _ _ _ _ _ ih => have := ih skipped; omega
  | case6 => cases skipped; omega

theorem size_tokenRun_le (settings : Settings) (cursor : Cursor) :
    (tokenRun settings cursor).2.size ≤ cursor.size := by
  fun_induction tokenRun settings cursor with
  | case1 cursor fault after taken => simpa [taken] using Cursor.size_next_le cursor
  | case2 cursor after taken => simpa [taken] using Cursor.size_next_le cursor
  | case3 => rw [Scanned.map_snd]; omega
  | case4 _ c position after taken =>
    have := Cursor.size_unread_le after c position (Cursor.free_of_next taken)
    simp only
    omega

theorem size_stringBody_le (start : Position) (cursor : Cursor) :
    (stringBody start cursor).2.size ≤ cursor.size := by
  fun_induction stringBody start cursor with
  | case1 cursor fault after taken => simpa [taken] using Cursor.size_next_le cursor
  | case2 cursor after taken => simpa [taken] using Cursor.size_next_le cursor
  | case3 => simp only; omega
  | case4 _ _ after fault rest escaped =>
    have : rest.size ≤ after.size := by simpa [escaped] using size_escape_le start after
    simp only
    omega
  | case5 => rw [Scanned.map_snd]; omega
  | case6 => rw [Scanned.map_snd]; omega

theorem size_character_le (settings : Settings) (start : Position) (cursor : Cursor) :
    (character settings start cursor).2.size ≤ cursor.size := by
  have step := Cursor.size_next_le cursor
  unfold character
  split <;> rename_i after taken <;> rw [taken] at step
  · exact step
  · exact step
  · split
    · exact step
    · split
      · exact Nat.le_trans (size_tokenRun_le _ _) step
      · exact step

theorem size_readerMacro_le (kind : WrapperKind) (start : Position) (cursor : Cursor) :
    (readerMacro kind start cursor).2.size ≤ cursor.size := by
  have step := Cursor.size_next_le cursor
  unfold readerMacro
  split
  · split <;> rename_i after taken
    · rwa [taken] at step
    · rwa [taken] at step
    · have strict := Cursor.size_next_of_char taken
      split
      · simp only; omega
      · exact Nat.le_trans (Cursor.size_unread_le _ _ _ (Cursor.free_of_next taken))
          (Nat.le_of_eq strict)
  · exact Nat.le_refl _

theorem size_dispatch_le (settings : Settings) (start : Position) (cursor : Cursor) :
    (dispatch settings start cursor).2.size ≤ cursor.size := by
  have step := Cursor.size_next_le cursor
  unfold dispatch
  split <;> rename_i after taken <;> rw [taken] at step
  · exact step
  · exact step
  · split
    · exact step
    · split
      · exact step
      · split
        · exact step
        · split
          · exact Nat.le_trans (size_tokenRun_le _ _) step
          · exact step

theorem size_beginning_le (settings : Settings) (c : Char) (start : Position) (cursor : Cursor) :
    (beginning settings c start cursor).2.size ≤ cursor.size := by
  unfold beginning
  repeat' split
  all_goals first
    | exact Nat.le_refl _
    | exact size_stringBody_le _ _
    | exact size_character_le _ _ _
    | exact size_tokenRun_le _ _
    | exact size_dispatch_le _ _ _
    | exact size_readerMacro_le _ _ _

/-- A lexeme other than the end takes at least one character. -/
theorem size_read_lt {settings : Settings} {cursor after : Cursor} {lexeme : Lexeme}
    (reached : read settings cursor = (.ok lexeme, after)) (more : lexeme ≠ .ended) :
    after.size < cursor.size := by
  unfold read at reached
  split at reached <;> rename_i skipped
  · cases reached
  · cases reached
    exact absurd rfl more
  · have step := size_beginning_le settings ‹Char› ‹Position› ‹Cursor›
    rw [reached] at step
    exact Nat.lt_of_le_of_lt step (size_skipBlank_lt skipped)

end Edn.Lexeme
