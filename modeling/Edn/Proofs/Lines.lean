import Edn.Proofs.Document

/-!
# Texts one after another

A text that ends may stop in the middle of a comment or right behind a token; a newline ends both.
So whatever stands at the front of a text still stands there when a newline and any more text
follow it (`Form.before_line`), and what a text yields that is read without an error, followed by a
newline and a second text, are its values and then what the second text yields.
-/

namespace Edn.Grammar

variable {settings : Settings}

theorem isTokenChar_newline (settings : Settings) : settings.isTokenChar '\n' = false := by
  simp [Settings.isTokenChar, Settings.isBlank, isBlank_of_isWhitespace]

theorem Ends.before_line {rest : List Char} (ends : Ends settings rest) (line : List Char) :
    Ends settings (rest ++ '\n' :: line) := by
  cases rest with
  | nil =>
    intro c among
    cases among
    exact isTokenChar_newline settings
  | cons d rest => exact ends

theorem Atom.before_line {text body rest : List Char} {kind : AtomKind}
    (atom : Atom settings text kind body rest) (line : List Char) :
    Atom settings (text ++ '\n' :: line) kind body (rest ++ '\n' :: line) := by
  obtain ⟨rfl, legal, maximal⟩ := atom
  refine ⟨by simp only [List.append_assoc], legal, ?_⟩
  intro unquoted first
  exact (maximal unquoted first).before_line line

theorem Opens.before_line {text rest : List Char} {construct : Construct}
    (opens : Opens settings text construct rest) (line : List Char) :
    Opens settings (text ++ '\n' :: line) construct (rest ++ '\n' :: line) := by
  cases opens with
  | collection bracket =>
    rw [List.append_assoc]
    exact .collection bracket _
  | wrapper kind enabled no_splice =>
    rw [List.append_assoc]
    apply Opens.wrapper kind enabled
    intro unquote
    cases rest with
    | nil => simp
    | cons c rest => exact no_splice unquote
  | @tag c run _ enabled alphabetic inside ends =>
    rw [List.cons_append, List.cons_append, List.append_assoc]
    exact .tag enabled alphabetic inside (ends.before_line line)
  | discard enabled => exact .discard enabled

theorem Blank.before_line {text rest : List Char} (blank : Blank settings text rest)
    (line : List Char) : Blank settings (text ++ '\n' :: line) (rest ++ '\n' :: line) := by
  cases blank with
  | char blank => exact .char blank
  | @comment body _ plain ends =>
    rw [List.cons_append, List.append_assoc]
    apply Blank.comment plain
    cases rest with
    | nil =>
      intro c among
      cases among
      rfl
    | cons d rest => exact ends

mutual

theorem Form.before_line {depth : Nat} {text rest : List Char} {value : Value}
    (form : Form settings depth text value rest) (line : List Char) :
    Form settings depth (text ++ '\n' :: line) value (rest ++ '\n' :: line) := by
  match form with
  | .atom atom => exact .atom (atom.before_line line)
  | .sequence opens inside =>
    exact .sequence (opens.before_line line) (inside.before_line line)
  | .dictionary opens inside paired =>
    exact .dictionary (opens.before_line line) (inside.before_line line) paired
  | .wrapped opens gaps content =>
    exact .wrapped (opens.before_line line) (gaps.before_line line) (content.before_line line)
  | .tagged opens gaps content =>
    exact .tagged (opens.before_line line) (gaps.before_line line) (content.before_line line)

theorem Gap.before_line {depth : Nat} {text rest : List Char}
    (gap : Gap settings depth text rest) (line : List Char) :
    Gap settings depth (text ++ '\n' :: line) (rest ++ '\n' :: line) := by
  match gap with
  | .blank blank => exact .blank (blank.before_line line)
  | .discard opens gaps dropped =>
    exact .discard (opens.before_line line) (gaps.before_line line) (dropped.before_line line)

theorem Forms.before_line {depth : Nat} {text rest : List Char} {values : List Value}
    (forms : Forms settings depth text values rest) (line : List Char) :
    Forms settings depth (text ++ '\n' :: line) values (rest ++ '\n' :: line) := by
  match forms with
  | .nil => exact .nil
  | .gap parted forms => exact .gap (parted.before_line line) (forms.before_line line)
  | .form found forms => exact .form (found.before_line line) (forms.before_line line)

end

end Edn.Grammar

namespace Edn

open Grammar

variable {settings : Settings} {first second : List Char} {values others : List Value}

theorem Yields.append_line (derives : Derives settings first values)
    (yields : Yields settings second others) :
    Yields settings (first ++ '\n' :: second) (values ++ others) := by
  have line : Forms settings settings.maxDepth (first ++ '\n' :: second) values ('\n' :: second) :=
    Forms.before_line derives second
  have newline : Gap settings settings.maxDepth ('\n' :: second) second :=
    Lexeme.newline_gap _ _ _
  exact .of_forms rfl line (.of_gap newline yields)

/-- A session over a text that has not begun. -/
def Session.fresh (settings : Settings) (text : List Char) : Session TextScan :=
  ofStream settings settings unnamed (.ofBytes (Utf8.encode text))

theorem Session.collect_fresh {limit : Nat} (yields : Yields settings first values)
    (enough : first.length < limit) : ((fresh settings first).collect limit).1 = values := by
  rw [fresh, CharStream.ofBytes_encode]
  exact collect_of_yields (before_ofText settings unnamed first) rfl yields enough

/-- When a text is read without an error, the iterator over it, a newline and a second text hands
out the values of the first and then all that an iterator over the second hands out, an error at the
end included. Reading everything gives both lists of values joined, or the second text's error. -/
theorem collect_append_line (settings : Settings) (first second : List Char) (values : List Value)
    (read : Document.ofBytes settings (Utf8.encode first) = values)
    (no_error : ∀ message, values ≠ [.error message]) :
    (∀ limit, (first ++ '\n' :: second).length < limit →
      ((Session.fresh settings (first ++ '\n' :: second)).collect limit).1 =
        values ++ ((Session.fresh settings second).collect limit).1) ∧
    Document.ofBytes settings (Utf8.encode (first ++ '\n' :: second)) =
      match Document.ofBytes settings (Utf8.encode second) with
      | [.error message] => [.error message]
      | others => values ++ others := by
  have derives := derives_of_ofBytes read no_error
  obtain ⟨others, yields⟩ := exists_yields settings second
  have joined := Yields.append_line derives yields
  refine ⟨?_, ?_⟩
  · intro limit enough
    have shorter : second.length < limit := by
      rw [List.length_append, List.length_cons] at enough
      omega
    rw [Session.collect_fresh joined enough, Session.collect_fresh yields shorter]
  · have sound := Derives.malformed_notMem derives
    rw [Document.ofBytes_encode joined, Document.ofBytes_encode yields]
    simp only [List.mem_append, sound, false_or]
    by_cases among : malformed ∈ others
    · rw [if_pos among, if_pos among]
      rfl
    · rw [if_neg among, if_neg among]
      split
      · next message =>
        cases Forms.not_sentinel (yields.derives among) _ (List.mem_singleton.2 rfl)
      · rfl

/-- The first text ends inside a comment, the second has a form and then a stray bracket. -/
theorem collect_append_line_comment :
    let first := "a #_b ; c".toList
    let second := "d )".toList
    let symbol (name : String) := Value.atom .symbol name
    Document.ofBytes .edn (Utf8.encode first) = [symbol "a"] ∧
      ((Session.fresh .edn (first ++ '\n' :: second)).collect 20).1 =
        [symbol "a", symbol "d", malformed] ∧
      Document.ofBytes .edn (Utf8.encode (first ++ '\n' :: second)) = [malformed] := by
  intro first second symbol
  have read : Document.ofBytes .edn (Utf8.encode first) = [symbol "a"] := by decide +kernel
  have behind : ((Session.fresh .edn second).collect 20).1 = [symbol "d", malformed] := by
    decide +kernel
  have refused : Document.ofBytes .edn (Utf8.encode second) = [malformed] := by decide +kernel
  obtain ⟨collected, joined⟩ := collect_append_line .edn first second [symbol "a"] read nofun
  refine ⟨read, ?_, ?_⟩
  · rw [collected 20 (by decide), behind]
    rfl
  · rw [joined, refused]
    rfl

end Edn
