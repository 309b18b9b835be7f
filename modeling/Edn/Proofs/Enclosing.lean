import Edn.Proofs.Decoding
import Edn.Proofs.Reading
import Mathlib.Data.List.Infix

/-!
# What is open at a point of a text

While a form is being read, its surroundings lie behind the cursor as a stack of open constructs.
`Opened` says what the text has to do with such a stack: every construct on it was opened where it
says, inside the one below it, and between its opening and what comes next stand the forms that it
has taken, complete and with gaps. Reading a lexeme keeps this so, whatever becomes of the stack
(`Opened.gaps`, `Opened.opening`, `Opened.deliver`).
-/

namespace Edn

namespace Grammar

variable {settings : Settings}

/-! ## Stretches of a text -/

theorem Opens.suffix {text rest : List Char} {construct : Construct}
    (opens : Opens settings text construct rest) : rest <:+ text := by
  cases opens with
  | collection _ => exact List.suffix_append _ _
  | wrapper _ _ _ => exact List.suffix_append _ _
  | @tag c run _ _ _ _ _ => exact ⟨'#' :: c :: run, rfl⟩
  | discard _ => exact ⟨['#', '_'], rfl⟩

theorem Blank.suffix {text rest : List Char} (blank : Blank settings text rest) :
    rest <:+ text := by
  cases blank with
  | char _ => exact List.suffix_cons _ _
  | @comment body _ _ _ => exact ⟨';' :: body, rfl⟩

theorem Atom.suffix {text body rest : List Char} {kind : AtomKind}
    (atom : Atom settings text kind body rest) : rest <:+ text := by
  rw [atom.whole]
  exact ⟨kind.opening ++ (body ++ kind.closing), by simp only [List.append_assoc]⟩

mutual

theorem Form.suffix {depth : Nat} {text rest : List Char} {value : Value}
    (form : Form settings depth text value rest) : rest <:+ text := by
  match form with
  | .atom atom => exact atom.suffix
  | .sequence opens inside =>
    exact ((List.suffix_cons _ _).trans inside.suffix).trans opens.suffix
  | .dictionary opens inside _ =>
    exact ((List.suffix_cons _ _).trans inside.suffix).trans opens.suffix
  | .wrapped opens gaps content =>
    exact (content.suffix.trans gaps.suffix).trans opens.suffix
  | .tagged opens gaps content =>
    exact (content.suffix.trans gaps.suffix).trans opens.suffix

theorem Gap.suffix {depth : Nat} {text rest : List Char}
    (gap : Gap settings depth text rest) : rest <:+ text := by
  match gap with
  | .blank blank => exact blank.suffix
  | .discard opens gaps dropped =>
    exact (dropped.suffix.trans gaps.suffix).trans opens.suffix

/-- What is left of a text stands at its end. -/
theorem Forms.suffix {depth : Nat} {text rest : List Char} {values : List Value}
    (forms : Forms settings depth text values rest) : rest <:+ text := by
  match forms with
  | .nil => exact List.suffix_refl _
  | .gap parted forms => exact forms.suffix.trans parted.suffix
  | .form found forms => exact forms.suffix.trans found.suffix

end

mutual

theorem Form.mono {depth deeper : Nat} {text rest : List Char} {value : Value}
    (form : Form settings depth text value rest) (le : depth ≤ deeper) :
    Form settings deeper text value rest := by
  match form with
  | .atom atom => exact .atom atom
  | .sequence opens inside =>
    obtain ⟨inner, rfl⟩ := Nat.exists_eq_add_of_le' le
    exact .sequence opens (inside.mono (Nat.le_add_left _ inner))
  | .dictionary opens inside paired =>
    obtain ⟨inner, rfl⟩ := Nat.exists_eq_add_of_le' le
    exact .dictionary opens (inside.mono (Nat.le_add_left _ inner)) paired
  | .wrapped opens gaps content =>
    obtain ⟨inner, rfl⟩ := Nat.exists_eq_add_of_le' le
    exact .wrapped opens (gaps.mono (Nat.le_add_left _ inner))
      (content.mono (Nat.le_add_left _ inner))
  | .tagged opens gaps content =>
    obtain ⟨inner, rfl⟩ := Nat.exists_eq_add_of_le' le
    exact .tagged opens (gaps.mono (Nat.le_add_left _ inner))
      (content.mono (Nat.le_add_left _ inner))

theorem Gap.mono {depth deeper : Nat} {text rest : List Char}
    (gap : Gap settings depth text rest) (le : depth ≤ deeper) :
    Gap settings deeper text rest := by
  match gap with
  | .blank blank => exact .blank blank
  | .discard opens gaps dropped =>
    obtain ⟨inner, rfl⟩ := Nat.exists_eq_add_of_le' le
    exact .discard opens (gaps.mono (Nat.le_add_left _ inner))
      (dropped.mono (Nat.le_add_left _ inner))

/-- What may be nested so deep may be nested deeper. -/
theorem Forms.mono {depth deeper : Nat} {text rest : List Char} {values : List Value}
    (forms : Forms settings depth text values rest) (le : depth ≤ deeper) :
    Forms settings deeper text values rest := by
  match forms with
  | .nil => exact .nil
  | .gap parted forms => exact .gap (parted.mono le) (forms.mono le)
  | .form found forms => exact .form (found.mono le) (forms.mono le)

end

end Grammar

open Grammar Reader Value

variable {settings : Settings} {text : List Char}

theorem Value.toNodes_append (values others : List Value) :
    toNodes (values ++ others) = toNodes values ++ toNodes others := by
  induction values with
  | nil => rfl
  | cons value values ih => rw [List.cons_append, toNodes, ih, toNodes, List.cons_append]

/-! ## Open constructs -/

/-- At the front of `rest`, in the text, the constructs of the stack are open. -/
inductive Opened (settings : Settings) (text : List Char) : List Frame → List Char → Prop
  | nil {values : List Value} {rest : List Char} :
    Forms settings settings.maxDepth text values rest → Opened settings text [] rest
  | cons {stack : List Frame} {before front inside rest : List Char} {construct : Construct}
      {values : List Value} {depth : Nat} :
    Opened settings text stack front → stack.length + (depth + 1) = settings.maxDepth →
    text = before ++ front → Opens settings front construct inside →
    Forms settings depth inside values rest →
    (values = [] ∨ ∃ bracket, construct = .collection bracket) →
    Opened settings text (⟨construct, .behind before, (toNodes values).reverse⟩ :: stack) rest

namespace Opened

variable {stack : List Frame} {front rest : List Char} {depth : Nat}

/-- Gaps are passed. -/
theorem gaps (opened : Opened settings text stack front)
    (room : stack.length + depth = settings.maxDepth)
    (passed : Forms settings depth front [] rest) : Opened settings text stack rest := by
  cases opened with
  | nil forms =>
    obtain rfl : depth = settings.maxDepth := by simpa using room
    exact .nil (forms.append passed)
  | @cons stack before _ _ _ construct values inner opened room' split opens forms single =>
    obtain rfl : depth = inner := by
      rw [List.length_cons] at room
      omega
    have longer := forms.append passed
    rw [List.append_nil] at longer
    exact .cons opened room' split opens longer single

/-- A construct is opened. -/
theorem opening {before inside : List Char} {construct : Construct}
    (opened : Opened settings text stack front) (shallow : stack.length < settings.maxDepth)
    (split : text = before ++ front) (opens : Opens settings front construct inside) :
    Opened settings text (.opened construct (.behind before) :: stack) inside := by
  have room : stack.length + (settings.maxDepth - stack.length - 1 + 1) = settings.maxDepth := by
    omega
  exact .cons opened room split opens .nil (Or.inl rfl)

/-- A form goes to the innermost construct, and may complete it. -/
theorem deliver {value : Value} (opened : Opened settings text stack front)
    (room : stack.length + depth = settings.maxDepth)
    (found : Form settings depth front value rest) :
    match Reader.deliver value.toNode stack with
    | .going stack' => Opened settings text stack' rest
    | .done outcome => ∃ whole, outcome = .ok (some (toNode whole)) ∧ whole.isSentinel = false ∧
      Opened settings text [] rest := by
  induction opened generalizing value depth with
  | nil forms =>
    obtain rfl : depth = settings.maxDepth := by simpa using room
    exact ⟨value, rfl, found.not_sentinel, .nil (forms.append (.form found .nil))⟩
  | @cons stack before outer inside _ construct values inner opened room' split opens forms single
      ih =>
    obtain rfl : depth = inner := by
      rw [List.length_cons] at room
      omega
    cases construct with
    | collection bracket =>
      have longer := Opened.cons opened room' split opens (forms.append (.form found .nil))
        (Or.inr ⟨bracket, rfl⟩)
      rw [toNodes_append, List.reverse_append] at longer
      exact longer
    | wrapper kind =>
      obtain rfl : values = [] := single.resolve_right nofun
      exact ih room' (Form.wrapped opens forms found)
    | tag tag =>
      obtain rfl : values = [] := single.resolve_right nofun
      exact ih room' (Form.tagged opens forms found)
    | discard =>
      obtain rfl : values = [] := single.resolve_right nofun
      exact opened.gaps room' (.gap (.discard opens forms found) .nil)

end Opened

end Edn
