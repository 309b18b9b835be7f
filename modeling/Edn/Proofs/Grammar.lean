import Edn.Construct
import Edn.Proofs.AtomText
import Edn.Text.Alphabetic
import Edn.Value.Printer

/-!
# The grammar of texts

A text is read from the left: every relation here says what stands at the front of a text and what
rest it leaves, so that the rest can decide where a token ends. `Form` is the relation of one value,
`Forms` that of the values of a whole stretch with the gaps between them, and `Gap` that of whatever
separates values without being one: white space, comments, and discarded forms. The number that all
three carry is how many constructs may still be opened.
-/

namespace Edn.Grammar

open Literal

/-! ## Atoms -/

/-- The characters that say what kind of form follows them. -/
def signs : List Char := [':', '#', '\'', '\x60', '~', '@', '^']

/-- The texts of the atoms of a kind, without the signs around them. -/
inductive AtomText (settings : Settings) : AtomKind → List Char → Prop
  | integer {text : List Char} : IntegerText text → AtomText settings .integer text
  | float {text : List Char} : FloatText text → AtomText settings .float text
  | symbol {c : Char} {text : List Char} : (∀ d ∈ c :: text, settings.isTokenChar d = true) →
    c ∉ signs → ¬ NumericStart (c :: text) →
    AtomText settings .symbol (c :: text)
  | keyword {c : Char} {text : List Char} : (∀ d ∈ c :: text, settings.isTokenChar d = true) →
    c ≠ ':' → AtomText settings .keyword (c :: text)
  | string {text : List Char} : StringText text → AtomText settings .string text
  | character {text : List Char} : CharacterText text → (∀ c ∈ text, isBlank c = false) →
    AtomText settings .character text

/-- The text does not go on with a token character. -/
def Ends (settings : Settings) (rest : List Char) : Prop :=
  ∀ c ∈ rest.head?, settings.isTokenChar c = false

/-- An atom stands at the front of the text. Where it begins with a token character it goes on as
far as these do, unless quotes enclose it. -/
structure Atom (settings : Settings) (text : List Char) (kind : AtomKind) (body rest : List Char) :
    Prop where
  whole : text = kind.opening ++ (body ++ (kind.closing ++ rest))
  legal : AtomText settings kind body
  maximal : kind ≠ .string → (∃ c ∈ body.head?, settings.isTokenChar c = true) →
    Ends settings rest

/-! ## Forms and gaps -/

/-- A construct is opened at the front of the text. -/
inductive Opens (settings : Settings) : List Char → Construct → List Char → Prop
  | collection (bracket : Bracket) (rest : List Char) :
    Opens settings (bracket.opening.toList ++ rest) (.collection bracket) rest
  | wrapper (kind : WrapperKind) {rest : List Char} : settings.readerMacros = true →
    (kind = .unquote → rest.head? ≠ some '@') →
    Opens settings (kind.sigil.toList ++ rest) (.wrapper kind) rest
  | tag {c : Char} {run rest : List Char} : settings.taggedLiterals = true →
    isAlphabetic c = true → (∀ d ∈ c :: run, settings.isTokenChar d = true) → Ends settings rest →
    Opens settings ('#' :: c :: (run ++ rest)) (.tag (String.ofList (c :: run))) rest
  | discard {rest : List Char} : settings.discard = true →
    Opens settings ('#' :: '_' :: rest) .discard rest

/-- White space or a comment stands at the front of the text. A comment goes on to the end of its
line. -/
inductive Blank (settings : Settings) : List Char → List Char → Prop
  | char {c : Char} {rest : List Char} : settings.isBlank c = true →
    Blank settings (c :: rest) rest
  | comment {body rest : List Char} : (∀ c ∈ body, c ≠ '\n') → (∀ c ∈ rest.head?, c = '\n') →
    Blank settings (';' :: (body ++ rest)) rest

mutual

/-- The form of a value stands at the front of the text. -/
inductive Form (settings : Settings) : Nat → List Char → Value → List Char → Prop
  | atom {depth : Nat} {text body rest : List Char} {kind : AtomKind} :
    Atom settings text kind body rest →
    Form settings depth text (.atom kind (String.ofList body)) rest
  | sequence {depth : Nat} {text inside rest : List Char} {kind : SequenceKind}
      {items : List Value} :
    Opens settings text (.collection (.sequence kind)) inside →
    Forms settings depth inside items (kind.closing :: rest) →
    Form settings (depth + 1) text (.sequence kind items) rest
  | dictionary {depth : Nat} {text inside rest : List Char} {items : List Value}
      {entries : List (Value × Value)} :
    Opens settings text (.collection .map) inside →
    Forms settings depth inside items ('}' :: rest) → pairs? items = some entries →
    Form settings (depth + 1) text (.dictionary entries) rest
  | wrapped {depth : Nat} {text inside form rest : List Char} {kind : WrapperKind}
      {content : Value} :
    Opens settings text (.wrapper kind) inside →
    Forms settings depth inside [] form → Form settings depth form content rest →
    Form settings (depth + 1) text (.wrapped kind content) rest
  | tagged {depth : Nat} {text inside form rest : List Char} {tag : String} {content : Value} :
    Opens settings text (.tag tag) inside →
    Forms settings depth inside [] form → Form settings depth form content rest →
    Form settings (depth + 1) text (.tagged tag content) rest

/-- Something that separates values and is none stands at the front of the text. -/
inductive Gap (settings : Settings) : Nat → List Char → List Char → Prop
  | blank {depth : Nat} {text rest : List Char} : Blank settings text rest →
    Gap settings depth text rest
  | discard {depth : Nat} {text inside form rest : List Char} {dropped : Value} :
    Opens settings text .discard inside →
    Forms settings depth inside [] form → Form settings depth form dropped rest →
    Gap settings (depth + 1) text rest

/-- The forms of some values stand at the front of the text, one after another and with gaps. -/
inductive Forms (settings : Settings) : Nat → List Char → List Value → List Char → Prop
  | nil {depth : Nat} {rest : List Char} : Forms settings depth rest [] rest
  | gap {depth : Nat} {text after rest : List Char} {values : List Value} :
    Gap settings depth text after → Forms settings depth after values rest →
    Forms settings depth text values rest
  | form {depth : Nat} {text after rest : List Char} {value : Value} {values : List Value} :
    Form settings depth text value after → Forms settings depth after values rest →
    Forms settings depth text (value :: values) rest

end

/-- Gaps and then the form of a value stand at the front of the text. -/
def Next (settings : Settings) (depth : Nat) (text : List Char) (value : Value)
    (rest : List Char) : Prop :=
  ∃ form, Forms settings depth text [] form ∧ Form settings depth form value rest

/-- A whole text stands for these values. -/
def Derives (settings : Settings) (text : List Char) (values : List Value) : Prop :=
  Forms settings settings.maxDepth text values []

variable {settings : Settings} {depth : Nat}

theorem Opens.wrapper_enabled {text rest : List Char} {kind : WrapperKind}
    (opens : Opens settings text (.wrapper kind) rest) : settings.readerMacros = true := by
  cases opens with
  | wrapper _ enabled _ => exact enabled

theorem Opens.tag_run {text rest : List Char} {tag : String}
    (opens : Opens settings text (.tag tag) rest) :
    ∃ c run, tag = String.ofList (c :: run) ∧ settings.taggedLiterals = true ∧
      isAlphabetic c = true ∧ ∀ d ∈ c :: run, settings.isTokenChar d = true := by
  cases opens with
  | tag enabled alphabetic inside _ => exact ⟨_, _, rfl, enabled, alphabetic, inside⟩

/-! ## Joining stretches -/

theorem Forms.append {text after rest : List Char} {values more : List Value}
    (front : Forms settings depth text values after) (back : Forms settings depth after more rest) :
    Forms settings depth text (values ++ more) rest := by
  match front with
  | .nil => exact back
  | .gap parted front => exact .gap parted (front.append back)
  | .form found front => exact .form found (front.append back)

theorem Next.gap {text after rest : List Char} {value : Value} (gap : Gap settings depth text after)
    (next : Next settings depth after value rest) : Next settings depth text value rest := by
  obtain ⟨form, gaps, found⟩ := next
  exact ⟨form, .gap gap gaps, found⟩

theorem Form.next {text rest : List Char} {value : Value}
    (form : Form settings depth text value rest) :
    Next settings depth text value rest :=
  ⟨text, .nil, form⟩

theorem Next.forms {text after rest : List Char} {value : Value} {values : List Value}
    (next : Next settings depth text value after) (forms : Forms settings depth after values rest) :
    Forms settings depth text (value :: values) rest := by
  obtain ⟨form, gaps, found⟩ := next
  exact gaps.append (.form found forms)

/-! ## Every piece takes a character -/

theorem AtomText.filled {kind : AtomKind} {body : List Char} (legal : AtomText settings kind body) :
    kind.opening ++ body ≠ [] := by
  cases legal with
  | integer valid =>
    rcases valid.numericStart with _ | _
    · exact List.cons_ne_nil _ _
    · exact List.cons_ne_nil _ _
  | float valid =>
    rcases valid.numericStart with _ | _
    · exact List.cons_ne_nil _ _
    · exact List.cons_ne_nil _ _
  | symbol _ _ _ => exact List.cons_ne_nil _ _
  | keyword _ _ => exact List.cons_ne_nil _ _
  | string _ => exact List.cons_ne_nil _ _
  | character _ _ => exact List.cons_ne_nil _ _

theorem Atom.length_lt {text body rest : List Char} {kind : AtomKind}
    (atom : Atom settings text kind body rest) : rest.length < text.length := by
  have filled := List.length_pos_iff.2 atom.legal.filled
  rw [List.length_append] at filled
  rw [atom.whole]
  simp only [List.length_append]
  omega

theorem Opens.length_lt {text rest : List Char} {construct : Construct}
    (opens : Opens settings text construct rest) : rest.length < text.length := by
  cases opens with
  | collection bracket =>
    have filled : 0 < bracket.opening.toList.length := by
      rcases bracket with (_ | _ | _) | _ <;> decide
    rw [List.length_append]
    omega
  | wrapper kind _ _ =>
    have filled : 0 < kind.sigil.toList.length := by cases kind <;> decide
    rw [List.length_append]
    omega
  | tag _ _ _ _ =>
    simp only [List.length_cons, List.length_append]
    omega
  | discard _ =>
    simp only [List.length_cons]
    omega

theorem Blank.length_lt {text rest : List Char} (blank : Blank settings text rest) :
    rest.length < text.length := by
  cases blank with
  | char _ => exact Nat.lt_succ_self _
  | comment _ _ =>
    simp only [List.length_cons, List.length_append]
    omega

mutual

theorem Form.length_lt {depth : Nat} {text rest : List Char} {value : Value}
    (form : Form settings depth text value rest) : rest.length < text.length := by
  match form with
  | .atom atom => exact atom.length_lt
  | .sequence opens inside =>
    have front := opens.length_lt
    have back := inside.length_le
    simp only [List.length_cons] at back
    omega
  | .dictionary opens inside _ =>
    have front := opens.length_lt
    have back := inside.length_le
    simp only [List.length_cons] at back
    omega
  | .wrapped opens gaps content =>
    have front := opens.length_lt
    have between := gaps.length_le
    have back := content.length_lt
    omega
  | .tagged opens gaps content =>
    have front := opens.length_lt
    have between := gaps.length_le
    have back := content.length_lt
    omega

theorem Gap.length_lt {depth : Nat} {text rest : List Char}
    (gap : Gap settings depth text rest) : rest.length < text.length := by
  match gap with
  | .blank blank => exact blank.length_lt
  | .discard opens gaps dropped =>
    have front := opens.length_lt
    have between := gaps.length_le
    have back := dropped.length_lt
    omega

theorem Forms.length_le {depth : Nat} {text rest : List Char} {values : List Value}
    (forms : Forms settings depth text values rest) : rest.length ≤ text.length := by
  match forms with
  | .nil => exact Nat.le_refl _
  | .gap parted forms =>
    have front := parted.length_lt
    have back := forms.length_le
    omega
  | .form found forms =>
    have front := found.length_lt
    have back := forms.length_le
    omega

end

theorem Next.length_lt {text rest : List Char} {value : Value}
    (next : Next settings depth text value rest) : rest.length < text.length := by
  obtain ⟨form, gaps, found⟩ := next
  exact Nat.lt_of_lt_of_le found.length_lt gaps.length_le

/-- A value that a form stands for is data. -/
theorem Form.not_sentinel {text rest : List Char} {value : Value}
    (form : Form settings depth text value rest) : value.isSentinel = false := by
  cases form <;> rfl

theorem Forms.not_sentinel {text rest : List Char} {values : List Value}
    (forms : Forms settings depth text values rest) :
    ∀ value ∈ values, value.isSentinel = false := by
  match forms with
  | .nil => exact nofun
  | .gap _ forms => exact forms.not_sentinel
  | .form found forms => exact List.forall_mem_cons.2 ⟨found.not_sentinel, forms.not_sentinel⟩

end Edn.Grammar
