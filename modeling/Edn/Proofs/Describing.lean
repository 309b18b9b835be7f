import Edn.Proofs.Nodes
import Edn.Proofs.RoundTrip
import Edn.Value.Describe
import Mathlib.Data.List.Nodup

/-!
# Descriptions tell values apart

A description encloses texts in angle brackets as they are, and symbols and characters may have
angle brackets, commas and square brackets in them. It can be read back from the left all the same:
the name in front says what kind of value follows (`described_append_inj`), and where a comma is
white space, no atom but a string has a comma or a closing square bracket behind its first character
(`AtomText.exists_unbroken`). So an atom goes on up to the brackets that close it and the values
around it, and how many of these there are is known when it is come to: `Told` carries their number
through the induction.
-/

namespace Edn

open Grammar Literal

/-! ## Names -/

/-- What a value is, whatever texts and values it holds. -/
inductive Shape
  | endOfInput
  | error
  | atom (kind : AtomKind)
  | sequence (kind : SequenceKind)
  | dictionary
  | tagged
  | wrapped (kind : WrapperKind)
  deriving DecidableEq

namespace Shape

/-- The name that a description begins with. -/
def name : Shape → String
  | endOfInput => "End"
  | error => "Error"
  | atom kind => kind.name
  | sequence kind => kind.name
  | dictionary => "Dictionary"
  | tagged => "Tagged"
  | wrapped kind => kind.name

/-- Every shape. -/
def all : List Shape :=
  [endOfInput, error, dictionary, tagged] ++
    [.integer, .float, .symbol, .keyword, .string, .character].map atom ++
    [.list, .set, .vector].map sequence ++
    [.deref, .quasiquote, .unquote, .unquoteSplice, .metadata, .varQuote, .quote].map wrapped

theorem mem_all (shape : Shape) : shape ∈ all := by
  cases shape with
  | atom kind => cases kind <;> decide
  | sequence kind => cases kind <;> decide
  | wrapped kind => cases kind <;> decide
  | _ => decide

theorem name_injective : Function.Injective name := by
  intro one other same
  have apart : (all.map name).Nodup := by decide
  exact List.inj_on_of_nodup_map apart (mem_all one) (mem_all other) same

theorem bracket_notMem_name (shape : Shape) : '<' ∉ shape.name.toList := by
  have each : ∀ shape ∈ all, '<' ∉ shape.name.toList := by decide
  exact each shape (mem_all shape)

theorem head?_name (shape : Shape) :
    shape.name.toList ≠ [] ∧ shape.name.toList.head? ≠ some ']' := by
  have each : ∀ shape ∈ all, shape.name.toList ≠ [] ∧ shape.name.toList.head? ≠ some ']' := by
    decide
  exact each shape (mem_all shape)

end Shape

/-- A text is cut in one way only before its first character of a kind. -/
theorem cut_unique {stop : Char → Bool} {front front' rest rest' : List Char}
    (apart : ∀ c ∈ front, stop c = false) (apart' : ∀ c ∈ front', stop c = false)
    (stops : ∀ c ∈ rest.head?, stop c = true) (stops' : ∀ c ∈ rest'.head?, stop c = true)
    (same : front ++ rest = front' ++ rest') : front = front' ∧ rest = rest' := by
  induction front generalizing front' with
  | nil =>
    cases front' with
    | nil => exact ⟨rfl, same⟩
    | cons c front' =>
      obtain rfl : rest = c :: (front' ++ rest') := same
      exact absurd (stops c rfl) (Bool.eq_false_iff.1 (apart' c List.mem_cons_self))
  | cons c front ih =>
    cases front' with
    | nil =>
      obtain rfl : rest' = c :: (front ++ rest) := same.symm
      exact absurd (stops' c rfl) (Bool.eq_false_iff.1 (apart c List.mem_cons_self))
    | cons d front' =>
      obtain ⟨rfl, tails⟩ := List.cons.inj same
      obtain ⟨rfl, behind⟩ := ih (List.forall_mem_cons.1 apart).2 (List.forall_mem_cons.1 apart').2
        tails
      exact ⟨rfl, behind⟩

namespace Value

/-- What the value is, whatever it holds. -/
def shape : Value → Shape
  | endOfInput => .endOfInput
  | error _ => .error
  | atom kind _ => .atom kind
  | sequence kind _ => .sequence kind
  | dictionary _ => .dictionary
  | tagged _ _ => .tagged
  | wrapped kind _ => .wrapped kind

/-- What stands between the angle brackets of the description. -/
def inside : Value → List Char
  | endOfInput => []
  | error message => message.toList
  | atom _ text => text.toList
  | sequence _ items => '[' :: listed (describedItems items) ++ [']']
  | dictionary entries => '[' :: listed (describedEntries entries) ++ [']']
  | tagged tag content => angled "Symbol" tag.toList ++ ',' :: described content
  | wrapped _ content => described content

variable {a b : Value} {r s : List Char}

theorem described_eq (not_end : a ≠ .endOfInput) : a.described = angled a.shape.name a.inside := by
  cases a with
  | endOfInput => exact absurd rfl not_end
  | _ => rw [described]; rfl

theorem angled_append (name : String) (content rest : List Char) :
    angled name content ++ rest = name.toList ++ '<' :: (content ++ '>' :: rest) := by
  simp only [angled, List.append_assoc, List.cons_append, List.nil_append]

/-- The front of a description says what the value is. -/
theorem described_append_inj (not_end : a ≠ .endOfInput) (not_end' : b ≠ .endOfInput)
    (same : a.described ++ r = b.described ++ s) :
    a.shape = b.shape ∧ a.inside ++ '>' :: r = b.inside ++ '>' :: s := by
  rw [described_eq not_end, described_eq not_end', angled_append, angled_append] at same
  have apart (shape : Shape) : ∀ c ∈ shape.name.toList, decide (c = '<') = false := by
    refine fun c among => decide_eq_false ?_
    rintro rfl
    exact shape.bracket_notMem_name among
  obtain ⟨names, insides⟩ := cut_unique (apart _) (apart _) (by rintro c ⟨⟩; rfl)
    (by rintro c ⟨⟩; rfl) same
  exact ⟨Shape.name_injective (String.toList_inj.1 names), List.tail_eq_of_cons_eq insides⟩

end Value

/-! ## Lists -/

/-- Whether a character stands between the parts of a value, or behind the last one. -/
def isBreak (c : Char) : Bool := c = ',' || c = ']'

/-- The text is empty or begins with such a character. -/
def Breaks (rest : List Char) : Prop := ∀ c ∈ rest.head?, isBreak c = true

theorem breaks_comma (rest : List Char) : Breaks (',' :: rest) := by
  rintro c ⟨⟩
  rfl

/-- What stands behind the first of the texts in square brackets. -/
def behindFirst (texts : List (List Char)) (rest : List Char) : List Char :=
  match texts with
  | [] => ']' :: rest
  | texts => ',' :: ' ' :: (listed texts ++ ']' :: rest)

theorem listed_cons_append (text : List Char) (texts : List (List Char)) (rest : List Char) :
    listed (text :: texts) ++ ']' :: rest = text ++ behindFirst texts rest := by
  cases texts with
  | nil => rfl
  | cons next texts => simp only [listed, behindFirst, List.append_assoc, List.cons_append]

theorem breaks_behindFirst (texts : List (List Char)) (rest : List Char) :
    Breaks (behindFirst texts rest) := by
  cases texts with
  | nil =>
    rintro c ⟨⟩
    rfl
  | cons text texts => exact breaks_comma _

/-- Texts in square brackets are told apart if each is, before a comma or the closing bracket. -/
theorem listed_inj {α : Type} {f : α → List Char} {as bs : List α} {r s : List Char}
    (told : ∀ a ∈ as, ∀ b ∈ bs, ∀ r s, Breaks r → Breaks s → f a ++ r = f b ++ s → a = b ∧ r = s)
    (opened : ∀ a r s, f a ++ r ≠ ']' :: s)
    (same : listed (as.map f) ++ ']' :: r = listed (bs.map f) ++ ']' :: s) : as = bs ∧ r = s := by
  induction as generalizing bs with
  | nil =>
    cases bs with
    | nil => exact ⟨rfl, List.tail_eq_of_cons_eq same⟩
    | cons b bs =>
      rw [List.map_cons, listed_cons_append] at same
      exact absurd same.symm (opened _ _ _)
  | cons a as ih =>
    cases bs with
    | nil =>
      rw [List.map_cons, listed_cons_append] at same
      exact absurd same (opened _ _ _)
    | cons b bs =>
      rw [List.map_cons, List.map_cons, listed_cons_append, listed_cons_append] at same
      obtain ⟨rfl, behind⟩ := told a List.mem_cons_self b List.mem_cons_self _ _
        (breaks_behindFirst _ _) (breaks_behindFirst _ _) same
      cases as with
      | nil =>
        cases bs with
        | nil => exact ⟨rfl, List.tail_eq_of_cons_eq behind⟩
        | cons b bs => cases List.head_eq_of_cons_eq behind
      | cons a' as =>
        cases bs with
        | nil => cases List.head_eq_of_cons_eq behind
        | cons b' bs =>
          have others := List.tail_eq_of_cons_eq (List.tail_eq_of_cons_eq behind)
          obtain ⟨rest, rfl⟩ := ih (fun a among b among' =>
            told a (List.mem_cons_of_mem _ among) b (List.mem_cons_of_mem _ among')) others
          exact ⟨congrArg (a :: ·) rest, rfl⟩

/-! ## Atoms -/

section

variable {settings : Settings}

theorem not_isBreak_of_isTokenChar (comma : settings.commaIsBlank = true) {c : Char}
    (inside : settings.isTokenChar c = true) : isBreak c = false := by
  rw [isBreak, Bool.or_eq_false_iff, decide_eq_false_iff_not, decide_eq_false_iff_not]
  constructor
  · rintro rfl
    simp [Settings.isTokenChar, Settings.isBlank, comma] at inside
  · rintro rfl
    simp [Settings.isTokenChar, isDelimiter] at inside

/-- No atom but a string has a comma or a closing square bracket behind its first character. -/
theorem Grammar.AtomText.exists_unbroken {kind : AtomKind} {text : List Char}
    (legal : AtomText settings kind text) (comma : settings.commaIsBlank = true)
    (other : kind ≠ .string) :
    ∃ c behind, text = c :: behind ∧ ∀ d ∈ behind, isBreak d = false := by
  have of_token {text : List Char} (filled : text ≠ [])
      (inside : ∀ c ∈ text, settings.isTokenChar c = true) :
      ∃ c behind, text = c :: behind ∧ ∀ d ∈ behind, isBreak d = false := by
    obtain ⟨c, behind, rfl⟩ := List.exists_cons_of_ne_nil filled
    exact ⟨c, behind, rfl, fun d among =>
      not_isBreak_of_isTokenChar comma (inside d (List.mem_cons_of_mem _ among))⟩
  have filled := legal.filled
  cases legal with
  | integer valid => exact of_token filled (valid.isTokenChar settings)
  | float valid => exact of_token filled (valid.isTokenChar settings)
  | symbol inside _ _ => exact of_token (List.cons_ne_nil _ _) inside
  | keyword inside _ => exact of_token (List.cons_ne_nil _ _) inside
  | string _ => exact absurd rfl other
  | character named _ =>
    rcases named.eq_singleton_or_isTokenChar settings with ⟨c, rfl⟩ | inside
    · exact ⟨c, [], rfl, nofun⟩
    · exact of_token named.ne_nil inside

/-! ## Values -/

namespace Value

variable {a b : Value}

theorem described_append_ne (a : Value) (r s : List Char) : a.described ++ r ≠ ']' :: s := by
  obtain ⟨filled, other⟩ := a.shape.head?_name
  intro same
  have front := congrArg List.head? same
  by_cases ended : a = .endOfInput
  · subst ended
    rw [described] at front
    cases front
  · rw [described_eq ended, angled_append, List.head?_append_of_ne_nil _ filled] at front
    exact other front

theorem describedItems_eq (items : List Value) : describedItems items = items.map described := by
  induction items with
  | nil => rfl
  | cons item items ih => rw [describedItems, ih, List.map_cons]

/-- The description of an entry. -/
def describedEntry (entry : Value × Value) : List Char :=
  angled "Entry" (entry.1.described ++ ',' :: entry.2.described)

theorem describedEntries_eq (entries : List (Value × Value)) :
    describedEntries entries = entries.map describedEntry := by
  induction entries with
  | nil => rfl
  | cons entry entries ih => rw [describedEntries, ih, List.map_cons, describedEntry]

/-- As many closing angle brackets. -/
def closers (count : Nat) : List Char := List.replicate count '>'

theorem not_isBreak_of_mem_closers {count : Nat} : ∀ c ∈ closers count, isBreak c = false := by
  intro c among
  obtain rfl := List.eq_of_mem_replicate among
  rfl

/-- The value is told apart from every readable one by its description, wherever that stands: the
same number of brackets closes behind both, and then a part of a value ends. -/
def Told (settings : Settings) (a : Value) : Prop :=
  ∀ {b : Value} {depth : Nat} {r s : List Char} (count : Nat), b.Readable settings depth →
    Breaks r → Breaks s →
    a.described ++ (closers count ++ r) = b.described ++ (closers count ++ s) → a = b ∧ r = s

/-- What stands inside values of one shape has to be told apart, with one bracket more behind it. -/
theorem told_of_inside (not_end : a ≠ .endOfInput)
    (told : ∀ {b : Value} {depth : Nat} {r s : List Char} (count : Nat),
      b.Readable settings depth → a.shape = b.shape → Breaks r → Breaks s →
      a.inside ++ (closers (count + 1) ++ r) = b.inside ++ (closers (count + 1) ++ s) →
      a = b ∧ r = s) : Told settings a := by
  intro b depth r s count readable breaks breaks' same
  have not_end' : b ≠ .endOfInput := by
    rintro rfl
    cases readable
  obtain ⟨shapes, insides⟩ := described_append_inj not_end not_end' same
  exact told count readable shapes breaks breaks' insides

theorem told_atom (comma : settings.commaIsBlank = true) {kind : AtomKind} {text : String}
    (legal : AtomText settings kind text.toList) (other : kind ≠ .string) :
    Told settings (.atom kind text) := by
  refine told_of_inside (by nofun) fun count readable shapes breaks breaks' insides => ?_
  cases readable with
  | atom legal' =>
    cases shapes
    obtain ⟨c, behind, spelled, unbroken⟩ := legal.exists_unbroken comma other
    obtain ⟨c', behind', spelled', unbroken'⟩ := legal'.exists_unbroken comma other
    rw [inside, inside, spelled, spelled', List.cons_append, List.cons_append] at insides
    obtain ⟨rfl, tails⟩ := List.cons.inj insides
    -- The text may end with brackets itself: only up to the break is it known what was written.
    have whole {text : List Char} (unbroken : ∀ d ∈ text, isBreak d = false) :
        ∀ d ∈ text ++ closers (count + 1), isBreak d = false :=
      List.forall_mem_append.2 ⟨unbroken, not_isBreak_of_mem_closers⟩
    rw [← List.append_assoc, ← List.append_assoc] at tails
    obtain ⟨bodies, rests⟩ := cut_unique (whole unbroken) (whole unbroken') breaks breaks' tails
    obtain rfl := List.append_cancel_right bodies
    obtain rfl := String.toList_inj.1 (spelled.trans spelled'.symm)
    exact ⟨rfl, rests⟩
  | _ => cases shapes

theorem told_sequence {kind : SequenceKind} {items : List Value}
    (told : ∀ item ∈ items, Told settings item) : Told settings (.sequence kind items) := by
  refine told_of_inside (by nofun) fun count readable shapes breaks breaks' insides => ?_
  cases readable with
  | sequence each =>
    cases shapes
    simp only [inside, describedItems_eq, List.cons_append, List.append_assoc, List.nil_append,
      List.cons.injEq, true_and] at insides
    obtain ⟨rfl, rests⟩ := listed_inj
      (fun a among b among' r s breaks breaks' same =>
        told a among 0 (each b among') breaks breaks' same) described_append_ne insides
    exact ⟨rfl, List.append_cancel_left rests⟩
  | _ => cases shapes

theorem describedEntry_append (entry : Value × Value) (rest : List Char) :
    describedEntry entry ++ rest =
      "Entry<".toList ++ (entry.1.described ++ ',' :: (entry.2.described ++ '>' :: rest)) := by
  rw [describedEntry, angled_append, List.append_assoc, List.cons_append]
  rfl

theorem told_dictionary {entries : List (Value × Value)}
    (keys : ∀ entry ∈ entries, Told settings entry.1)
    (values : ∀ entry ∈ entries, Told settings entry.2) :
    Told settings (.dictionary entries) := by
  refine told_of_inside (by nofun) fun count readable shapes breaks breaks' insides => ?_
  cases readable with
  | @dictionary _ entries' keys' values' =>
    have told : ∀ a ∈ entries, ∀ b ∈ entries', ∀ r s, Breaks r → Breaks s →
        describedEntry a ++ r = describedEntry b ++ s → a = b ∧ r = s := by
      intro a among b among' r s breaks breaks' same
      rw [describedEntry_append, describedEntry_append] at same
      obtain ⟨first, behind⟩ := keys a among 0 (keys' b among') (breaks_comma _) (breaks_comma _)
        (List.append_cancel_left same)
      obtain ⟨second, rests⟩ := values a among 1 (values' b among') breaks breaks'
        (List.tail_eq_of_cons_eq behind)
      exact ⟨Prod.ext first second, rests⟩
    have opened (entry : Value × Value) (r s : List Char) :
        describedEntry entry ++ r ≠ ']' :: s := by
      rw [describedEntry_append]
      exact fun same => nomatch List.head_eq_of_cons_eq same
    simp only [inside, describedEntries_eq, List.cons_append, List.append_assoc, List.nil_append,
      List.cons.injEq, true_and] at insides
    obtain ⟨rfl, rests⟩ := listed_inj told opened insides
    exact ⟨rfl, List.append_cancel_left rests⟩
  | _ => cases shapes

theorem inside_tagged_append (tag : String) (content : Value) (rest : List Char) :
    (tagged tag content).inside ++ rest =
      "Symbol<".toList ++ ((tag.toList ++ ['>']) ++ ',' :: (content.described ++ rest)) := by
  simp only [inside, List.append_assoc, angled_append, List.cons_append, List.nil_append]
  rfl

theorem told_tagged (comma : settings.commaIsBlank = true) {tag : String} {content : Value}
    (tag_token : ∀ d ∈ tag.toList, settings.isTokenChar d = true)
    (told : Told settings content) : Told settings (.tagged tag content) := by
  refine told_of_inside (by nofun) fun count readable shapes breaks breaks' insides => ?_
  cases readable with
  | tagged _ _ _ tag_token' readable' =>
    rw [inside_tagged_append, inside_tagged_append] at insides
    have apart {tag : String} (tag_token : ∀ d ∈ tag.toList, settings.isTokenChar d = true) :
        ∀ d ∈ tag.toList ++ ['>'], isBreak d = false :=
      List.forall_mem_append.2 ⟨fun d among => not_isBreak_of_isTokenChar comma (tag_token d among),
        List.forall_mem_singleton.2 rfl⟩
    obtain ⟨tags, contents⟩ := cut_unique (apart tag_token) (apart tag_token') (breaks_comma _)
      (breaks_comma _) (List.append_cancel_left insides)
    obtain ⟨rfl, rests⟩ := told (count + 1) readable' breaks breaks'
      (List.tail_eq_of_cons_eq contents)
    obtain rfl := String.toList_inj.1 (List.append_cancel_right tags)
    exact ⟨rfl, rests⟩
  | _ => cases shapes

theorem told_wrapped {kind : WrapperKind} {content : Value} (told : Told settings content) :
    Told settings (.wrapped kind content) := by
  refine told_of_inside (by nofun) fun count readable shapes breaks breaks' insides => ?_
  cases readable with
  | wrapped _ readable' =>
    cases shapes
    obtain ⟨rfl, rests⟩ := told (count + 1) readable' breaks breaks' insides
    exact ⟨rfl, rests⟩
  | _ => cases shapes

/-- No string stands anywhere in the value. -/
def StringFree (value : Value) : Prop := ∀ text, ¬ (Value.atom .string text).Part value

theorem Readable.told (comma : settings.commaIsBlank = true) {depth : Nat}
    (readable : a.Readable settings depth) (free : a.StringFree) : Told settings a := by
  induction readable with
  | atom legal =>
    refine told_atom comma legal ?_
    rintro rfl
    exact free _ .whole
  | sequence _ ih =>
    exact told_sequence fun item among =>
      ih item among fun text part => free text (.item among part)
  | dictionary _ _ keys values =>
    exact told_dictionary
      (fun entry among => keys entry among fun text part => free text (.key among part))
      (fun entry among => values entry among fun text part => free text (.value among part))
  | tagged _ _ _ tag_token _ ih =>
    exact told_tagged comma tag_token (ih fun text part => free text (.tagged part))
  | wrapped _ _ ih => exact told_wrapped (ih fun text part => free text (.wrapped part))

theorem bracket_mem_described_iff : '<' ∈ a.described ↔ a ≠ .endOfInput := by
  constructor
  · rintro among rfl
    exact absurd among (by decide)
  · intro not_end
    rw [described_eq not_end, angled]
    simp

/-- A report is described as nothing else is. -/
theorem eq_of_described_sentinel (report : a.isSentinel = true)
    (same : a.described = b.described) : a = b := by
  have both_end := bracket_mem_described_iff (a := a)
  rw [same, bracket_mem_described_iff, not_iff_not] at both_end
  cases a with
  | endOfInput => exact (both_end.2 rfl).symm
  | error message =>
    have not_end : b ≠ .endOfInput := fun ended => nomatch both_end.1 ended
    have same : (error message).described ++ [] = b.described ++ [] := by rw [same]
    obtain ⟨shapes, insides⟩ := described_append_inj (by nofun) not_end same
    cases b with
    | error message' =>
      exact congrArg error (String.toList_inj.1 (List.append_cancel_right insides))
    | _ => cases shapes
  | _ => cases report

/-- The value has been read with these settings, from some stream and behind some other values, or
can be written so that it is read with them. -/
inductive Known (settings : Settings) : Value → Prop
  | read {value : Value} (origin : Origin) (chars : CharStream) (index : Nat) :
    ((Session.ofStream settings settings origin chars).afterReads index).readNext.1 = value →
    Known settings value
  | readable {value : Value} {depth : Nat} : value.Readable settings depth → Known settings value

theorem Known.report_or_readable {value : Value} (known : value.Known settings) :
    value.isSentinel = true ∨ ∃ depth, value.Readable settings depth := by
  cases known with
  | readable readable => exact Or.inr ⟨_, readable⟩
  | read origin chars index read =>
    rw [Session.fst_readNext_afterReads] at read
    rcases Reader.node_cases settings (Cursor.at_fresh chars) index with ended | ⟨fault, failed⟩ |
      ⟨form, front, rest, -, next, same⟩
    · rw [ended] at read
      subst read
      exact Or.inl rfl
    · rw [failed] at read
      subst read
      exact Or.inl rfl
    · rw [same, next.ofNode_toNode] at read
      subst read
      obtain ⟨_, -, found⟩ := next
      exact Or.inr ⟨_, found.readable⟩

/-- Where a comma is white space, values that have been read or can be read have the same
description only if they are the same, unless a string stands in both. -/
theorem describe_eq_iff (comma : settings.commaIsBlank = true) (known : a.Known settings)
    (known' : b.Known settings) (free : a.StringFree) : a.describe = b.describe ↔ a = b := by
  refine ⟨fun same => ?_, congrArg describe⟩
  have same : a.described = b.described := String.ofList_injective same
  rcases known.report_or_readable with report | ⟨depth, readable⟩
  · exact eq_of_described_sentinel report same
  rcases known'.report_or_readable with report | ⟨depth', readable'⟩
  · exact (eq_of_described_sentinel report same.symm).symm
  have silent : Breaks [] := nofun
  have same : a.described ++ (closers 0 ++ []) = b.described ++ (closers 0 ++ []) := by rw [same]
  exact (readable.told comma free 0 readable' silent silent same).1

/-- A character that is a comma, and a symbol that ends with a bracket as the quote around it
does. -/
theorem describe_eq_iff_closing :
    let chars := CharStream.ofText "(\\, 'a>) (\\, 'a)".toList
    let one : Value := .sequence .list [.atom .character ",", .wrapped .quote (.atom .symbol "a>")]
    let other : Value := .sequence .list [.atom .character ",", .wrapped .quote (.atom .symbol "a")]
    let session := Session.ofStream .clojure .clojure Session.unnamed chars
    (session.afterReads 0).readNext.1 = one ∧ (session.afterReads 1).readNext.1 = other ∧
      Settings.clojure.commaIsBlank = true ∧ one.StringFree ∧
      one.describe = "List<[Char<,>, Quote<Symbol<a>>>]>" ∧
      (one.describe = other.describe ↔ one = other) := by
  intro chars one other session
  have read : (session.afterReads 0).readNext.1 = one := by decide +kernel
  have read' : (session.afterReads 1).readNext.1 = other := by decide +kernel
  have free : one.StringFree := by
    intro text part
    dsimp only [one] at part
    cases part with | item among part =>
    rcases List.mem_pair.1 among with rfl | rfl
    · cases part
    · cases part with
      | wrapped part => cases part
  exact ⟨read, read', rfl, free, by decide,
    describe_eq_iff rfl (.read _ _ 0 read) (.read _ _ 1 read') free⟩

/-- A string may look like the end of one string and the beginning of another. -/
example :
    (sequence .list [.atom .string "a", .atom .string "b"]).describe =
      (sequence .list [.atom .string "a>, String<b"]).describe := by
  decide

end Value

end

end Edn
