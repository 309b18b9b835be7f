import Edn.Proofs.Document
import Edn.Proofs.Writing

/-!
# Writing and reading again

A value is readable if its texts are those of the grammar, if the settings know its constructs and
if it is not nested too deep. The text of a readable value is a form of that value, before anything
that ends a token (`Readable.prints`), and every value that a form stands for is readable
(`Form.readable`). The one place where two texts could run together is a tilde before a form that
begins with an at sign, and only a dereference does (`Legible.exists_front`).
-/

namespace Edn

open Grammar

/-- The value can be written so that a reader with these settings reads it again, with at most
`depth` of its constructs nested. -/
inductive Value.Readable (settings : Settings) : Nat → Value → Prop
  | atom {depth : Nat} {kind : AtomKind} {text : String} : AtomText settings kind text.toList →
    Readable settings depth (.atom kind text)
  | sequence {depth : Nat} {kind : SequenceKind} {items : List Value} :
    (∀ item ∈ items, Readable settings depth item) →
    Readable settings (depth + 1) (.sequence kind items)
  | dictionary {depth : Nat} {entries : List (Value × Value)} :
    (∀ entry ∈ entries, Readable settings depth entry.1) →
    (∀ entry ∈ entries, Readable settings depth entry.2) →
    Readable settings (depth + 1) (.dictionary entries)
  | tagged {depth : Nat} {tag : String} {c : Char} {run : List Char} {content : Value} :
    settings.taggedLiterals = true → tag.toList = c :: run → isAlphabetic c = true →
    (∀ d ∈ tag.toList, settings.isTokenChar d = true) → Readable settings depth content →
    Readable settings (depth + 1) (.tagged tag content)
  | wrapped {depth : Nat} {kind : WrapperKind} {content : Value} :
    settings.readerMacros = true → Readable settings depth content →
    Readable settings (depth + 1) (.wrapped kind content)

/-- The atoms and tags of the value have texts that a reader with these settings reads. It may hold
reports beside them, and constructs that the settings do not know, nested to any depth. -/
inductive Value.Legible (settings : Settings) : Value → Prop
  | endOfInput : Legible settings .endOfInput
  | error (message : String) : Legible settings (.error message)
  | atom {kind : AtomKind} {text : String} : AtomText settings kind text.toList →
    Legible settings (.atom kind text)
  | sequence {kind : SequenceKind} {items : List Value} :
    (∀ item ∈ items, Legible settings item) → Legible settings (.sequence kind items)
  | dictionary {entries : List (Value × Value)} :
    (∀ entry ∈ entries, Legible settings entry.1) →
    (∀ entry ∈ entries, Legible settings entry.2) → Legible settings (.dictionary entries)
  | tagged {tag : String} {c : Char} {run : List Char} {content : Value} :
    tag.toList = c :: run → isAlphabetic c = true →
    (∀ d ∈ tag.toList, settings.isTokenChar d = true) → Legible settings content →
    Legible settings (.tagged tag content)
  | wrapped {kind : WrapperKind} {content : Value} : Legible settings content →
    Legible settings (.wrapped kind content)

theorem Value.Readable.legible {settings : Settings} {depth : Nat} {value : Value}
    (readable : value.Readable settings depth) : value.Legible settings := by
  induction readable with
  | atom text => exact .atom text
  | sequence _ ih => exact .sequence ih
  | dictionary _ _ keys values => exact .dictionary keys values
  | tagged _ spelled alphabetic inside _ ih => exact .tagged spelled alphabetic inside ih
  | wrapped _ _ ih => exact .wrapped ih

/-- The value is the other one, or stands somewhere inside it. -/
inductive Value.Part (part : Value) : Value → Prop
  | whole : Part part part
  | item {kind : SequenceKind} {items : List Value} {item : Value} : item ∈ items →
    Part part item → Part part (.sequence kind items)
  | key {entries : List (Value × Value)} {entry : Value × Value} : entry ∈ entries →
    Part part entry.1 → Part part (.dictionary entries)
  | value {entries : List (Value × Value)} {entry : Value × Value} : entry ∈ entries →
    Part part entry.2 → Part part (.dictionary entries)
  | tagged {tag : String} {content : Value} : Part part content → Part part (.tagged tag content)
  | wrapped {kind : WrapperKind} {content : Value} : Part part content →
    Part part (.wrapped kind content)

theorem Value.Readable.part {settings : Settings} {depth : Nat} {value part : Value}
    (readable : value.Readable settings depth) (inside : part.Part value) :
    ∃ depth, part.Readable settings depth := by
  induction inside generalizing depth with
  | whole => exact ⟨depth, readable⟩
  | item among _ ih =>
    cases readable with
    | sequence each => exact ih (each _ among)
  | key among _ ih =>
    cases readable with
    | dictionary keys _ => exact ih (keys _ among)
  | value among _ ih =>
    cases readable with
    | dictionary _ values => exact ih (values _ among)
  | tagged _ ih =>
    cases readable with
    | tagged _ _ _ _ content => exact ih content
  | wrapped _ ih =>
    cases readable with
    | wrapped _ content => exact ih content

namespace Grammar

variable {settings : Settings}

/-! ## What is read is readable -/

mutual

theorem Form.readable {depth : Nat} {text rest : List Char} {value : Value}
    (form : Form settings depth text value rest) : value.Readable settings depth := by
  match form with
  | .atom atom =>
    apply Value.Readable.atom
    rw [String.toList_ofList]
    exact atom.legal
  | .sequence _ inside => exact .sequence inside.readable
  | .dictionary _ inside paired =>
    have each := inside.readable
    exact .dictionary (fun entry among => each _ (mem_of_pairs? paired entry among).1)
      (fun entry among => each _ (mem_of_pairs? paired entry among).2)
  | .wrapped opens _ content =>
    have enabled := opens.wrapper_enabled
    exact .wrapped enabled content.readable
  | .tagged opens _ content =>
    obtain ⟨c, run, rfl, enabled, alphabetic, inside⟩ := opens.tag_run
    have spelled : (String.ofList (c :: run)).toList = c :: run := String.toList_ofList
    exact .tagged enabled spelled alphabetic (spelled.symm ▸ inside) content.readable

theorem Forms.readable {depth : Nat} {text rest : List Char} {values : List Value}
    (forms : Forms settings depth text values rest) :
    ∀ value ∈ values, value.Readable settings depth := by
  match forms with
  | .nil => exact nofun
  | .gap _ forms => exact forms.readable
  | .form found forms => exact List.forall_mem_cons.2 ⟨found.readable, forms.readable⟩

end

/-! ## What is written is a form -/

theorem Ends.of_blank {c : Char} (blank : settings.isBlank c = true) (rest : List Char) :
    Ends settings (c :: rest) := by
  intro d among
  cases among
  simp [Settings.isTokenChar, blank]

theorem Ends.of_delimiter {c : Char} (delimiter : isDelimiter c = true) (rest : List Char) :
    Ends settings (c :: rest) := by
  intro d among
  cases among
  simp [Settings.isTokenChar, delimiter]

theorem isBlank_space (settings : Settings) : settings.isBlank ' ' = true := by
  simp [Settings.isBlank, isBlank_of_isWhitespace]

theorem space_gap (settings : Settings) (depth : Nat) (rest : List Char) :
    Gap settings depth (' ' :: rest) rest :=
  .blank (.char (isBlank_space settings))

/-- The text of the value is a form of it, before anything that ends a token. -/
def Prints (settings : Settings) (depth : Nat) (value : Value) : Prop :=
  ∀ rest, Ends settings rest → Form settings depth (value.written ++ rest) value rest

theorem forms_spaced {depth : Nat} {values : List Value} {rest : List Char}
    (print : ∀ value ∈ values, Prints settings depth value) (ends : Ends settings rest) :
    Forms settings depth (spaced (values.map Value.written) ++ rest) values rest := by
  induction values with
  | nil => exact .nil
  | cons value values ih =>
    obtain ⟨first, others⟩ := List.forall_mem_cons.1 print
    cases values with
    | nil => exact .form (first rest ends) .nil
    | cons next values =>
      have behind := ih others
      have separated := first _ (Ends.of_blank (isBlank_space settings)
        (spaced ((next :: values).map Value.written) ++ rest))
      simp only [List.map_cons, spaced, List.append_assoc, List.cons_append] at separated behind ⊢
      exact .form separated (.gap (space_gap settings depth _) behind)

end Grammar

namespace Value

open Grammar

variable {settings : Settings}

/-- Keys and values in turn. -/
def inTurn (entries : List (Value × Value)) : List Value :=
  entries.flatMap fun entry => [entry.1, entry.2]

theorem writtenEntries_eq (entries : List (Value × Value)) :
    writtenEntries entries = (inTurn entries).map written := by
  induction entries with
  | nil => rfl
  | cons entry entries ih =>
    exact congrArg (written entry.1 :: written entry.2 :: ·) ih

theorem forall_mem_inTurn {P : Value → Prop} {entries : List (Value × Value)} :
    (∀ value ∈ inTurn entries, P value) ↔ ∀ entry ∈ entries, P entry.1 ∧ P entry.2 := by
  induction entries with
  | nil => exact iff_of_true (List.forall_mem_nil _) (List.forall_mem_nil _)
  | cons entry entries ih =>
    show (∀ value ∈ entry.1 :: entry.2 :: inTurn entries, P value) ↔ _
    rw [List.forall_mem_cons, List.forall_mem_cons, ih, List.forall_mem_cons, and_assoc]

theorem pairs?_inTurn (entries : List (Value × Value)) :
    pairs? (inTurn entries) = some entries := by
  induction entries with
  | nil => rfl
  | cons entry entries ih =>
    show (pairs? (inTurn entries)).map ((entry.1, entry.2) :: ·) = some (entry :: entries)
    rw [ih]
    rfl

theorem prints_atom {depth : Nat} {kind : AtomKind} {text : String}
    (legal : AtomText settings kind text.toList) : Prints settings depth (.atom kind text) := by
  intro rest ends
  have here : Atom settings ((atom kind text).written ++ rest) kind text.toList rest :=
    ⟨by simp only [written_atom, List.append_assoc], legal, fun _ _ => ends⟩
  have form : Form settings depth ((atom kind text).written ++ rest)
      (.atom kind (String.ofList text.toList)) rest := .atom here
  rwa [String.ofList_toList] at form

theorem prints_sequence {depth : Nat} {kind : SequenceKind} {items : List Value}
    (print : ∀ item ∈ items, Prints settings depth item) :
    Prints settings (depth + 1) (.sequence kind items) := by
  intro rest _
  have closes : isDelimiter kind.closing = true := by cases kind <;> decide
  have inside := forms_spaced print (Ends.of_delimiter closes rest)
  have opens : Opens settings
      (kind.opening.toList ++ (spaced (items.map written) ++ kind.closing :: rest))
      (.collection (.sequence kind)) _ := .collection (.sequence kind) _
  have text : (sequence kind items).written ++ rest =
      kind.opening.toList ++ (spaced (items.map written) ++ kind.closing :: rest) := by
    simp only [written_sequence, writtenItems_eq, List.append_assoc, List.cons_append,
      List.nil_append]
  rw [text]
  exact .sequence opens inside

theorem prints_dictionary {depth : Nat} {entries : List (Value × Value)}
    (keys : ∀ entry ∈ entries, Prints settings depth entry.1)
    (values : ∀ entry ∈ entries, Prints settings depth entry.2) :
    Prints settings (depth + 1) (.dictionary entries) := by
  intro rest _
  have print : ∀ value ∈ inTurn entries, Prints settings depth value :=
    forall_mem_inTurn.2 fun entry among => ⟨keys entry among, values entry among⟩
  have inside := forms_spaced print (Ends.of_delimiter (c := '}') (by decide) rest)
  have opens : Opens settings ('{' :: (spaced ((inTurn entries).map written) ++ '}' :: rest))
      (.collection .map) _ := .collection .map _
  have text : (dictionary entries).written ++ rest =
      '{' :: (spaced ((inTurn entries).map written) ++ '}' :: rest) := by
    simp only [written_dictionary, writtenEntries_eq, List.append_assoc, List.cons_append,
      List.nil_append]
  rw [text]
  exact .dictionary opens inside (pairs?_inTurn entries)

theorem prints_tagged {depth : Nat} {tag : String} {c : Char} {run : List Char} {content : Value}
    (enabled : settings.taggedLiterals = true) (spelled : tag.toList = c :: run)
    (alphabetic : isAlphabetic c = true)
    (inside : ∀ d ∈ tag.toList, settings.isTokenChar d = true)
    (print : Prints settings depth content) :
    Prints settings (depth + 1) (.tagged tag content) := by
  intro rest ends
  have opens : Opens settings ('#' :: c :: (run ++ ' ' :: (content.written ++ rest)))
      (.tag (String.ofList (c :: run))) (' ' :: (content.written ++ rest)) :=
    .tag enabled alphabetic (spelled ▸ inside) (Ends.of_blank (isBlank_space settings) _)
  have gaps : Forms settings depth (' ' :: (content.written ++ rest)) [] _ :=
    .gap (space_gap settings depth _) .nil
  have form := Form.tagged opens gaps (print rest ends)
  have text : (tagged tag content).written ++ rest =
      '#' :: c :: (run ++ ' ' :: (content.written ++ rest)) := by
    simp only [written_tagged, spelled, List.append_assoc, List.cons_append]
  rw [← spelled, String.ofList_toList] at form
  rw [text]
  exact form

/-! ## A tilde and what follows it -/

theorem lead_unquote (content : Value) :
    (∃ inner, content = .wrapped .deref inner ∧ WrapperKind.unquote.lead content = ['~', ' ']) ∨
      (∀ inner, content ≠ .wrapped .deref inner) ∧ WrapperKind.unquote.lead content = ['~'] := by
  unfold WrapperKind.lead
  split
  · next inner _ => exact Or.inl ⟨inner, rfl, rfl⟩
  · next other => exact Or.inr ⟨fun inner same => other inner rfl same, rfl⟩

theorem lead_of_ne_unquote {kind : WrapperKind} (other : kind ≠ .unquote) (content : Value) :
    kind.lead content = kind.sigil.toList := by
  cases kind <;> first | rfl | exact absurd rfl other

/-- The text of an atom does not begin with an at sign. -/
theorem exists_front_of_atomText {kind : AtomKind} {body : List Char}
    (legal : AtomText settings kind body) :
    ∃ c text, kind.opening ++ (body ++ kind.closing) = c :: text ∧ c ≠ '@' := by
  have plain_ne {c : Char} (plain : c ∉ signs) : c ≠ '@' := by
    intro same
    subst same
    exact absurd (by decide) plain
  cases legal with
  | integer valid =>
    obtain ⟨c, run, rfl, plain⟩ := Lexeme.numericStart_plain valid.numericStart
    exact ⟨c, _, rfl, plain_ne plain⟩
  | float valid =>
    obtain ⟨c, run, rfl, plain⟩ := Lexeme.numericStart_plain valid.numericStart
    exact ⟨c, _, rfl, plain_ne plain⟩
  | @symbol c _ _ plain _ => exact ⟨c, _, rfl, plain_ne plain⟩
  | keyword _ _ => exact ⟨':', _, rfl, nofun⟩
  | string _ => exact ⟨'"', _, rfl, nofun⟩
  | character _ _ => exact ⟨'\\', _, rfl, nofun⟩

/-- The text of a value begins with some character, and only that of a dereference with an at
sign. -/
theorem Legible.exists_front {value : Value} (legible : value.Legible settings) :
    ∃ c text, value.written = c :: text ∧
      (c = '@' → ∃ content, value = .wrapped .deref content) := by
  cases legible with
  | endOfInput => exact ⟨'#', _, rfl, nofun⟩
  | error message =>
    rw [written_error]
    exact ⟨'#', _, rfl, nofun⟩
  | @atom kind text legal =>
    rw [written_atom, List.append_assoc]
    obtain ⟨c, behind, front, other⟩ := exists_front_of_atomText legal
    exact ⟨c, behind, front, fun same => absurd same other⟩
  | @sequence kind items _ =>
    rw [written_sequence]
    cases kind with
    | list => exact ⟨'(', _, rfl, nofun⟩
    | set => exact ⟨'#', _, rfl, nofun⟩
    | vector => exact ⟨'[', _, rfl, nofun⟩
  | dictionary _ _ =>
    rw [written_dictionary]
    exact ⟨'{', _, rfl, nofun⟩
  | tagged _ _ _ _ =>
    rw [written_tagged]
    exact ⟨'#', _, rfl, nofun⟩
  | @wrapped kind content _ =>
    rw [written_wrapped]
    cases kind with
    | deref => exact ⟨'@', _, rfl, fun _ => ⟨content, rfl⟩⟩
    | unquote =>
      rcases lead_unquote content with ⟨_, _, lead⟩ | ⟨_, lead⟩
      · rw [lead]
        exact ⟨'~', _, rfl, nofun⟩
      · rw [lead]
        exact ⟨'~', _, rfl, nofun⟩
    | quote => exact ⟨'\'', _, rfl, nofun⟩
    | quasiquote => exact ⟨'\x60', _, rfl, nofun⟩
    | unquoteSplice => exact ⟨'~', _, rfl, nofun⟩
    | varQuote => exact ⟨'#', _, rfl, nofun⟩
    | metadata => exact ⟨'^', _, rfl, nofun⟩

/-- What stands before the form under a reader macro is the sigil and perhaps a space, and does not
run together with the form: only a dereference could turn a tilde into a splice, and it is kept
apart. -/
theorem Legible.lead_eq {content : Value} (legible : content.Legible settings)
    (kind : WrapperKind) (rest : List Char) : ∃ gap, (gap = [] ∨ gap = [' ']) ∧
      kind.lead content = kind.sigil.toList ++ gap ∧
      (kind = .unquote → (gap ++ (content.written ++ rest)).head? ≠ some '@') := by
  by_cases unquote : kind = .unquote
  · subst unquote
    rcases lead_unquote content with ⟨inner, -, lead⟩ | ⟨other, lead⟩
    · exact ⟨[' '], Or.inr rfl, lead, fun _ => nofun⟩
    · refine ⟨[], Or.inl rfl, lead, fun _ head => ?_⟩
      obtain ⟨c, text, front, deref⟩ := legible.exists_front
      rw [front] at head
      obtain ⟨inner, same⟩ := deref (Option.some.inj head)
      exact other inner same
  · refine ⟨[], Or.inl rfl, ?_, fun same => absurd same unquote⟩
    rw [lead_of_ne_unquote unquote, List.append_nil]

theorem prints_wrapped {depth : Nat} {kind : WrapperKind} {content : Value}
    (enabled : settings.readerMacros = true) (readable : content.Readable settings depth)
    (print : Prints settings depth content) :
    Prints settings (depth + 1) (.wrapped kind content) := by
  intro rest ends
  obtain ⟨gap, blank, lead, no_splice⟩ := readable.legible.lead_eq kind rest
  rw [written_wrapped, lead, List.append_assoc, List.append_assoc]
  have opens : Opens settings (kind.sigil.toList ++ (gap ++ (content.written ++ rest)))
      (.wrapper kind) (gap ++ (content.written ++ rest)) := .wrapper kind enabled no_splice
  rcases blank with rfl | rfl
  · exact .wrapped opens .nil (print rest ends)
  · exact .wrapped opens (.gap (space_gap settings depth _) .nil) (print rest ends)

/-- The text of a readable value is a form of it, before anything that ends a token. -/
theorem Readable.prints {depth : Nat} {value : Value} (readable : value.Readable settings depth) :
    Prints settings depth value := by
  induction readable with
  | atom legal => exact prints_atom legal
  | sequence _ ih => exact prints_sequence ih
  | dictionary _ _ keys values => exact prints_dictionary keys values
  | tagged enabled spelled alphabetic inside _ ih =>
    exact prints_tagged enabled spelled alphabetic inside ih
  | wrapped enabled readable ih => exact prints_wrapped enabled readable ih

/-- Readable values, each on a line of its own, are derived from their lines. -/
theorem derives_lines {values : List Value}
    (readable : ∀ value ∈ values, value.Readable settings settings.maxDepth) :
    Derives settings (lines values) values := by
  induction values with
  | nil => exact .nil
  | cons value values ih =>
    obtain ⟨first, others⟩ := List.forall_mem_cons.1 readable
    have text : lines (value :: values) = value.written ++ '\n' :: lines values := by
      simp only [lines, List.flatMap_cons, List.append_assoc, List.cons_append, List.nil_append]
    have newline : settings.isBlank '\n' = true := by
      simp [Settings.isBlank, isBlank_of_isWhitespace]
    have form := first.prints _ (Ends.of_blank newline (lines values))
    rw [Derives, text]
    exact .form form (.gap (Lexeme.newline_gap _ _ _) (ih others))

end Value

/-! ## Reading, writing, reading -/

variable {settings : Settings}

theorem Document.readable_of_ofDeliveries {deliveries : List Delivery} {values : List Value}
    (read : ofDeliveries settings deliveries = values)
    (no_error : ∀ message, values ≠ [.error message]) :
    ∀ value ∈ values, value.Readable settings settings.maxDepth := by
  obtain ⟨text, -, derives⟩ := derives_of_ofDeliveries read no_error
  exact Forms.readable derives

/-- The text of a readable value, on its own, is read as that value. -/
theorem Document.ofBytes_encode_written {value : Value}
    (readable : value.Readable settings settings.maxDepth) :
    ofBytes settings (Utf8.encode value.written) = [value] := by
  have form := readable.prints [] (fun _ none_left => nomatch none_left)
  have derives : Derives settings (value.written ++ []) [value] := .form form .nil
  rw [List.append_nil] at derives
  rw [ofBytes_encode (.of_derives derives), if_neg (Derives.malformed_notMem derives)]

theorem Document.ofBytes_written {values : List Value}
    (readable : ∀ value ∈ values, value.Readable settings settings.maxDepth) :
    ofBytes settings (Sink.unlimited.writeValues values).2.taken = values := by
  have derives := Value.derives_lines readable
  rw [Sink.taken_writeValues rfl]
  show ofBytes settings (Utf8.encode (Value.lines values)) = values
  rw [ofBytes_encode (.of_derives derives), if_neg (Derives.malformed_notMem derives)]

/-- Readable values that are written are read again as the same values. Everything that is read
without an error, from whatever bytes and however they arrive, is readable; so reading, writing and
reading again gives the same values. -/
theorem ofBytes_writeValues (settings : Settings) :
    (∀ values : List Value, (∀ value ∈ values, value.Readable settings settings.maxDepth) →
      Document.ofBytes settings (Sink.unlimited.writeValues values).2.taken = values) ∧
    ∀ deliveries values, Document.ofDeliveries settings deliveries = values →
      (∀ message, values ≠ [.error message]) →
      (∀ value ∈ values, value.Readable settings settings.maxDepth) ∧
        Document.ofBytes settings (Sink.unlimited.writeValues values).2.taken = values := by
  refine ⟨fun values readable => Document.ofBytes_written readable, ?_⟩
  intro deliveries values read no_error
  have readable := Document.readable_of_ofDeliveries read no_error
  exact ⟨readable, Document.ofBytes_written readable⟩

/-- A tilde before a dereference, characters that are brackets and comment signs elsewhere, an
escaped quote, and a discarded form that is not written. -/
theorem ofBytes_writeValues_adjacent :
    let text := "~ @a[\\)\\; \"\\\"\"#t(:k)]#_x{1 2.5M}".toList
    let values : List Value :=
      [.wrapped .unquote (.wrapped .deref (.atom .symbol "a")),
        .sequence .vector [.atom .character ")", .atom .character ";", .atom .string "\\\"",
          .tagged "t" (.sequence .list [.atom .keyword "k"])],
        .dictionary [(.atom .integer "1", .atom .float "2.5M")]]
    Document.ofDeliveries .clojure [.bytes (Utf8.encode text)] = values ∧
      (∀ value ∈ values, value.Readable .clojure Settings.clojure.maxDepth) ∧
      (Sink.unlimited.writeValues values).2.taken =
        Utf8.encode "~ @a\n[\\) \\; \"\\\"\" #t (:k)]\n\x7b1 2.5M\x7d\n".toList ∧
      Document.ofBytes .clojure (Sink.unlimited.writeValues values).2.taken = values := by
  intro text values
  have read : Document.ofDeliveries .clojure [.bytes (Utf8.encode text)] = values := by
    decide +kernel
  obtain ⟨written_back, read_back⟩ := ofBytes_writeValues .clojure
  have no_error : ∀ message, values ≠ [.error message] := by simp [values]
  obtain ⟨readable, -⟩ := read_back _ values read no_error
  refine ⟨read, readable, ?_, written_back values readable⟩
  rw [Sink.taken_writeValues rfl]
  decide +kernel

end Edn
