import Edn.Proofs.RoundTrip

/-!
# The text of a report is never read

What is written of a report begins with `#<`, which begins no form; but it may stand anywhere in the
text of a value, and its message may hold quotes, brackets and newlines. So the run over such a text
is followed from the left. It goes on over the text of a value only if the value is readable
(`Legible.resolves`): a report, a construct that the settings do not know and one that is nested too
deep are all faults where they stand. No part of a readable value is a report, so a text with a
report in it is refused, whatever the settings are (`ofDeliveries_of_sentinel`).
-/

namespace Edn

open Grammar Reader

variable {settings : Settings} {cursor : Cursor} {rest : List Char}

/-! ## Lexemes that are refused -/

namespace Lexeme

/-- Reading the next lexeme comes to a fault. -/
def Refused (settings : Settings) (cursor : Cursor) : Prop :=
  ∃ fault after, read settings cursor = (.error fault, after)

/-- What stands behind a number sign begins no construct that the settings know. -/
theorem refused_hash {c : Char} (here : cursor.At ('#' :: c :: rest) none)
    (no_set : c ≠ '{') (no_discard : c ≠ '_') (no_quote : c = '\'' → settings.readerMacros = false)
    (no_tag : isAlphabetic c = true → settings.taggedLiterals = false) :
    Refused settings cursor := by
  obtain ⟨start, position, inside, after, begun, taken, -⟩ := read_hash settings here
  refine ⟨⟨.invalidDispatch c, position⟩, after, ?_⟩
  have not_discard : ¬ (c = '_' ∧ settings.discard = true) := fun both => no_discard both.1
  have not_quote : ¬ (c = '\'' ∧ settings.readerMacros = true) := fun both =>
    Bool.eq_false_iff.1 (no_quote both.1) both.2
  have not_tag : ¬ (isAlphabetic c = true ∧ settings.taggedLiterals = true) := fun both =>
    Bool.eq_false_iff.1 (no_tag both.1) both.2
  rw [begun, dispatch, taken]
  dsimp only
  rw [if_neg no_set, if_neg not_discard, if_neg not_quote, if_neg not_tag]

theorem refused_report (settings : Settings) (here : cursor.At ('#' :: '<' :: rest) none) :
    Refused settings cursor := by
  have no_letter : isAlphabetic '<' ≠ true := by decide +kernel
  exact refused_hash here nofun nofun nofun fun letter => absurd letter no_letter

theorem refused_tag {c : Char} (disabled : settings.taggedLiterals = false)
    (alphabetic : isAlphabetic c = true) (here : cursor.At ('#' :: c :: rest) none) :
    Refused settings cursor := by
  obtain ⟨no_brace, no_underscore, no_quote⟩ := ne_of_isAlphabetic alphabetic
  apply refused_hash here no_brace no_underscore
  · exact fun quote => absurd quote no_quote
  · exact fun _ => disabled

theorem refused_macro {c : Char} {kind : WrapperKind} (here : cursor.At (c :: rest) none)
    (lead : c ∈ leads) (found : macroKind? c = some kind)
    (disabled : settings.readerMacros = false) :
    Refused settings cursor := by
  obtain ⟨position, inside, begun, -⟩ := read_lead settings here lead
  refine ⟨⟨.unexpectedChar c, position⟩, inside, ?_⟩
  rw [begun, beginning_macro found, disabled]
  rfl

theorem refused_wrapper {kind : WrapperKind} (disabled : settings.readerMacros = false)
    (here : cursor.At (kind.sigil.toList ++ rest) none) :
    Refused settings cursor := by
  cases kind with
  | varQuote =>
    change cursor.At ('#' :: '\'' :: rest) none at here
    have no_letter : isAlphabetic '\'' ≠ true := by decide +kernel
    exact refused_hash here nofun nofun (fun _ => disabled)
      fun letter => absurd letter no_letter
  | unquoteSplice =>
    change cursor.At ('~' :: '@' :: rest) none at here
    exact refused_macro here (by decide) rfl disabled
  | _ => exact refused_macro here (by decide) rfl disabled

end Lexeme

/-! ## Runs that come to a fault -/

namespace Reader

/-- The run comes to a fault. -/
def Fails (settings : Settings) (stack : List Frame) (cursor : Cursor) : Prop :=
  ∃ fault after, run settings stack cursor = (.error fault, after)

variable {stack : List Frame} {depth : Nat}

theorem Fails.of_refused (refused : Lexeme.Refused settings cursor) :
    Fails settings stack cursor := by
  rcases refused with ⟨fault, after, scanned⟩
  refine ⟨fault, after, ?_⟩
  rw [run_eq, scanned]

theorem Fails.of_run_eq {stack' : List Frame} {cursor' : Cursor}
    (failed : Fails settings stack' cursor')
    (ran : run settings stack cursor = run settings stack' cursor') :
    Fails settings stack cursor := by
  rwa [Fails, ran]

/-- A construct is opened unless too many are open. -/
theorem opened_or_fails {construct : Construct} {start : Position} {after : Cursor}
    (room : stack.length + depth = settings.maxDepth)
    (scanned : Lexeme.read settings cursor = (.ok (.opening construct start), after)) :
    (∃ less, depth = less + 1 ∧
      run settings stack cursor = run settings (⟨construct, start, []⟩ :: stack) after) ∨
    Fails settings stack cursor := by
  cases depth with
  | zero =>
    have deep : ¬ stack.length < settings.maxDepth := by omega
    refine Or.inr ⟨⟨.tooDeep, start⟩, after, ?_⟩
    rw [run_of_read scanned, advance, if_neg deep]
    rfl
  | succ less =>
    have shallow : stack.length < settings.maxDepth := by omega
    refine Or.inl ⟨less, rfl, ?_⟩
    rw [run_of_read scanned, advance, if_pos shallow]
    rfl

/-- A space may stand before the next lexeme. -/
theorem run_gap {gap : List Char} (blank : gap = [] ∨ gap = [' '])
    (here : cursor.At (gap ++ rest) none) :
    ∃ after, after.At rest none ∧ run settings stack cursor = run settings stack after := by
  rcases blank with rfl | rfl
  · exact ⟨cursor, here, rfl⟩
  · obtain ⟨after, there, same⟩ := Lexeme.read_blank here (.char (isBlank_space settings))
    refine ⟨after, there, ?_⟩
    rw [run_eq, run_eq, same]

end Reader

/-! ## The run over the text of a value -/

namespace Value

variable {stack : List Frame} {depth : Nat}

/-- Where the text of the value stands, before anything that ends a token, the value is readable
with the room that is left for constructs, or the run comes to a fault. -/
def Resolves (settings : Settings) (value : Value) : Prop :=
  ∀ {stack : List Frame} {depth : Nat} {cursor : Cursor} {rest : List Char},
    stack.length + depth = settings.maxDepth → Ends settings rest →
    cursor.At (value.written ++ rest) none →
    value.Readable settings depth ∨ Fails settings stack cursor

theorem resolves_report {value : Value} {text : List Char}
    (front : value.written = '#' :: '<' :: text) : Resolves settings value := by
  intro stack depth cursor rest _ _ here
  rw [front] at here
  exact Or.inr (.of_refused (Lexeme.refused_report settings here))

/-- The values of a collection are readable, or the run comes to a fault at one of them: it goes on
from one to the next only over what is readable. -/
theorem resolves_spaced {values : List Value} (each : ∀ value ∈ values, Resolves settings value)
    (collects : Collects stack) (room : stack.length + depth = settings.maxDepth)
    (ends : Ends settings rest) (here : cursor.At (spaced (values.map written) ++ rest) none) :
    (∀ value ∈ values, value.Readable settings depth) ∨ Fails settings stack cursor := by
  induction values generalizing stack cursor with
  | nil => exact Or.inl (List.forall_mem_nil _)
  | cons value values ih =>
    obtain ⟨first, others⟩ := List.forall_mem_cons.1 each
    cases values with
    | nil =>
      rcases first room ends here with readable | failed
      · exact Or.inl (List.forall_mem_singleton.2 readable)
      · exact Or.inr failed
    | cons next values =>
      -- A readable value has a form, and over a form the run is known.
      simp only [List.map_cons, spaced, List.append_assoc, List.cons_append] at here
      have separated := Ends.of_blank (isBlank_space settings)
        (spaced ((next :: values).map written) ++ rest)
      rcases first room separated here with readable | failed
      · obtain ⟨after, at_gap, ran⟩ :=
          (readable.prints _ separated).run_eq (reads_at settings) room here
        have at_gap : after.At ([' '] ++ _) none := at_gap
        obtain ⟨before, at_next, passed⟩ := run_gap (Or.inr rfl) at_gap
        rw [collects.deliver, resume, passed] at ran
        have room' : (take [value.toNode] stack).length + depth = settings.maxDepth := by
          rw [length_take, room]
        rcases ih others (collects.take [value.toNode]) room' at_next with all | failed
        · exact Or.inl (List.forall_mem_cons.2 ⟨readable, all⟩)
        · exact Or.inr (failed.of_run_eq ran)
      · exact Or.inr failed

theorem resolves_bracket {bracket : Bracket} {values : List Value}
    (each : ∀ value ∈ values, Resolves settings value)
    (room : stack.length + depth = settings.maxDepth)
    (here : cursor.At (bracket.opening.toList ++
      (spaced (values.map written) ++ bracket.closing :: rest)) none) :
    (∃ less, depth = less + 1 ∧ ∀ value ∈ values, value.Readable settings less) ∨
      Fails settings stack cursor := by
  obtain ⟨start, inside, scanned, at_inside⟩ := Lexeme.read_collection settings bracket here
  rcases opened_or_fails room scanned with ⟨less, rfl, opened⟩ | failed
  · have closes : isDelimiter bracket.closing = true := by
      rcases bracket with (_ | _ | _) | _ <;> decide
    have collects : Collects (⟨.collection bracket, start, []⟩ :: stack) :=
      ⟨bracket, start, [], stack, rfl⟩
    rcases resolves_spaced each collects (room_opened _ start room) (Ends.of_delimiter closes rest)
      at_inside with all | failed
    · exact Or.inl ⟨less, rfl, all⟩
    · exact Or.inr (failed.of_run_eq opened)
  · exact Or.inr failed

theorem resolves_sequence {kind : SequenceKind} {items : List Value}
    (each : ∀ item ∈ items, Resolves settings item) : Resolves settings (.sequence kind items) := by
  intro stack depth cursor rest room _ here
  have text : (sequence kind items).written ++ rest = (Bracket.sequence kind).opening.toList ++
      (spaced (items.map written) ++ (Bracket.sequence kind).closing :: rest) := by
    simp only [written_sequence, writtenItems_eq, List.append_assoc, List.cons_append,
      List.nil_append, Bracket.opening, Bracket.closing]
  rw [text] at here
  rcases resolves_bracket each room here with ⟨less, rfl, all⟩ | failed
  · exact Or.inl (.sequence all)
  · exact Or.inr failed

theorem resolves_dictionary {entries : List (Value × Value)}
    (keys : ∀ entry ∈ entries, Resolves settings entry.1)
    (values : ∀ entry ∈ entries, Resolves settings entry.2) :
    Resolves settings (.dictionary entries) := by
  intro stack depth cursor rest room _ here
  have each : ∀ value ∈ inTurn entries, Resolves settings value :=
    forall_mem_inTurn.2 fun entry among => ⟨keys entry among, values entry among⟩
  have text : (dictionary entries).written ++ rest = Bracket.map.opening.toList ++
      (spaced ((inTurn entries).map written) ++ Bracket.map.closing :: rest) := by
    simp only [written_dictionary, writtenEntries_eq, List.append_assoc, List.cons_append,
      List.nil_append]
    rfl
  rw [text] at here
  rcases resolves_bracket each room here with ⟨less, rfl, all⟩ | failed
  · have readable := forall_mem_inTurn.1 all
    exact Or.inl (.dictionary (fun entry among => (readable entry among).1)
      fun entry among => (readable entry among).2)
  · exact Or.inr failed

/-- A construct that takes one form is opened, and its content is come to. -/
theorem resolves_single {construct : Construct} {start : Position} {inside : Cursor}
    {content : Value} {gap : List Char} (resolves : Resolves settings content)
    (room : stack.length + depth = settings.maxDepth) (ends : Ends settings rest)
    (scanned : Lexeme.read settings cursor = (.ok (.opening construct start), inside))
    (blank : gap = [] ∨ gap = [' ']) (at_gap : inside.At (gap ++ (content.written ++ rest)) none) :
    (∃ less, depth = less + 1 ∧ content.Readable settings less) ∨ Fails settings stack cursor := by
  rcases opened_or_fails room scanned with ⟨less, rfl, opened⟩ | failed
  · obtain ⟨before, at_content, passed⟩ := run_gap blank at_gap
    rcases resolves (room_opened construct start room) ends at_content with readable | failed
    · exact Or.inl ⟨less, rfl, readable⟩
    · exact Or.inr (failed.of_run_eq (opened.trans passed))
  · exact Or.inr failed

theorem resolves_tagged {tag : String} {c : Char} {run : List Char} {content : Value}
    (spelled : tag.toList = c :: run) (alphabetic : isAlphabetic c = true)
    (inside : ∀ d ∈ tag.toList, settings.isTokenChar d = true)
    (resolves : Resolves settings content) : Resolves settings (.tagged tag content) := by
  intro stack depth cursor rest room ends here
  have text : (tagged tag content).written ++ rest =
      '#' :: c :: (run ++ ([' '] ++ (content.written ++ rest))) := by
    simp only [written_tagged, spelled, List.append_assoc, List.cons_append, List.nil_append]
  rw [text] at here
  cases enabled : settings.taggedLiterals with
  | false => exact Or.inr (.of_refused (Lexeme.refused_tag enabled alphabetic here))
  | true =>
    obtain ⟨-, others⟩ := List.forall_mem_cons.1 (spelled ▸ inside)
    obtain ⟨start, after, scanned, there⟩ := Lexeme.read_tag enabled alphabetic others
      (Ends.of_blank (isBlank_space settings) (content.written ++ rest)) here
    rcases resolves_single resolves room ends scanned (Or.inr rfl) there with
      ⟨less, rfl, readable⟩ | failed
    · exact Or.inl (.tagged enabled spelled alphabetic inside readable)
    · exact Or.inr failed

theorem resolves_wrapped {kind : WrapperKind} {content : Value} (legible : content.Legible settings)
    (resolves : Resolves settings content) : Resolves settings (.wrapped kind content) := by
  intro stack depth cursor rest room ends here
  obtain ⟨gap, blank, lead, no_splice⟩ := legible.lead_eq kind rest
  rw [written_wrapped, lead, List.append_assoc, List.append_assoc] at here
  cases enabled : settings.readerMacros with
  | false => exact Or.inr (.of_refused (Lexeme.refused_wrapper enabled here))
  | true =>
    obtain ⟨start, after, scanned, there⟩ := Lexeme.read_wrapper enabled no_splice here
    rcases resolves_single resolves room ends scanned blank there with
      ⟨less, rfl, readable⟩ | failed
    · exact Or.inl (.wrapped enabled readable)
    · exact Or.inr failed

theorem Legible.resolves {value : Value} (legible : value.Legible settings) :
    Resolves settings value := by
  induction legible with
  | endOfInput => exact resolves_report rfl
  | error message => exact resolves_report (written_error message)
  | atom text => exact fun _ _ _ => Or.inl (.atom text)
  | sequence _ ih => exact resolves_sequence ih
  | dictionary _ _ keys values => exact resolves_dictionary keys values
  | tagged spelled alphabetic inside _ ih => exact resolves_tagged spelled alphabetic inside ih
  | wrapped legible ih => exact resolves_wrapped legible ih

/-- The text of a value that is legible but not readable is refused. -/
theorem Legible.refuses {value : Value} (legible : value.Legible settings)
    (unreadable : ¬ value.Readable settings settings.maxDepth) :
    Refuses settings value.written := by
  intro cursor here
  rw [← List.append_nil value.written] at here
  have ends : Ends settings [] := fun _ none_left => nomatch none_left
  exact (legible.resolves (room_nil settings) ends here).resolve_left unreadable

theorem Readable.not_sentinel {value : Value} (readable : value.Readable settings depth) :
    value.isSentinel = false := by
  cases readable <;> rfl

end Value

/-! ## Texts with a report in them -/

/-- The text of a value that holds a report at any depth, with whatever message, is read as the
error alone, whatever the settings are and however the text arrives. -/
theorem ofDeliveries_of_sentinel {value part : Value} {deliveries : List Delivery}
    (legible : value.Legible settings) (inside : part.Part value)
    (sentinel : part.isSentinel = true)
    (bring : Delivery.Bring deliveries (Utf8.encode value.written) none) :
    Document.ofDeliveries settings deliveries = [.error "error encountered while parsing"] := by
  have unreadable : ¬ value.Readable settings settings.maxDepth := by
    intro readable
    obtain ⟨depth, part_readable⟩ := readable.part inside
    have data := part_readable.not_sentinel
    rw [sentinel] at data
    cases data
  rw [Document.ofDeliveries_of_bring bring,
    Document.ofBytes_encode (.refused (legible.refuses unreadable)),
    if_pos (List.mem_singleton.2 rfl)]
  rfl

/-- An error is the key of an entry, behind a dereference under a tilde; its message would close
the map and the string before it. -/
theorem ofDeliveries_of_sentinel_key :
    let report := Value.error "\x7d \"\n#_"
    let value := Value.dictionary
      [(.wrapped .unquote (.wrapped .deref report), .atom .string "\\\"")]
    value.written = "\x7b~ @#<error \"\x7d \\\"\\n#_\"> \"\\\"\"\x7d".toList ∧
    Document.ofDeliveries .clojure [.bytes (Utf8.encode value.written)] =
      [.error "error encountered while parsing"] := by
  intro report value
  have legible : value.Legible .clojure := by
    refine .dictionary (List.forall_mem_singleton.2 (.wrapped (.wrapped (.error _))))
      (List.forall_mem_singleton.2 (.atom (.string ?_)))
    exact .escape (by decide) .nil
  have inside : report.Part value := .key List.mem_cons_self (.wrapped (.wrapped .whole))
  refine ⟨by decide +kernel, ?_⟩
  exact ofDeliveries_of_sentinel legible inside rfl (.single _)

end Edn
