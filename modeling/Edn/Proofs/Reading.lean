import Edn.Proofs.Lexing
import Edn.Proofs.NodeOfValue
import Edn.Reader

/-!
# The reader and the grammar

The reader is a machine over a stack of open constructs, and the grammar knows no stack. Two facts
tie them together, both about a run that starts with any stack. Where the grammar has a form, the
run goes on as if the node of its value had just been delivered (`Form.run_eq`); this needs no more
of the cursor than that lexemes are read from it (`Reads`). And whatever text
is before the cursor, the run begins with a form, with a closing character, with the end or with a
failure (`first_item`); a form that is found this way is one of the grammar.
-/

namespace Edn

namespace Reader

open Lexeme

variable {settings : Settings} {stack : List Frame} {cursor after : Cursor}

/-- How a run goes on after a step. -/
def resume (settings : Settings) (progress : Progress) (after : Cursor) :
    Except Fault (Option Node) × Cursor :=
  match progress with
  | .done outcome => (outcome, after)
  | .going stack => run settings stack after

theorem run_eq (settings : Settings) (stack : List Frame) (cursor : Cursor) :
    run settings stack cursor =
      match read settings cursor with
      | (.error fault, after) => (.error fault, after)
      | (.ok lexeme, after) => resume settings (advance settings.maxDepth stack lexeme) after := by
  rw [run]
  split <;> simp only [*]
  split <;> simp only [*, resume]

theorem run_of_read {lexeme : Lexeme} (scanned : read settings cursor = (.ok lexeme, after)) :
    run settings stack cursor =
      resume settings (advance settings.maxDepth stack lexeme) after := by
  rw [run_eq, scanned]

/-- What is handed out is what the run comes to. -/
theorem readNode_of_run {outcome : Except Fault (Option Node)}
    (live : cursor.state.failed = false) (ran : run settings [] cursor = (outcome, after)) :
    readNode settings cursor = match outcome with
      | .ok (some node) => (node, after)
      | .ok none => (.endOfInput, after)
      | .error fault =>
        (.error fault, { after with state := { after.state with failed := true } }) := by
  rcases outcome with fault | _ | node
  all_goals simp only [readNode, live, Bool.false_eq_true, if_false, ran]

/-- A form that nothing surrounds any more is made of one that was complete by wrapping and tagging
it, so it has whatever these keep. -/
theorem deliver_done {Q : Node → Prop} {node : Node} {outcome : Except Fault (Option Node)}
    (wrapped : ∀ kind content, Q content → Q (.wrapped kind content))
    (tagged : ∀ tag content, Q content → Q (.tagged tag content)) (held : Q node)
    (delivered : deliver node stack = .done outcome) :
    ∃ whole, outcome = .ok (some whole) ∧ Q whole := by
  induction stack generalizing node with
  | nil =>
    cases delivered
    exact ⟨node, rfl, held⟩
  | cons frame outer ih =>
    unfold deliver at delivered
    split at delivered
    · cases delivered
    · exact ih (wrapped _ node held) delivered
    · exact ih (tagged _ node held) delivered
    · cases delivered

/-- Forms that a collection takes. -/
def take (nodes : List Node) : List Frame → List Frame
  | [] => []
  | frame :: outer => { frame with forms := nodes.reverse ++ frame.forms } :: outer

/-- The innermost construct takes any number of forms. -/
def Collects (stack : List Frame) : Prop :=
  ∃ bracket start forms outer, stack = ⟨.collection bracket, start, forms⟩ :: outer

theorem take_nil (stack : List Frame) : take [] stack = stack := by
  cases stack <;> rfl

theorem length_take (nodes : List Node) (stack : List Frame) :
    (take nodes stack).length = stack.length := by
  cases stack <;> rfl

theorem Collects.take {stack : List Frame} (collects : Collects stack) (nodes : List Node) :
    Collects (take nodes stack) := by
  obtain ⟨bracket, start, forms, outer, rfl⟩ := collects
  exact ⟨bracket, start, _, outer, rfl⟩

theorem Collects.deliver {stack : List Frame} (collects : Collects stack) (node : Node) :
    deliver node stack = .going (Reader.take [node] stack) := by
  obtain ⟨bracket, start, forms, outer, rfl⟩ := collects
  rfl

theorem Collects.advance_ended (collects : Collects stack) (maxDepth : Nat) :
    ∃ fault, advance maxDepth stack .ended = .done (.error fault) := by
  obtain ⟨bracket, start, forms, outer, rfl⟩ := collects
  exact ⟨_, rfl⟩

theorem take_take (before after : List Node) (stack : List Frame) :
    take after (take before stack) = take (before ++ after) stack := by
  cases stack with
  | nil => rfl
  | cons frame outer => simp [take]

theorem advance_closing_sequence {kind : SequenceKind} {start position : Position}
    {nodes : List Node} (maxDepth : Nat) :
    advance maxDepth (take nodes (⟨.collection (.sequence kind), start, []⟩ :: stack))
      (.closing kind.closing position) = deliver (.sequence kind nodes) stack := by
  simp [take, advance, Frame.close, Bracket.closing]

theorem advance_closing_map {start position : Position} {nodes : List Node}
    {entries : List (Node × Node)} (maxDepth : Nat) (paired : pairs? nodes = some entries) :
    advance maxDepth (take nodes (⟨.collection .map, start, []⟩ :: stack))
      (.closing '}' position) = deliver (.dictionary entries) stack := by
  simp [take, advance, Frame.close, Bracket.closing, paired]

end Reader

namespace Grammar

open Reader Value

variable {settings : Settings} {ahead : Cursor → List Char → Prop}

theorem room_nil (settings : Settings) :
    ([] : List Frame).length + settings.maxDepth = settings.maxDepth :=
  Nat.zero_add _

theorem room_opened {stack : List Frame} {depth : Nat} (construct : Construct) (start : Position)
    (room : stack.length + (depth + 1) = settings.maxDepth) :
    ((⟨construct, start, []⟩ : Frame) :: stack).length + depth = settings.maxDepth := by
  rw [List.length_cons]
  omega

/-- What it means that a cursor has a text before it, as far as the reader goes: if a lexeme stands
at the front of the text, then it is read, and the cursor has the rest before it. -/
structure Reads (settings : Settings) (ahead : Cursor → List Char → Prop) : Prop where
  opens {cursor : Cursor} {text rest : List Char} {construct : Construct} :
    ahead cursor text → Opens settings text construct rest → ∃ start after,
      Lexeme.read settings cursor = (.ok (.opening construct start), after) ∧ ahead after rest
  closing {cursor : Cursor} {rest : List Char} {c : Char} :
    ahead cursor (c :: rest) → c ∈ [')', ']', '}'] → ∃ position after,
      Lexeme.read settings cursor = (.ok (.closing c position), after) ∧ ahead after rest
  atom {cursor : Cursor} {text body rest : List Char} {kind : AtomKind} :
    ahead cursor text → Atom settings text kind body rest → ∃ after,
      Lexeme.read settings cursor = (.ok (.atom kind body), after) ∧ ahead after rest
  blank {cursor : Cursor} {text rest : List Char} :
    ahead cursor text → Blank settings text rest → ∃ after, ahead after rest ∧
      Lexeme.read settings cursor = Lexeme.read settings after

theorem reads_at (settings : Settings) : Reads settings fun cursor text => cursor.At text none where
  opens := Lexeme.read_opens
  closing := Lexeme.read_closing settings
  atom := Lexeme.read_atom
  blank := Lexeme.read_blank

theorem run_opens (reads : Reads settings ahead) {stack : List Frame} {cursor : Cursor}
    {depth : Nat} {text rest : List Char} {construct : Construct}
    (room : stack.length + (depth + 1) = settings.maxDepth) (here : ahead cursor text)
    (opens : Opens settings text construct rest) :
    ∃ start after, ahead after rest ∧
      run settings stack cursor = run settings (⟨construct, start, []⟩ :: stack) after := by
  obtain ⟨start, after, scanned, there⟩ := reads.opens here opens
  refine ⟨start, after, there, ?_⟩
  have shallow : stack.length < settings.maxDepth := by omega
  rw [run_of_read scanned, advance, if_pos shallow]
  rfl

theorem run_closing (reads : Reads settings ahead) {stack : List Frame} {cursor : Cursor}
    {rest : List Char} {c : Char} (here : ahead cursor (c :: rest))
    (closer : c ∈ [')', ']', '}']) :
    ∃ position after, ahead after rest ∧ run settings stack cursor =
      resume settings (advance settings.maxDepth stack (.closing c position)) after := by
  obtain ⟨position, after, scanned, there⟩ := reads.closing here closer
  exact ⟨position, after, there, run_of_read scanned⟩

/-- A construct that takes one form is opened, gaps are passed, and the form is delivered to it. -/
theorem run_single (reads : Reads settings ahead) {stack : List Frame} {cursor : Cursor}
    {depth : Nat} {text inside form rest : List Char} {construct : Construct} {value : Value}
    (room : stack.length + (depth + 1) = settings.maxDepth) (here : ahead cursor text)
    (opens : Opens settings text construct inside)
    (passes : ∀ {stack : List Frame} {cursor : Cursor}, stack.length + depth = settings.maxDepth →
      ahead cursor inside → ∃ after, ahead after form ∧
        run settings stack cursor = run settings (take (toNodes []) stack) after)
    (delivers : ∀ {stack : List Frame} {cursor : Cursor},
      stack.length + depth = settings.maxDepth → ahead cursor form → ∃ after, ahead after rest ∧
        run settings stack cursor = resume settings (deliver value.toNode stack) after) :
    ∃ start after, ahead after rest ∧ run settings stack cursor =
      resume settings (deliver value.toNode (⟨construct, start, []⟩ :: stack)) after := by
  obtain ⟨start, first, at_inside, opened⟩ := run_opens reads room here opens
  have deeper := room_opened construct start room
  obtain ⟨second, at_form, passed⟩ := passes deeper at_inside
  rw [toNodes, take_nil] at passed
  obtain ⟨after, there, delivered⟩ := delivers deeper at_form
  refine ⟨start, after, there, ?_⟩
  rw [opened, passed, delivered]

/-! ## What the grammar derives is read -/

mutual

/-- Where a form stands, a run goes on as if its node had been delivered. -/
theorem Form.run_eq {depth : Nat} {text rest : List Char} {value : Value}
    (form : Form settings depth text value rest) (reads : Reads settings ahead)
    {stack : List Frame} {cursor : Cursor} (room : stack.length + depth = settings.maxDepth)
    (here : ahead cursor text) : ∃ after, ahead after rest ∧
      run settings stack cursor = resume settings (deliver value.toNode stack) after := by
  match form with
  | .atom found =>
    obtain ⟨after, scanned, there⟩ := reads.atom here found
    exact ⟨after, there, run_of_read scanned⟩
  | @Form.sequence _ depth _ _ _ kind items opens inside =>
    obtain ⟨start, first, at_inside, opened⟩ := run_opens reads room here opens
    have deeper := room_opened (.collection (.sequence kind)) start room
    obtain ⟨last, at_closing, taken⟩ :=
      inside.run_eq reads (Or.inr ⟨_, start, [], stack, rfl⟩) deeper at_inside
    have closer : kind.closing ∈ [')', ']', '}'] := by cases kind <;> decide
    obtain ⟨position, after, there, closed⟩ := run_closing reads at_closing closer
    refine ⟨after, there, ?_⟩
    rw [opened, taken, closed, advance_closing_sequence]
    rfl
  | @Form.dictionary _ depth _ _ _ items entries opens inside paired =>
    obtain ⟨start, first, at_inside, opened⟩ := run_opens reads room here opens
    have deeper := room_opened (.collection .map) start room
    obtain ⟨last, at_closing, taken⟩ :=
      inside.run_eq reads (Or.inr ⟨_, start, [], stack, rfl⟩) deeper at_inside
    obtain ⟨position, after, there, closed⟩ := run_closing reads at_closing (by decide)
    refine ⟨after, there, ?_⟩
    have pairs : pairs? (toNodes items) = some (toEntries entries) := by
      rw [pairs?_toNodes, paired, Option.map_some]
    rw [opened, taken, closed, advance_closing_map _ pairs]
    rfl
  | .wrapped opens gaps found =>
    obtain ⟨start, after, there, ran⟩ := run_single reads room here opens
      (fun room here => gaps.run_eq reads (Or.inl rfl) room here)
      (fun room here => found.run_eq reads room here)
    exact ⟨after, there, ran⟩
  | .tagged opens gaps found =>
    obtain ⟨start, after, there, ran⟩ := run_single reads room here opens
      (fun room here => gaps.run_eq reads (Or.inl rfl) room here)
      (fun room here => found.run_eq reads room here)
    exact ⟨after, there, ran⟩

/-- A gap changes nothing. -/
theorem Gap.run_eq {depth : Nat} {text rest : List Char} (gap : Gap settings depth text rest)
    (reads : Reads settings ahead) {stack : List Frame} {cursor : Cursor}
    (room : stack.length + depth = settings.maxDepth) (here : ahead cursor text) :
    ∃ after, ahead after rest ∧ run settings stack cursor = run settings stack after := by
  match gap with
  | .blank blank =>
    obtain ⟨after, there, same⟩ := reads.blank here blank
    refine ⟨after, there, ?_⟩
    rw [Reader.run_eq, Reader.run_eq, same]
  | .discard opens gaps dropped =>
    obtain ⟨start, after, there, ran⟩ := run_single reads room here opens
      (fun room here => gaps.run_eq reads (Or.inl rfl) room here)
      (fun room here => dropped.run_eq reads room here)
    exact ⟨after, there, ran⟩

theorem Forms.run_eq {depth : Nat} {text rest : List Char} {values : List Value}
    (forms : Forms settings depth text values rest) (reads : Reads settings ahead)
    {stack : List Frame} {cursor : Cursor} (collects : values = [] ∨ Collects stack)
    (room : stack.length + depth = settings.maxDepth) (here : ahead cursor text) :
    ∃ after, ahead after rest ∧
      run settings stack cursor = run settings (take (toNodes values) stack) after := by
  match forms with
  | .nil =>
    refine ⟨cursor, here, ?_⟩
    rw [toNodes, take_nil]
  | .gap parted forms =>
    obtain ⟨first, at_first, passed⟩ := parted.run_eq reads room here
    obtain ⟨after, there, taken⟩ := forms.run_eq reads collects room at_first
    exact ⟨after, there, passed.trans taken⟩
  | @Forms.form _ _ _ _ _ value values found forms =>
    -- A construct that is no collection would be complete after one form.
    have open_ended : Collects stack := collects.resolve_left (List.cons_ne_nil _ _)
    obtain ⟨first, at_first, delivered⟩ := found.run_eq reads room here
    obtain ⟨after, there, taken⟩ := forms.run_eq reads (Or.inr (open_ended.take [value.toNode]))
      (by rw [length_take, room]) at_first
    refine ⟨after, there, ?_⟩
    rw [delivered, open_ended.deliver, resume, taken, take_take]
    rfl

end

theorem Next.run_eq {depth : Nat} {text rest : List Char} {value : Value}
    (next : Next settings depth text value rest) (reads : Reads settings ahead)
    {stack : List Frame} {cursor : Cursor} (room : stack.length + depth = settings.maxDepth)
    (here : ahead cursor text) : ∃ after, ahead after rest ∧
      run settings stack cursor = resume settings (deliver value.toNode stack) after := by
  obtain ⟨form, gaps, found⟩ := next
  obtain ⟨first, at_form, passed⟩ := gaps.run_eq reads (Or.inl rfl) room here
  rw [toNodes, take_nil] at passed
  obtain ⟨after, there, delivered⟩ := found.run_eq reads room at_form
  exact ⟨after, there, passed.trans delivered⟩

/-! ## What is read is in the grammar -/

section

variable {failure : Option StreamError} {depth : Nat} {stack : List Frame}
  {cursor after : Cursor} {text : List Char}

/-- How a run begins: with a form of the grammar, which is delivered; with a closing character,
which the innermost construct has to take; with the end; or not at all. -/
inductive Item (settings : Settings) (failure : Option StreamError) (depth : Nat)
    (stack : List Frame) (cursor : Cursor) (text : List Char) : Prop
  | form {value : Value} {rest : List Char} {after : Cursor} :
    Next settings depth text value rest → after.At rest failure →
    run settings stack cursor = resume settings (deliver value.toNode stack) after →
    Item settings failure depth stack cursor text
  | closing {c : Char} {position : Position} {rest : List Char} {after : Cursor} :
    Forms settings depth text [] (c :: rest) → after.At rest failure →
    run settings stack cursor =
      resume settings (advance settings.maxDepth stack (.closing c position)) after →
    Item settings failure depth stack cursor text
  | ended {after : Cursor} :
    Forms settings depth text [] [] → failure = none → after.At [] none →
    run settings stack cursor = resume settings (advance settings.maxDepth stack .ended) after →
    Item settings failure depth stack cursor text
  | failed {fault : Fault} {after : Cursor} : run settings stack cursor = (.error fault, after) →
    Item settings failure depth stack cursor text

/-- What a collection comes to: it takes forms of the grammar up to some closing character, or
there is a failure. -/
inductive Content (settings : Settings) (failure : Option StreamError) (depth : Nat)
    (stack : List Frame) (cursor : Cursor) (text : List Char) : Prop
  | closing {values : List Value} {c : Char} {position : Position} {rest : List Char}
      {after : Cursor} :
    Forms settings depth text values (c :: rest) → after.At rest failure →
    run settings stack cursor = resume settings
      (advance settings.maxDepth (take (toNodes values) stack) (.closing c position)) after →
    Content settings failure depth stack cursor text
  | failed {fault : Fault} {after : Cursor} : run settings stack cursor = (.error fault, after) →
    Content settings failure depth stack cursor text

theorem Item.of_gaps {front : List Char} {after : Cursor}
    (gaps : Forms settings depth text [] front)
    (same : run settings stack cursor = run settings stack after)
    (item : Item settings failure depth stack after front) :
    Item settings failure depth stack cursor text := by
  cases item with
  | form next there ran =>
    obtain ⟨form, between, found⟩ := next
    exact .form ⟨form, gaps.append between, found⟩ there (same.trans ran)
  | closing between there ran => exact .closing (gaps.append between) there (same.trans ran)
  | ended between quiet there ran => exact .ended (gaps.append between) quiet there (same.trans ran)
  | failed ran => exact .failed (same.trans ran)

/-- A collection takes one form after another, if every run over a shorter text is known to begin
with an item. -/
theorem content_of_items {bound : Nat}
    (item : ∀ {stack cursor text}, text.length < bound → stack.length + depth = settings.maxDepth →
      cursor.At text failure → Item settings failure depth stack cursor text)
    (collects : Collects stack) (short : text.length < bound)
    (room : stack.length + depth = settings.maxDepth) (here : cursor.At text failure) :
    Content settings failure depth stack cursor text := by
  induction size : text.length using Nat.strongRecOn generalizing stack cursor text with
  | ind size ih =>
    cases item short room here with
    | @form value rest after next there ran =>
      have shorter := next.length_lt
      rw [collects.deliver, resume] at ran
      have content := ih rest.length (by omega) (collects.take [value.toNode]) (by omega)
        (by rw [length_take, room]) there rfl
      cases content with
      | @closing values _ _ _ _ forms there ran' =>
        rw [take_take] at ran'
        have all : Forms settings depth text (value :: values) _ := next.forms forms
        exact .closing all there (ran.trans ran')
      | failed ran' => exact .failed (ran.trans ran')
    | @closing c position rest after gaps there ran =>
      have passed : run settings stack cursor = resume settings
          (advance settings.maxDepth (take (toNodes []) stack) (.closing c position)) after := by
        rw [toNodes, take_nil, ran]
      exact .closing gaps there passed
    | ended _ _ _ ran =>
      obtain ⟨fault, stopped⟩ := collects.advance_ended settings.maxDepth
      rw [stopped] at ran
      exact .failed ran
    | failed ran => exact .failed ran

/-- Whether a collection comes to a closing character or not, its run has an item. -/
theorem Content.item {bracket : Bracket} {start : Position} {front inside : List Char}
    {after : Cursor} (gaps : Forms settings (depth + 1) text [] front)
    (opens : Opens settings front (.collection bracket) inside)
    (ran : run settings stack cursor =
      run settings (⟨.collection bracket, start, []⟩ :: stack) after)
    (content : Content settings failure depth (⟨.collection bracket, start, []⟩ :: stack) after
      inside) :
    Item settings failure (depth + 1) stack cursor text := by
  cases content with
  | failed ran' => exact .failed (ran.trans ran')
  | @closing values c position rest last forms there ran' =>
    replace ran := ran.trans ran'
    by_cases own : c = bracket.closing
    · subst own
      cases bracket with
      | sequence kind =>
        rw [show (Bracket.sequence kind).closing = kind.closing from rfl,
          advance_closing_sequence] at ran
        exact .form ⟨front, gaps, .sequence opens forms⟩ there ran
      | map =>
        cases paired : pairs? values with
        | some entries =>
          have pairs : pairs? (toNodes values) = some (toEntries entries) := by
            rw [pairs?_toNodes, paired, Option.map_some]
          rw [show Bracket.map.closing = '}' from rfl, advance_closing_map _ pairs] at ran
          exact .form ⟨front, gaps, .dictionary opens forms paired⟩ there ran
        | none =>
          have uneven : pairs? (toNodes values) = none := by
            rw [pairs?_toNodes, paired, Option.map_none]
          simp only [take, advance, Frame.close, if_true, List.append_nil, List.reverse_reverse,
            uneven] at ran
          exact .failed ran
    · simp only [take, advance, Frame.close, own, if_false] at ran
      exact .failed ran

/-- A construct that is no collection takes a form, or there is a failure. -/
theorem Item.form_or_failed {construct : Construct} {start : Position}
    (item : Item settings failure depth (⟨construct, start, []⟩ :: stack) cursor text)
    (single : ∀ bracket, construct ≠ .collection bracket) :
    (∃ value rest after, Next settings depth text value rest ∧ after.At rest failure ∧
      run settings (⟨construct, start, []⟩ :: stack) cursor =
        resume settings (deliver value.toNode (⟨construct, start, []⟩ :: stack)) after) ∨
    ∃ fault after,
      run settings (⟨construct, start, []⟩ :: stack) cursor = (.error fault, after) := by
  cases item with
  | form next there ran => exact Or.inl ⟨_, _, _, next, there, ran⟩
  | closing _ _ ran =>
    right
    cases construct with
    | collection bracket => exact absurd rfl (single bracket)
    | wrapper _ => exact ⟨_, _, ran⟩
    | tag _ => exact ⟨_, _, ran⟩
    | discard => exact ⟨_, _, ran⟩
  | ended _ _ _ ran => exact Or.inr ⟨_, _, ran⟩
  | failed ran => exact Or.inr ⟨_, _, ran⟩

/-- A run that opens a construct that is no collection begins with an item. Behind a discard it is
the item that comes next. -/
theorem Item.single {construct : Construct} {start : Position} {front inside : List Char}
    (item : Item settings failure depth (⟨construct, start, []⟩ :: stack) after inside)
    (single : ∀ bracket, construct ≠ .collection bracket)
    (gaps : Forms settings (depth + 1) text [] front)
    (opens : Opens settings front construct inside)
    (ran : run settings stack cursor = run settings (⟨construct, start, []⟩ :: stack) after)
    (next : ∀ {later : Cursor} {rest : List Char}, rest.length < text.length →
      later.At rest failure → Item settings failure (depth + 1) stack later rest) :
    Item settings failure (depth + 1) stack cursor text := by
  rcases item.form_or_failed single with
    ⟨value, rest, last, ⟨form, between, found⟩, there, ran'⟩ | ⟨fault, last, ran'⟩
  · have passed := ran.trans ran'
    cases construct with
    | collection bracket => exact absurd rfl (single bracket)
    | wrapper kind => exact .form ⟨front, gaps, .wrapped opens between found⟩ there passed
    | tag tag => exact .form ⟨front, gaps, .tagged opens between found⟩ there passed
    | discard =>
      have dropped : Forms settings (depth + 1) text [] rest :=
        gaps.append (.gap (.discard opens between found) .nil)
      have shorter : rest.length < text.length := by
        have text_le := gaps.length_le
        have front_lt := opens.length_lt
        have inside_le := between.length_le
        have form_lt := found.length_lt
        omega
      exact (next shorter there).of_gaps dropped passed
  · exact .failed (ran.trans ran')

/-- A run over any text, and with any stack that leaves room, begins with an item. -/
theorem first_item (room : stack.length + depth = settings.maxDepth)
    (here : cursor.At text failure) : Item settings failure depth stack cursor text := by
  -- Not on `depth`: what follows a discard is read at the same depth, over a shorter text.
  induction size : text.length using Nat.strongRecOn generalizing depth stack cursor text with
  | ind _ ih =>
    subst size
    cases scanned : Lexeme.read settings cursor with
    | mk result after =>
      cases result with
      | error fault =>
        have ran : run settings stack cursor = (.error fault, after) := by
          rw [Reader.run_eq, scanned]
        exact .failed ran
      | ok lexeme =>
        have ran : run settings stack cursor =
            resume settings (advance settings.maxDepth stack lexeme) after := run_of_read scanned
        obtain ⟨front, rest, gaps, stands, there, ending⟩ :=
          Lexeme.read_sound depth here scanned
        cases lexeme with
        | atom kind body => exact .form ⟨front, gaps, .atom stands⟩ there ran
        | closing c position =>
          obtain ⟨rfl, -⟩ := stands
          exact .closing gaps there ran
        | ended =>
          obtain ⟨rfl, rfl⟩ := stands
          obtain rfl := ending rfl
          exact .ended gaps rfl there ran
        | opening construct start =>
          have opens : Opens settings front construct rest := stands
          by_cases shallow : stack.length < settings.maxDepth
          · obtain ⟨inner, rfl⟩ : ∃ inner, depth = inner + 1 := ⟨depth - 1, by omega⟩
            have shorter : rest.length < text.length := by
              have front_lt := opens.length_lt
              have text_le := gaps.length_le
              omega
            have deeper := room_opened construct start room
            rw [advance, if_pos shallow, resume] at ran
            cases construct with
            | collection bracket =>
              have content := content_of_items
                (fun short room here => ih _ short room here rfl) ⟨_, _, _, _, rfl⟩ shorter
                deeper there
              exact content.item gaps opens ran
            | wrapper _ | tag _ | discard =>
              have inside := ih _ shorter deeper there rfl
              apply inside.single nofun gaps opens ran
              intro later rest short there
              exact ih _ short room there rfl
          · rw [advance, if_neg shallow, resume] at ran
            exact .failed ran

end

end Grammar

end Edn
