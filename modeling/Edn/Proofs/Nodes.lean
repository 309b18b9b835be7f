import Edn.Proofs.Document
import Edn.Proofs.Enclosing

/-!
# One node after another

`Reader.node` is the node that is handed out when some others have been. Over any stream it is the
node of a form of the grammar, the end, or an error, and behind an error comes nothing but the end
(`Reader.node_cases`). A session asks for these nodes in the same order, whatever became of the ones
before (`Session.afterReads_resumed`).
-/

namespace Edn

open Grammar Value

theorem Grammar.Next.suffix {settings : Settings} {depth : Nat} {text rest : List Char}
    {value : Value} (next : Next settings depth text value rest) : rest <:+ text := by
  obtain ⟨form, gaps, found⟩ := next
  exact found.suffix.trans gaps.suffix

theorem Value.toNode_ne_endOfInput {value : Value} (data : value.isSentinel = false) :
    toNode value ≠ .endOfInput := by
  cases value with
  | endOfInput => cases data
  | error message => cases data
  | _ => exact nofun

theorem Value.toNode_ne_error {value : Value} {fault : Fault} (data : value.isSentinel = false) :
    toNode value ≠ .error fault := by
  cases value with
  | endOfInput => cases data
  | error message => cases data
  | _ => exact nofun

namespace Reader

/-- The cursor when some nodes have been handed out. -/
def afterNodes (settings : Settings) : (count : Nat) → Cursor → Cursor
  | 0, cursor => cursor
  | count + 1, cursor => afterNodes settings count (readNode settings cursor).2

/-- The node that is handed out when `index` others have been. -/
def node (settings : Settings) (cursor : Cursor) (index : Nat) : Node :=
  (readNode settings (afterNodes settings index cursor)).1

theorem afterNodes_succ (settings : Settings) (count : Nat) (cursor : Cursor) :
    afterNodes settings (count + 1) cursor =
      (readNode settings (afterNodes settings count cursor)).2 := by
  induction count generalizing cursor with
  | zero => rfl
  | succ count ih => exact ih (readNode settings cursor).2

variable {settings : Settings} {cursor after : Cursor} {text : List Char}
  {failure : Option StreamError} {index : Nat}

theorem node_succ {first : Node} (read : readNode settings cursor = (first, after)) :
    node settings cursor (index + 1) = node settings after index := by
  rw [node, afterNodes, read]
  rfl

/-- What is handed out before a text: the node of its first form, the end, or an error. -/
inductive Handed (settings : Settings) (failure : Option StreamError) (cursor : Cursor)
    (text : List Char) : Prop
  | form {value : Value} {rest : List Char} {after : Cursor} :
    Next settings settings.maxDepth text value rest → after.At rest failure →
    readNode settings cursor = (toNode value, after) → Handed settings failure cursor text
  | ended {after : Cursor} :
    failure = none → after.At [] none → readNode settings cursor = (.endOfInput, after) →
    Handed settings failure cursor text
  | failed {fault : Fault} {after : Cursor} :
    after.state.failed = true → readNode settings cursor = (.error fault, after) →
    Handed settings failure cursor text

theorem first_node (settings : Settings) (here : cursor.At text failure) :
    Handed settings failure cursor text := by
  cases first_item (room_nil settings) here with
  | form next there ran => exact .form next there (readNode_of_run here.live ran)
  | closing _ _ ran => exact .failed rfl (readNode_of_run here.live ran)
  | ended _ quiet there ran => exact .ended quiet there (readNode_of_run here.live ran)
  | failed ran => exact .failed rfl (readNode_of_run here.live ran)

/-- Behind an error comes nothing but the end. -/
theorem node_of_failed (failed : cursor.state.failed = true) (index : Nat) :
    node settings cursor index = .endOfInput := by
  have same : readNode settings cursor = (.endOfInput, cursor) := by rw [readNode, if_pos failed]
  induction index with
  | zero => rw [node, afterNodes, same]
  | succ index ih => rw [node_succ same, ih]

/-- Every node is the end, an error, or the node of a form that stands in the text. -/
theorem node_cases (settings : Settings) (here : cursor.At text failure) (index : Nat) :
    node settings cursor index = .endOfInput ∨
      (∃ fault, node settings cursor index = .error fault) ∨
      ∃ value front rest, front <:+ text ∧ Next settings settings.maxDepth front value rest ∧
        node settings cursor index = toNode value := by
  induction index generalizing cursor text failure with
  | zero =>
    cases first_node settings here with
    | @form value rest _ next _ read =>
      exact Or.inr (Or.inr ⟨value, text, rest, List.suffix_refl _, next, congrArg Prod.fst read⟩)
    | ended _ _ read => exact Or.inl (congrArg Prod.fst read)
    | failed _ read => exact Or.inr (Or.inl ⟨_, congrArg Prod.fst read⟩)
  | succ index ih =>
    cases first_node settings here with
    | form next there read =>
      rw [node_succ read]
      rcases ih there with ended | failed | ⟨value, front, rest, within, next', same⟩
      · exact Or.inl ended
      · exact Or.inr (Or.inl failed)
      · exact Or.inr (Or.inr ⟨value, front, rest, within.trans next.suffix, next', same⟩)
    | ended _ there read =>
      rw [node_succ read]
      rcases ih there with ended | failed | ⟨value, front, rest, within, next', same⟩
      · exact Or.inl ended
      · exact Or.inr (Or.inl failed)
      · exact Or.inr (Or.inr ⟨value, front, rest, within.trans text.nil_suffix, next', same⟩)
    | failed failed read => exact Or.inl ((node_succ read).trans (node_of_failed failed index))

/-- Behind `index` nodes that are those of data the fault is handed out. -/
structure FailsAt (settings : Settings) (cursor : Cursor) (index : Nat) (fault : Fault) : Prop where
  forms : ∀ k < index, ∃ value, value.isSentinel = false ∧ node settings cursor k = toNode value
  failed : node settings cursor index = .error fault

namespace FailsAt

variable {value : Value} {fault : Fault}

theorem cons (data : value.isSentinel = false)
    (read : readNode settings cursor = (toNode value, after))
    (fails : FailsAt settings after index fault) : FailsAt settings cursor (index + 1) fault := by
  refine ⟨fun k lt => ?_, (node_succ read).trans fails.failed⟩
  cases k with
  | zero => exact ⟨value, data, congrArg Prod.fst read⟩
  | succ k =>
    rw [node_succ read]
    exact fails.forms k (Nat.lt_of_succ_lt_succ lt)

/-- Unless the fault comes at once, a form stands in front. -/
theorem next (fails : FailsAt settings cursor (index + 1) fault) (here : cursor.At text failure) :
    ∃ value rest after, Next settings settings.maxDepth text value rest ∧ after.At rest failure ∧
      readNode settings cursor = (toNode value, after) ∧ FailsAt settings after index fault := by
  obtain ⟨value, data, first⟩ := fails.forms 0 (Nat.succ_pos index)
  rw [node, afterNodes] at first
  cases first_node settings here with
  | @form other rest after next there read =>
    refine ⟨other, rest, after, next, there, read, fun k lt => ?_, ?_⟩
    · rw [← node_succ read]
      exact fails.forms (k + 1) (Nat.succ_lt_succ lt)
    · rw [← node_succ read]
      exact fails.failed
  | ended _ _ read =>
    rw [read] at first
    exact absurd first.symm (toNode_ne_endOfInput data)
  | failed _ read =>
    rw [read] at first
    exact absurd first.symm (toNode_ne_error data)

end FailsAt

end Reader

/-! ## Sessions -/

namespace Session

variable {σ : Type}

/-- The session when some values have been read. -/
def afterReads : (count : Nat) → Session σ → Session σ
  | 0, session => session
  | count + 1, session => afterReads count session.readNext.2

theorem afterReads_succ (count : Nat) (session : Session σ) :
    session.afterReads (count + 1) = (session.afterReads count).readNext.2 := by
  induction count generalizing session with
  | zero => rfl
  | succ count ih => exact ih session.readNext.2

/-- A session over text that has come to this cursor. -/
def resumed (lexical settings : Settings) (origin : Origin) (cursor : Cursor)
    (diagnostic : Option Diagnostic) : Session TextScan :=
  { ofStream lexical settings origin cursor.chars with
    state := ⟨lexical, cursor.state⟩
    diagnostic }

variable (lexical settings : Settings) (origin : Origin) (cursor : Cursor)
  (diagnostic : Option Diagnostic)

/-- A value is made of the node that comes next, and the node behind it comes next then. -/
theorem readNext_resumed : (resumed lexical settings origin cursor diagnostic).readNext =
    (Value.ofNode .utf8 settings.maxDepth (Reader.readNode lexical cursor).1,
      resumed lexical settings origin (Reader.readNode lexical cursor).2
        (noted origin diagnostic (Reader.readNode lexical cursor).1)) :=
  rfl

theorem afterReads_resumed (count : Nat) : ∃ noticed,
    afterReads count (resumed lexical settings origin cursor diagnostic) =
      resumed lexical settings origin (Reader.afterNodes lexical count cursor) noticed := by
  induction count generalizing cursor diagnostic with
  | zero => exact ⟨diagnostic, rfl⟩
  | succ count ih => exact ih _ _

/-- The values that are read are those of the nodes that are handed out. -/
theorem fst_readNext_afterReads (chars : CharStream) (index : Nat) :
    ((ofStream lexical settings origin chars).afterReads index).readNext.1 =
      Value.ofNode .utf8 settings.maxDepth (Reader.node lexical ⟨chars, .fresh⟩ index) := by
  obtain ⟨noticed, came⟩ := afterReads_resumed lexical settings origin ⟨chars, .fresh⟩ none index
  rw [show (ofStream lexical settings origin chars).afterReads index = _ from came]
  rfl

section

variable {settings : Settings} {origin : Origin} {cursor : Cursor} {text : List Char}
  {failure : Option StreamError} {count limit : Nat} {fault : Fault}

theorem readNext_resumed_of_next {value : Value} {rest : List Char} {after : Cursor}
    (origin : Origin) (diagnostic : Option Diagnostic)
    (next : Next settings settings.maxDepth text value rest)
    (read : Reader.readNode settings cursor = (toNode value, after)) :
    (resumed settings settings origin cursor diagnostic).readNext =
      (value, resumed settings settings origin after (noted origin diagnostic (toNode value))) := by
  rw [readNext_resumed, read, next.ofNode_toNode]

/-- If a fault comes behind some forms, reading everything gives the error alone, and the fault is
noted. -/
theorem readAllAfter_resumed (diagnostic : Option Diagnostic) (earlier : List Value)
    (here : cursor.At text failure) (fails : Reader.FailsAt settings cursor count fault)
    (enough : text.length < limit) : ∃ last,
      readAllAfter limit earlier (resumed settings settings origin cursor diagnostic) =
        ([malformed], last) ∧ last.diagnostic = some ⟨fault, origin⟩ := by
  induction count generalizing cursor text limit diagnostic earlier with
  | zero =>
    obtain ⟨limit, rfl⟩ := Nat.exists_eq_add_one_of_ne_zero (Nat.ne_zero_of_lt enough)
    have read : (Reader.readNode settings cursor).1 = .error fault := fails.failed
    rw [readAllAfter, readNext_resumed, read]
    exact ⟨_, rfl, rfl⟩
  | succ count ih =>
    obtain ⟨limit, rfl⟩ := Nat.exists_eq_add_one_of_ne_zero (Nat.ne_zero_of_lt enough)
    obtain ⟨value, rest, after, next, there, read, fails⟩ := fails.next here
    have step := readNext_resumed_of_next origin diagnostic next read
    have shorter := next.length_lt
    rw [readAllAfter_of_data limit (by rw [step]; exact next.not_sentinel), step]
    exact ih _ _ there fails (by omega)

/-- If a fault comes behind some forms, the iterator stops with the error. -/
theorem collect_resumed (diagnostic : Option Diagnostic) (here : cursor.At text failure)
    (fails : Reader.FailsAt settings cursor count fault) (enough : text.length < limit) :
    ∃ values, (collect limit (resumed settings settings origin cursor diagnostic)).1 =
        values ++ [malformed] ∧ ∀ value ∈ values, value.isSentinel = false := by
  induction count generalizing cursor text limit diagnostic with
  | zero =>
    obtain ⟨limit, rfl⟩ := Nat.exists_eq_add_one_of_ne_zero (Nat.ne_zero_of_lt enough)
    have read : (Reader.readNode settings cursor).1 = .error fault := fails.failed
    have step : (resumed settings settings origin cursor diagnostic).readNext.1 = malformed := by
      rw [readNext_resumed, read]
      rfl
    exact ⟨[], collect_of_error limit rfl step, List.forall_mem_nil _⟩
  | succ count ih =>
    obtain ⟨limit, rfl⟩ := Nat.exists_eq_add_one_of_ne_zero (Nat.ne_zero_of_lt enough)
    obtain ⟨value, rest, after, next, there, read, fails⟩ := fails.next here
    have step := readNext_resumed_of_next origin diagnostic next read
    have shorter := next.length_lt
    obtain ⟨values, all, data⟩ := ih (noted origin diagnostic (toNode value)) there fails
      (show rest.length < limit by omega)
    refine ⟨value :: values, ?_, List.forall_mem_cons.2 ⟨next.not_sentinel, data⟩⟩
    rw [collect_of_data limit rfl (by rw [step]; exact next.not_sentinel), step, all,
      List.cons_append]

end

end Session

end Edn
