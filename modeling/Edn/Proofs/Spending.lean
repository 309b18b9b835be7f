import Edn.Proofs.Collecting
import Edn.Proofs.Lookahead
import Edn.Proofs.NodeShape

/-!
# What reading costs

Every atom and every compound of a value has a character of its own in the text: the first one of
the atom, or that of the sign that opens the compound (`Grammar.Form.count_le`). And a call that
hands out a form takes a character that no call has taken before (`Reader.readNode_takes_more`),
though the last one taken may be given back. So reading up to the first report comes to an end
within as many calls as there are characters and one more, and the stream is not asked more often
than that either (`Session.exists_readsTo_resumed`).
-/

namespace Edn

open Grammar
open Lexeme (Scanned)

/-! ## The atoms and compounds of a value -/

namespace Value

mutual

/-- How many atoms and compounds the value is made of. A report is made of none. -/
def count : Value → Nat
  | endOfInput => 0
  | error _ => 0
  | atom _ _ => 1
  | sequence _ items => countItems items + 1
  | dictionary entries => countEntries entries + 1
  | tagged _ content => count content + 1
  | wrapped _ content => count content + 1

/-- How many atoms and compounds several values are made of. -/
def countItems : List Value → Nat
  | [] => 0
  | item :: items => count item + countItems items

/-- How many atoms and compounds several entries are made of. -/
def countEntries : List (Value × Value) → Nat
  | [] => 0
  | (key, value) :: entries => count key + (count value + countEntries entries)

end

theorem count_pos {value : Value} (data : value.isSentinel = false) : 0 < value.count := by
  cases value with
  | endOfInput => cases data
  | error message => cases data
  | atom kind text => exact Nat.one_pos
  | _ => exact Nat.succ_pos _

theorem length_le_countItems {values : List Value}
    (data : ∀ value ∈ values, value.isSentinel = false) : values.length ≤ countItems values := by
  induction values with
  | nil => exact Nat.le_refl 0
  | cons value values ih =>
    obtain ⟨first, others⟩ := List.forall_mem_cons.1 data
    have one := count_pos first
    have rest := ih others
    rw [List.length_cons, countItems]
    omega

theorem countEntries_of_pairs? {values : List Value} {entries : List (Value × Value)}
    (paired : pairs? values = some entries) : countEntries entries = countItems values := by
  induction values using pairs?.induct generalizing entries with
  | case1 =>
    cases paired
    rfl
  | case2 => cases paired
  | case3 key value values ih =>
    obtain ⟨others, behind, rfl⟩ := Option.map_eq_some_iff.1 paired
    rw [countEntries, countItems, countItems, ih behind]

end Value

namespace Grammar

open Value

variable {settings : Settings} {depth : Nat} {text rest : List Char} {value : Value}
  {values : List Value}

mutual

/-- The form of a value has a character for each of its atoms and compounds. -/
theorem Form.count_le {depth : Nat} {text rest : List Char} {value : Value}
    (form : Form settings depth text value rest) : value.count + rest.length ≤ text.length := by
  match form with
  | .atom found =>
    have front := found.length_lt
    rw [count]
    omega
  | .sequence opens inside =>
    have front := opens.length_lt
    have items := inside.count_le
    simp only [count, List.length_cons] at items ⊢
    omega
  | .dictionary opens inside paired =>
    have front := opens.length_lt
    have items := inside.count_le
    have entries := countEntries_of_pairs? paired
    simp only [count, List.length_cons] at items ⊢
    omega
  | .wrapped opens gaps content =>
    have front := opens.length_lt
    have between := gaps.length_le
    have inside := content.count_le
    rw [count]
    omega
  | .tagged opens gaps content =>
    have front := opens.length_lt
    have between := gaps.length_le
    have inside := content.count_le
    rw [count]
    omega

theorem Forms.count_le {depth : Nat} {text rest : List Char} {values : List Value}
    (forms : Forms settings depth text values rest) :
    countItems values + rest.length ≤ text.length := by
  match forms with
  | .nil => rw [countItems, Nat.zero_add]
  | .gap parted forms =>
    have front := parted.length_lt
    have back := forms.count_le
    omega
  | .form found forms =>
    have front := found.count_le
    have back := forms.count_le
    rw [countItems]
    omega

end

theorem Next.count_le (next : Next settings depth text value rest) :
    value.count + rest.length ≤ text.length := by
  obtain ⟨form, gaps, found⟩ := next
  exact Nat.le_trans found.count_le gaps.length_le

end Grammar

/-! ## The characters still to be taken -/

namespace Cursor

variable {chars : CharStream} {front : List (Char × Position)} {cursor before after : Cursor}
  {c : Char} {position : Position}

theorem length_ahead (cursor : Cursor) : cursor.ahead.length = cursor.size := by
  rw [ahead, List.length_append, size, Nat.add_comm]

/-- Taking a character leaves what is behind it. -/
theorem ahead_next (cursor : Cursor) : ∃ used, cursor.ahead = used ++ cursor.next.2.ahead := by
  rcases cursor with ⟨⟨rest, failure, count⟩, ⟨_ | given, last, exhausted, failed⟩⟩
  · cases exhausted with
    | true => exact ⟨[], rfl⟩
    | false =>
      rcases rest with _ | ⟨first, rest⟩
      · cases failure with
        | none => exact ⟨[], rfl⟩
        | some error => exact ⟨[], rfl⟩
      · exact ⟨[first], rfl⟩
  · exact ⟨[given], rfl⟩

/-- What is given back is to be taken again. -/
theorem ahead_unread (taken : before.next = (.char c position, after)) :
    (after.unread c position (free_of_next taken)).ahead = before.ahead := by
  rcases before with ⟨⟨rest, failure, count⟩, ⟨_ | given, last, exhausted, failed⟩⟩
  · cases exhausted with
    | true => cases taken
    | false =>
      rcases rest with _ | ⟨first, rest⟩
      · cases failure <;> cases taken
      · cases taken
        rfl
  · cases taken
    rfl

theorem Follows.front_le (follows : Follows chars front cursor) :
    front.length ≤ chars.rest.length := by
  rw [follows.whole, List.length_append]
  exact Nat.le_add_right _ _

end Cursor

/-- A reader leaves a part of what was to be taken. -/
theorem Observes.ahead {α : Type} {f : Cursor → Scanned α} {cursor : Cursor}
    (observes : Observes f cursor) : ∃ used, cursor.ahead = used ++ (f cursor).2.ahead := by
  apply observes.keeps (P := fun after => ∃ used, cursor.ahead = used ++ after.ahead)
  · rintro before ⟨used, split⟩
    obtain ⟨more, taken⟩ := before.ahead_next
    exact ⟨used ++ more, by rw [split, taken, List.append_assoc]⟩
  · rintro before c position after ⟨used, split⟩ taken
    exact ⟨used, by rw [split, Cursor.ahead_unread taken]⟩
  · exact ⟨[], rfl⟩

namespace Reader

variable {settings : Settings} {stack : List Frame} {cursor after : Cursor} {node : Node}
  {chars : CharStream} {front : List (Char × Position)}

theorem size_run_lt (ran : run settings stack cursor = (.ok (some node), after)) :
    after.size < cursor.size := by
  fun_induction run settings stack cursor with
  | case1 => cases ran
  | case2 stack cursor lexeme inside scanned outcome done =>
    cases ran
    refine Lexeme.size_read_lt scanned ?_
    rcases advance_done done with ⟨-, none⟩ | ⟨node, outer, completes, -⟩
    · cases none
    · rintro rfl
      cases completes
  | case3 stack cursor lexeme inside scanned stack' going shorter ih =>
    exact Nat.lt_trans (ih ran) shorter

/-- A call that hands out a form takes a character that has not been taken before, or not for
good. -/
theorem readNode_takes_more (read : readNode settings cursor = (node, after))
    (form : node.isReport = false) : ∃ used, used ≠ [] ∧ cursor.ahead = used ++ after.ahead := by
  have ran := run_of_readNode form read
  have shorter := size_run_lt ran
  obtain ⟨used, split⟩ := (observes_run settings [] cursor).ahead
  rw [ran] at split
  refine ⟨used, ?_, split⟩
  rintro rfl
  rw [← after.length_ahead, ← cursor.length_ahead, split] at shorter
  exact absurd shorter (Nat.lt_irrefl _)

/-- No call loses track of how often the stream has been asked. -/
theorem follows_readNode (settings : Settings) (follows : cursor.Follows chars front) :
    ∃ front, (readNode settings cursor).2.Follows chars front := by
  have onward := (observes_run settings [] cursor).follows follows
  unfold readNode
  split
  · exact ⟨front, follows⟩
  · split <;> rename_i ran <;> rw [ran] at onward
    · exact onward
    · exact onward
    · obtain ⟨front, whole, polls, waiting⟩ := onward
      exact ⟨front, whole, polls, waiting⟩

end Reader

/-! ## Reading up to the first report -/

/-- The value of the node of data is the data, unless the session does not allow its nesting. -/
theorem Value.Data.ofNode_toNode {legal : String → Prop} {value : Value} (data : Data legal value)
    (depth : Nat) : ofNode .utf8 depth value.toNode = value ∨
      (ofNode .utf8 depth value.toNode).isSentinel = true := by
  have built := data.build_toNode depth
  by_cases fits : value.toNode.nesting ≤ depth
  · rw [if_pos fits] at built
    exact Or.inl (ofNode_of_ok built)
  · rw [if_neg fits] at built
    right
    rw [ofNode_of_error (toNode_ne_endOfInput data.not_sentinel) built]
    rfl

namespace Session

open Value

theorem length_nodes {σ : Type} (count : Nat) (session : Session σ) :
    (session.nodes count).length = count := by
  induction count generalizing session with
  | zero => rfl
  | succ count ih => rw [nodes, List.length_cons, ih]

variable {chars : CharStream} {front : List (Char × Position)} {cursor : Cursor}
  {text : List Char} {failure : Option StreamError}

/-- A session over text comes to a report. The values before it are made of no more atoms and
compounds than there are characters, and it is known how often the stream has been asked then. -/
theorem exists_readsTo_resumed (lexical settings : Settings) (origin : Origin)
    (diagnostic : Option Diagnostic) (here : cursor.At text failure)
    (follows : cursor.Follows chars front) :
    ∃ values report after front noticed,
      ReadsTo (resumed lexical settings origin cursor diagnostic) values report
        (resumed lexical settings origin after noticed) ∧
      after.Follows chars front ∧ countItems values ≤ text.length := by
  induction size : text.length using Nat.strongRecOn generalizing cursor text front diagnostic with
  | ind size ih =>
    subst size
    have step := readNext_resumed lexical settings origin cursor diagnostic
    obtain ⟨front', onward⟩ := Reader.follows_readNode lexical follows
    cases reported : (ofNode .utf8 settings.maxDepth
        (Reader.readNode lexical cursor).1).isSentinel with
    | true => exact ⟨[], _, _, front', _, .report step reported, onward, Nat.zero_le _⟩
    | false =>
      cases Reader.first_node lexical here with
      | @form value rest after next there read =>
        rw [read] at step onward reported
        rcases next.data.ofNode_toNode settings.maxDepth with same | too_deep
        · rw [same] at step
          obtain ⟨values, report, last, front'', noticed, reads, final, bounded⟩ :=
            ih rest.length next.length_lt (noted origin diagnostic value.toNode) there onward rfl
          have cost := next.count_le
          refine ⟨value :: values, report, last, front'', noticed,
            .data step next.not_sentinel reads, final, ?_⟩
          rw [countItems]
          omega
        · cases too_deep.symm.trans reported
      | ended _ _ read =>
        rw [read] at reported
        cases reported
      | failed _ read =>
        rw [read] at reported
        cases reported

/-- Reading makes progress, and its result is no larger than what it reads. A call that hands out a
form takes at least one character that is never taken again. Reading everything from a stream of
some characters, whether it ends or fails, asks for no more values than there are characters and one
more, asks the stream no more often than that, and comes to its own end. The values read are made of
no more atoms and compounds than there are characters. -/
theorem readAll_bounded (lexical settings : Settings) (origin : Origin) (chars : CharStream) :
    let session := ofStream lexical settings origin chars
    let kept := start NodeSource.ofText.recorded ⟨⟨lexical, .fresh⟩, []⟩ chars origin
      settings.maxDepth
    (∀ cursor node after, Reader.readNode lexical cursor = (node, after) →
      node.isReport = false → ∃ used, used ≠ [] ∧ cursor.ahead = used ++ after.ahead) ∧
    ∃ values report,
      (∀ k value, values[k]? = some value →
        (session.afterReads k).readNext.1 = value ∧ value.isSentinel = false) ∧
      (session.afterReads values.length).readNext.1 = report ∧ report.isSentinel = true ∧
      countItems values ≤ chars.rest.length ∧
      ∀ limit, chars.rest.length < limit →
        (session.readAll limit).1 = report.conclude values ∧
        (session.readAll limit).2.chars.polls ≤ chars.polls + (chars.rest.length + 1) ∧
        (kept.readAll limit).1 = report.conclude values ∧
        (kept.readAll limit).2.state.handed.length = values.length + 1 ∧
        values.length + 1 ≤ chars.rest.length + 1 := by
  intro session kept
  refine ⟨fun _ _ _ => Reader.readNode_takes_more, ?_⟩
  have follows : Cursor.Follows chars [] ⟨chars, .fresh⟩ := ⟨rfl, rfl, nofun⟩
  obtain ⟨values, report, after, front, noticed, reads, final, bounded⟩ :=
    exists_readsTo_resumed lexical settings origin none (Cursor.at_fresh chars) follows
  change ReadsTo session values report _ at reads
  have reads' : kept.ReadsTo values report _ := reads.recorded []
  rw [List.length_map] at bounded
  have few : values.length ≤ chars.rest.length :=
    Nat.le_trans (length_le_countItems reads.data_values) bounded
  obtain ⟨value_at, last⟩ := reads.value_at
  refine ⟨values, report, fun k value at_k => ⟨value_at k value at_k, ?_⟩, last,
    reads.isSentinel_report, bounded, fun limit enough => ?_⟩
  · exact reads.data_values value (List.mem_of_getElem? at_k)
  have enough : values.length < limit := Nat.lt_of_le_of_lt few enough
  have all := reads.readAllAfter [] enough
  have all' := reads'.readAllAfter [] enough
  have left : (kept.readAll limit).2 = _ := congrArg Prod.snd all'
  refine ⟨congrArg Prod.fst all, ?_, congrArg Prod.fst all', ?_, Nat.succ_le_succ few⟩
  · have asked := final.polls_le
    have within := final.front_le
    have stream : (session.readAll limit).2.chars = after.chars :=
      congrArg (fun run => run.2.chars) all
    rw [stream]
    omega
  · rw [left]
    have handed := Exchange.filterMap_handed?_loans (session.nodes (values.length + 1))
    exact (congrArg List.length handed).trans (session.length_nodes _)

/-- Every character is the sign of a value, and the end of the text has to be asked for. -/
example :
    let all := (ofStream .clojure .clojure unnamed (.ofText "''a".toList)).readAll 4
    countItems all.1 = 3 ∧ all.2.chars.polls = 4 := by
  decide +kernel

end Session

end Edn
