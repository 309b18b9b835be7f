import Edn.Proofs.Faults
import Edn.Proofs.Nodes

/-!
# What the reader reports is so

A run of the reader starts at a point of a text where the constructs of its stack are open, and
every lexeme leads to another such point, to a form that nothing surrounds, to the end, or to a
fault that the text has (`Opened.advance`). So does a whole run, and so does handing out one node
after another: whichever node is an error, the text has the fault that it reports.
-/

namespace Edn

open Grammar Reader Value

variable {settings : Settings} {text : List Char} {failure : Option StreamError}

theorem Value.length_toNodes (values : List Value) : (toNodes values).length = values.length := by
  induction values with
  | nil => rfl
  | cons value values ih => rw [toNodes, List.length_cons, List.length_cons, ih]

/-! ## Collections that nothing closes -/

theorem Reader.refuses_closing (settings : Settings) {c : Char} (closer : c ∈ closers)
    (rest : List Char) : Refuses settings (c :: rest) := by
  intro cursor here
  obtain ⟨position, after, there, ran⟩ := @run_closing _ _ (reads_at settings) [] _ _ _ here closer
  exact ⟨_, _, ran⟩

/-- A stretch of forms that goes on to the end of a text does not also stop at a closing
character. -/
theorem Grammar.Forms.not_closed {inside : List Char} {values : List Value} {c : Char}
    (whole : Forms settings settings.maxDepth inside values []) (closer : c ∈ closers)
    (others : List Value) (rest : List Char) :
    ¬ Forms settings settings.maxDepth inside others (c :: rest) := by
  intro closed
  have sound := Derives.malformed_notMem whole
  have refused : Yields settings inside (others ++ [malformed]) :=
    .of_forms rfl closed (.refused (refuses_closing settings closer rest))
  have read := Document.ofBytes_encode (Yields.of_derives whole)
  rw [Document.ofBytes_encode refused, if_pos (by simp), if_neg sound] at read
  exact sound (read ▸ List.mem_singleton.2 rfl)

theorem Bracket.closing_mem (bracket : Bracket) : bracket.closing ∈ closers := by
  rcases bracket with (_ | _ | _) | _ <;> decide

/-! ## One lexeme -/

/-- What a step of the reader has led to, when `rest` is before it. -/
def Traced (settings : Settings) (text rest : List Char) (failure : Option StreamError) :
    Progress → Prop
  | .going stack => Opened settings text stack rest
  | .done (.ok (some node)) => ∃ value, node = toNode value ∧ value.isSentinel = false ∧
    Opened settings text [] rest
  | .done (.ok none) => rest = [] ∧ failure = none ∧ Opened settings text [] rest
  | .done (.error fault) => HasFault settings text failure fault

namespace Opened

variable {stack : List Frame} {lead rest : List Char} {depth : Nat}

theorem length_le (opened : Opened settings text stack lead) :
    stack.length ≤ settings.maxDepth := by
  cases opened with
  | nil _ => exact Nat.zero_le _
  | cons _ room _ _ _ _ =>
    rw [List.length_cons]
    omega

theorem traced_deliver {value : Value} (opened : Opened settings text stack lead)
    (room : stack.length + depth = settings.maxDepth)
    (found : Form settings depth lead value rest) :
    Traced settings text rest failure (Reader.deliver value.toNode stack) := by
  have delivered := opened.deliver room found
  cases progress : Reader.deliver value.toNode stack with
  | going stack' =>
    rw [progress] at delivered
    exact delivered
  | done outcome =>
    rw [progress] at delivered
    obtain ⟨whole, rfl, data, onward⟩ := delivered
    exact ⟨whole, rfl, data, onward⟩

theorem pairs?_eq_none {α : Type} {items : List α} (uneven : pairs? items = none) :
    items.length % 2 = 1 := by
  induction items using pairs?.induct with
  | case1 => cases uneven
  | case2 => rfl
  | case3 key value items ih =>
    have behind := ih (Option.map_eq_none_iff.1 uneven)
    simp only [List.length_cons]
    omega

/-- The innermost construct lacks its form. -/
theorem hasFault_missing {before front inside : List Char} {construct : Construct} {name : String}
    (deep : depth ≤ settings.maxDepth) (split : text = before ++ front)
    (opens : Opens settings front construct inside) (lacks : construct.lacking? = some name)
    (gaps : Forms settings depth inside [] rest)
    (stop : rest = [] ∧ failure = none ∨ ∃ c ∈ rest.head?, c ∈ closers) :
    HasFault settings text failure ⟨.missingForm name, .behind before⟩ :=
  .missingForm split opens lacks (gaps.mono deep) stop

/-- A closing character completes the innermost collection, or is a fault. -/
theorem traced_closing {before : List Char} {c : Char}
    (opened : Opened settings text stack (c :: rest)) (closer : c ∈ closers)
    (split : text = before ++ c :: rest) :
    Traced settings text rest failure
      (advance settings.maxDepth stack (.closing c (.behind before))) := by
  cases opened with
  | nil forms => exact HasFault.unexpectedClosing split closer forms
  | @cons stack first front inside _ construct values depth opened room split' opens forms single =>
    have deep : depth ≤ settings.maxDepth := by omega
    cases construct with
    | wrapper kind =>
      obtain rfl : values = [] := single.resolve_right nofun
      exact hasFault_missing deep split' opens rfl forms (Or.inr ⟨c, rfl, closer⟩)
    | tag tag =>
      obtain rfl : values = [] := single.resolve_right nofun
      exact hasFault_missing deep split' opens rfl forms (Or.inr ⟨c, rfl, closer⟩)
    | discard =>
      obtain rfl : values = [] := single.resolve_right nofun
      exact hasFault_missing deep split' opens rfl forms (Or.inr ⟨c, rfl, closer⟩)
    | collection bracket =>
      by_cases own : c = bracket.closing
      · subst own
        cases bracket with
        | sequence kind =>
          simp only [advance, Frame.close, if_true, List.reverse_reverse]
          exact opened.traced_deliver room (Form.sequence opens forms)
        | map =>
          simp only [advance, Frame.close, if_true, List.reverse_reverse, pairs?_toNodes]
          cases paired : pairs? values with
          | some entries =>
            exact opened.traced_deliver room (Form.dictionary opens forms paired)
          | none =>
            cases opens with
            | collection _ =>
              obtain ⟨body, rfl⟩ := forms.suffix
              have has : HasFault settings text failure _ :=
                .unevenMap split' (forms.mono deep) (pairs?_eq_none paired)
              simpa [Traced, length_toNodes] using has
      · cases opens with
        | collection _ =>
          obtain ⟨body, rfl⟩ := forms.suffix
          have has : HasFault settings text failure _ :=
            .mismatch split' (forms.mono deep) closer own
          have same : before = first ++ (bracket.opening.toList ++ body) := by
            have cut : before ++ c :: rest =
                first ++ (bracket.opening.toList ++ body) ++ c :: rest := by
              rw [← split, split']
              simp
            exact List.append_cancel_right cut
          subst same
          simpa only [Reader.advance, Frame.close, own, if_false, Traced] using has

/-- The end of the text is where a node ends, or is a fault. -/
theorem traced_ended (opened : Opened settings text stack []) (quiet : failure = none) :
    Traced settings text [] failure (advance settings.maxDepth stack .ended) := by
  cases opened with
  | nil forms => exact ⟨rfl, quiet, .nil forms⟩
  | @cons stack first front inside _ construct values depth opened room split opens forms single =>
    have deep : depth ≤ settings.maxDepth := by omega
    cases construct with
    | wrapper kind =>
      obtain rfl : values = [] := single.resolve_right nofun
      exact hasFault_missing deep split opens rfl forms (Or.inl ⟨rfl, quiet⟩)
    | tag tag =>
      obtain rfl : values = [] := single.resolve_right nofun
      exact hasFault_missing deep split opens rfl forms (Or.inl ⟨rfl, quiet⟩)
    | discard =>
      obtain rfl : values = [] := single.resolve_right nofun
      exact hasFault_missing deep split opens rfl forms (Or.inl ⟨rfl, quiet⟩)
    | collection bracket =>
      cases opens with
      | collection _ =>
        have whole := forms.mono deep
        exact HasFault.prematureEnd quiet split whole (whole.not_closed bracket.closing_mem)

/-- A lexeme leads to another point of the text, or to a fault of it. -/
theorem advance {before : List Char} {lexeme : Lexeme} (opened : Opened settings text stack lead)
    (split : text = before ++ lead) (piece : Lexeme.Stands settings lead lexeme rest)
    (quiet : lexeme = .ended → failure = none)
    (place : ∀ position ∈ lexeme.position?, position = .behind before) :
    Traced settings text rest failure (Reader.advance settings.maxDepth stack lexeme) := by
  have room : stack.length + (settings.maxDepth - stack.length) = settings.maxDepth :=
    Nat.add_sub_of_le opened.length_le
  cases lexeme with
  | atom kind body => exact opened.traced_deliver room (Form.atom piece)
  | opening construct start =>
    obtain rfl := place start rfl
    have opens : Opens settings lead construct rest := piece
    by_cases shallow : stack.length < settings.maxDepth
    · rw [Reader.advance, if_pos shallow]
      exact opened.opening shallow split opens
    · rw [Reader.advance, if_neg shallow]
      have full : stack.length = settings.maxDepth :=
        Nat.le_antisymm opened.length_le (Nat.le_of_not_lt shallow)
      exact HasFault.tooDeep split opens opened full
  | closing c position =>
    obtain rfl := place position rfl
    obtain ⟨rfl, closer⟩ := piece
    exact opened.traced_closing closer split
  | ended =>
    obtain ⟨rfl, rfl⟩ := piece
    exact opened.traced_ended (quiet rfl)

end Opened

/-! ## A whole run -/

/-- What a run of the reader has come to, in a text. -/
def RanTo (settings : Settings) (text : List Char) (failure : Option StreamError) :
    Except Fault (Option Node) × Cursor → Prop
  | (.ok (some node), after) => ∃ value front rest, node = toNode value ∧
    value.isSentinel = false ∧ text = front ++ rest ∧ Opened settings text [] rest ∧
    after.Stands front rest failure
  | (.ok none, after) => failure = none ∧ Opened settings text [] [] ∧ after.Stands text [] none
  | (.error fault, _) => HasFault settings text failure fault

/-- From any point of a text, a run comes to the end of a form or of the text, or to a fault. -/
theorem Opened.run {stack : List Frame} {front lead : List Char} {cursor : Cursor}
    (opened : Opened settings text stack lead) (stands : cursor.Stands front lead failure)
    (split : text = front ++ lead) :
    RanTo settings text failure (Reader.run settings stack cursor) := by
  induction size : cursor.size using Nat.strongRecOn generalizing stack front lead cursor with
  | ind _ ih =>
    subst size
    cases scanned : Lexeme.read settings cursor with
    | mk result after =>
      cases result with
      | error fault =>
        rw [run_eq, scanned]
        have has := Lexeme.read_fault stands scanned
        rwa [← split] at has
      | ok lexeme =>
        obtain ⟨gap, lead', front', rest, rfl, gaps, piece, same, there, quiet, place⟩ :=
          Lexeme.read_located (settings.maxDepth - stack.length) stands scanned
        have room := Nat.add_sub_of_le opened.length_le
        rw [← split] at same
        rw [← List.append_assoc] at split
        have traced := (opened.gaps room gaps).advance split piece quiet place
        rw [run_of_read scanned]
        cases advanced : Reader.advance settings.maxDepth stack lexeme with
        | going stack' =>
          rw [advanced] at traced
          have shorter := Lexeme.size_read_lt scanned (ne_ended_of_advance advanced)
          exact ih after.size shorter traced there same.symm rfl
        | done outcome =>
          rw [advanced] at traced
          rcases outcome with fault | _ | node
          · exact traced
          · obtain ⟨rfl, rfl, onward⟩ := traced
            rw [List.append_nil] at same
            subst same
            exact ⟨rfl, onward, there⟩
          · obtain ⟨value, rfl, data, onward⟩ := traced
            exact ⟨value, front', rest, rfl, data, same.symm, onward, there⟩

/-! ## One node after another -/

/-- What a node reports, if it is an error. -/
def Node.fault? : Node → Option Fault
  | .error fault => some fault
  | _ => none

theorem Node.fault?_eq_some {node : Node} {fault : Fault} (reports : node.fault? = some fault) :
    node = .error fault := by
  cases node with
  | error other =>
    cases reports
    rfl
  | _ => cases reports

namespace Reader

/-- The cursor stands between two forms of the text, unless a fault has been reported. -/
def Between (settings : Settings) (text : List Char) (failure : Option StreamError)
    (cursor : Cursor) : Prop :=
  cursor.state.failed = true ∨ ∃ front rest, text = front ++ rest ∧
    Opened settings text [] rest ∧ cursor.Stands front rest failure

variable {cursor : Cursor}

/-- Handing out a node leaves the cursor between two forms, and an error is a fault of the text. -/
theorem Between.readNode (between : Between settings text failure cursor) :
    Between settings text failure (readNode settings cursor).2 ∧
      ∀ fault, (readNode settings cursor).1 = .error fault →
        HasFault settings text failure fault := by
  unfold Reader.readNode
  rcases between with failed | ⟨front, rest, split, opened, stands⟩
  · rw [if_pos failed]
    exact ⟨Or.inl failed, nofun⟩
  · have live : ¬ cursor.state.failed = true := by simp [stands.here.live]
    rw [if_neg live]
    have came := opened.run stands split
    generalize run settings [] cursor = ran at came ⊢
    rcases ran with ⟨fault | _ | node, after⟩
    · refine ⟨Or.inl rfl, ?_⟩
      rintro _ ⟨⟩
      exact came
    · obtain ⟨rfl, onward, there⟩ := came
      exact ⟨Or.inr ⟨text, [], by simp, onward, there⟩, nofun⟩
    · obtain ⟨value, front', rest', rfl, data, split', onward, there⟩ := came
      exact ⟨Or.inr ⟨front', rest', split', onward, there⟩,
        fun fault same => absurd same (toNode_ne_error data)⟩

theorem Between.afterNodes (between : Between settings text failure cursor) (count : Nat) :
    Between settings text failure (afterNodes settings count cursor) := by
  induction count with
  | zero => exact between
  | succ count ih =>
    rw [afterNodes_succ]
    exact ih.readNode.1

end Reader

theorem Reader.between_fresh (settings : Settings) (text : List Char)
    (failure : Option StreamError) :
    Between settings text failure ⟨{ CharStream.ofText text with failure }, .fresh⟩ :=
  Or.inr ⟨[], text, rfl, .nil .nil, Cursor.stands_fresh rfl⟩

/-- Whatever error is handed out for a text, however many forms came before it, the text has the
fault; and unless the stream has failed, its place is that of a character of the text. -/
theorem hasFault_of_node_eq_error (settings : Settings) (text : List Char)
    (failure : Option StreamError) (index : Nat) (fault : Fault)
    (reported : Reader.node settings ⟨{ CharStream.ofText text with failure }, .fresh⟩ index =
      .error fault) :
    HasFault settings text failure fault ∧
      ((∃ error, fault.error = .stream error) ∨
        ∃ before c rest, text = before ++ c :: rest ∧ fault.position = .behind before) := by
  have has := ((Reader.between_fresh settings text failure).afterNodes index).readNode.2 fault
    reported
  refine ⟨has, ?_⟩
  by_cases plain : fault.FromText
  · exact Or.inr (has.located plain)
  · left
    simpa [Fault.FromText] using plain

theorem hasFault_of_node_eq_error_mismatch :
    let text := "a #_b [1\n (2]".toList
    let fault : Fault := ⟨.mismatch "(" ⟨1, 1⟩ ')' ']', ⟨1, 3⟩⟩
    Reader.node .clojure ⟨{ CharStream.ofText text with failure := none }, .fresh⟩ 1 =
      .error fault ∧ HasFault .clojure text none fault := by
  intro text fault
  have reported : Reader.node .clojure ⟨{ CharStream.ofText text with failure := none }, .fresh⟩ 1 =
      .error fault := Node.fault?_eq_some (by decide +kernel)
  exact ⟨reported, (hasFault_of_node_eq_error .clojure text none 1 fault reported).1⟩

end Edn
