import Edn.Proofs.Messages
import Edn.Proofs.Nodes

/-!
# The shape of the nodes of a text

A node that is handed out for a text is data all through, and its compounds are nested no deeper
than the constructs of the text may be. So building can only fail on the depth, and fails just if
the compounds of the node are nested deeper than that (`Value.Data.build_toNode`): where a session
allows as much as its reader, an error among the values is one that the reader handed out.
-/

namespace Edn

open Grammar

/-! ## How deep compounds nest -/

namespace Node

mutual

/-- How many compounds are nested in the node, at most. -/
def nesting : Node → Nat
  | .sequence _ items => nestingItems items + 1
  | .dictionary entries => nestingEntries entries + 1
  | .tagged tag content => max tag.nesting content.nesting + 1
  | .wrapped _ content => content.nesting + 1
  | .error _ | .endOfInput | .atom _ _ | .unknownAtom _ _ | .unknown _ => 0

/-- How many compounds are nested in one of the nodes, at most. -/
def nestingItems : List Node → Nat
  | [] => 0
  | node :: nodes => max node.nesting (nestingItems nodes)

/-- How many compounds are nested in one of the entries, at most. -/
def nestingEntries : List (Node × Node) → Nat
  | [] => 0
  | (key, value) :: entries => max (max key.nesting value.nesting) (nestingEntries entries)

end

/-- The node is a form: there is no report in it and nothing of unknown kind, its atoms can be
decoded, and its tags are symbols. -/
inductive IsForm : Node → Prop
  | atom {kind : AtomKind} {raw : List UInt8} :
    (Encoding.utf8.decode? raw).isSome → IsForm (.atom kind raw)
  | sequence {kind : SequenceKind} {items : List Node} :
    (∀ item ∈ items, IsForm item) → IsForm (.sequence kind items)
  | dictionary {entries : List (Node × Node)} :
    (∀ entry ∈ entries, IsForm entry.1) → (∀ entry ∈ entries, IsForm entry.2) →
    IsForm (.dictionary entries)
  | tagged {raw : List UInt8} {content : Node} :
    (Encoding.utf8.decode? raw).isSome → IsForm content →
    IsForm (.tagged (.atom .symbol raw) content)
  | wrapped {kind : WrapperKind} {content : Node} :
    IsForm content → IsForm (.wrapped kind content)

end Node

namespace Value

/-- The value is data all through, and its atoms and tags have texts of a certain kind. -/
inductive Data (legal : String → Prop) : Value → Prop
  | atom {kind : AtomKind} {text : String} : legal text → Data legal (.atom kind text)
  | sequence {kind : SequenceKind} {items : List Value} :
    (∀ item ∈ items, Data legal item) → Data legal (.sequence kind items)
  | dictionary {entries : List (Value × Value)} :
    (∀ entry ∈ entries, Data legal entry.1) → (∀ entry ∈ entries, Data legal entry.2) →
    Data legal (.dictionary entries)
  | tagged {tag : String} {content : Value} :
    legal tag → Data legal content → Data legal (.tagged tag content)
  | wrapped {kind : WrapperKind} {content : Value} :
    Data legal content → Data legal (.wrapped kind content)

theorem toNodes_eq (values : List Value) : toNodes values = values.map toNode := by
  induction values with
  | nil => rfl
  | cons value values ih => rw [toNodes, ih, List.map_cons]

theorem toEntries_eq (entries : List (Value × Value)) :
    toEntries entries = entries.map fun entry => (toNode entry.1, toNode entry.2) := by
  induction entries with
  | nil => rfl
  | cons entry entries ih => rw [toEntries, ih, List.map_cons]

theorem nestingItems_toNodes_le {values : List Value} {depth : Nat} :
    Node.nestingItems (toNodes values) ≤ depth ↔
      ∀ value ∈ values, (toNode value).nesting ≤ depth := by
  induction values with
  | nil => simp [toNodes, Node.nestingItems]
  | cons value values ih =>
    rw [toNodes, Node.nestingItems, Nat.max_le, ih, List.forall_mem_cons]

theorem nestingEntries_toEntries_le {entries : List (Value × Value)} {depth : Nat} :
    Node.nestingEntries (toEntries entries) ≤ depth ↔ ∀ entry ∈ entries,
      (toNode entry.1).nesting ≤ depth ∧ (toNode entry.2).nesting ≤ depth := by
  induction entries with
  | nil => simp [toEntries, Node.nestingEntries]
  | cons entry entries ih =>
    rw [toEntries, Node.nestingEntries, Nat.max_le, Nat.max_le, ih, List.forall_mem_cons]

theorem buildItems_eq_ite {values : List Value} {depth : Nat}
    (each : ∀ value ∈ values, build .utf8 (toNode value) depth =
      if (toNode value).nesting ≤ depth then .ok value else .error .tooDeep) :
    buildItems .utf8 (toNodes values) depth =
      if Node.nestingItems (toNodes values) ≤ depth then .ok values else .error .tooDeep := by
  induction values with
  | nil => rfl
  | cons value values ih =>
    obtain ⟨first, others⟩ := List.forall_mem_cons.1 each
    simp only [toNodes, buildItems, Node.nestingItems, first, ih others, Nat.max_le]
    by_cases shallow : (toNode value).nesting ≤ depth
    · by_cases behind : Node.nestingItems (toNodes values) ≤ depth
      · simp only [shallow, behind, and_self, if_true]
        rfl
      · simp only [shallow, behind, and_false, if_true, if_false]
        rfl
    · simp only [shallow, false_and, if_false]
      rfl

theorem buildEntries_eq_ite {entries : List (Value × Value)} {depth : Nat}
    (keys : ∀ entry ∈ entries, build .utf8 (toNode entry.1) depth =
      if (toNode entry.1).nesting ≤ depth then .ok entry.1 else .error .tooDeep)
    (values : ∀ entry ∈ entries, build .utf8 (toNode entry.2) depth =
      if (toNode entry.2).nesting ≤ depth then .ok entry.2 else .error .tooDeep) :
    buildEntries .utf8 (toEntries entries) depth =
      if Node.nestingEntries (toEntries entries) ≤ depth then .ok entries
      else .error .tooDeep := by
  induction entries with
  | nil => rfl
  | cons entry entries ih =>
    obtain ⟨key, keys⟩ := List.forall_mem_cons.1 keys
    obtain ⟨value, values⟩ := List.forall_mem_cons.1 values
    simp only [toEntries, buildEntries, Node.nestingEntries, key, value, ih keys values, Nat.max_le]
    by_cases shallow : (toNode entry.1).nesting ≤ depth
    · by_cases shallow' : (toNode entry.2).nesting ≤ depth
      · by_cases behind : Node.nestingEntries (toEntries entries) ≤ depth
        · simp only [shallow, shallow', behind, and_self, if_true]
          rfl
        · simp only [shallow, shallow', behind, and_false, if_true, if_false]
          rfl
      · simp only [shallow, shallow', and_false, false_and, if_true, if_false]
        rfl
    · simp only [shallow, false_and, if_false]
      rfl

namespace Data

variable {legal : String → Prop} {value : Value}

theorem not_sentinel (data : Data legal value) : value.isSentinel = false := by
  cases data <;> rfl

theorem mono {weaker : String → Prop} (data : Data legal value)
    (weakens : ∀ text, legal text → weaker text) : Data weaker value := by
  induction data with
  | atom allowed => exact .atom (weakens _ allowed)
  | sequence _ items => exact .sequence items
  | dictionary _ _ keys values => exact .dictionary keys values
  | tagged allowed _ content => exact .tagged (weakens _ allowed) content
  | wrapped _ content => exact .wrapped content

theorem decodes (text : String) :
    (Encoding.utf8.decode? (Encoding.utf8.encode text)).isSome := by
  simp only [Encoding.decode?, Encoding.encode, Utf8.decode?_encode, Option.map_some,
    Option.isSome_some]

theorem isForm (data : Data legal value) : (toNode value).IsForm := by
  induction data with
  | atom _ => exact .atom (decodes _)
  | sequence _ items =>
    apply Node.IsForm.sequence
    rw [toNodes_eq]
    exact List.forall_mem_map.2 items
  | dictionary _ _ keys values =>
    rw [toNode, toEntries_eq]
    exact .dictionary (List.forall_mem_map.2 keys) (List.forall_mem_map.2 values)
  | tagged _ _ content => exact .tagged (decodes _) content
  | wrapped _ content => exact .wrapped content

/-- Building the node of data gives the data, unless its compounds are nested too deep. -/
theorem build_toNode (data : Data legal value) (depth : Nat) :
    build .utf8 (toNode value) depth =
      if (toNode value).nesting ≤ depth then .ok value else .error .tooDeep := by
  induction data generalizing depth with
  | @atom kind text _ =>
    simp only [toNode, Node.ofText, build, Encoding.textOf_encode, Node.nesting, Nat.zero_le,
      if_true]
  | @sequence kind items _ each =>
    cases depth with
    | zero => rfl
    | succ depth =>
      simp only [toNode, build, Node.nesting, Nat.add_le_add_iff_right,
        buildItems_eq_ite fun item among => each item among depth]
      split <;> rfl
  | @dictionary entries _ _ keys values =>
    cases depth with
    | zero => rfl
    | succ depth =>
      simp only [toNode, build, Node.nesting, Nat.add_le_add_iff_right,
        buildEntries_eq_ite (fun entry among => keys entry among depth)
          fun entry among => values entry among depth]
      split <;> rfl
  | @tagged tag content _ _ inside =>
    cases depth with
    | zero => rfl
    | succ depth =>
      simp only [toNode, Node.ofText, build, Encoding.textOf_encode, Node.nesting, Nat.zero_max,
        Nat.add_le_add_iff_right, inside depth]
      split <;> rfl
  | @wrapped kind content _ inside =>
    cases depth with
    | zero => rfl
    | succ depth =>
      simp only [toNode, build, Node.nesting, Nat.add_le_add_iff_right, inside depth]
      split <;> rfl

end Data

end Value

/-! ## Forms of a text -/

namespace Grammar

open Value

variable {settings : Settings}

theorem Atom.body_within {text body rest : List Char} {kind : AtomKind}
    (atom : Atom settings text kind body rest) : body <:+: text :=
  ⟨kind.opening, kind.closing ++ rest, by rw [atom.whole, List.append_assoc]⟩

theorem Opens.tag_within {text rest : List Char} {tag : String}
    (opens : Opens settings text (.tag tag) rest) : tag.toList <:+: text := by
  cases opens with
  | @tag c run _ _ _ _ _ =>
    rw [String.toList_ofList]
    exact ⟨['#'], rest, by simp⟩

mutual

/-- The texts of a value stand in the text of its form. -/
theorem Form.data {depth : Nat} {text rest : List Char} {value : Value}
    (form : Form settings depth text value rest) :
    value.Data fun written => written.toList <:+: text := by
  match form with
  | .atom found =>
    apply Data.atom
    rw [String.toList_ofList]
    exact found.body_within
  | .sequence opens inside =>
    refine .sequence fun item among => ?_
    exact (inside.data item among).mono fun _ within => within.trans opens.suffix.isInfix
  | .dictionary opens inside paired =>
    have each := fun item among => (inside.data item among).mono fun _ within =>
      within.trans opens.suffix.isInfix
    have among := mem_of_pairs? paired
    exact .dictionary (fun entry member => each _ (among entry member).1)
      fun entry member => each _ (among entry member).2
  | .wrapped opens gaps content =>
    have within := (gaps.suffix.trans opens.suffix).isInfix
    exact .wrapped (content.data.mono fun _ inner => inner.trans within)
  | .tagged opens gaps content =>
    have within := (gaps.suffix.trans opens.suffix).isInfix
    exact .tagged opens.tag_within (content.data.mono fun _ inner => inner.trans within)

theorem Forms.data {depth : Nat} {text rest : List Char} {values : List Value}
    (forms : Forms settings depth text values rest) :
    ∀ value ∈ values, value.Data fun written => written.toList <:+: text := by
  match forms with
  | .nil => exact nofun
  | .gap parted forms =>
    intro value among
    exact (forms.data value among).mono fun _ inner => inner.trans parted.suffix.isInfix
  | .form found forms =>
    refine List.forall_mem_cons.2 ⟨found.data, fun value among => ?_⟩
    exact (forms.data value among).mono fun _ inner => inner.trans found.suffix.isInfix

end

mutual

/-- The compounds of a form are among the constructs that are open in its text. -/
theorem Form.nesting_le {depth : Nat} {text rest : List Char} {value : Value}
    (form : Form settings depth text value rest) : (toNode value).nesting ≤ depth := by
  match form with
  | .atom _ => exact Nat.zero_le _
  | .sequence _ inside =>
    exact Nat.succ_le_succ (nestingItems_toNodes_le.2 inside.nesting_le)
  | .dictionary _ inside paired =>
    have among := mem_of_pairs? paired
    refine Nat.succ_le_succ (nestingEntries_toEntries_le.2 fun entry member => ?_)
    exact ⟨inside.nesting_le _ (among entry member).1, inside.nesting_le _ (among entry member).2⟩
  | .wrapped _ _ content => exact Nat.succ_le_succ content.nesting_le
  | .tagged _ _ content =>
    exact Nat.succ_le_succ (Nat.max_le.2 ⟨Nat.zero_le _, content.nesting_le⟩)

theorem Forms.nesting_le {depth : Nat} {text rest : List Char} {values : List Value}
    (forms : Forms settings depth text values rest) :
    ∀ value ∈ values, (toNode value).nesting ≤ depth := by
  match forms with
  | .nil => exact nofun
  | .gap _ forms => exact forms.nesting_le
  | .form found forms => exact List.forall_mem_cons.2 ⟨found.nesting_le, forms.nesting_le⟩

end

theorem Next.data {depth : Nat} {text rest : List Char} {value : Value}
    (next : Next settings depth text value rest) :
    value.Data fun written => written.toList <:+: text := by
  obtain ⟨form, gaps, found⟩ := next
  exact found.data.mono fun _ inner => inner.trans gaps.suffix.isInfix

theorem Next.nesting_le {depth : Nat} {text rest : List Char} {value : Value}
    (next : Next settings depth text value rest) : (toNode value).nesting ≤ depth := by
  obtain ⟨form, -, found⟩ := next
  exact found.nesting_le

end Grammar

/-! ## Values of nodes -/

/-- Every node that is handed out is the end, an error, or a form, with no more compounds nested in
one another than the reader allows constructs. The value that the session makes of it is the end for
the end. For an error it is an error, and the last diagnostic of the session then says what is wrong,
what is being read, and in which line and column. For a form it is its data, whose texts stand in
the stream; but just if the compounds are nested deeper than the session allows, it is an error. In
any case the next value is that of the next node. So where the session allows as much nesting as the
reader, a value is an error just if its node is. -/
theorem Session.readNext_eq_of_node (lexical settings : Settings) (origin : Origin)
    (chars : CharStream) (index : Nat) :
    let node := Reader.node lexical ⟨chars, .fresh⟩ index
    let step := ((Session.ofStream lexical settings origin chars).afterReads index).readNext
    (node = .endOfInput ∨ (∃ fault, node = .error fault) ∨
      node.IsForm ∧ node.nesting ≤ lexical.maxDepth) ∧
    (node = .endOfInput → step.1 = .endOfInput) ∧
    (∀ fault, node = .error fault → step.1 = .error "error encountered while parsing" ∧
      step.2.diagnostic = some ⟨fault, origin⟩ ∧
      ∃ reason place, fault.error.Tells reason ∧ origin.Tells place ∧ step.2.lastDiagnostic =
        some s!"{reason} {place}@{fault.position.line + 1}.{fault.position.column}") ∧
    (node.IsForm → node.nesting ≤ settings.maxDepth → node = step.1.toNode ∧
      step.1.Data fun text => text.toList <:+: chars.rest.map Prod.fst) ∧
    (step.1 = .error "nesting too deep" ↔ node.IsForm ∧ settings.maxDepth < node.nesting) ∧
    step.2.readNext.1 = Value.ofNode .utf8 settings.maxDepth
      (Reader.node lexical ⟨chars, .fresh⟩ (index + 1)) ∧
    (lexical.maxDepth ≤ settings.maxDepth → ∀ message, step.1 = .error message ↔
      message = "error encountered while parsing" ∧ ∃ fault, node = .error fault) := by
  intro node step
  obtain ⟨noticed, came⟩ := afterReads_resumed lexical settings origin ⟨chars, .fresh⟩ none index
  have made : step = (Value.ofNode .utf8 settings.maxDepth node, resumed lexical settings origin
      (Reader.afterNodes lexical (index + 1) ⟨chars, .fresh⟩) (noted origin noticed node)) := by
    rw [show step = _ from congrArg readNext came, Reader.afterNodes_succ]
    rfl
  have here : Cursor.At ⟨chars, .fresh⟩ (chars.rest.map Prod.fst) chars.failure :=
    ⟨rfl, rfl, nofun, rfl⟩
  have shape := Reader.node_cases lexical here index
  rw [show Reader.node lexical ⟨chars, .fresh⟩ index = node from rfl] at shape
  clear_value step node
  subst made
  rcases shape with rfl | ⟨fault, rfl⟩ | ⟨value, front, rest, within, next, rfl⟩
  · refine ⟨Or.inl rfl, fun _ => rfl, ?_, ?_, ⟨?_, ?_⟩, rfl, fun _ message => ⟨?_, ?_⟩⟩
    · rintro fault ⟨⟩
    · rintro ⟨⟩
    · rintro ⟨⟩
    · rintro ⟨⟨⟩, -⟩
    · rintro ⟨⟩
    · rintro ⟨-, fault, ⟨⟩⟩
  · refine ⟨Or.inr (Or.inl ⟨fault, rfl⟩), ?_, ?_, ?_, ⟨?_, ?_⟩, rfl, fun _ message => ⟨?_, ?_⟩⟩
    · rintro ⟨⟩
    · rintro _ ⟨⟩
      exact ⟨rfl, rfl, exists_lastDiagnostic_eq rfl⟩
    · rintro ⟨⟩
    · intro same
      exact absurd (Value.error.inj same) (by decide)
    · rintro ⟨⟨⟩, -⟩
    · intro same
      exact ⟨(Value.error.inj same).symm, fault, rfl⟩
    · rintro ⟨rfl, -⟩
      rfl
  · have data := next.data.mono fun _ inner => inner.trans within.isInfix
    have not_end : value.toNode ≠ .endOfInput := Value.toNode_ne_endOfInput next.not_sentinel
    have not_error (fault : Fault) : value.toNode ≠ .error fault :=
      Value.toNode_ne_error next.not_sentinel
    have built := data.build_toNode settings.maxDepth
    refine ⟨Or.inr (Or.inr ⟨data.isForm, next.nesting_le⟩), fun ended => absurd ended not_end,
      fun fault failed => absurd failed (not_error fault), ?_, ⟨?_, ?_⟩, rfl, ?_⟩
    · intro _ shallow
      rw [if_pos shallow] at built
      rw [Value.ofNode_of_ok built]
      exact ⟨rfl, data⟩
    · intro refused
      refine ⟨data.isForm, Nat.not_le.1 fun shallow => ?_⟩
      rw [if_pos shallow] at built
      rw [Value.ofNode_of_ok built] at refused
      subst refused
      cases data
    · rintro ⟨-, deep⟩
      rw [if_neg (Nat.not_le.2 deep)] at built
      exact Value.ofNode_of_error not_end built
    · intro allowed message
      rw [if_pos (next.nesting_le.trans allowed)] at built
      rw [Value.ofNode_of_ok built]
      constructor
      · rintro rfl
        cases data
      · rintro ⟨-, fault, failed⟩
        exact absurd failed (not_error fault)

end Edn
