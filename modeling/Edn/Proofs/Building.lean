import Edn.Proofs.NodeShape

/-!
# Building from nodes of any kind

Nothing is promised about the nodes that a source hands out, so building has to be right for every
tree. What it should come to is said here without it. `Node.walk` lays the tree out as the moments
at which something is looked at, in order; `Visit.offence?` says what is wrong at one moment, and
knows nothing of order; the first moment at which anything is wrong decides the error. If nothing is
wrong at any moment, then the node is data all through and nested no deeper than allowed
(`Node.quiet_walk_iff`), and the value built mirrors it (`Value.settles_build`).
-/

namespace Edn

/-! ## The walk over a node -/

/-- A moment of the walk over a node. -/
inductive Visit
  /-- A node is come to, inside so many compounds. -/
  | node (around : Nat) (node : Node)
  /-- A tag has been walked over, and is looked at as a whole. -/
  | tag (tag : Node)

/-- What is wrong at this moment, if `depth` compounds may be nested. -/
def Visit.offence? (depth : Nat) : Visit → Option NodeError
  | node _ (.error _) => some .malformed
  | node _ .endOfInput => some .nestedEnd
  | node _ (.unknownAtom _ _) => some .unknownAtom
  | node _ (.unknown _) => some .unknownKind
  | node _ (.atom _ _) => none
  | node around (.sequence _ _) | node around (.dictionary _) | node around (.tagged _ _)
  | node around (.wrapped _ _) => if around < depth then none else some .tooDeep
  | tag (.atom .symbol _) => none
  | tag _ => some .tagNotSymbol

namespace Node

mutual

/-- The moments of the walk over a node that stands inside `around` compounds: the node itself, then
what it holds from left to right. Of an entry the key comes first, and of a tagged form the tag, the
look at the tag, and then the content. -/
def walk : Node → (around : Nat) → List Visit
  | .sequence kind items, around =>
    .node around (.sequence kind items) :: walkItems items (around + 1)
  | .dictionary entries, around =>
    .node around (.dictionary entries) :: walkEntries entries (around + 1)
  | .tagged tag content, around =>
    .node around (.tagged tag content) ::
      (walk tag (around + 1) ++ ([.tag tag] ++ walk content (around + 1)))
  | .wrapped kind content, around =>
    .node around (.wrapped kind content) :: walk content (around + 1)
  | node, around => [.node around node]

/-- The walk over nodes in order. -/
def walkItems : List Node → (around : Nat) → List Visit
  | [], _ => []
  | node :: nodes, around => walk node around ++ walkItems nodes around

/-- The walk over entries in order. -/
def walkEntries : List (Node × Node) → (around : Nat) → List Visit
  | [], _ => []
  | (key, value) :: entries, around =>
    walk key around ++ (walk value around ++ walkEntries entries around)

end

/-- What is wrong first on the walk over a node, if `depth` compounds may be nested. -/
def firstOffence? (node : Node) (depth : Nat) : Option NodeError :=
  (node.walk 0).findSome? (Visit.offence? depth)

/-- A tag that is no symbol is found before what it tags, but after anything that is wrong inside
the tag. -/
example :
    (tagged (.atom .keyword []) (.unknown 7)).firstOffence? 1 = some .tagNotSymbol ∧
    (tagged (.sequence .list []) (.unknown 7)).firstOffence? 1 = some .tooDeep := by
  decide

section

variable {around depth : Nat} {node : Node} {rest : List Visit}

/-- The node is a compound: at it nothing can be wrong but the depth. -/
def CountsAt (node : Node) (around : Nat) : Prop :=
  ∀ depth, Visit.offence? depth (.node around node) =
    if around < depth then none else some .tooDeep

theorem CountsAt.findSome?_full (counts : node.CountsAt around) :
    (Visit.node around node :: rest).findSome? (Visit.offence? (around + 0)) = some .tooDeep := by
  rw [List.findSome?_cons, counts, if_neg (by omega)]

theorem CountsAt.findSome?_room (counts : node.CountsAt around) :
    (Visit.node around node :: rest).findSome? (Visit.offence? (around + (depth + 1))) =
      rest.findSome? (Visit.offence? (around + 1 + depth)) := by
  rw [List.findSome?_cons, counts, if_pos (by omega), Nat.succ_add_eq_add_succ]

end

end Node

/-! ## What is built -/

/-- The text of an atom: what its bytes stand for, or a placeholder if they cannot be decoded. -/
inductive Encoding.Spells (encoding : Encoding) (raw : List UInt8) : String → Prop
  | decoded {text : String} : encoding.decode? raw = some text → Spells encoding raw text
  | placeholder : encoding.decode? raw = none → Spells encoding raw "PARSEFAILED"

theorem Encoding.spells_textOf (encoding : Encoding) (raw : List UInt8) :
    encoding.Spells raw (encoding.textOf raw) := by
  unfold textOf
  cases decoded : encoding.decode? raw with
  | some text => exact .decoded decoded
  | none => exact .placeholder decoded

namespace Value

mutual

/-- The value has the kinds of the node, as many children in the same order, and the texts of its
atoms. -/
inductive Mirrors (encoding : Encoding) : Node → Value → Prop
  | atom {kind : AtomKind} {raw : List UInt8} {text : String} : encoding.Spells raw text →
    Mirrors encoding (.atom kind raw) (.atom kind text)
  | sequence {kind : SequenceKind} {nodes : List Node} {items : List Value} :
    MirrorsItems encoding nodes items →
    Mirrors encoding (.sequence kind nodes) (.sequence kind items)
  | dictionary {nodes : List (Node × Node)} {entries : List (Value × Value)} :
    MirrorsEntries encoding nodes entries →
    Mirrors encoding (.dictionary nodes) (.dictionary entries)
  | tagged {raw : List UInt8} {tag : String} {node : Node} {content : Value} :
    encoding.Spells raw tag → Mirrors encoding node content →
    Mirrors encoding (.tagged (.atom .symbol raw) node) (.tagged tag content)
  | wrapped {kind : WrapperKind} {node : Node} {content : Value} :
    Mirrors encoding node content → Mirrors encoding (.wrapped kind node) (.wrapped kind content)

/-- There are as many values as nodes, and each mirrors its node. -/
inductive MirrorsItems (encoding : Encoding) : List Node → List Value → Prop
  | nil : MirrorsItems encoding [] []
  | cons {node : Node} {item : Value} {nodes : List Node} {items : List Value} :
    Mirrors encoding node item → MirrorsItems encoding nodes items →
    MirrorsItems encoding (node :: nodes) (item :: items)

/-- There are as many entries of values as of nodes, and each mirrors its entry of nodes. -/
inductive MirrorsEntries (encoding : Encoding) :
    List (Node × Node) → List (Value × Value) → Prop
  | nil : MirrorsEntries encoding [] []
  | cons {k v : Node} {key value : Value} {nodes : List (Node × Node)}
      {entries : List (Value × Value)} :
    Mirrors encoding k key → Mirrors encoding v value → MirrorsEntries encoding nodes entries →
    MirrorsEntries encoding ((k, v) :: nodes) ((key, value) :: entries)

end

variable {encoding : Encoding}

mutual

theorem Mirrors.data {node : Node} {value : Value} (mirrors : Mirrors encoding node value) :
    value.Data fun _ => True := by
  match mirrors with
  | .atom _ => exact .atom trivial
  | .sequence each => exact .sequence each.data
  | .dictionary each =>
    exact .dictionary (fun entry among => (each.data entry among).1)
      fun entry among => (each.data entry among).2
  | .tagged _ content => exact .tagged trivial content.data
  | .wrapped content => exact .wrapped content.data

theorem MirrorsItems.data {nodes : List Node} {items : List Value}
    (mirrors : MirrorsItems encoding nodes items) : ∀ item ∈ items, item.Data fun _ => True := by
  match mirrors with
  | .nil => exact nofun
  | .cons first others => exact List.forall_mem_cons.2 ⟨first.data, others.data⟩

theorem MirrorsEntries.data {nodes : List (Node × Node)} {entries : List (Value × Value)}
    (mirrors : MirrorsEntries encoding nodes entries) :
    ∀ entry ∈ entries, (entry.1.Data fun _ => True) ∧ entry.2.Data fun _ => True := by
  match mirrors with
  | .nil => exact nofun
  | .cons key value others =>
    exact List.forall_mem_cons.2 ⟨⟨key.data, value.data⟩, others.data⟩

end

/-! ## Building settles what the walk finds -/

/-- Building comes to the first offence, or if there is none to something that is as it should. -/
def Settles {α : Type} (first : Option NodeError) (right : α → Prop)
    (built : Except NodeError α) : Prop :=
  match first with
  | some offence => built = .error offence
  | none => ∃ made, built = .ok made ∧ right made

section

variable {α β : Type} {first second : Option NodeError} {right : α → Prop} {right' : β → Prop}
  {built : Except NodeError α}

theorem Settles.bind {next : α → Except NodeError β} (front : Settles first right built)
    (back : ∀ made, right made → Settles second right' (next made)) :
    Settles (first.or second) right' (built >>= next) := by
  cases first with
  | some offence =>
    obtain rfl : built = .error offence := front
    rfl
  | none =>
    rcases front with ⟨made, rfl, fine⟩
    exact back made fine

theorem Settles.map {f : α → β} (front : Settles first right built)
    (keeps : ∀ made, right made → right' (f made)) :
    Settles first right' (do return f (← built)) := by
  cases first with
  | some offence =>
    obtain rfl : built = .error offence := front
    rfl
  | none =>
    rcases front with ⟨made, rfl, fine⟩
    exact ⟨f made, rfl, keeps made fine⟩

end

/-- Looking at the value of a tag is looking at the tag. -/
theorem settles_tagText {depth : Nat} {tag : Node} {made : Value}
    (mirrors : Mirrors encoding tag made) :
    Settles (Visit.offence? depth (.tag tag))
      (fun text => ∃ raw, tag = .atom .symbol raw ∧ encoding.Spells raw text) (tagText? made) := by
  cases mirrors with
  | @atom kind raw text spells =>
    cases kind with
    | symbol => exact ⟨text, rfl, raw, rfl, spells⟩
    | _ => rfl
  | _ => rfl

mutual

/-- Building a node comes to the first offence of the walk over it, or to a value that mirrors
it. -/
theorem settles_build (encoding : Encoding) (node : Node) (around depth : Nat) :
    Settles ((node.walk around).findSome? (Visit.offence? (around + depth)))
      (Mirrors encoding node) (build encoding node depth) := by
  match node, depth with
  | .error _, _ | .endOfInput, _ | .unknownAtom _ _, _ | .unknown _, _ => rfl
  | .atom kind raw, _ => exact ⟨_, rfl, .atom (encoding.spells_textOf raw)⟩
  | .sequence _ _, 0 | .dictionary _, 0 | .tagged _ _, 0 | .wrapped _ _, 0 =>
    rw [Node.walk, Node.CountsAt.findSome?_full fun _ => rfl]
    rfl
  | .sequence kind items, depth + 1 =>
    rw [Node.walk, Node.CountsAt.findSome?_room fun _ => rfl]
    exact (settles_buildItems encoding items (around + 1) depth).map fun _ => .sequence
  | .dictionary entries, depth + 1 =>
    rw [Node.walk, Node.CountsAt.findSome?_room fun _ => rfl]
    exact (settles_buildEntries encoding entries (around + 1) depth).map fun _ => .dictionary
  | .tagged tag content, depth + 1 =>
    rw [Node.walk, Node.CountsAt.findSome?_room fun _ => rfl, List.findSome?_append,
      List.findSome?_append, List.findSome?_singleton]
    apply (settles_build encoding tag (around + 1) depth).bind
    intro made mirrors
    apply (settles_tagText mirrors).bind
    intro text found
    rcases found with ⟨raw, rfl, spells⟩
    exact (settles_build encoding content (around + 1) depth).map fun _ => .tagged spells
  | .wrapped kind content, depth + 1 =>
    rw [Node.walk, Node.CountsAt.findSome?_room fun _ => rfl]
    exact (settles_build encoding content (around + 1) depth).map fun _ => .wrapped

theorem settles_buildItems (encoding : Encoding) (nodes : List Node) (around depth : Nat) :
    Settles ((Node.walkItems nodes around).findSome? (Visit.offence? (around + depth)))
      (MirrorsItems encoding nodes) (buildItems encoding nodes depth) := by
  match nodes with
  | [] => exact ⟨[], rfl, .nil⟩
  | node :: nodes =>
    rw [Node.walkItems, List.findSome?_append]
    apply (settles_build encoding node around depth).bind
    intro item mirrors
    exact (settles_buildItems encoding nodes around depth).map fun _ => .cons mirrors

theorem settles_buildEntries (encoding : Encoding) (nodes : List (Node × Node))
    (around depth : Nat) :
    Settles ((Node.walkEntries nodes around).findSome? (Visit.offence? (around + depth)))
      (MirrorsEntries encoding nodes) (buildEntries encoding nodes depth) := by
  match nodes with
  | [] => exact ⟨[], rfl, .nil⟩
  | (k, v) :: nodes =>
    rw [Node.walkEntries, List.findSome?_append, List.findSome?_append]
    apply (settles_build encoding k around depth).bind
    intro key key_mirrors
    apply (settles_build encoding v around depth).bind
    intro value value_mirrors
    exact (settles_buildEntries encoding nodes around depth).map
      fun _ => .cons key_mirrors value_mirrors

end

end Value

/-! ## Walks on which nothing is wrong -/

namespace Node

/-- The node is data all through: there is no report in it and nothing of unknown kind, and its tags
are symbols. -/
inductive IsData : Node → Prop
  | atom (kind : AtomKind) (raw : List UInt8) : IsData (.atom kind raw)
  | sequence {kind : SequenceKind} {items : List Node} :
    (∀ item ∈ items, IsData item) → IsData (.sequence kind items)
  | dictionary {entries : List (Node × Node)} :
    (∀ entry ∈ entries, IsData entry.1) → (∀ entry ∈ entries, IsData entry.2) →
    IsData (.dictionary entries)
  | tagged {tag content : Node} :
    (∃ raw, tag = .atom .symbol raw) → IsData content → IsData (.tagged tag content)
  | wrapped {kind : WrapperKind} {content : Node} : IsData content → IsData (.wrapped kind content)

theorem isData_sequence {kind : SequenceKind} {items : List Node} :
    (sequence kind items).IsData ↔ ∀ item ∈ items, item.IsData :=
  ⟨fun | .sequence each => each, .sequence⟩

theorem isData_dictionary {entries : List (Node × Node)} :
    (dictionary entries).IsData ↔ ∀ entry ∈ entries, entry.1.IsData ∧ entry.2.IsData :=
  ⟨fun | .dictionary keys values => fun entry among => ⟨keys entry among, values entry among⟩,
    fun each => .dictionary (fun entry among => (each entry among).1)
      fun entry among => (each entry among).2⟩

theorem isData_tagged {tag content : Node} :
    (tagged tag content).IsData ↔ (∃ raw, tag = .atom .symbol raw) ∧ content.IsData :=
  ⟨fun | .tagged symbol inside => ⟨symbol, inside⟩, fun ⟨symbol, inside⟩ => .tagged symbol inside⟩

theorem isData_wrapped {kind : WrapperKind} {content : Node} :
    (wrapped kind content).IsData ↔ content.IsData :=
  ⟨fun | .wrapped inside => inside, .wrapped⟩

theorem offence?_tag_eq_none {depth : Nat} {tag : Node} :
    Visit.offence? depth (.tag tag) = none ↔ ∃ raw, tag = .atom .symbol raw := by
  cases tag with
  | atom kind raw =>
    cases kind with
    | symbol => exact ⟨fun _ => ⟨raw, rfl⟩, fun _ => rfl⟩
    | _ => exact ⟨nofun, nofun⟩
  | _ => exact ⟨nofun, nofun⟩

mutual

/-- Nothing is wrong on the walk just if the node is data and nested no deeper than allowed. -/
theorem quiet_walk_iff (node : Node) (around depth : Nat) :
    (node.walk around).findSome? (Visit.offence? (around + depth)) = none ↔
      node.IsData ∧ node.nesting ≤ depth := by
  match node, depth with
  | .error _, _ | .endOfInput, _ | .unknownAtom _ _, _ | .unknown _, _ =>
    exact ⟨nofun, fun ⟨data, _⟩ => nomatch data⟩
  | .atom kind raw, _ => exact ⟨fun _ => ⟨.atom kind raw, Nat.zero_le _⟩, fun _ => rfl⟩
  | .sequence _ _, 0 | .dictionary _, 0 | .tagged _ _, 0 | .wrapped _ _, 0 =>
    rw [walk, CountsAt.findSome?_full fun _ => rfl]
    exact ⟨nofun, fun ⟨_, shallow⟩ => nomatch shallow⟩
  | .sequence kind items, depth + 1 =>
    rw [walk, CountsAt.findSome?_room fun _ => rfl, quiet_walkItems_iff, isData_sequence, nesting,
      Nat.add_le_add_iff_right]
  | .dictionary entries, depth + 1 =>
    rw [walk, CountsAt.findSome?_room fun _ => rfl, quiet_walkEntries_iff, isData_dictionary,
      nesting, Nat.add_le_add_iff_right]
  | .tagged tag content, depth + 1 =>
    rw [walk, CountsAt.findSome?_room fun _ => rfl, List.findSome?_append, List.findSome?_append,
      List.findSome?_singleton, Option.or_eq_none_iff, Option.or_eq_none_iff, quiet_walk_iff,
      quiet_walk_iff, offence?_tag_eq_none, isData_tagged, nesting, Nat.add_le_add_iff_right,
      Nat.max_le]
    constructor
    -- A tag that is a symbol is data in itself, so only what is tagged is asked about.
    · intro quiet
      rcases quiet with ⟨⟨-, shallow⟩, symbol, inside, shallow'⟩
      exact ⟨⟨symbol, inside⟩, shallow, shallow'⟩
    · intro parts
      rcases parts with ⟨⟨⟨raw, rfl⟩, inside⟩, shallow, shallow'⟩
      exact ⟨⟨.atom .symbol raw, shallow⟩, ⟨raw, rfl⟩, inside, shallow'⟩
  | .wrapped kind content, depth + 1 =>
    rw [walk, CountsAt.findSome?_room fun _ => rfl, quiet_walk_iff, isData_wrapped, nesting,
      Nat.add_le_add_iff_right]

theorem quiet_walkItems_iff (nodes : List Node) (around depth : Nat) :
    (walkItems nodes around).findSome? (Visit.offence? (around + depth)) = none ↔
      (∀ node ∈ nodes, node.IsData) ∧ nestingItems nodes ≤ depth := by
  match nodes with
  | [] => exact ⟨fun _ => ⟨nofun, Nat.zero_le _⟩, fun _ => rfl⟩
  | node :: nodes =>
    rw [walkItems, List.findSome?_append, Option.or_eq_none_iff, quiet_walk_iff,
      quiet_walkItems_iff, List.forall_mem_cons, nestingItems, Nat.max_le, and_and_and_comm]

theorem quiet_walkEntries_iff (nodes : List (Node × Node)) (around depth : Nat) :
    (walkEntries nodes around).findSome? (Visit.offence? (around + depth)) = none ↔
      (∀ node ∈ nodes, node.1.IsData ∧ node.2.IsData) ∧ nestingEntries nodes ≤ depth := by
  match nodes with
  | [] => exact ⟨fun _ => ⟨nofun, Nat.zero_le _⟩, fun _ => rfl⟩
  | (key, value) :: nodes =>
    rw [walkEntries, List.findSome?_append, List.findSome?_append, Option.or_eq_none_iff,
      Option.or_eq_none_iff, quiet_walk_iff, quiet_walk_iff, quiet_walkEntries_iff,
      List.forall_mem_cons, nestingEntries, Nat.max_le, Nat.max_le]
    tauto

end

end Node

/-! ## The value of a node -/

/-- What a node that is handed over comes to, for every tree, every encoding and every depth. It is
the end for the end alone. It is data just if the node is data all through and no more compounds are
nested in it than may be; it then has the kinds of the node, its children in their number and order,
and the texts of its atoms, with a placeholder for each that cannot be decoded. Otherwise it is one
error, with the words for the first offence on the walk over the node. -/
theorem Value.ofNode_of_walk (encoding : Encoding) (depth : Nat) (node : Node) :
    let value := ofNode encoding depth node
    (value = .endOfInput ↔ node = .endOfInput) ∧
    (value.isSentinel = false ↔ node.IsData ∧ node.nesting ≤ depth) ∧
    (value.isSentinel = false → Mirrors encoding node value ∧ value.Data fun _ => True) ∧
    (node ≠ .endOfInput → ¬ (node.IsData ∧ node.nesting ≤ depth) →
      ∃ offence text, node.firstOffence? depth = some offence ∧ offence.Tells text ∧
        value = .error text) := by
  intro value
  have settled := settles_build encoding node 0 depth
  have quiet_iff := node.quiet_walk_iff 0 depth
  rw [Nat.zero_add] at settled quiet_iff
  change Settles (node.firstOffence? depth) (Mirrors encoding node) _ at settled
  change node.firstOffence? depth = none ↔ _ at quiet_iff
  rw [← quiet_iff]
  by_cases ended : node = .endOfInput
  · subst ended
    exact ⟨⟨fun _ => rfl, fun _ => rfl⟩, ⟨nofun, nofun⟩, nofun, fun other => absurd rfl other⟩
  · cases first : node.firstOffence? depth with
    | some offence =>
      rw [first] at settled
      have failed : value = .error offence.message := ofNode_of_error ended settled
      rw [failed]
      exact ⟨⟨nofun, fun same => absurd same ended⟩, ⟨nofun, nofun⟩, nofun,
        fun _ _ => ⟨offence, _, rfl, offence.tells_message, rfl⟩⟩
    | none =>
      rw [first] at settled
      rcases settled with ⟨made, built, mirrors⟩
      have succeeded : value = made := ofNode_of_ok built
      have data := mirrors.data.not_sentinel
      have not_end : made ≠ .endOfInput := by
        intro same
        subst same
        cases data
      rw [succeeded]
      exact ⟨⟨fun same => absurd same not_end, fun same => absurd same ended⟩,
        ⟨fun _ => rfl, fun _ => data⟩, fun _ => ⟨mirrors, mirrors.data⟩,
        fun _ offended => absurd rfl offended⟩

end Edn
