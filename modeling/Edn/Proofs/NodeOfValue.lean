import Edn.Construct
import Edn.Proofs.Encodings
import Edn.Proofs.Grammar

/-!
# The node of a value, and back

`Value.toNode` is the one node that a reader of text makes of a value: every atom is encoded, and a
tag is a symbol. Building undoes it for every value that the grammar derives at a depth, with that
depth (`Form.build_toNode`).
-/

namespace Edn

namespace Value

mutual

/-- The node of a value. The reports have nodes only so that the function is total. -/
def toNode : Value → Node
  | endOfInput => .endOfInput
  | error message => .error ⟨.source message, .origin⟩
  | atom kind text => .ofText .utf8 kind text
  | sequence kind items => .sequence kind (toNodes items)
  | dictionary entries => .dictionary (toEntries entries)
  | tagged tag content => .tagged (.ofText .utf8 .symbol tag) (toNode content)
  | wrapped kind content => .wrapped kind (toNode content)

/-- The nodes of values in order. -/
def toNodes : List Value → List Node
  | [] => []
  | value :: values => toNode value :: toNodes values

/-- The nodes of entries in order. -/
def toEntries : List (Value × Value) → List (Node × Node)
  | [] => []
  | (key, value) :: entries => (toNode key, toNode value) :: toEntries entries

end

theorem pairs?_toNodes : ∀ values : List Value,
    pairs? (toNodes values) = (pairs? values).map toEntries
  | [] => rfl
  | [_] => rfl
  | key :: value :: values => by
    have behind := pairs?_toNodes values
    simp only [toNodes, pairs?, behind, Option.map_map]
    congr 1

theorem ofNode_of_error {encoding : Encoding} {depth : Nat} {node : Node}
    {offence : NodeError} (not_end : node ≠ .endOfInput)
    (built : build encoding node depth = .error offence) :
    ofNode encoding depth node = .error offence.message := by
  rw [ofNode, built]
  exact not_end

theorem ofNode_of_ok {encoding : Encoding} {depth : Nat} {node : Node} {value : Value}
    (built : build encoding node depth = .ok value) : ofNode encoding depth node = value := by
  have not_end : node ≠ .endOfInput := by
    rintro rfl
    rw [build] at built
    cases built
  rw [ofNode, built]
  exact not_end

end Value

namespace Grammar

open Value

variable {settings : Settings}

theorem mem_of_pairs? {values : List Value} {entries : List (Value × Value)}
    (paired : pairs? values = some entries) :
    ∀ entry ∈ entries, entry.1 ∈ values ∧ entry.2 ∈ values := by
  induction values using pairs?.induct generalizing entries with
  | case1 =>
    cases paired
    exact nofun
  | case2 => cases paired
  | case3 key value values ih =>
    obtain ⟨others, behind, rfl⟩ := Option.map_eq_some_iff.1 paired
    intro entry among
    rcases List.mem_cons.1 among with rfl | among
    · simp
    · obtain ⟨first, second⟩ := ih behind entry among
      exact ⟨by simp [first], by simp [second]⟩

theorem buildItems_toNodes {depth : Nat} {values : List Value}
    (each : ∀ value ∈ values, build .utf8 value.toNode depth = .ok value) :
    buildItems .utf8 (toNodes values) depth = .ok values := by
  induction values with
  | nil => rfl
  | cons value values ih =>
    obtain ⟨first, others⟩ := List.forall_mem_cons.1 each
    simp only [toNodes, buildItems, first, ih others]
    rfl

theorem buildEntries_toEntries {depth : Nat} {entries : List (Value × Value)}
    (each : ∀ entry ∈ entries, build .utf8 entry.1.toNode depth = .ok entry.1 ∧
      build .utf8 entry.2.toNode depth = .ok entry.2) :
    buildEntries .utf8 (toEntries entries) depth = .ok entries := by
  induction entries with
  | nil => rfl
  | cons entry entries ih =>
    obtain ⟨⟨key, value⟩, others⟩ := List.forall_mem_cons.1 each
    simp only [toEntries, buildEntries, key, value, ih others]
    rfl

mutual

/-- Building the node of a value gives the value, at the depth at which the grammar has it. -/
theorem Form.build_toNode {depth : Nat} {text rest : List Char} {value : Value}
    (form : Form settings depth text value rest) : build .utf8 value.toNode depth = .ok value := by
  match form with
  | .atom _ =>
    simp only [toNode, Node.ofText, build, Encoding.textOf_encode]
  | .sequence _ inside =>
    have items := buildItems_toNodes inside.build_toNode
    simp only [toNode, build, items]
    rfl
  | .dictionary _ inside paired =>
    have each := inside.build_toNode
    have entries := buildEntries_toEntries fun entry among =>
      let ⟨key, value⟩ := mem_of_pairs? paired entry among
      ⟨each _ key, each _ value⟩
    simp only [toNode, build, entries]
    rfl
  | .wrapped _ _ content =>
    have built := content.build_toNode
    simp only [toNode, build, built]
    rfl
  | .tagged _ _ content =>
    have built := content.build_toNode
    simp only [toNode, Node.ofText, build, Encoding.textOf_encode, built]
    rfl

theorem Forms.build_toNode {depth : Nat} {text rest : List Char} {values : List Value}
    (forms : Forms settings depth text values rest) :
    ∀ value ∈ values, build .utf8 value.toNode depth = .ok value := by
  match forms with
  | .nil => exact nofun
  | .gap _ forms => exact forms.build_toNode
  | .form found forms =>
    exact List.forall_mem_cons.2 ⟨found.build_toNode, forms.build_toNode⟩

end

end Grammar

end Edn
