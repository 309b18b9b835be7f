import Edn.Proofs.Diagnosis

/-!
# Streams that fail

A stream that breaks off is never taken for one that ends. The forms in front of the failure are
handed out, and then an error: either the failure itself, at the last character that was delivered,
or a fault of those characters, which any other stream that begins with them has as well
(`Cursor.Extends.node`). So whatever comes of the forms, the last value is an error, and reading
everything gives that error alone.
-/

namespace Edn

open Grammar Reader Value

/-! ## Nodes in front of a failure -/

variable {settings : Settings} {cursor longer after : Cursor}

/-- A stream that fails does not come to its end: behind some forms an error is handed out. -/
theorem Cursor.At.exists_failsAt (settings : Settings) {text : List Char} {error : StreamError}
    (here : cursor.At text (some error)) :
    ∃ index fault, Reader.FailsAt settings cursor index fault := by
  induction size : text.length using Nat.strongRecOn generalizing cursor text with
  | ind _ ih =>
    subst size
    cases first_node settings here with
    | @form value rest after next there read =>
      obtain ⟨index, fault, fails⟩ := ih rest.length next.length_lt there rfl
      exact ⟨index + 1, fault, fails.cons next.not_sentinel read⟩
    | ended quiet _ _ => cases quiet
    | failed _ read => exact ⟨0, _, nofun, congrArg Prod.fst read⟩

/-! ## Streams that go on where another fails -/

namespace Cursor.Extends

variable {more : List (Char × Position)}

/-- The same node is handed out for both streams, unless it is the failure of the first. -/
theorem readNode (extend : Extends more cursor longer)
    (own : ∀ fault, (readNode settings cursor).1 = .error fault → fault.FromText) :
    (readNode settings longer).1 = (readNode settings cursor).1 ∧
      Extends more (readNode settings cursor).2 (readNode settings longer).2 := by
  cases failed : cursor.state.failed with
  | true =>
    have failed' : longer.state.failed = true := by rw [extend.state, failed]
    rw [Reader.readNode, Reader.readNode, if_pos failed, if_pos failed']
    exact ⟨rfl, extend⟩
  | false =>
    have live' : longer.state.failed = false := by rw [extend.state, failed]
    rcases (observes_run settings [] cursor).extends extend with
      ⟨last, fault, after, met, ran⟩ | ⟨same, onward⟩
    · rw [readNode_of_run failed ran] at own
      exact absurd (own fault rfl) (next_failed met)
    · cases ran : run settings [] cursor with
      | mk outcome after =>
        cases ran' : run settings [] longer with
        | mk outcome' after' =>
          rw [ran, ran'] at same onward
          obtain rfl : outcome' = outcome := same
          rw [readNode_of_run failed ran, readNode_of_run live' ran']
          rcases outcome' with fault | _ | node
          · refine ⟨rfl, ?_, onward.rest, onward.live, onward.fails⟩
            rw [onward.state]
          · exact ⟨rfl, onward⟩
          · exact ⟨rfl, onward⟩

/-- As long as the failure of the first stream is not reported, the same nodes are handed out for
both. -/
theorem node {index : Nat} (extend : Extends more cursor longer)
    (own : ∀ k ≤ index, ∀ fault, Reader.node settings cursor k = .error fault → fault.FromText) :
    ∀ k ≤ index, Reader.node settings longer k = Reader.node settings cursor k := by
  induction index generalizing cursor longer with
  | zero =>
    intro k le
    obtain rfl := Nat.le_zero.1 le
    exact (extend.readNode (own 0 le)).1
  | succ index ih =>
    obtain ⟨same, onward⟩ := extend.readNode (own 0 (Nat.zero_le _))
    intro k le
    cases k with
    | zero => exact same
    | succ k =>
      refine ih onward (fun k le => own (k + 1) (Nat.succ_le_succ le)) k ?_
      exact Nat.le_of_succ_le_succ le

end Cursor.Extends

theorem Cursor.extends_fresh {chars longer : CharStream} {more : List (Char × Position)}
    (fails : chars.failure ≠ none) (begins : chars.rest ++ more = longer.rest) :
    Extends more ⟨chars, .fresh⟩ ⟨longer, .fresh⟩ :=
  ⟨rfl, begins.symm, rfl, fails⟩

/-! ## Whole streams -/

/-- The place of the last character of a text. -/
theorem Position.getLast?_number (text : List Char) :
    ((origin.number text).getLast?.map Prod.snd).getD origin = behind text.dropLast := by
  rcases List.eq_nil_or_concat' text with rfl | ⟨front, c, rfl⟩
  · rfl
  · have numbered := number_behind [] (front ++ [c])
    rw [show behind [] = origin from rfl] at numbered
    rw [numbered, List.getLast?_mapIdx]
    simp

theorem Position.mem_number (before : List Char) (c : Char) (rest : List Char) :
    (c, behind before) ∈ origin.number (before ++ c :: rest) := by
  have numbered := number_behind [] (before ++ c :: rest)
  rw [show behind [] = origin from rfl] at numbered
  rw [numbered, List.mem_mapIdx]
  exact ⟨before.length, by simp, by simp⟩

theorem HasFault.not_ended {text : List Char} {error : StreamError} {fault : Fault}
    (has : HasFault settings text (some error) fault) :
    (∀ closing, fault.error ≠ .prematureEnd closing) ∧ fault.error ≠ .unterminatedString := by
  cases has with
  | prematureEnd quiet _ _ _ => cases quiet
  | unterminatedString quiet _ _ => cases quiet
  | badEscape _ bad => cases bad <;> exact ⟨nofun, nofun⟩
  | _ => exact ⟨nofun, nofun⟩

/-- A fault is the failure behind the text, or lies in the text. -/
theorem HasFault.stream_or_fromText {text : List Char} {error : StreamError} {fault : Fault}
    (has : HasFault settings text (some error) fault) :
    fault = ⟨.stream error, .behind text.dropLast⟩ ∨ fault.FromText := by
  cases has with
  | stream failing =>
    cases failing
    exact Or.inl rfl
  | badEscape _ bad => cases bad <;> exact Or.inr (fun _ => nofun)
  | _ => exact Or.inr (fun _ => nofun)

/-- A stream that breaks off is never taken for one that ends. Reading everything gives the error
alone, and the iterator stops with the error. The first error that the reader hands out is the
failure, at the last character delivered, or a fault of the characters in front of the failure, at
one of these: the same nodes are handed out up to there for every stream that begins with them. -/
theorem ofDeliveries_of_failure (settings : Settings) (deliveries : List Delivery)
    (error : StreamError) (fails : (CharStream.ofDeliveries deliveries).failure = some error) :
    Document.ofDeliveries settings deliveries = [.error "error encountered while parsing"] ∧
    (∀ origin limit, (CharStream.ofDeliveries deliveries).rest.length < limit → ∃ values,
      ((Session.ofStream settings settings origin (.ofDeliveries deliveries)).collect limit).1 =
        values ++ [.error "error encountered while parsing"] ∧
      ∀ value ∈ values, value.isSentinel = false) ∧
    ∃ index fault,
      Reader.node settings ⟨.ofDeliveries deliveries, .fresh⟩ index = .error fault ∧
      (∀ k < index, ∃ value, value.isSentinel = false ∧
        Reader.node settings ⟨.ofDeliveries deliveries, .fresh⟩ k = toNode value) ∧
      (∀ closing, fault.error ≠ .prematureEnd closing) ∧ fault.error ≠ .unterminatedString ∧
      (fault = ⟨.stream error, ((CharStream.ofDeliveries deliveries).rest.getLast?.map
          Prod.snd).getD .origin⟩ ∨
        fault.FromText ∧
          (∃ c, (c, fault.position) ∈ (CharStream.ofDeliveries deliveries).rest) ∧
          ∀ longer : CharStream, (CharStream.ofDeliveries deliveries).rest <+: longer.rest →
            ∀ k ≤ index, Reader.node settings ⟨longer, .fresh⟩ k =
              Reader.node settings ⟨.ofDeliveries deliveries, .fresh⟩ k) := by
  obtain ⟨text, same⟩ := CharStream.exists_ofDeliveries_eq deliveries
  rw [fails] at same
  rw [Document.ofDeliveries, same]
  have here : Cursor.At ⟨{ CharStream.ofText text with failure := some error }, .fresh⟩ text
      (some error) := (Cursor.stands_fresh rfl).here
  have before (origin : Origin) : (Session.ofStream settings settings origin
      { CharStream.ofText text with failure := some error }).Before settings text (some error) :=
    ⟨rfl, rfl, rfl, here⟩
  obtain ⟨index, fault, fails⟩ := here.exists_failsAt settings
  refine ⟨?_, ?_, ?_⟩
  · obtain ⟨last, all, -⟩ := Session.readAllAfter_resumed none [] here fails
      (before Session.unnamed).length_lt_limit
    exact congrArg Prod.fst all
  · intro origin limit enough
    have size : (CharStream.ofText text).rest.length = text.length := here.length_eq.symm
    exact Session.collect_resumed none here fails (by rwa [← size])
  · obtain ⟨sound, failed⟩ := fails
    have has : HasFault settings text (some error) fault :=
      ((Reader.between_fresh settings text (some error)).afterNodes index).readNode.2 fault failed
    refine ⟨index, fault, failed, sound, has.not_ended.1, has.not_ended.2, ?_⟩
    rcases has.stream_or_fromText with rfl | plain
    · rw [show (CharStream.ofText text).rest = Position.origin.number text from rfl,
        Position.getLast?_number]
      exact Or.inl rfl
    · obtain ⟨front, c, rest, split, place⟩ := has.located plain
      have delivered : (c, fault.position) ∈ (CharStream.ofText text).rest := by
        rw [split, place]
        exact Position.mem_number front c rest
      refine Or.inr ⟨plain, ⟨c, delivered⟩, fun longer begins => ?_⟩
      obtain ⟨more, begins⟩ := begins
      have fails : some error ≠ none := Option.some_ne_none error
      apply (Cursor.extends_fresh fails begins).node
      intro k le other reported
      rcases Nat.lt_or_eq_of_le le with lt | rfl
      · obtain ⟨value, data, same⟩ := sound k lt
        exact absurd (same.symm.trans reported) (toNode_ne_error data)
      · cases failed.symm.trans reported
        exact plain

theorem ofDeliveries_of_failure_interrupted :
    let deliveries := [Delivery.bytes (Utf8.encode "#_a \"b".toList),
      .failure (.ofKind .interrupted)]
    (CharStream.ofDeliveries deliveries).failure = some (.io (.ofKind .interrupted)) ∧
      Document.ofDeliveries .clojure deliveries = [.error "error encountered while parsing"] := by
  intro deliveries
  have fails : (CharStream.ofDeliveries deliveries).failure =
      some (.io (.ofKind .interrupted)) := by decide +kernel
  exact ⟨fails, (ofDeliveries_of_failure .clojure deliveries _ fails).1⟩

end Edn
