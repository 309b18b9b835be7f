import Edn.Proofs.Releasing

/-!
# Reading up to the first report

Read again and again, a session brings data until it brings a report, if it ever does. That run is
`Session.ReadsTo`, whatever the source is. The iterator shows its values and the report, unless
that is the end (`Session.ReadsTo.collect`); reading everything gives the values, or the report
alone if that is an error (`Session.ReadsTo.readAllAfter`). Both leave the session that the run
leaves, so they have taken the same nodes from the source.
-/

namespace Edn

/-- What becomes of the values in front of a report when everything is read. -/
def Value.conclude (values : List Value) : Value → List Value
  | error message => [error message]
  | _ => values

namespace Session

variable {σ : Type} {session after : Session σ} {values : List Value} {report : Value}

/-- Read again and again, the session brings these values, which are data, and then this report; it
is then the last session. -/
inductive ReadsTo : Session σ → List Value → Value → Session σ → Prop
  | report {session after : Session σ} {report : Value} : session.readNext = (report, after) →
    report.isSentinel = true → ReadsTo session [] report after
  | data {session onward after : Session σ} {value report : Value} {values : List Value} :
    session.readNext = (value, onward) → value.isSentinel = false →
    ReadsTo onward values report after → ReadsTo session (value :: values) report after

/-- A session that brings a report at some time brings a first one. -/
theorem exists_readsTo {count : Nat} {session : Session σ}
    (reported : (session.afterReads count).readNext.1.isSentinel = true) :
    ∃ values report after, ReadsTo session values report after ∧ values.length ≤ count := by
  induction count generalizing session with
  | zero => exact ⟨_, _, _, .report rfl reported, Nat.le_refl 0⟩
  | succ count ih =>
    cases first : session.readNext.1.isSentinel with
    | true => exact ⟨_, _, _, .report rfl first, Nat.zero_le _⟩
    | false =>
      obtain ⟨values, report, after, reads, short⟩ := ih reported
      exact ⟨_, _, _, .data rfl first reads, Nat.succ_le_succ short⟩

namespace ReadsTo

theorem data_values (reads : ReadsTo session values report after) :
    ∀ value ∈ values, value.isSentinel = false := by
  induction reads with
  | report _ _ => exact List.forall_mem_nil _
  | data _ data _ ih => exact List.forall_mem_cons.2 ⟨data, ih⟩

theorem isSentinel_report (reads : ReadsTo session values report after) :
    report.isSentinel = true := by
  induction reads with
  | report _ reported => exact reported
  | data _ _ _ ih => exact ih

/-- The values are those of the first readings, and the report is that of the one after them. -/
theorem value_at (reads : ReadsTo session values report after) :
    (∀ k value, values[k]? = some value → (session.afterReads k).readNext.1 = value) ∧
      (session.afterReads values.length).readNext.1 = report := by
  induction reads with
  | report read _ => exact ⟨nofun, congrArg Prod.fst read⟩
  | data read _ _ ih =>
    obtain ⟨others, last⟩ := ih
    rw [List.length_cons, afterReads, read]
    refine ⟨fun k value at_k => ?_, last⟩
    cases k with
    | zero => exact (congrArg Prod.fst read).trans (Option.some.inj at_k)
    | succ k =>
      rw [afterReads, read]
      exact others k value at_k

/-- The iterator shows the values, and then the report, unless it is the end. -/
theorem collect {limit : Nat} (reads : ReadsTo session values report after)
    (live : session.done = false) (enough : values.length < limit) :
    session.collect limit = (values ++ report.shown?.toList, { after with done := true }) := by
  obtain ⟨limit, rfl⟩ := Nat.exists_eq_add_one_of_ne_zero (Nat.ne_zero_of_lt enough)
  induction reads generalizing limit with
  | @report session after report read reported =>
    rw [Session.collect, next_of_live live, read, reported]
    cases report.shown? with
    | none => rfl
    | some value =>
      have stopped : ({ after with done := true } : Session σ).collect limit =
          ([], { after with done := true }) := by
        cases limit <;> rfl
      simp only [stopped]
      rfl
  | @data session onward after value report values read data _ ih =>
    obtain rfl : session.readNext.2 = onward := congrArg Prod.snd read
    have rest : values.length < limit := Nat.lt_of_succ_lt_succ enough
    obtain ⟨limit, rfl⟩ := Nat.exists_eq_add_one_of_ne_zero (Nat.ne_zero_of_lt rest)
    rw [Session.collect, next_of_data live (by rwa [read]), read]
    simp only [ih live limit rest, List.cons_append]

/-- Reading everything gives the values, or the report alone if it is an error. -/
theorem readAllAfter {limit : Nat} (before : List Value)
    (reads : ReadsTo session values report after) (enough : values.length < limit) :
    session.readAllAfter limit before = (report.conclude (before.reverse ++ values), after) := by
  obtain ⟨limit, rfl⟩ := Nat.exists_eq_add_one_of_ne_zero (Nat.ne_zero_of_lt enough)
  induction reads generalizing limit before with
  | @report session after report read reported =>
    rw [Session.readAllAfter, List.append_nil, read]
    cases report <;> first | rfl | cases reported
  | @data session onward after value report values read data _ ih =>
    have rest : values.length < limit := Nat.lt_of_succ_lt_succ enough
    obtain ⟨limit, rfl⟩ := Nat.exists_eq_add_one_of_ne_zero (Nat.ne_zero_of_lt rest)
    rw [readAllAfter_of_data _ (by rwa [read]), read, ih _ limit rest, List.reverse_cons,
      List.append_assoc, List.singleton_append]

/-- Keeping a record of what passes to and from the source changes nothing, and in the record is
one node for every value and one for the report. -/
theorem recorded (record : List Exchange) (reads : ReadsTo session values report after) :
    ReadsTo (session.recorded record) values report
      (after.recorded (record ++ (session.nodes (values.length + 1)).flatMap Exchange.loan)) := by
  induction reads generalizing record with
  | @report session after report read reported =>
    refine .report ?_ reported
    rw [readNext_recorded, read, List.length_nil, nodes, nodes, List.flatMap_singleton]
  | @data session onward after value report values read data _ ih =>
    obtain rfl : session.readNext.2 = onward := congrArg Prod.snd read
    have step := session.readNext_recorded record
    rw [show session.readNext.1 = value from congrArg Prod.fst read] at step
    have others := ih (record ++ Exchange.loan session.nextNode)
    rw [List.append_assoc, ← List.flatMap_cons, ← nodes] at others
    exact .data step data others

end ReadsTo

/-! ## Collecting and reading everything -/

/-- What the iterator shows ends with an error just if the report is one, and then reading
everything gives that error alone; otherwise it gives what the iterator shows. -/
theorem conclude_of_shown (data : ∀ value ∈ values, value.isSentinel = false)
    (reported : report.isSentinel = true) :
    (∀ others message, values ++ report.shown?.toList = others ++ [.error message] →
      report.conclude values = [.error message]) ∧
    ((∀ others message, values ++ report.shown?.toList ≠ others ++ [.error message]) →
      report.conclude values = values ++ report.shown?.toList) ∧
    .endOfInput ∉ report.conclude values ∧
    ∀ message, .error message ∈ report.conclude values →
      report.conclude values = [.error message] := by
  cases report with
  | endOfInput =>
    have shown : values ++ Value.endOfInput.shown?.toList = values := List.append_nil values
    have concluded : Value.endOfInput.conclude values = values := rfl
    have no_error (message : String) (among : .error message ∈ values) : False :=
      absurd (data _ among) Bool.noConfusion
    rw [shown, concluded]
    refine ⟨?_, fun _ => rfl, ?_, fun message among => (no_error message among).elim⟩
    · intro others message same
      subst same
      exact (no_error message (List.mem_append_right others (List.mem_singleton.2 rfl))).elim
    · intro among
      exact absurd (data _ among) Bool.noConfusion
  | error message =>
    have shown : (Value.error message).shown?.toList = [.error message] := rfl
    have concluded : (Value.error message).conclude values = [.error message] := rfl
    rw [shown, concluded]
    refine ⟨?_, fun other => (other values message rfl).elim, ?_, ?_⟩
    · intro others message' same
      exact (List.append_inj' same rfl).2
    · intro among
      cases List.mem_singleton.1 among
    · intro message' among
      rw [List.mem_singleton.1 among]
  | _ => cases reported

/-- A session that brings a report at some time, whatever its source is, gives the same values all
at once as one after another. If what the iterator shows ends with an error, reading everything
gives that error alone, and otherwise what the iterator shows; so the end is never among the values,
and an error only by itself. Both take from the source the nodes of the data and the one that makes
the first report, and none behind it. -/
theorem readAll_eq_collect (source : NodeSource σ) (state : σ) (chars : CharStream)
    (origin : Origin) (maxDepth count limit : Nat)
    (reported : ((start source state chars origin maxDepth).afterReads count).readNext.1.isSentinel
      = true) (enough : count < limit) :
    let session := start source state chars origin maxDepth
    let kept := start source.recorded ⟨state, []⟩ chars origin maxDepth
    let collected := (session.collect limit).1
    let all := (session.readAll limit).1
    (∀ values message, collected = values ++ [.error message] → all = [.error message]) ∧
    ((∀ values message, collected ≠ values ++ [.error message]) → all = collected) ∧
    (.endOfInput ∉ all ∧ ∀ message, .error message ∈ all → all = [.error message]) ∧
    ((kept.collect limit).1 = collected ∧ (kept.readAll limit).1 = all) ∧
    ∃ values report,
      (∀ k value, values[k]? = some value →
        (session.afterReads k).readNext.1 = value ∧ value.isSentinel = false) ∧
      (session.afterReads values.length).readNext.1 = report ∧ report.isSentinel = true ∧
      collected = values ++ report.shown?.toList ∧
      (kept.collect limit).2.state.handed = session.nodes (values.length + 1) ∧
      (kept.readAll limit).2.state.handed = session.nodes (values.length + 1) := by
  intro session kept collected all
  obtain ⟨values, report, after, reads, short⟩ := exists_readsTo reported
  have reads' : kept.ReadsTo values report _ := reads.recorded []
  have enough : values.length < limit := Nat.lt_of_le_of_lt short enough
  obtain ⟨with_error, without_error, no_end, alone⟩ :=
    conclude_of_shown reads.data_values reads.isSentinel_report
  obtain ⟨value_at, last⟩ := reads.value_at
  have collect := reads.collect rfl enough
  have readAll := reads.readAllAfter [] enough
  have collect' := reads'.collect rfl enough
  have readAll' := reads'.readAllAfter [] enough
  have shown : collected = values ++ report.shown?.toList := congrArg Prod.fst collect
  have concluded : all = report.conclude values := congrArg Prod.fst readAll
  have shown' : (kept.collect limit).1 = collected := (congrArg Prod.fst collect').trans shown.symm
  have concluded' : (kept.readAll limit).1 = all :=
    (congrArg Prod.fst readAll').trans concluded.symm
  rw [← shown, ← concluded] at with_error without_error
  rw [← concluded] at no_end alone
  refine ⟨with_error, without_error, ⟨no_end, alone⟩, ⟨shown', concluded'⟩, values, report, ?_,
    last, reads.isSentinel_report, shown, ?_, ?_⟩
  · intro k value at_k
    exact ⟨value_at k value at_k, reads.data_values value (List.mem_of_getElem? at_k)⟩
  · have left : (kept.collect limit).2 = _ := congrArg Prod.snd collect'
    rw [left]
    exact Exchange.filterMap_handed?_loans _
  · have left : (kept.readAll limit).2 = _ := congrArg Prod.snd readAll'
    rw [left]
    exact Exchange.filterMap_handed?_loans _

/-- The error stands inside a form, and the source would go on behind it. -/
theorem readAll_eq_collect_nested :
    let tape := NodeTape.ofNodes [.ofText .utf32le .integer "1",
      .sequence .list [.error ⟨.source "boom", .origin⟩], .ofText .utf32le .integer "2"]
    let session := start (.ofList .utf32le) tape (.ofText []) unnamed 200
    (session.afterReads 1).readNext.1.isSentinel = true ∧ 1 < 5 ∧
      (session.collect 5).1 = [.atom .integer "1", .error "error encountered while parsing"] ∧
      (session.readAll 5).1 = [.error "error encountered while parsing"] := by
  intro tape session
  have reported : (session.afterReads 1).readNext.1.isSentinel = true := by decide +kernel
  have enough : 1 < 5 := by decide
  have shown : (session.collect 5).1 =
      [.atom .integer "1"] ++ [.error "error encountered while parsing"] := by decide +kernel
  obtain ⟨alone, -⟩ := readAll_eq_collect _ _ _ _ _ 1 5 reported enough
  exact ⟨reported, enough, shown, alone _ _ shown⟩

end Session

end Edn
