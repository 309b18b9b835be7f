import Edn.Writer

/-!
# What a sink has taken when writing stops

Text is handed to a sink piece by piece, and of each piece the sink takes portions of its own
choosing. None of this can be told afterwards. If there is room for all of the text, the sink ends
up with all of it; if not, with as much as there was room for, wherever inside a piece or a
character that may end, and the failure is reported. `Sink.Outcome` says so of one text, and texts
that are written one after another keep to it together (`Sink.Outcome.append`). What
`Sink.writeValues` does follows, for a sink with room for a number of bytes
(`Sink.writeValues_of_room`) and for one without limit.
-/

namespace Edn

namespace Sink

/-! ## How writing may go -/

/-- There is room for so many bytes. -/
def Fits (sink : Sink) (size : Nat) : Prop :=
  ∀ room, sink.room = some room → size ≤ room

/-- The sink has taken the bytes and is else as before, except for the portions that are left. -/
def Took (sink : Sink) (data : List UInt8) (after : Sink) : Prop :=
  ∃ portions, after = { sink with
    taken := sink.taken ++ data
    room := sink.room.map (· - data.length)
    portions := portions }

/-- What writing fails with if there is too little room: the fault of the sink, unless it has none
or that is only an interruption. -/
def shortage (sink : Sink) : IoError :=
  match sink.fault with
  | none => .nothingWritten
  | some fault => if fault.kind = .interrupted then .nothingWritten else fault

section

variable {sink : Sink} {error : IoError}

theorem shortage_of_no_fault (no_fault : sink.fault = none) :
    sink.shortage = .nothingWritten := by
  rw [shortage, no_fault]

theorem shortage_of_interrupted (fault : sink.fault = some error)
    (interrupted : error.kind = .interrupted) : sink.shortage = .nothingWritten := by
  rw [shortage, fault]
  exact if_pos interrupted

theorem shortage_of_lasting (fault : sink.fault = some error)
    (lasting : error.kind ≠ .interrupted) : sink.shortage = error := by
  rw [shortage, fault]
  exact if_neg lasting

end

/-- How writing the bytes may go. -/
inductive Outcome (sink : Sink) (data : List UInt8) : Except IoError Unit × Sink → Prop
  | whole {after : Sink} : sink.Fits data.length → sink.Took data after →
    Outcome sink data (.ok (), after)
  | short {room : Nat} {after : Sink} : sink.room = some room → room < data.length →
    after.taken = sink.taken ++ data.take room → after.flushes = sink.flushes →
    Outcome sink data (.error sink.shortage, after)

section

variable {sink middle after : Sink} {first second : List UInt8}

theorem Took.refl (sink : Sink) : sink.Took [] sink := by
  refine ⟨sink.portions, ?_⟩
  rw [List.append_nil]
  cases sink with
  | mk taken room portions fault flushFault flushes => cases room <;> rfl

theorem Took.trans (front : sink.Took first middle) (back : middle.Took second after) :
    sink.Took (first ++ second) after := by
  rcases front with ⟨_, rfl⟩
  rcases back with ⟨portions, rfl⟩
  refine ⟨portions, ?_⟩
  simp only [List.append_assoc, List.length_append, Option.map_map, Function.comp_def,
    Nat.sub_add_eq]

theorem Took.taken_eq (took : sink.Took first after) : after.taken = sink.taken ++ first := by
  rcases took with ⟨_, rfl⟩
  rfl

theorem Took.flushes_eq (took : sink.Took first after) : after.flushes = sink.flushes := by
  rcases took with ⟨_, rfl⟩
  rfl

theorem Took.shortage_eq (took : sink.Took first after) : after.shortage = sink.shortage := by
  rcases took with ⟨_, rfl⟩
  rfl

theorem Took.limit_of_room {room : Nat} (took : sink.Took first after)
    (fits : sink.Fits first.length) (limited : after.room = some room) :
    ∃ limit, sink.room = some limit ∧ limit = first.length + room := by
  rcases took with ⟨_, rfl⟩
  rcases Option.map_eq_some_iff.1 limited with ⟨limit, limited_first, left⟩
  have enough := fits limit limited_first
  exact ⟨limit, limited_first, by omega⟩

/-- What comes after the first bytes fits just if all of it would have. -/
theorem Took.fits_iff (took : sink.Took first after) (fits : sink.Fits first.length) {size : Nat} :
    after.Fits size ↔ sink.Fits (first.length + size) := by
  rcases took with ⟨_, rfl⟩
  cases limited : sink.room with
  | none => simp [Fits, limited]
  | some room =>
    have enough := fits room limited
    simp only [Fits, limited, Option.map_some, Option.some.injEq, forall_eq']
    omega

/-- Writing one text and then, if that went well, another comes to the same as writing both as
one. -/
theorem Outcome.append {result : Except IoError Unit × Sink}
    {next : Sink → Except IoError Unit × Sink} (front : sink.Outcome first result)
    (back : ∀ after, result = (.ok (), after) → after.Outcome second (next after)) :
    sink.Outcome (first ++ second) (proceed next result) := by
  cases front with
  | @whole middle fits took =>
    -- The room that is left for the second text is counted from behind the first.
    have rest := back middle rfl
    show sink.Outcome (first ++ second) (next middle)
    generalize next middle = result at rest
    cases rest with
    | whole fits_second took_second =>
      apply Outcome.whole
      · rw [List.length_append]
        exact (took.fits_iff fits).1 fits_second
      · exact took.trans took_second
    | @short room after limited more taken flushes =>
      rcases took.limit_of_room fits limited with ⟨_, limited_first, rfl⟩
      rw [took.shortage_eq]
      apply Outcome.short limited_first
      · rw [List.length_append]
        omega
      · rw [taken, took.taken_eq, List.append_assoc, List.take_length_add_append]
      · rw [flushes, took.flushes_eq]
  | @short room after limited more taken flushes =>
    apply Outcome.short limited
    · rw [List.length_append]
      omega
    · rw [taken, List.take_append_of_le_length (Nat.le_of_lt more)]
    · exact flushes

end

/-! ## One write -/

/-- What one write of some bytes may come to: a part is taken, or there is no room. -/
inductive Wrote (sink : Sink) (data : List UInt8) : Except IoError Nat × Sink → Prop
  | part {count : Nat} {after : Sink} : count < data.length → sink.Fits (count + 1) →
    sink.Took (data.take (count + 1)) after → Wrote sink data (.ok (count + 1), after)
  | full {after : Sink} : sink.room = some 0 → sink.fault = none → sink.Took [] after →
    Wrote sink data (.ok 0, after)
  | failed {error : IoError} : sink.room = some 0 → sink.fault = some error →
    Wrote sink data (.error error, { sink with fault := none })

theorem share_le_length (sink : Sink) (size : Nat) : sink.share size ≤ size := by
  unfold share
  cases sink.portions <;> dsimp only <;> omega

theorem share_fits (sink : Sink) (size : Nat) : sink.Fits (sink.share size) := by
  intro room limited
  unfold share
  rw [limited, Option.getD_some]
  cases sink.portions <;> dsimp only <;> omega

theorem share_pos {sink : Sink} {size : Nat} (not_full : sink.room ≠ some 0)
    (some_bytes : 0 < size) : 0 < sink.share size := by
  unfold share
  cases limited : sink.room with
  | none => cases sink.portions <;> simp only [Option.getD_none] <;> omega
  | some room =>
    have : room ≠ 0 := fun none_left => not_full (none_left ▸ limited)
    cases sink.portions <;> simp only [Option.getD_some] <;> omega

theorem wrote_write (sink : Sink) {data : List UInt8} (some_bytes : data ≠ []) :
    sink.Wrote data (sink.write data) := by
  unfold write
  split
  · next error full fault => exact .failed full fault
  · next sound =>
    have within := sink.share_le_length data.length
    have fits := sink.share_fits data.length
    have positive (not_full : sink.room ≠ some 0) : 0 < sink.share data.length :=
      share_pos not_full (List.length_pos_iff.2 some_bytes)
    generalize sink.share data.length = count at within fits positive ⊢
    have took : sink.Took (data.take count) { sink with
        taken := sink.taken ++ data.take count
        room := sink.room.map (· - count)
        portions := sink.portions.tail } := by
      refine ⟨sink.portions.tail, ?_⟩
      rw [List.length_take, Nat.min_eq_left within]
    cases count with
    | zero =>
      have full : sink.room = some 0 := Decidable.byContradiction fun not_full =>
        Nat.lt_irrefl 0 (positive not_full)
      have no_fault : sink.fault = none :=
        Option.eq_none_iff_forall_ne_some.2 fun error => sound error full
      exact .full full no_fault took
    | succ count => exact .part within fits took

/-! ## Writing until everything is taken -/

theorem outcome_writeAll (sink : Sink) (data : List UInt8) :
    sink.Outcome data (sink.writeAll data) := by
  fun_induction writeAll sink data with
  | case1 sink => exact .whole (fun _ _ => Nat.zero_le _) (.refl sink)
  | case2 sink data some_bytes error after wrote interrupted ih =>
    -- The interruption has used up the fault, so the write that is tried again takes nothing.
    cases wrote ▸ sink.wrote_write some_bytes with
    | failed full fault =>
      generalize writeAll _ data = result at ih
      cases ih with
      | whole fits _ => exact absurd (fits 0 full) (Nat.not_le.2 (List.length_pos_iff.2 some_bytes))
      | short limited more taken flushes =>
        have short : sink.Outcome data (.error sink.shortage, _) :=
          .short limited more taken flushes
        rwa [shortage_of_interrupted fault interrupted] at short
  | case3 sink data some_bytes error after wrote lasting =>
    cases wrote ▸ sink.wrote_write some_bytes with
    | failed full fault =>
      rw [← shortage_of_lasting fault lasting]
      exact .short full (List.length_pos_iff.2 some_bytes) (List.append_nil _).symm rfl
  | case4 sink data some_bytes after wrote =>
    cases wrote ▸ sink.wrote_write some_bytes with
    | full full no_fault took =>
      rw [← shortage_of_no_fault no_fault]
      exact .short full (List.length_pos_iff.2 some_bytes) took.taken_eq took.flushes_eq
  | case5 sink data some_bytes count after wrote ih =>
    cases wrote ▸ sink.wrote_write some_bytes with
    | part within fits took =>
      have front : sink.Outcome (data.take (count + 1)) (.ok (), after) := by
        apply Outcome.whole _ took
        rwa [List.length_take_of_le within]
      have both : sink.Outcome (data.take (count + 1) ++ data.drop (count + 1))
          (proceed (writeAll · (data.drop (count + 1))) (.ok (), after)) := by
        apply front.append
        intro _ same
        cases same
        exact ih
      rwa [List.take_append_drop] at both

theorem outcome_writePieces (sink : Sink) (pieces : List (List Char)) :
    sink.Outcome (Utf8.encode pieces.flatten) (sink.writePieces pieces) := by
  induction pieces generalizing sink with
  | nil => exact .whole (fun _ _ => Nat.zero_le _) (.refl sink)
  | cons piece pieces ih =>
    rw [List.flatten_cons, Utf8.encode_append]
    exact (sink.outcome_writeAll (Utf8.encode piece)).append fun after _ => ih after

theorem outcome_writeLines (sink : Sink) (values : List Value) :
    sink.Outcome (Utf8.encode (Value.lines values)) (sink.writeLines values) := by
  induction values generalizing sink with
  | nil => exact .whole (fun _ _ => Nat.zero_le _) (.refl sink)
  | cons value values ih =>
    have line := sink.outcome_writePieces (value.pieces ++ [['\n']])
    rw [List.flatten_append, Value.flatten_pieces, List.flatten_singleton] at line
    rw [Value.lines, List.flatMap_cons, Utf8.encode_append]
    exact line.append fun after _ => ih after

/-! ## Writing values -/

theorem taken_flush (sink : Sink) : sink.flush.2.taken = sink.taken := by
  unfold flush
  cases sink.flushFault <;> rfl

theorem flushes_flush (sink : Sink) : sink.flush.2.flushes = sink.flushes + 1 := by
  unfold flush
  cases sink.flushFault <;> rfl

theorem writeValues_of_fits {sink : Sink} {values : List Value}
    (fits : sink.Fits (Utf8.encode (Value.lines values)).length) :
    ∃ full, sink.Took (Utf8.encode (Value.lines values)) full ∧
      sink.writeValues values = full.flush := by
  have written := sink.outcome_writeLines values
  rw [writeValues]
  generalize sink.writeLines values = result at written ⊢
  cases written with
  | whole _ took => exact ⟨_, took, rfl⟩
  | short limited more _ _ => exact absurd (fits _ limited) (Nat.not_le.2 more)

theorem writeValues_of_short {sink : Sink} {room : Nat} {values : List Value}
    (limited : sink.room = some room) (more : room < (Utf8.encode (Value.lines values)).length) :
    ∃ after, after.taken = sink.taken ++ (Utf8.encode (Value.lines values)).take room ∧
      after.flushes = sink.flushes ∧ sink.writeValues values = (.error sink.shortage, after) := by
  have written := sink.outcome_writeLines values
  rw [writeValues]
  generalize sink.writeLines values = result at written ⊢
  cases written with
  | whole fits _ => exact absurd (fits room limited) (Nat.not_le.2 more)
  | @short limit after limited_again _ taken flushes =>
    obtain rfl : room = limit := Option.some.inj (limited.symm.trans limited_again)
    exact ⟨after, taken, flushes, rfl⟩

/-- What is written to a sink with room for a number of bytes. The sink takes as many bytes of the
text as it has room for, in whatever portions it takes them. If that is all of them it is flushed
once, when it has them, and the outcome is that of the flush. If not it is not flushed, and the
outcome is an error: the fault of the sink, or that nothing was written, where the sink has no fault
or the fault is an interruption, after which writing is tried again. -/
theorem writeValues_of_room {sink : Sink} {room : Nat} (limited : sink.room = some room)
    (values : List Value) :
    let bytes := Utf8.encode (Value.lines values)
    let (outcome, after) := sink.writeValues values
    after.taken = sink.taken ++ bytes.take room ∧
    (bytes.length ≤ room → after.flushes = sink.flushes + 1 ∧
      ∃ full, sink.Took bytes full ∧ (outcome, after) = full.flush) ∧
    (room < bytes.length → after.flushes = sink.flushes ∧ outcome = .error sink.shortage) := by
  intro bytes
  rcases Nat.lt_or_ge room bytes.length with more | enough
  · rcases writeValues_of_short limited more with ⟨after, taken, flushes, written⟩
    rw [written]
    exact ⟨taken, fun enough => absurd more (Nat.not_lt.2 enough), fun _ => ⟨flushes, rfl⟩⟩
  · have fits : sink.Fits bytes.length := by
      intro limit limited_again
      rwa [← Option.some.inj (limited.symm.trans limited_again)]
    rcases writeValues_of_fits fits with ⟨full, took, written⟩
    rw [written]
    refine ⟨?_, fun _ => ⟨?_, full, took, rfl⟩, fun more => absurd more (Nat.not_lt.2 enough)⟩
    · apply (taken_flush full).trans
      rw [took.taken_eq, List.take_of_length_le enough]
    · apply (flushes_flush full).trans
      rw [took.flushes_eq]

/-- There is room for half of the second character, and the write behind it is interrupted once. -/
theorem writeValues_inside_character :
    let sink : Sink := ⟨[], some 2, [1], some (.ofKind .interrupted), none, 0⟩
    let (outcome, after) := sink.writeValues [.atom .keyword "é"]
    after.taken = [0x3A, 0xC3] ∧ after.flushes = 0 ∧ outcome = .error .nothingWritten := by
  intro sink
  have limited : sink.room = some 2 := rfl
  rcases writeValues_of_room limited [.atom .keyword "é"] with ⟨taken, -, short⟩
  rcases short (by decide) with ⟨flushes, outcome⟩
  exact ⟨taken, flushes, outcome⟩

/-! ## A sink without limit -/

theorem fits_of_free {sink : Sink} (free : sink.room = none) (size : Nat) : sink.Fits size :=
  fun _ limited => nomatch free.symm.trans limited

/-- A sink without limit takes the lines of all values. -/
theorem taken_writeValues {sink : Sink} (free : sink.room = none) (values : List Value) :
    (sink.writeValues values).2.taken = sink.taken ++ Utf8.encode (Value.lines values) := by
  have fits := fits_of_free free (Utf8.encode (Value.lines values)).length
  rcases writeValues_of_fits fits with ⟨full, took, written⟩
  rw [written, taken_flush, took.taken_eq]

end Sink

end Edn
