import Edn.Proofs.Utf8
import Edn.Stream.CharStream
import Mathlib.Data.List.Induction

/-!
# What a stream of characters owes to the bytes, and that it owes nothing to how they arrive

A decoder sees one buffer after another and may have to hold back the first bytes of a character.
`Decoder.decode_eq` says that what it hands out is what validating all bytes at once finds; the
last theorem says the same of the answers of a stream, one by one, and without the decoder: the
longest text whose encoding the bytes begin with, each character with its line and column, then the
failure that what stands behind the text calls for, if any, and from there on nothing but the end.
-/

namespace Edn

/-! ## How bytes arrive -/

/-- The deliveries bring the bytes, in chunks that are not empty, and then the end of the input or
a failure. What comes after that is never read. -/
inductive Delivery.Bring : List Delivery → List UInt8 → Option IoError → Prop
  | finished : Bring [] [] none
  | endOfInput (later : List Delivery) : Bring (.bytes [] :: later) [] none
  | failure (error : IoError) (later : List Delivery) :
    Bring (.failure error :: later) [] (some error)
  | chunk {data bytes : List UInt8} {deliveries : List Delivery} {ending : Option IoError} :
    data ≠ [] → Bring deliveries bytes ending →
      Bring (.bytes data :: deliveries) (data ++ bytes) ending

/-- One read brings the end, the failure, or the first of the bytes. -/
theorem Delivery.Bring.read {deliveries : List Delivery} {bytes : List UInt8}
    {ending : Option IoError} (bring : Bring deliveries bytes ending) :
    match Delivery.read deliveries with
    | (.error error, _) => bytes = [] ∧ ending = some error
    | (.ok [], _) => bytes = [] ∧ ending = none
    | (.ok data, later) => ∃ more, bytes = data ++ more ∧ Bring later more ending := by
  cases bring with
  | finished => exact ⟨rfl, rfl⟩
  | endOfInput later => exact ⟨rfl, rfl⟩
  | failure error later => exact ⟨rfl, rfl⟩
  | @chunk data bytes deliveries _ filled bring =>
    simp only [Delivery.read]
    obtain ⟨byte, data, rfl⟩ := List.exists_cons_of_ne_nil filled
    cases split : (byte :: data).drop capacity with
    | nil => exact ⟨bytes, rfl, bring⟩
    | cons next rest =>
      have whole := List.take_append_drop capacity (byte :: data)
      rw [split] at whole
      simp only [capacity, List.take_succ_cons] at whole ⊢
      refine ⟨(next :: rest) ++ bytes, ?_, .chunk (List.cons_ne_nil _ _) bring⟩
      rw [← List.append_assoc, whole]

theorem Delivery.exists_bring (deliveries : List Delivery) :
    ∃ bytes ending, Bring deliveries bytes ending := by
  induction deliveries with
  | nil => exact ⟨[], none, .finished⟩
  | cons delivery later ih =>
    obtain ⟨bytes, ending, bring⟩ := ih
    cases delivery with
    | failure error => exact ⟨[], some error, .failure error later⟩
    | bytes data =>
      by_cases empty : data = []
      · subst empty
        exact ⟨[], none, .endOfInput later⟩
      · exact ⟨data ++ bytes, ending, .chunk empty bring⟩

namespace Decoder

/-! ## One step of decoding -/

/-- What is held is the beginning of a character, if anything is held. -/
def Sound (decoder : Decoder) : Prop :=
  decoder.held = [] ∨ Utf8.validate decoder.held = ([], .begun)

/-- The bytes at hand. -/
def pending (decoder : Decoder) : List UInt8 :=
  decoder.held ++ decoder.buffer

theorem candidate_prefix (decoder : Decoder) : decoder.candidate <+: decoder.pending := by
  simp only [candidate, pending]
  split
  · next empty => simp [empty]
  · exact (List.prefix_append_right_inj _).2 (List.take_prefix _ _)

theorem candidate_ne_nil (decoder : Decoder) (filled : decoder.buffer ≠ []) :
    decoder.candidate ≠ [] := by
  simp only [candidate]
  split
  · exact filled
  · next some_held => exact List.append_ne_nil_of_left_ne_nil some_held _

theorem held_prefix_candidate (decoder : Decoder) : decoder.held <+: decoder.candidate := by
  simp only [candidate]
  split
  · next empty => simp [empty]
  · exact List.prefix_append _ _

/-- Using up bytes at hand, all that are held among them, leaves the others. -/
theorem append_pending_consume {decoder : Decoder} {first : List UInt8}
    (within : first <+: decoder.pending) (all : decoder.held.length ≤ first.length) :
    first ++ (decoder.consume first.length).pending = decoder.pending := by
  obtain ⟨rest, whole⟩ := within
  have dropped : decoder.pending.drop first.length = rest := by
    rw [← whole, List.drop_left]
  rw [pending, List.drop_append, List.drop_of_length_le all, List.nil_append] at dropped
  simp only [pending, consume, List.nil_append] at whole ⊢
  rw [dropped, whole]

theorem pending_hold {decoder : Decoder} (few : decoder.candidate.length < 4) :
    (decoder.hold few).pending = decoder.pending := by
  have := append_pending_consume decoder.candidate_prefix decoder.held_prefix_candidate.length_le
  simpa only [pending, hold, consume, List.nil_append] using this

/-- No character ends among the bytes that are held. -/
theorem Sound.length_held_le {decoder : Decoder} (sound : decoder.Sound) {c : Char}
    {text : List Char} {rest : List UInt8}
    (candidate : decoder.candidate = Utf8.encode (c :: text) ++ rest) :
    decoder.held.length ≤ (Utf8.encode (c :: text)).length := by
  rcases sound with empty | begun
  · simp [empty]
  · by_contra longer
    have front : Utf8.encode (c :: text) <+: decoder.held :=
      List.prefix_of_prefix_length_le (candidate ▸ List.prefix_append _ _)
        decoder.held_prefix_candidate (by omega)
    exact Utf8.not_encodeChar_prefix_of_validate begun c
      ((List.prefix_append _ _).trans front)

/-! ## All of decoding -/

/-- The failure of bytes that end so, when `left` of them stand behind the characters. -/
def stop (ending : Option IoError) (left : Nat) : Utf8.Remainder → Option StreamError
  | .whole => ending.map .io
  | .begun => some ((ending.map .io).getD (.invalidUtf8 left))
  | .invalid length => some (.invalidUtf8 length)

/-- What validating bytes finds, as a decoder hands it out. -/
def outcome (position : Position) (ending : Option IoError) (bytes : List UInt8) :
    List (Char × Position) × Option StreamError :=
  let (text, remainder) := Utf8.validate bytes
  (position.number text, stop ending (bytes.length - (Utf8.encode text).length) remainder)

theorem number_append (position : Position) (before after : List Char) :
    position.number (before ++ after) =
      position.number before ++ (position.afterText before).number after := by
  induction before generalizing position with
  | nil => rfl
  | cons c before ih =>
    simp only [List.cons_append, Position.number, ih]
    rfl

theorem outcome_encode_append (position : Position) (ending : Option IoError) (text : List Char)
    (bytes : List UInt8) :
    outcome position ending (Utf8.encode text ++ bytes) =
      (position.number text ++ (outcome (position.afterText text) ending bytes).1,
        (outcome (position.afterText text) ending bytes).2) := by
  have longer : (Utf8.encode (text ++ (Utf8.validate bytes).1)).length =
      (Utf8.encode text).length + (Utf8.encode (Utf8.validate bytes).1).length := by
    rw [Utf8.encode_append, List.length_append]
  simp only [outcome, Utf8.validate_encode_append, number_append, longer, List.length_append,
    Nat.add_sub_add_left]

theorem Sound.consume (decoder : Decoder) (count : Nat) : (decoder.consume count).Sound :=
  Or.inl rfl

/-- When no more bytes come, there is nothing to hand out but the failure. -/
theorem Sound.outcome_pending {decoder : Decoder} (sound : decoder.Sound)
    (empty : decoder.buffer = []) (position : Position) (ending : Option IoError) :
    outcome position ending (decoder.pending ++ []) =
      ([], if decoder.held = [] then ending.map .io
        else some ((ending.map .io).getD (.invalidUtf8 decoder.held.length))) := by
  rw [pending, empty, List.append_nil, List.append_nil]
  rcases sound with nothing | begun
  · rw [nothing, if_pos rfl]
    rfl
  · rw [if_neg (Utf8.begins_of_validate begun).1]
    simp only [outcome, begun]
    rfl

/-- However the bytes arrive, decoding finds what validating all of them finds. -/
theorem decode_eq {decoder : Decoder} {bytes : List UInt8} {ending : Option IoError}
    (position : Position) (sound : decoder.Sound)
    (bring : Delivery.Bring decoder.deliveries bytes ending) :
    decoder.decode position = outcome position ending (decoder.pending ++ bytes) := by
  fun_induction decode position decoder generalizing bytes with
  | case1 position decoder empty error later brought =>
    have read := bring.read
    rw [brought] at read
    obtain ⟨rfl, rfl⟩ := read
    rw [sound.outcome_pending empty]
    split <;> rfl
  | case2 position decoder empty later brought =>
    have read := bring.read
    rw [brought] at read
    obtain ⟨rfl, rfl⟩ := read
    rw [sound.outcome_pending empty]
    rfl
  | case3 position decoder empty byte data later brought _ ih =>
    have read := bring.read
    rw [brought] at read
    obtain ⟨more, rfl, onward⟩ := read
    rw [ih sound onward]
    simp only [pending, empty, List.append_nil, List.append_assoc]
  | case4 position decoder filled c text remainder validated _ rest failure decoded ih =>
    -- the characters found in the candidate are the first of all bytes
    obtain ⟨behind, candidate, -⟩ := Utf8.eq_encode_append_of_validate validated
    have front : Utf8.encode (c :: text) <+: decoder.pending :=
      (candidate ▸ List.prefix_append _ _).trans decoder.candidate_prefix
    have whole := append_pending_consume front (sound.length_held_le candidate)
    rw [← whole, List.append_assoc, outcome_encode_append,
      ← ih (Sound.consume decoder _) bring, decoded]
  | case5 position decoder filled length validated =>
    obtain ⟨behind, whole⟩ := decoder.candidate_prefix
    have found : Utf8.validate (decoder.pending ++ bytes) = ([], .invalid length) := by
      rw [← whole, List.append_assoc]
      exact Utf8.validateFrom_append_of_invalid validated _
    simp only [outcome, found]
    rfl
  | case6 position decoder filled validated few _ ih =>
    rw [ih (Or.inr validated) bring, pending_hold]
  | case7 position decoder filled validated =>
    exact absurd (Utf8.eq_nil_of_validateFrom_whole validated) (decoder.candidate_ne_nil filled)

end Decoder

/-! ## The answers of a stream -/

namespace CharStream

/-- The first answers of a stream that is asked again and again. -/
def polled : (count : Nat) → CharStream → List Polled
  | 0, _ => []
  | count + 1, stream => stream.poll.1 :: polled count stream.poll.2

/-- What a stream has to answer before it answers only with the end. -/
def answers (stream : CharStream) : List Polled :=
  stream.rest.map (fun next => .char next.1 next.2) ++ stream.failure.toList.map .failed

theorem answers_poll (stream : CharStream) :
    stream.poll.1 = stream.answers.getD 0 .ended ∧ stream.poll.2.answers = stream.answers.tail := by
  rcases stream with ⟨_ | ⟨⟨c, position⟩, rest⟩, _ | error, polls⟩ <;> exact ⟨rfl, rfl⟩

theorem polled_eq (count : Nat) (stream : CharStream) :
    polled count stream = (List.range count).map fun k => stream.answers.getD k .ended := by
  induction count generalizing stream with
  | zero => rfl
  | succ count ih =>
    obtain ⟨first, others⟩ := stream.answers_poll
    rw [polled, ih, first, others, List.range_succ_eq_map, List.map_cons, List.map_map]
    congr 2
    funext k
    simp [List.getD_eq_getElem?_getD]

theorem ofDeliveries_eq {deliveries : List Delivery} {bytes : List UInt8}
    {ending : Option IoError} (bring : Delivery.Bring deliveries bytes ending) :
    ofDeliveries deliveries =
      ⟨(Decoder.outcome .origin ending bytes).1, (Decoder.outcome .origin ending bytes).2, 0⟩ := by
  have decoded : (Decoder.start deliveries).decode .origin = Decoder.outcome .origin ending bytes :=
    Decoder.decode_eq .origin (Or.inl rfl) bring
  simp only [ofDeliveries, decoded]

/-- A stream of bytes is a text, each character at its place, and what follows it. -/
theorem exists_ofDeliveries_eq (deliveries : List Delivery) :
    ∃ text, ofDeliveries deliveries =
      { ofText text with failure := (ofDeliveries deliveries).failure } := by
  obtain ⟨bytes, ending, bring⟩ := Delivery.exists_bring deliveries
  rw [ofDeliveries_eq bring]
  exact ⟨(Utf8.validate bytes).1, rfl⟩

end CharStream

/-! ## Lines and columns -/

/-- The place behind a text: its newlines, and the characters behind the last of them. -/
def Position.behind (text : List Char) : Position :=
  ⟨text.count '\n', (text.reverse.takeWhile (· ≠ '\n')).length⟩

theorem Position.behind_concat (text : List Char) (c : Char) :
    behind (text ++ [c]) = (behind text).after c := by
  by_cases newline : c = '\n'
  · simp [behind, after, newline]
  · simp [behind, after, newline]

theorem Position.number_behind (before text : List Char) :
    (behind before).number text =
      text.mapIdx fun k c => (c, behind (before ++ text.take k)) := by
  induction text generalizing before with
  | nil => rfl
  | cons c text ih =>
    rw [number, ← behind_concat, ih, List.mapIdx_cons]
    simp

/-! ## What a stream is, without its decoder -/

/-- The failure that ends a stream, when `rest` stands behind the last of its characters and the
bytes end so. -/
inductive Stops : (rest : List UInt8) → (ending : Option IoError) → Option StreamError → Prop
  | complete (ending : Option IoError) : Stops [] ending (ending.map .io)
  | cut {rest : List UInt8} :
    rest ≠ [] → Utf8.Begins rest → Stops rest none (some (.invalidUtf8 rest.length))
  | interrupted {rest : List UInt8} (error : IoError) :
    rest ≠ [] → Utf8.Begins rest → Stops rest (some error) (some (.io error))
  | invalid {rest : List UInt8} {length : Nat} (ending : Option IoError) :
    Utf8.InvalidAt rest length → Stops rest ending (some (.invalidUtf8 length))

theorem Decoder.stops_stop {rest : List UInt8} {remainder : Utf8.Remainder}
    (ending : Option IoError) (validated : Utf8.validate rest = ([], remainder)) :
    Stops rest ending (stop ending rest.length remainder) := by
  cases remainder with
  | whole =>
    obtain rfl := Utf8.eq_nil_of_validateFrom_whole validated
    exact .complete ending
  | begun =>
    obtain ⟨filled, begins⟩ := Utf8.begins_of_validate validated
    cases ending with
    | none => exact .cut filled begins
    | some error => exact .interrupted error filled begins
  | invalid length => exact .invalid ending (Utf8.invalidAt_of_validate validated)

theorem Utf8.prefix_of_encode_prefix {text text' : List Char} {rest : List UInt8}
    {remainder : Remainder} (validated : validate rest = ([], remainder))
    (valid : encode text' <+: encode text ++ rest) : text' <+: text := by
  obtain ⟨more, same⟩ := valid
  have found := congrArg (fun bytes => (validate bytes).1) same
  simp only [validate_encode_append, validated, List.append_nil] at found
  exact ⟨_, found⟩

/-- The answers of a stream of bytes depend on the bytes and on how they end, not on the division
into reads. They are the characters of the longest text that the bytes begin with, each at the line
and column that the characters before it lead to; then the failure that the bytes behind that text
call for, if any, once; and then the end for ever. -/
theorem polled_ofDeliveries (bytes : List UInt8) (ending : Option IoError) :
    ∃ text rest failure,
      bytes = Utf8.encode text ++ rest ∧
      (∀ text', Utf8.encode text' <+: bytes → text' <+: text) ∧
      Stops rest ending failure ∧
      ∀ deliveries, Delivery.Bring deliveries bytes ending → ∀ count,
        (CharStream.ofDeliveries deliveries).polled count =
          (List.range count).map fun k =>
            ((text.mapIdx fun k c => Polled.char c (Position.behind (text.take k))) ++
              failure.toList.map Polled.failed).getD k .ended := by
  cases validated : Utf8.validate bytes with
  | mk text remainder =>
    obtain ⟨rest, whole, behind⟩ := Utf8.eq_encode_append_of_validate validated
    refine ⟨text, rest, Decoder.stop ending rest.length remainder, whole, ?_,
      Decoder.stops_stop ending behind, ?_⟩
    · intro text' valid
      exact Utf8.prefix_of_encode_prefix behind (whole ▸ valid)
    · intro deliveries bring count
      have left : bytes.length - (Utf8.encode text).length = rest.length := by
        rw [whole, List.length_append, Nat.add_sub_cancel_left]
      have numbered := Position.number_behind [] text
      rw [CharStream.polled_eq, CharStream.ofDeliveries_eq bring]
      simp only [CharStream.answers, Decoder.outcome, validated, left]
      rw [show Position.origin = Position.behind [] from rfl, numbered]
      simp only [List.mapIdx_eq_zipIdx_map, List.map_map]
      rfl

/-- A euro sign in three reads, and then a sequence of two bytes that a later read shows to be
invalid. -/
theorem polled_ofDeliveries_split_sign :
    let reads : List (List UInt8) := [[0x61, 0xE2], [0x82], [0xAC, 0x0A, 0xF0], [0x9F], [0x41]]
    Delivery.Bring (reads.map .bytes) reads.flatten none ∧
      (CharStream.ofDeliveries (reads.map .bytes)).polled 6 =
        [.char 'a' ⟨0, 0⟩, .char '€' ⟨0, 1⟩, .char '\n' ⟨0, 2⟩, .failed (.invalidUtf8 2), .ended,
          .ended] := by
  intro reads
  have split : Delivery.Bring (reads.map .bytes) reads.flatten none :=
    .chunk (by decide) <| .chunk (by decide) <| .chunk (by decide) <| .chunk (by decide) <|
      .chunk (by decide) .finished
  have joined : Delivery.Bring [.bytes reads.flatten] reads.flatten none :=
    .chunk (by decide) .finished
  obtain ⟨text, rest, failure, -, -, -, polled⟩ := polled_ofDeliveries reads.flatten none
  refine ⟨split, ?_⟩
  rw [polled _ split, ← polled _ joined, CharStream.polled_eq, CharStream.ofDeliveries_eq joined]
  decide +kernel

end Edn
