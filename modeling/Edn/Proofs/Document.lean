import Edn.Document
import Edn.Proofs.Decoding
import Edn.Proofs.Reading

/-!
# Whole texts

A session that reads a text hands out the values of its forms one after another, until the text ends
or cannot be read on. `Yields` says this of the text alone, and every text yields something. So a
run of the iterator gives what the text yields (`collect_of_yields`), reading everything gives the
same or the error alone (`ofBytes_encode`), and a text is read without an error just if the grammar
derives it.
-/

namespace Edn

open Grammar

/-- What a form that cannot be read becomes. -/
def malformed : Value := .error NodeError.malformed.message

/-! ## Values of nodes -/

theorem Grammar.Next.ofNode_toNode {settings : Settings} {depth : Nat} {text rest : List Char}
    {value : Value} (next : Next settings depth text value rest) :
    Value.ofNode .utf8 depth value.toNode = value := by
  obtain ⟨form, -, found⟩ := next
  exact Value.ofNode_of_ok found.build_toNode

theorem Grammar.Next.not_sentinel {settings : Settings} {depth : Nat} {text rest : List Char}
    {value : Value} (next : Next settings depth text value rest) : value.isSentinel = false := by
  obtain ⟨form, -, found⟩ := next
  exact found.not_sentinel

/-- What the iterator shows of a value. -/
def Value.shown? : Value → Option Value
  | endOfInput => none
  | value => some value

theorem Value.shown?_of_data {value : Value} (data : value.isSentinel = false) :
    value.shown? = some value := by
  cases value <;> first | rfl | cases data

/-! ## One step of a session -/

/-- The session reads text by the settings and has this before it. -/
structure Session.Before (session : Session TextScan) (settings : Settings) (text : List Char)
    (failure : Option StreamError) : Prop where
  source : session.source = .ofText
  settings_eq : session.state.settings = settings
  depth : session.maxDepth = settings.maxDepth
  here : Cursor.At ⟨session.chars, session.state.scan⟩ text failure

namespace Session

/-! ## What follows from the next value -/

section

variable {σ : Type} {session : Session σ}

/-- Taking a value from an iterator that has not stopped is reading, and a report stops it. -/
theorem next_of_live (live : session.done = false) :
    session.next = (session.readNext.1.shown?,
      { session.readNext.2 with done := session.readNext.1.isSentinel }) := by
  have still : session.readNext.2.done = false := live
  unfold next
  rw [live]
  cases read : session.readNext with
  | mk value after =>
    rw [read] at still
    cases value with
    | endOfInput => rfl
    | error message => rfl
    | _ =>
      rcases after with ⟨source, state, chars, origin, maxDepth, diagnostic, done⟩
      cases still
      rfl

theorem next_of_data (live : session.done = false) (data : session.readNext.1.isSentinel = false) :
    session.next = (some session.readNext.1, session.readNext.2) := by
  rw [next_of_live live, Value.shown?_of_data data, data, ← live]
  rfl

theorem next_of_end (live : session.done = false) (ended : session.readNext.1 = .endOfInput) :
    session.next.1 = none := by
  rw [next_of_live live, ended]
  rfl

theorem next_of_error {message : String} (live : session.done = false)
    (failed : session.readNext.1 = .error message) :
    session.next.1 = some (.error message) ∧ session.next.2.done = true := by
  rw [next_of_live live, failed]
  exact ⟨rfl, rfl⟩

theorem collect_of_done (limit : Nat) (finished : session.done = true) :
    (collect limit session).1 = [] := by
  cases limit with
  | zero => rfl
  | succ limit => simp only [collect, next, finished, if_true]

theorem collect_of_data (limit : Nat) (live : session.done = false)
    (data : session.readNext.1.isSentinel = false) :
    (collect (limit + 1) session).1 =
      session.readNext.1 :: (collect limit session.readNext.2).1 := by
  rw [collect, next_of_data live data]

theorem collect_of_end (limit : Nat) (live : session.done = false)
    (ended : session.readNext.1 = .endOfInput) : (collect (limit + 1) session).1 = [] := by
  have stopped := next_of_end live ended
  cases step : session.next with
  | mk value after =>
    rw [step] at stopped
    subst stopped
    rw [collect, step]

theorem collect_of_error (limit : Nat) {message : String} (live : session.done = false)
    (failed : session.readNext.1 = .error message) :
    (collect (limit + 1) session).1 = [.error message] := by
  obtain ⟨stopped, finished⟩ := next_of_error live failed
  cases step : session.next with
  | mk value after =>
    rw [step] at stopped finished
    subst stopped
    rw [collect, step]
    simp only [collect_of_done limit finished]

variable {before : List Value}

theorem readAllAfter_of_data (limit : Nat) (data : session.readNext.1.isSentinel = false) :
    readAllAfter (limit + 1) before session =
      readAllAfter limit (session.readNext.1 :: before) session.readNext.2 := by
  rw [readAllAfter]
  cases read : session.readNext with
  | mk value after =>
    rw [read] at data
    cases value <;> first | rfl | cases data

theorem readAllAfter_of_end (limit : Nat) (ended : session.readNext.1 = .endOfInput) :
    (readAllAfter (limit + 1) before session).1 = before.reverse := by
  rw [readAllAfter]
  cases read : session.readNext with
  | mk value after =>
    rw [read] at ended
    subst ended
    rfl

theorem readAllAfter_of_error (limit : Nat) {message : String}
    (failed : session.readNext.1 = .error message) :
    (readAllAfter (limit + 1) before session).1 = [.error message] := by
  rw [readAllAfter]
  cases read : session.readNext with
  | mk value after =>
    rw [read] at failed
    subst failed
    rfl

end

/-! ## One step over a text -/

variable {session : Session TextScan} {settings : Settings} {text rest : List Char}
  {failure : Option StreamError} {value : Value}

theorem Before.readNode (before : session.Before settings text failure)
    {outcome : Except Fault (Option Node)} {after : Cursor}
    (ran : Reader.run settings [] ⟨session.chars, session.state.scan⟩ = (outcome, after)) :
    Reader.readNode session.state.settings ⟨session.chars, session.state.scan⟩ =
      match outcome with
      | .ok (some node) => (node, after)
      | .ok none => (.endOfInput, after)
      | .error fault =>
        (.error fault, { after with state := { after.state with failed := true } }) := by
  obtain ⟨-, rfl, -, here⟩ := before
  have read := Reader.readNode_of_run here.live ran
  rcases outcome with fault | _ | node <;> exact read

theorem Before.readNext_of_run (before : session.Before settings text failure)
    {outcome : Except Fault (Option Node)} {after : Cursor}
    (ran : Reader.run settings [] ⟨session.chars, session.state.scan⟩ = (outcome, after)) :
    session.readNext.1 = match outcome with
      | .ok (some node) => Value.ofNode .utf8 settings.maxDepth node
      | .ok none => .endOfInput
      | .error _ => malformed := by
  have node := before.readNode ran
  simp only [readNext, before.source, before.depth, NodeSource.ofText, node]
  rcases outcome with fault | _ | node <;> rfl

theorem Before.onward (before : session.Before settings text failure) {node : Node}
    {after : Cursor} (there : after.At rest failure)
    (ran : Reader.run settings [] ⟨session.chars, session.state.scan⟩ = (.ok (some node), after)) :
    session.readNext.2.Before settings rest failure := by
  have read := before.readNode ran
  obtain ⟨source, rfl, depth, -⟩ := before
  rcases session with ⟨_, ⟨settings, scan⟩, chars, origin, _, diagnostic, done⟩
  simp only at source depth read
  subst source depth
  simp only [readNext, NodeSource.ofText, read]
  exact ⟨rfl, rfl, rfl, there⟩

theorem Before.readNext_of_form {after : Cursor} (before : session.Before settings text failure)
    (next : Next settings settings.maxDepth text value rest)
    (ran : Reader.run settings [] ⟨session.chars, session.state.scan⟩ =
      (.ok (some value.toNode), after)) (there : after.At rest failure) :
    session.readNext.1 = value ∧ session.readNext.2.Before settings rest failure := by
  have read := before.readNext_of_run ran
  exact ⟨read.trans next.ofNode_toNode, before.onward there ran⟩

/-- The next value is that of a form, or the end, or stands for what cannot be read. -/
theorem Before.readNext_cases (before : session.Before settings text failure) :
    (∃ value rest, Next settings settings.maxDepth text value rest ∧
      session.readNext.1 = value ∧ session.readNext.2.Before settings rest failure) ∨
    (Forms settings settings.maxDepth text [] [] ∧ failure = none ∧
      session.readNext.1 = .endOfInput) ∨
    session.readNext.1 = malformed := by
  cases first_item (room_nil settings) before.here with
  | form next there ran =>
    obtain ⟨read, onward⟩ := before.readNext_of_form next ran there
    exact Or.inl ⟨_, _, next, read, onward⟩
  | closing _ _ ran => exact Or.inr (Or.inr (before.readNext_of_run ran))
  | ended gaps quiet _ ran =>
    exact Or.inr (Or.inl ⟨gaps, quiet, (before.readNext_of_run ran)⟩)
  | failed ran => exact Or.inr (Or.inr (before.readNext_of_run ran))

theorem Before.readNext_of_next (before : session.Before settings text none)
    (next : Next settings settings.maxDepth text value rest) :
    session.readNext.1 = value ∧ session.readNext.2.Before settings rest none := by
  obtain ⟨after, there, ran⟩ := next.run_eq (reads_at settings) (room_nil settings) before.here
  exact before.readNext_of_form next ran there

theorem Before.readNext_of_gaps (before : session.Before settings text none)
    (gaps : Forms settings settings.maxDepth text [] []) :
    session.readNext.1 = .endOfInput := by
  obtain ⟨after, there, passed⟩ :=
    gaps.run_eq (reads_at settings) (Or.inl rfl) (room_nil settings) before.here
  obtain ⟨last, scanned, -⟩ := Lexeme.read_nil settings there
  rw [Reader.run_of_read scanned] at passed
  exact before.readNext_of_run passed

end Session

/-! ## What a text yields -/

/-- No reader gets beyond the front of the text. -/
def Refuses (settings : Settings) (text : List Char) : Prop :=
  ∀ cursor : Cursor, cursor.At text none →
    ∃ fault after, Reader.run settings [] cursor = (.error fault, after)

/-- The values of the forms of a text in order, up to the end or to where it is refused. -/
inductive Yields (settings : Settings) : List Char → List Value → Prop
  | ended {text : List Char} : Forms settings settings.maxDepth text [] [] →
    Yields settings text []
  | form {text rest : List Char} {value : Value} {values : List Value} :
    Next settings settings.maxDepth text value rest → Yields settings rest values →
    Yields settings text (value :: values)
  | refused {text : List Char} : Refuses settings text → Yields settings text [malformed]

variable {settings : Settings} {text : List Char} {values : List Value}

theorem exists_yields (settings : Settings) (text : List Char) :
    ∃ values, Yields settings text values := by
  induction size : text.length using Nat.strongRecOn generalizing text with
  | ind _ ih =>
    subst size
    -- The split is by what the grammar has here, so that no stream needs to be at hand.
    by_cases form : ∃ value rest, Next settings settings.maxDepth text value rest
    · obtain ⟨value, rest, next⟩ := form
      obtain ⟨values, yields⟩ := ih rest.length next.length_lt rest rfl
      exact ⟨value :: values, .form next yields⟩
    · by_cases gaps : Forms settings settings.maxDepth text [] []
      · exact ⟨[], .ended gaps⟩
      · refine ⟨[malformed], .refused ?_⟩
        intro cursor here
        cases first_item (room_nil settings) here with
        | form next _ _ => exact absurd ⟨_, _, next⟩ form
        | closing _ _ ran => exact ⟨_, _, ran⟩
        | ended found _ _ _ => exact absurd found gaps
        | failed ran => exact ⟨_, _, ran⟩

theorem Yields.of_gap {after : List Char} (gap : Gap settings settings.maxDepth text after)
    (yields : Yields settings after values) : Yields settings text values := by
  cases yields with
  | ended gaps => exact .ended (.gap gap gaps)
  | form next yields => exact .form (next.gap gap) yields
  | refused refuses =>
    apply Yields.refused
    intro cursor here
    obtain ⟨behind, there, passed⟩ := gap.run_eq (reads_at settings) (room_nil settings) here
    rw [passed]
    exact refuses behind there

/-- What stands behind a stretch of forms yields the rest. -/
theorem Yields.of_forms {depth : Nat} {text after : List Char} {values others : List Value}
    (full : depth = settings.maxDepth) (forms : Forms settings depth text values after)
    (yields : Yields settings after others) : Yields settings text (values ++ others) := by
  match forms with
  | .nil => exact yields
  | .gap parted forms => exact .of_gap (full ▸ parted) (.of_forms full forms yields)
  | .form found forms => exact .form (full ▸ found.next) (.of_forms full forms yields)

theorem Yields.of_derives (derives : Derives settings text values) :
    Yields settings text values := by
  have yields : Yields settings text (values ++ []) := .of_forms rfl derives (.ended .nil)
  rwa [List.append_nil] at yields

theorem Derives.malformed_notMem (derives : Derives settings text values) :
    malformed ∉ values := by
  intro among
  cases Forms.not_sentinel derives malformed among

theorem Yields.derives (yields : Yields settings text values) (sound : malformed ∉ values) :
    Derives settings text values := by
  induction yields with
  | ended gaps => exact gaps
  | form next _ ih => exact next.forms (ih fun among => sound (List.mem_cons_of_mem _ among))
  | refused _ => exact absurd (List.mem_singleton.2 rfl) sound

/-! ## Reading what a text yields -/

/-- A run of the iterator gives what the text yields, if it goes on long enough. -/
theorem collect_of_yields {session : Session TextScan} {limit : Nat}
    (before : session.Before settings text none) (live : session.done = false)
    (yields : Yields settings text values) (enough : text.length < limit) :
    (session.collect limit).1 = values := by
  induction yields generalizing session limit with
  | ended gaps =>
    obtain ⟨limit, rfl⟩ := Nat.exists_eq_add_one_of_ne_zero (Nat.ne_zero_of_lt enough)
    exact Session.collect_of_end limit live (before.readNext_of_gaps gaps)
  | @form text rest value values next _ ih =>
    obtain ⟨limit, rfl⟩ := Nat.exists_eq_add_one_of_ne_zero (Nat.ne_zero_of_lt enough)
    obtain ⟨read, onward⟩ := before.readNext_of_next next
    have shorter := next.length_lt
    have data : session.readNext.1.isSentinel = false := by
      rw [read]
      exact next.not_sentinel
    rw [Session.collect_of_data limit live data, read, ih onward live (by omega)]
  | refused refuses =>
    obtain ⟨limit, rfl⟩ := Nat.exists_eq_add_one_of_ne_zero (Nat.ne_zero_of_lt enough)
    obtain ⟨fault, after, ran⟩ := refuses _ before.here
    exact Session.collect_of_error limit live (before.readNext_of_run ran)

theorem readAllAfter_of_yields {session : Session TextScan} {limit : Nat} (earlier : List Value)
    (before : session.Before settings text none) (yields : Yields settings text values)
    (enough : text.length < limit) :
    (session.readAllAfter limit earlier).1 =
      if malformed ∈ values then [malformed] else earlier.reverse ++ values := by
  induction yields generalizing session limit earlier with
  | ended gaps =>
    obtain ⟨limit, rfl⟩ := Nat.exists_eq_add_one_of_ne_zero (Nat.ne_zero_of_lt enough)
    rw [Session.readAllAfter_of_end limit (before.readNext_of_gaps gaps),
      if_neg List.not_mem_nil, List.append_nil]
  | @form text rest value values next _ ih =>
    obtain ⟨limit, rfl⟩ := Nat.exists_eq_add_one_of_ne_zero (Nat.ne_zero_of_lt enough)
    obtain ⟨read, onward⟩ := before.readNext_of_next next
    have shorter := next.length_lt
    have data := next.not_sentinel
    have other : malformed ≠ value := by
      intro same
      subst same
      cases data
    rw [Session.readAllAfter_of_data limit (read ▸ data), read, ih _ onward (by omega)]
    simp only [List.mem_cons, other, false_or, List.reverse_cons, List.append_assoc,
      List.cons_append, List.nil_append]
  | refused refuses =>
    obtain ⟨limit, rfl⟩ := Nat.exists_eq_add_one_of_ne_zero (Nat.ne_zero_of_lt enough)
    obtain ⟨fault, after, ran⟩ := refuses _ before.here
    rw [if_pos (List.mem_singleton.2 rfl)]
    exact Session.readAllAfter_of_error limit (before.readNext_of_run ran)

/-- Whatever a session reads from, reading everything gives the error alone, unless the stream ends
and its text is derived; then it gives the values of the text. -/
theorem Session.Before.readAllAfter_cases {session : Session TextScan}
    {failure : Option StreamError} {limit : Nat} (earlier : List Value)
    (before : session.Before settings text failure) (enough : text.length < limit) :
    (session.readAllAfter limit earlier).1 = [malformed] ∨
      ∃ values, failure = none ∧ Derives settings text values ∧
        (session.readAllAfter limit earlier).1 = earlier.reverse ++ values := by
  induction limit generalizing session text earlier with
  | zero => exact absurd enough (Nat.not_lt_zero _)
  | succ limit ih =>
    rcases before.readNext_cases with
      ⟨value, rest, next, read, onward⟩ | ⟨gaps, quiet, ended⟩ | failed
    · have shorter := next.length_lt
      rw [readAllAfter_of_data limit (read ▸ next.not_sentinel), read]
      rcases ih (value :: earlier) onward (by omega) with stopped | ⟨values, quiet, derives, all⟩
      · exact Or.inl stopped
      · refine Or.inr ⟨value :: values, quiet, next.forms derives, ?_⟩
        rw [all, List.reverse_cons, List.append_assoc, List.singleton_append]
    · refine Or.inr ⟨[], quiet, gaps, ?_⟩
      rw [readAllAfter_of_end limit ended, List.append_nil]
    · exact Or.inl (readAllAfter_of_error limit failed)

/-! ## Sessions from the start -/

theorem Position.map_fst_number (position : Position) (text : List Char) :
    (position.number text).map Prod.fst = text := by
  induction text generalizing position with
  | nil => rfl
  | cons c text ih => rw [number, List.map_cons, ih]

theorem Delivery.Bring.single (data : List UInt8) : Bring [.bytes data] data none := by
  cases data with
  | nil => exact .endOfInput []
  | cons byte data =>
    have brought := Bring.chunk (List.cons_ne_nil byte data) .finished
    rwa [List.append_nil] at brought

/-- The stream of the bytes of a text is the stream of the text. -/
theorem CharStream.ofBytes_encode (text : List Char) :
    CharStream.ofBytes (Utf8.encode text) = CharStream.ofText text := by
  rw [ofBytes, ofDeliveries_eq (Delivery.Bring.single _)]
  have decoded := Decoder.outcome_encode_append .origin none text []
  rw [List.append_nil] at decoded
  rw [decoded]
  show CharStream.mk (Position.origin.number text ++ []) none 0 = ofText text
  rw [List.append_nil]
  rfl

theorem Session.before_ofStream (settings : Settings) (origin : Origin) (chars : CharStream) :
    (ofStream settings settings origin chars).Before settings (chars.rest.map Prod.fst)
      chars.failure :=
  ⟨rfl, rfl, rfl, rfl, rfl, nofun, rfl⟩

theorem Session.before_ofText (settings : Settings) (origin : Origin) (text : List Char) :
    (ofStream settings settings origin (.ofText text)).Before settings text none := by
  have before := before_ofStream settings origin (.ofText text)
  rwa [show (CharStream.ofText text).rest = Position.origin.number text from rfl,
    Position.map_fst_number] at before

theorem Session.Before.length_lt_limit {session : Session TextScan} {failure : Option StreamError}
    (before : session.Before settings text failure) : text.length < session.limit := by
  have size := before.here.length_eq
  rw [limit]
  omega

/-- Reading a text to its end gives what it yields, or the error alone. -/
theorem Document.ofStream_ofText (origin : Origin) (yields : Yields settings text values) :
    ofStream settings origin (.ofText text) =
      if malformed ∈ values then [malformed] else values := by
  have before := Session.before_ofText settings origin text
  exact readAllAfter_of_yields [] before yields before.length_lt_limit

theorem Document.ofBytes_encode (yields : Yields settings text values) :
    ofBytes settings (Utf8.encode text) =
      if malformed ∈ values then [malformed] else values := by
  rw [ofBytes, ofDeliveries, show CharStream.ofDeliveries [.bytes (Utf8.encode text)] = _ from
    CharStream.ofBytes_encode text]
  exact ofStream_ofText _ yields

/-- Bytes that arrive in whatever reads are read as if they arrived in one. -/
theorem Document.ofDeliveries_of_bring {deliveries : List Delivery} {bytes : List UInt8}
    (bring : Delivery.Bring deliveries bytes none) :
    ofDeliveries settings deliveries = ofBytes settings bytes := by
  rw [ofBytes, ofDeliveries, ofDeliveries, CharStream.ofDeliveries_eq bring,
    CharStream.ofDeliveries_eq (Delivery.Bring.single bytes)]

/-- Bytes that are read without an error are those of a text that is derived, however they
arrive. -/
theorem Document.derives_of_ofDeliveries {deliveries : List Delivery}
    (read : ofDeliveries settings deliveries = values)
    (no_error : ∀ message, values ≠ [.error message]) :
    ∃ text, CharStream.ofDeliveries deliveries = .ofText text ∧ Derives settings text values := by
  obtain ⟨text, same⟩ := CharStream.exists_ofDeliveries_eq deliveries
  have before := Session.before_ofStream settings Session.unnamed (.ofDeliveries deliveries)
  rcases before.readAllAfter_cases [] before.length_lt_limit with
    failed | ⟨others, quiet, derives, all⟩
  · exact absurd (read.symm.trans failed) (no_error _)
  · obtain rfl : values = others := read.symm.trans all
    rw [quiet] at same
    refine ⟨text, same, ?_⟩
    rw [same] at derives
    rwa [show (CharStream.ofText text).rest = Position.origin.number text from rfl,
      Position.map_fst_number] at derives

theorem derives_of_ofBytes (read : Document.ofBytes settings (Utf8.encode text) = values)
    (no_error : ∀ message, values ≠ [.error message]) : Derives settings text values := by
  obtain ⟨found, yields⟩ := exists_yields settings text
  rw [Document.ofBytes_encode yields] at read
  by_cases among : malformed ∈ found
  · rw [if_pos among] at read
    exact absurd read.symm (no_error _)
  · rw [if_neg among] at read
    subst read
    exact yields.derives among

/-- A text is read without an error just if the grammar derives it, and then its values are those
that the grammar gives it. -/
theorem ofBytes_eq_iff_derives (settings : Settings) (text : List Char) (values : List Value) :
    (Document.ofBytes settings (Utf8.encode text) = values ∧
      ∀ message, values ≠ [.error message]) ↔ Derives settings text values := by
  constructor
  · intro parts
    rcases parts with ⟨read, no_error⟩
    exact derives_of_ofBytes read no_error
  · intro derives
    have sound := Derives.malformed_notMem derives
    refine ⟨?_, ?_⟩
    · rw [Document.ofBytes_encode (.of_derives derives), if_neg sound]
    · intro message same
      subst same
      cases Forms.not_sentinel derives _ (List.mem_singleton.2 rfl)

end Edn
