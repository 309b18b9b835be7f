import Edn.Proofs.Messages
import Edn.Proofs.Nesting
import Edn.Proofs.Nodes
import Edn.Proofs.Standing
import Mathlib.Logic.Relation
import Mathlib.Order.WellFounded

/-!
# The limit to nesting is exact

The reader comes to every point of a text, with the constructs on its stack that are open there, as
long as none of them is one too many (`Within.arrives`). There it refuses to open the construct that
is, and names the place where this construct starts (`Reader.Arrives.refused`). So a text that is
read at some depth is read the same at every depth that holds what is open in it, and at every other
depth the error is the first construct that does not fit.
-/

namespace Edn

open Grammar Reader Value

variable {settings : Settings} {text front rest : List Char}

/-! ## Where a construct starts -/

/-- What stands before the inside of a construct. -/
def Construct.written : Construct → List Char
  | .collection bracket => bracket.opening.toList
  | .wrapper kind => kind.sigil.toList
  | .tag text => '#' :: text.toList
  | .discard => ['#', '_']

theorem Grammar.Opens.whole {construct : Construct} (opens : Opens settings text construct rest) :
    text = construct.written ++ rest := by
  cases opens with
  | tag _ _ _ _ => simp [Construct.written]
  | _ => rfl

/-- The cursor stands in a text before `rest`, but for white space and comments. -/
def Cursor.Faces (cursor : Cursor) (settings : Settings) (text rest : List Char) : Prop :=
  ∃ front lead, front ++ lead = text ∧ cursor.Stands front lead none ∧
    Relation.ReflTransGen (Blank settings) lead rest

namespace Cursor.Faces

variable {cursor after : Cursor}

theorem live (faces : cursor.Faces settings text rest) : cursor.state.failed = false := by
  obtain ⟨_, _, _, stands, _⟩ := faces
  exact stands.here.live

theorem read_blanks {lead : List Char} (here : cursor.At lead none)
    (blanks : Relation.ReflTransGen (Blank settings) lead rest) :
    ∃ ahead, ahead.At rest none ∧ Lexeme.read settings cursor = Lexeme.read settings ahead := by
  induction blanks using Relation.ReflTransGen.head_induction_on generalizing cursor with
  | refl => exact ⟨cursor, here, rfl⟩
  | head blank _ ih =>
    obtain ⟨next, there, same⟩ := Lexeme.read_blank here blank
    obtain ⟨ahead, at_rest, same'⟩ := ih there
    exact ⟨ahead, at_rest, same.trans same'⟩

/-- The cursor reads what one right before `rest` reads, and goes on in the same text. -/
theorem exists_at (faces : cursor.Faces settings text rest) :
    ∃ ahead : Cursor, ahead.At rest none ∧
      Lexeme.read settings cursor = Lexeme.read settings ahead ∧
      ∀ {lexeme : Lexeme} {after : Cursor} {rest' : List Char},
        Lexeme.read settings ahead = (.ok lexeme, after) → after.At rest' none →
        after.Faces settings text rest' := by
  obtain ⟨front, lead, rfl, stands, blanks⟩ := faces
  obtain ⟨ahead, at_rest, same⟩ := read_blanks stands.here blanks
  refine ⟨ahead, at_rest, same, ?_⟩
  intro lexeme after rest' scanned there
  obtain ⟨front', split, standing⟩ :=
    (Lexeme.observes_read settings cursor).stands_of_ok stands (same.trans scanned) there
  exact ⟨front', rest', split, standing, .refl⟩

end Cursor.Faces

theorem reads_faces (settings : Settings) (text : List Char) :
    Reads settings fun cursor rest => cursor.Faces settings text rest where
  opens faces opens := by
    obtain ⟨ahead, there, same, onward⟩ := faces.exists_at
    obtain ⟨start, after, scanned, at_rest⟩ := Lexeme.read_opens there opens
    exact ⟨start, after, same.trans scanned, onward scanned at_rest⟩
  closing faces closer := by
    obtain ⟨ahead, there, same, onward⟩ := faces.exists_at
    obtain ⟨position, after, scanned, at_rest⟩ := Lexeme.read_closing settings there closer
    exact ⟨position, after, same.trans scanned, onward scanned at_rest⟩
  atom faces atom := by
    obtain ⟨ahead, there, same, onward⟩ := faces.exists_at
    obtain ⟨after, scanned, at_rest⟩ := Lexeme.read_atom there atom
    exact ⟨after, same.trans scanned, onward scanned at_rest⟩
  blank := by
    rintro cursor lead rest ⟨front, start, split, stands, blanks⟩ blank
    exact ⟨cursor, ⟨front, start, split, stands, blanks.tail blank⟩, rfl⟩

/-- A construct is read with the place where it starts. -/
theorem Cursor.Faces.read_opens {cursor : Cursor} {before inside : List Char}
    {construct : Construct} (faces : cursor.Faces settings text front)
    (opens : Opens settings front construct inside) (split : text = before ++ front) :
    ∃ after, Lexeme.read settings cursor = (.ok (.opening construct (.behind before)), after) := by
  obtain ⟨ahead, there, same, -⟩ := faces.exists_at
  obtain ⟨start, after, scanned, at_inside⟩ := Lexeme.read_opens there opens
  rw [← same] at scanned
  obtain ⟨passed, start_text, rfl, stands, -⟩ := faces
  obtain ⟨gap, lead, front', rest', rfl, -, piece, -, standing, -, place⟩ :=
    Lexeme.read_located 0 stands scanned
  obtain rfl := place start rfl
  obtain rfl := at_inside.unique standing.here
  have opens' : Opens settings lead construct rest' := piece
  rw [opens.whole, ← opens'.whole, ← List.append_assoc] at split
  rw [← List.append_cancel_right split]
  exact ⟨after, scanned⟩

/-! ## Coming to a point of the text -/

namespace Reader

/-- When some forms have been handed out, the next run comes to `rest`, with these constructs
open. -/
def Arrives (settings : Settings) (text : List Char) (constructs : List Construct)
    (rest : List Char) : Prop :=
  ∃ count stack, ∃ cursor : Cursor,
    (∀ k < count, ∃ value, value.isSentinel = false ∧
      node settings ⟨.ofText text, .fresh⟩ k = toNode value) ∧
    (afterNodes settings count ⟨.ofText text, .fresh⟩).state.failed = false ∧
    cursor.Faces settings text rest ∧ stack.map Frame.construct = constructs ∧
    run settings [] (afterNodes settings count ⟨.ofText text, .fresh⟩) = run settings stack cursor

namespace Arrives

variable {constructs : List Construct} {construct : Construct} {inside : List Char} {depth : Nat}

theorem start (settings : Settings) (text : List Char) : Arrives settings text [] text :=
  ⟨0, [], _, nofun, rfl, ⟨[], text, rfl, Cursor.stands_fresh rfl, .refl⟩, rfl, rfl⟩

theorem opening (arrives : Arrives settings text constructs front)
    (opens : Opens settings front construct inside)
    (room : constructs.length < settings.maxDepth) :
    Arrives settings text (construct :: constructs) inside := by
  obtain ⟨count, stack, cursor, forms, live, faces, rfl, came⟩ := arrives
  rw [List.length_map] at room
  obtain ⟨inner, room⟩ := Nat.exists_eq_add_of_lt room
  obtain ⟨start, after, there, ran⟩ := run_opens (reads_faces settings text) room.symm faces opens
  exact ⟨count, _, after, forms, live, there, rfl, came.trans ran⟩

theorem gap (arrives : Arrives settings text constructs front)
    (parted : Gap settings depth front rest)
    (room : constructs.length + depth = settings.maxDepth) :
    Arrives settings text constructs rest := by
  obtain ⟨count, stack, cursor, forms, live, faces, rfl, came⟩ := arrives
  rw [List.length_map] at room
  obtain ⟨after, there, ran⟩ := parted.run_eq (reads_faces settings text) room faces
  exact ⟨count, stack, after, forms, live, there, rfl, came.trans ran⟩

theorem form {value : Value} (arrives : Arrives settings text constructs front)
    (found : Form settings depth front value rest) (many : TakesMany constructs)
    (room : constructs.length + depth = settings.maxDepth) :
    Arrives settings text constructs rest := by
  obtain ⟨count, stack, cursor, forms, live, faces, rfl, came⟩ := arrives
  rw [List.length_map] at room
  obtain ⟨after, there, ran⟩ := found.run_eq (reads_faces settings text) room faces
  cases stack with
  | nil =>
    -- Nothing surrounds the form, so it is handed out, and the next run begins behind it.
    have read := readNode_of_run live (came.trans ran)
    refine ⟨count + 1, [], after, ?_, ?_, there, rfl, ?_⟩
    · intro k le
      rcases Nat.lt_or_eq_of_le (Nat.le_of_lt_succ le) with lt | rfl
      · exact forms k lt
      · exact ⟨value, found.not_sentinel, congrArg Prod.fst read⟩
    · rw [afterNodes_succ, read]
      exact there.live
    · rw [afterNodes_succ, read]
  | cons frame outer =>
    rcases frame with ⟨construct, start, inside⟩
    obtain ⟨bracket, rfl⟩ := many construct rfl
    exact ⟨count, ⟨.collection bracket, start, toNode value :: inside⟩ :: outer, after, forms, live,
      there, rfl, came.trans ran⟩

/-- Complete forms and gaps are passed. -/
theorem forms {front rest : List Char} {values : List Value}
    (arrives : Arrives settings text constructs front)
    (forms : Forms settings depth front values rest) (many : values = [] ∨ TakesMany constructs)
    (room : constructs.length + depth = settings.maxDepth) :
    Arrives settings text constructs rest := by
  match forms with
  | .nil => exact arrives
  | .gap parted behind => exact (arrives.gap parted room).forms behind many room
  | .form found behind =>
    have many := many.resolve_left (List.cons_ne_nil _ _)
    exact (arrives.form found many room).forms behind (Or.inr many) room

/-- A construct that is one too many is refused, and its place is named. -/
theorem refused {before : List Char} (arrives : Arrives settings text constructs front)
    (opens : Opens settings front construct inside) (split : text = before ++ front)
    (full : constructs.length = settings.maxDepth) :
    ∃ count, FailsAt settings ⟨.ofText text, .fresh⟩ count ⟨.tooDeep, .behind before⟩ := by
  obtain ⟨count, stack, cursor, forms, live, faces, rfl, came⟩ := arrives
  obtain ⟨after, scanned⟩ := faces.read_opens opens split
  rw [List.length_map] at full
  have stopped : run settings stack cursor = (.error ⟨.tooDeep, .behind before⟩, after) := by
    rw [run_of_read scanned, advance, if_neg (Nat.not_lt.2 full.ge), resume]
  refine ⟨count, forms, ?_⟩
  rw [node, readNode_of_run live (came.trans stopped)]

end Arrives

end Reader

/-- Where no construct in front is one too many, the reader comes. -/
theorem Grammar.Within.arrives {constructs : List Construct} {limit : Nat} {stop : List Char}
    (within : Within settings text constructs rest) (shallow : Shallow settings text stop limit)
    (behind : stop.length ≤ rest.length) :
    Arrives (settings.allowing limit) text constructs rest := by
  induction within with
  | nil forms =>
    have limited := forms.limited shallow (.start settings text) (Or.inr nofun) behind
      (Nat.zero_add limit)
    exact (Arrives.start _ text).forms (limited.allowing limit) (Or.inr nofun) (Nat.zero_add limit)
  | @cons constructs front inside rest construct _ values within opens forms single ih =>
    have inside_le : stop.length ≤ inside.length := Nat.le_trans behind forms.length_le
    have ahead : stop.length < front.length := Nat.lt_of_le_of_lt inside_le opens.length_lt
    have fits := shallow.length_le within (Nat.le_of_lt ahead)
    obtain ⟨inner, allowed⟩ := shallow.room within opens ahead (Nat.add_sub_of_le fits)
    have room : (construct :: constructs).length + inner = limit := room_opening (by omega)
    have many : values = [] ∨ TakesMany (construct :: constructs) := single
    have limited := forms.limited shallow (within.opening opens) many behind room
    have opened := (ih (Nat.le_of_lt ahead)).opening (opens.allowing limit)
      (show constructs.length < limit by omega)
    exact opened.forms (limited.allowing limit) many room

/-! ## Whole texts -/

/-- Some number of constructs is the greatest that are open at one point of a text. -/
theorem Grammar.exists_most (settings : Settings) (text : List Char) : ∃ most,
    (∃ constructs rest, Within settings text constructs rest ∧ constructs.length = most) ∧
      ∀ constructs rest, Within settings text constructs rest → constructs.length ≤ most := by
  obtain ⟨most, reached, greatest⟩ := WellFounded.has_min (measure (text.length - ·)).wf
    {count | ∃ constructs rest, Within settings text constructs rest ∧ constructs.length = count}
    ⟨0, [], text, .start settings text, rfl⟩
  refine ⟨most, reached, fun constructs rest within => ?_⟩
  have fits := within.length_le
  have other : ¬ text.length - constructs.length < text.length - most :=
    greatest constructs.length ⟨constructs, rest, within, rfl⟩
  omega

/-- Of the constructs that start when as many others are open, one is the first. -/
theorem Grammar.Starts.exists_first {before : List Char} {level : Nat}
    (starts : Starts settings text before level) : ∃ first, Starts settings text first level ∧
      ∀ other, Starts settings text other level → first.length ≤ other.length := by
  obtain ⟨first, starts, least⟩ := WellFounded.has_min (measure List.length).wf
    {before | Starts settings text before level} ⟨before, starts⟩
  exact ⟨first, starts, fun other starts => Nat.not_lt.1 (least other starts)⟩

/-- A text that the grammar derives is read as its values. -/
theorem Grammar.Derives.ofBytes {values : List Value} (derives : Derives settings text values) :
    Document.ofBytes settings (Utf8.encode text) = values := by
  rw [Document.ofBytes_encode (.of_derives derives), if_neg (Derives.malformed_notMem derives)]

/-- Where a construct is one too many, and none in front of it is, the text is not read, and the
fault is that construct. -/
theorem Grammar.Starts.refused {before : List Char} {limit : Nat}
    (starts : Starts settings text before (limit + 1))
    (first : ∀ other, Starts settings text other (limit + 1) → before.length ≤ other.length)
    (origin : Origin) :
    let session := Session.ofStream (settings.allowing limit) (settings.allowing limit) origin
      (.ofBytes (Utf8.encode text))
    (session.readAll session.limit).1 = [malformed] ∧
      (session.readAll session.limit).2.diagnostic = some ⟨⟨.tooDeep, .behind before⟩, origin⟩ := by
  obtain ⟨constructs, front, construct, inside, split, within, opens, full⟩ := starts
  have shallow : Shallow settings text front limit := by
    intro other longer split' ahead starts
    have least := first other starts
    have sizes := congrArg List.length (split.symm.trans split')
    rw [List.length_append, List.length_append] at sizes
    omega
  have arrives := within.arrives shallow (Nat.le_refl _)
  obtain ⟨count, fails⟩ :=
    arrives.refused (opens.allowing limit) split (Nat.succ_injective full)
  rw [CharStream.ofBytes_encode]
  have before := Session.before_ofText (settings.allowing limit) origin text
  obtain ⟨last, all, noted⟩ :=
    Session.readAllAfter_resumed none [] before.here fails before.length_lt_limit
  exact ⟨congrArg Prod.fst all, (congrArg (·.2.diagnostic) all).trans noted⟩

/-- The limit to nesting is exact. Let a text be read without an error at some depth, and let `most`
be the greatest number of constructs that are open at one point of it. At every depth from `most` on
the text is read as the same values. At every smaller depth all that is read is an error, and the
diagnostic is that nesting is too deep where the first construct that is one too many starts: in the
line behind the newlines before it, behind the characters that this line has before it. -/
theorem Document.ofBytes_allowing (settings : Settings) (text : List Char) (deep : Nat)
    (values : List Value)
    (read : Document.ofBytes (settings.allowing deep) (Utf8.encode text) = values)
    (no_error : ∀ message, values ≠ [.error message]) :
    ∃ most,
      (∃ constructs rest, Within settings text constructs rest ∧ constructs.length = most) ∧
      (∀ constructs rest, Within settings text constructs rest → constructs.length ≤ most) ∧
      (∀ depth, most ≤ depth →
        Document.ofBytes (settings.allowing depth) (Utf8.encode text) = values) ∧
      ∀ depth < most,
        Document.ofBytes (settings.allowing depth) (Utf8.encode text) =
          [.error "error encountered while parsing"] ∧
        ∃ before, Starts settings text before (depth + 1) ∧
          (∀ other, Starts settings text other (depth + 1) → before.length ≤ other.length) ∧
          ∀ origin,
            let session := Session.ofStream (settings.allowing depth) (settings.allowing depth)
              origin (.ofBytes (Utf8.encode text))
            let line := before.count '\n' + 1
            let column := (before.reverse.takeWhile (· ≠ '\n')).length
            ∃ place, origin.Tells place ∧ (session.readAll session.limit).2.lastDiagnostic =
              some s!"nesting too deep {place}@{line}.{column}" := by
  have derives := derives_of_ofBytes read no_error
  have whole : Forms settings deep text values [] := Forms.of_allowing derives
  obtain ⟨most, reached, bounded⟩ := exists_most settings text
  refine ⟨most, reached, bounded, fun depth enough => ?_, fun depth few => ?_⟩
  · have shallow : Shallow settings text [] depth := by
      rintro before front - - ⟨constructs, _, construct, inside, -, within, opens, count⟩
      have fits := bounded _ _ (within.opening opens)
      rw [List.length_cons] at fits
      omega
    have limited := whole.limited shallow (.start settings text) (Or.inr nofun) (Nat.le_refl _)
      (Nat.zero_add depth)
    exact Grammar.Derives.ofBytes (limited.allowing depth)
  · obtain ⟨constructs, rest, within, rfl⟩ := reached
    obtain ⟨before, front, -, -, starts⟩ := within.exists_starts few
    obtain ⟨before, starts, first⟩ := Starts.exists_first starts
    refine ⟨(starts.refused first Session.unnamed).1, before, starts, first, fun origin => ?_⟩
    obtain ⟨reason, place, tells, names, told⟩ :=
      Session.exists_lastDiagnostic_eq (starts.refused first origin).2
    cases tells
    exact ⟨place, names, told⟩

theorem Document.ofBytes_allowing_mixed :
    let text := "#_ #_ ~a #t [b] c".toList
    Document.ofBytes (Settings.clojure.allowing 3) (Utf8.encode text) = [.atom .symbol "c"] ∧
      (∃ constructs rest, Within .clojure text constructs rest ∧ constructs.length = 3) ∧
      (∀ constructs rest, Within .clojure text constructs rest → constructs.length ≤ 3) ∧
      Starts .clojure text "#_ #_ ".toList 3 ∧
      let settings := Settings.clojure.allowing 2
      let session := Session.ofStream settings settings Session.unnamed
        (.ofBytes (Utf8.encode text))
      (session.readAll session.limit).2.lastDiagnostic =
        some "nesting too deep from (reader)@1.6" := by
  intro text
  have read : Document.ofBytes (Settings.clojure.allowing 3) (Utf8.encode text) =
      [.atom .symbol "c"] := by decide +kernel
  have no_error (message : String) : [Value.atom .symbol "c"] ≠ [.error message] := nofun
  obtain ⟨most, reached, bounded, enough, few⟩ :=
    ofBytes_allowing .clojure text 3 _ read no_error
  have shallow : Document.ofBytes (Settings.clojure.allowing 2) (Utf8.encode text) =
      [.error "error encountered while parsing"] := by decide +kernel
  -- At 2 the text is not read, and at 3 it is, so `most` lies between them.
  have above : ¬ most ≤ 2 := by
    intro fits
    exact no_error _ ((enough 2 fits).symm.trans shallow)
  have below : ¬ 3 < most := by
    intro exceeds
    exact no_error _ (read.symm.trans (few 3 exceeds).1)
  obtain rfl : most = 3 := by omega
  obtain ⟨-, before, starts, -, told⟩ := few 2 (by decide)
  obtain ⟨place, ⟨⟩, told⟩ := told Session.unnamed
  have shown :
      let settings := Settings.clojure.allowing 2
      let session := Session.ofStream settings settings Session.unnamed
        (.ofBytes (Utf8.encode text))
      (session.readAll session.limit).2.lastDiagnostic =
        some "nesting too deep from (reader)@1.6" := by decide +kernel
  -- Of the fronts of the text only one leads to the place that is told.
  have unique : ∀ front ∈ text.inits,
      some ("nesting too deep from (reader)@" ++ toString (front.count '\n' + 1) ++ "." ++
        toString (front.reverse.takeWhile (· ≠ '\n')).length) =
      some "nesting too deep from (reader)@1.6" → front = "#_ #_ ".toList := by decide +kernel
  have within : before <+: text := by
    obtain ⟨constructs, front, construct, inside, split, -⟩ := starts
    exact ⟨front, split.symm⟩
  obtain rfl := unique before ((List.mem_inits before text).2 within) (told.symm.trans shown)
  exact ⟨read, reached, bounded, starts, shown⟩

end Edn
