import Edn.Proofs.Widening

/-!
# How many constructs are open at a point of a text

`Within` names the constructs that are open at a point of a text, without regard to how many may be.
Forms that are derived with room for many constructs need no more room than for those that are open
at some point of them: where no construct is the one too many, they are derived with less
(`Form.limited`). So whether a text is read at a depth is settled by the constructs in it that start
when as many others are open (`Starts`).
-/

namespace Edn

/-- The settings with another limit to how many constructs may be open. -/
def Settings.allowing (settings : Settings) (depth : Nat) : Settings :=
  { settings with maxDepth := depth }

theorem Settings.widenedBy_allowing (settings : Settings) (depth : Nat) :
    settings.WidenedBy (settings.allowing depth) :=
  ⟨rfl, id, id, id⟩

namespace Grammar

variable {settings : Settings} {text front rest : List Char}

/-! ## The grammar does not know the limit -/

theorem Opens.allowing {construct : Construct} (limit : Nat)
    (opens : Opens settings text construct rest) :
    Opens (settings.allowing limit) text construct rest :=
  opens.widened (settings.widenedBy_allowing limit)

theorem Forms.allowing {depth : Nat} {text rest : List Char} {values : List Value} (limit : Nat)
    (forms : Forms settings depth text values rest) :
    Forms (settings.allowing limit) depth text values rest :=
  forms.widened (settings.widenedBy_allowing limit)

theorem Forms.of_allowing {limit depth : Nat} {text rest : List Char} {values : List Value}
    (forms : Forms (settings.allowing limit) depth text values rest) :
    Forms settings depth text values rest :=
  forms.allowing settings.maxDepth

/-! ## What is open -/

/-- The innermost of the constructs takes any number of forms, or nothing is open. -/
def TakesMany (constructs : List Construct) : Prop :=
  ∀ construct ∈ constructs.head?, ∃ bracket, construct = .collection bracket

theorem takesMany_collection {bracket : Bracket} {constructs : List Construct} :
    TakesMany (.collection bracket :: constructs) := by
  rintro _ ⟨⟩
  exact ⟨bracket, rfl⟩

/-- At the front of `rest`, in the text, these constructs are open, the innermost first. -/
inductive Within (settings : Settings) (text : List Char) : List Construct → List Char → Prop
  | nil {depth : Nat} {values : List Value} {rest : List Char} :
    Forms settings depth text values rest → Within settings text [] rest
  | cons {constructs : List Construct} {front inside rest : List Char} {construct : Construct}
      {depth : Nat} {values : List Value} :
    Within settings text constructs front → Opens settings front construct inside →
    Forms settings depth inside values rest → (values = [] ∨ TakesMany [construct]) →
    Within settings text (construct :: constructs) rest

/-- Behind `before` a construct starts in the text, and with it `level` constructs are open. -/
def Starts (settings : Settings) (text before : List Char) (level : Nat) : Prop :=
  ∃ constructs front construct inside, text = before ++ front ∧
    Within settings text constructs front ∧ Opens settings front construct inside ∧
    constructs.length + 1 = level

namespace Within

variable {constructs : List Construct} {construct : Construct} {inside : List Char} {depth : Nat}

theorem start (settings : Settings) (text : List Char) : Within settings text [] text :=
  .nil (@Forms.nil settings 0 text)

theorem suffix (within : Within settings text constructs rest) : rest <:+ text := by
  induction within with
  | nil forms => exact forms.suffix
  | cons _ opens forms _ ih => exact (forms.suffix.trans opens.suffix).trans ih

theorem opening (within : Within settings text constructs front)
    (opens : Opens settings front construct inside) :
    Within settings text (construct :: constructs) inside :=
  @cons settings text constructs front inside inside construct 0 [] within opens .nil (Or.inl rfl)

/-- What is open stays open behind complete forms and gaps. -/
theorem forms {values : List Value} (within : Within settings text constructs front)
    (forms : Forms settings depth front values rest) (many : values = [] ∨ TakesMany constructs) :
    Within settings text constructs rest := by
  have joined {inner : List Char} {others : List Value} {depth' : Nat}
      (others_forms : Forms settings depth' inner others front) :
      Forms settings (max depth' depth) inner (others ++ values) rest :=
    (others_forms.mono (Nat.le_max_left _ _)).append (forms.mono (Nat.le_max_right _ _))
  cases within with
  | nil earlier => exact .nil (joined earlier)
  | cons within opens earlier single =>
    refine .cons within opens (joined earlier) ?_
    rcases many with rfl | many
    · simpa using single
    · exact Or.inr many

theorem length_le (within : Within settings text constructs rest) :
    constructs.length + rest.length ≤ text.length := by
  induction within with
  | nil forms =>
    have shorter := forms.length_le
    simpa using shorter
  | cons _ opens forms _ ih =>
    have front_lt := opens.length_lt
    have inside_le := forms.length_le
    rw [List.length_cons]
    omega

/-- Where some constructs are open, each of them has started. -/
theorem exists_starts {limit : Nat} (within : Within settings text constructs rest)
    (deep : limit < constructs.length) :
    ∃ before front, text = before ++ front ∧ rest.length < front.length ∧
      Starts settings text before (limit + 1) := by
  induction within with
  | nil _ => exact absurd deep (Nat.not_lt_zero _)
  | @cons constructs front inside rest construct _ _ within opens forms _ ih =>
    have ahead : rest.length < front.length := Nat.lt_of_le_of_lt forms.length_le opens.length_lt
    rw [List.length_cons, Nat.lt_add_one_iff] at deep
    rcases Nat.lt_or_eq_of_le deep with deeper | rfl
    · obtain ⟨before, earlier, split, longer, starts⟩ := ih deeper
      exact ⟨before, earlier, split, Nat.lt_trans ahead longer, starts⟩
    · obtain ⟨before, split⟩ := within.suffix
      exact ⟨before, front, split.symm, ahead, constructs, front, construct, inside, split.symm,
        within, opens, rfl⟩

end Within

/-! ## Forms need room for what is open in them -/

section

variable {limit : Nat} {stop : List Char}

/-- In the text, none of the constructs that start in front of `stop` is one too many. -/
def Shallow (settings : Settings) (text stop : List Char) (limit : Nat) : Prop :=
  ∀ before front, text = before ++ front → stop.length < front.length →
    ¬ Starts settings text before (limit + 1)

theorem Shallow.room {constructs : List Construct} {construct : Construct}
    {inside : List Char} {allowed : Nat} (shallow : Shallow settings text stop limit)
    (within : Within settings text constructs front)
    (opens : Opens settings front construct inside) (ahead : stop.length < front.length)
    (room : constructs.length + allowed = limit) : ∃ inner, allowed = inner + 1 := by
  refine Nat.exists_eq_add_one_of_ne_zero fun full => ?_
  subst full
  obtain ⟨before, split⟩ := within.suffix
  exact shallow before front split.symm ahead
    ⟨constructs, front, construct, inside, split.symm, within, opens, by rw [← room]⟩

theorem Shallow.length_le {constructs : List Construct}
    (shallow : Shallow settings text stop limit) (within : Within settings text constructs rest)
    (behind : stop.length ≤ rest.length) : constructs.length ≤ limit := by
  refine Nat.not_lt.1 fun deep => ?_
  obtain ⟨before, front, split, longer, starts⟩ := within.exists_starts deep
  exact shallow before front split (Nat.lt_of_le_of_lt behind longer) starts

theorem room_opening {constructs : List Construct} {construct : Construct} {inner : Nat}
    (room : constructs.length + (inner + 1) = limit) :
    (construct :: constructs).length + inner = limit := by
  rw [List.length_cons]
  omega

mutual

/-- A form in which no construct is one too many is derived with room for what is open in it. -/
theorem Form.limited {depth : Nat} {front rest : List Char} {value : Value}
    (form : Form settings depth front value rest) (shallow : Shallow settings text stop limit)
    {constructs : List Construct} {allowed : Nat} (within : Within settings text constructs front)
    (behind : stop.length ≤ rest.length) (room : constructs.length + allowed = limit) :
    Form settings allowed front value rest := by
  have ahead : stop.length < front.length := Nat.lt_of_le_of_lt behind form.length_lt
  match form with
  | .atom atom => exact .atom atom
  | .sequence opens inside =>
    obtain ⟨inner, rfl⟩ := shallow.room within opens ahead room
    have items := inside.limited shallow (within.opening opens) (Or.inr takesMany_collection)
      (Nat.le_succ_of_le behind) (room_opening room)
    exact .sequence opens items
  | .dictionary opens inside paired =>
    obtain ⟨inner, rfl⟩ := shallow.room within opens ahead room
    have items := inside.limited shallow (within.opening opens) (Or.inr takesMany_collection)
      (Nat.le_succ_of_le behind) (room_opening room)
    exact .dictionary opens items paired
  | .wrapped opens gaps content =>
    obtain ⟨inner, rfl⟩ := shallow.room within opens ahead room
    have opened := within.opening opens
    have between := gaps.limited shallow opened (Or.inl rfl)
      (Nat.le_trans behind (Nat.le_of_lt content.length_lt)) (room_opening room)
    exact .wrapped opens between
      (content.limited shallow (opened.forms gaps (Or.inl rfl)) behind (room_opening room))
  | .tagged opens gaps content =>
    obtain ⟨inner, rfl⟩ := shallow.room within opens ahead room
    have opened := within.opening opens
    have between := gaps.limited shallow opened (Or.inl rfl)
      (Nat.le_trans behind (Nat.le_of_lt content.length_lt)) (room_opening room)
    exact .tagged opens between
      (content.limited shallow (opened.forms gaps (Or.inl rfl)) behind (room_opening room))

theorem Gap.limited {depth : Nat} {front rest : List Char}
    (gap : Gap settings depth front rest) (shallow : Shallow settings text stop limit)
    {constructs : List Construct} {allowed : Nat} (within : Within settings text constructs front)
    (behind : stop.length ≤ rest.length) (room : constructs.length + allowed = limit) :
    Gap settings allowed front rest := by
  have ahead : stop.length < front.length := Nat.lt_of_le_of_lt behind gap.length_lt
  match gap with
  | .blank blank => exact .blank blank
  | .discard opens gaps dropped =>
    obtain ⟨inner, rfl⟩ := shallow.room within opens ahead room
    have opened := within.opening opens
    have between := gaps.limited shallow opened (Or.inl rfl)
      (Nat.le_trans behind (Nat.le_of_lt dropped.length_lt)) (room_opening room)
    exact .discard opens between
      (dropped.limited shallow (opened.forms gaps (Or.inl rfl)) behind (room_opening room))

theorem Forms.limited {depth : Nat} {front rest : List Char} {values : List Value}
    (forms : Forms settings depth front values rest) (shallow : Shallow settings text stop limit)
    {constructs : List Construct} {allowed : Nat} (within : Within settings text constructs front)
    (many : values = [] ∨ TakesMany constructs)
    (behind : stop.length ≤ rest.length) (room : constructs.length + allowed = limit) :
    Forms settings allowed front values rest := by
  match forms with
  | .nil => exact .nil
  | .gap parted forms =>
    have first := parted.limited shallow within (Nat.le_trans behind forms.length_le) room
    exact .gap first (forms.limited shallow (within.forms (.gap parted .nil) (Or.inl rfl)) many
      behind room)
  | .form found forms =>
    have many := many.resolve_left (List.cons_ne_nil _ _)
    have first := found.limited shallow within (Nat.le_trans behind forms.length_le) room
    exact .form first (forms.limited shallow (within.forms (.form found .nil) (Or.inr many))
      (Or.inr many) behind room)

end

end

end Grammar

end Edn
