import Edn.FileSystem
import Edn.Proofs.Document

/-!
# Reading a text by way of a file

The files are made and removed by a stager, of which is asked only that its files are new and that
removing them succeeds (`Stager.Lawful`). At a place where nothing stands, an entry is put behind
all others, and removing it gives back the system as it was (`FileSystem.remove_put`); meanwhile
whatever path led to the place still leads there (`FileSystem.locate_put`). So a file that is made
for a text leaves no trace, however far its staging comes, and what is read from it is what is read
from the bytes of the text (`FileSystem.parseStaged_of_make`), whatever its name.
-/

namespace Edn

/-- The values of a stream are those of its text, whatever it is called. -/
theorem Document.ofStream_origin (settings : Settings) (origin other : Origin) (text : List Char) :
    ofStream settings origin (.ofText text) = ofStream settings other (.ofText text) := by
  obtain ⟨values, yields⟩ := exists_yields settings text
  rw [ofStream_ofText origin yields, ofStream_ofText other yields]

/-- Reading a file that holds a text is reading the bytes of the text, however they arrive. -/
theorem Document.ofOpened_encode {text : String} {deliveries : List Delivery}
    (settings : Settings) (path : String)
    (bring : Delivery.Bring deliveries (Encoding.utf8.encode text) none) :
    ofOpened settings path (.ok [.bytes (Encoding.utf8.encode text)]) =
      ofDeliveries settings deliveries := by
  have same : CharStream.ofDeliveries deliveries = .ofText text.toList := by
    rw [← CharStream.ofBytes_encode, CharStream.ofBytes, CharStream.ofDeliveries_eq bring]
    exact (CharStream.ofDeliveries_eq (.single _)).symm
  rw [ofDeliveries, same]
  show ofStream settings (.file path) (CharStream.ofBytes (Utf8.encode text.toList)) = _
  rw [CharStream.ofBytes_encode]
  exact ofStream_origin settings _ _ text.toList

namespace FileSystem

variable {system : FileSystem} {place : Place} {path : String}

/-! ## Places where nothing stands -/

theorem absent_of_free (free : system.entry? place = none) :
    place ≠ [] ∧ ∀ old ∈ system.entries, (old.1 == place) = false := by
  unfold entry? at free
  split at free
  · cases free
  · next named =>
    refine ⟨named, fun old among => ?_⟩
    exact beq_eq_false_iff_ne.2 (bne_iff_ne.1 (List.lookup_eq_none_iff.1 free old among)).symm

theorem put_of_free (free : system.entry? place = none) (entry : Entry) :
    system.put place entry = { system with entries := system.entries ++ [(place, entry)] } := by
  obtain ⟨-, absent⟩ := absent_of_free free
  have nowhere : system.entries.any (·.1 == place) = false := by
    rw [List.any_eq_false]
    exact fun old among => Bool.eq_false_iff.1 (absent old among)
  rw [put, nowhere, if_neg Bool.false_ne_true]

/-- What is put at a free place stands there. -/
theorem entry?_put (free : system.entry? place = none) (entry : Entry) :
    entry? (system.put place entry) place = some entry := by
  obtain ⟨named, absent⟩ := absent_of_free free
  have unlisted : system.entries.lookup place = none := by
    unfold entry? at free
    rwa [if_neg named] at free
  rw [put_of_free free, entry?, if_neg named]
  show (system.entries ++ [(place, entry)]).lookup place = _
  rw [List.lookup_append, unlisted, List.lookup_cons_self, Option.none_or]

/-- Putting again replaces what was put. -/
theorem put_put (free : system.entry? place = none) (entry other : Entry) :
    (system.put place entry).put place other = system.put place other := by
  obtain ⟨-, absent⟩ := absent_of_free free
  have kept : (system.entries.map fun old => if old.1 == place then (place, other) else old) =
      system.entries := by
    rw [List.map_congr_left fun old among => if_neg (Bool.eq_false_iff.1 (absent old among)),
      List.map_id']
  have listed : (system.entries ++ [(place, entry)]).any (·.1 == place) = true :=
    List.any_eq_true.2 ⟨(place, entry), List.mem_append_right _ (List.mem_singleton.2 rfl),
      beq_self_eq_true place⟩
  rw [put_of_free free, put_of_free free, put, if_pos listed, List.map_append, kept,
    List.map_singleton, if_pos (beq_self_eq_true place)]

/-- Removing what was put at a free place gives the system back. -/
theorem remove_put (free : system.entry? place = none) (entry : Entry) :
    (system.put place entry).remove place = system := by
  obtain ⟨-, absent⟩ := absent_of_free free
  have kept : system.entries.filter (·.1 != place) = system.entries :=
    List.filter_eq_self.2 fun old among => congrArg not (absent old among)
  have gone : [(place, entry)].filter (·.1 != place) = [] := by
    rw [List.filter_singleton, bne_self_eq_false]
    rfl
  rw [put_of_free free, remove, List.filter_append, kept, gone, List.append_nil]

/-! ## Paths to places where nothing stands -/

/-- What stands elsewhere is still there. -/
theorem entry?_put_of_some {other : Place} {found : Entry} (free : system.entry? place = none)
    (stands : system.entry? other = some found) (entry : Entry) :
    entry? (system.put place entry) other = some found := by
  unfold entry? at stands ⊢
  split
  · next root => rwa [if_pos root] at stands
  · next named =>
    rw [if_neg named] at stands
    rw [put_of_free free]
    show (system.entries ++ [(place, entry)]).lookup other = _
    rw [List.lookup_append, stands, Option.some_or]

/-- Names that can be followed lead on through directories, of which none is at the place. -/
theorem follow_put (free : system.entry? place = none) (entry : Entry) {start found : Place}
    {names : List String} (leads : system.follow start names = .ok found) :
    (system.put place entry).follow start names = .ok found := by
  induction names generalizing start with
  | nil => exact leads
  | cons name names ih =>
    rw [follow] at leads ⊢
    cases stands : system.entry? start with
    | none => rw [stands] at leads; cases leads
    | some entry' =>
      rw [stands] at leads
      cases entry' with
      | file _ => cases leads
      | directory =>
        rw [entry?_put_of_some free stands]
        dsimp only at leads ⊢
        split at leads
        · cases leads
        next short =>
        rw [if_neg short]
        split at leads
        · next here =>
          rw [if_pos here]
          exact ih leads
        next elsewhere =>
        rw [if_neg elsewhere]
        split at leads
        · next up =>
          rw [if_pos up]
          exact ih leads
        next down =>
        rw [if_neg down]
        exact ih leads

theorem locate_put (free : system.entry? place = none) (entry : Entry) {found : Place}
    (leads : system.locate path = .ok found) :
    (system.put place entry).locate path = .ok found := by
  have start : (system.put place entry).working = system.working := by
    rw [put_of_free free]
  unfold locate at leads ⊢
  rw [start]
  split at leads
  · cases leads
  next plain =>
  rw [if_neg plain]
  split at leads
  · cases leads
  next some_path =>
  rw [if_neg some_path]
  split at leads
  · cases leads
  next short =>
  rw [if_neg short]
  exact follow_put free entry leads

/-! ## Making, filling and opening a new file -/

/-- A file has been made by its path, at a place where nothing stood. -/
structure MadeNew (system : FileSystem) (file : StagedFile) (made : FileSystem) : Prop where
  free : system.entry? file.place = none
  created : system.create? file.path = .ok (file.place, made)

/-- The path of a file leads to its place, and these are the bytes there. -/
structure Holds (system : FileSystem) (file : StagedFile) (data : List UInt8) : Prop where
  leads : system.locate file.path = .ok file.place
  stands : system.entry? file.place = some (.file data)

theorem exists_of_bind_eq_ok {α β : Type} {first : Except IoError α} {next : α → Except IoError β}
    {result : β} (went : first >>= next = .ok result) :
    ∃ between, first = .ok between ∧ next between = .ok result := by
  cases first with
  | error error => cases went
  | ok between => exact ⟨between, rfl, went⟩

/-- All that making a file by its path takes. -/
theorem of_create {made : FileSystem} (created : system.create? path = .ok (place, made)) :
    system.locate path = .ok place ∧ endsInSlash path = false ∧
      system.createPlace place = .ok made := by
  obtain ⟨found, leads, created⟩ := exists_of_bind_eq_ok created
  split at created
  · cases created
  next plain =>
  obtain ⟨after, put, same⟩ := exists_of_bind_eq_ok created
  cases same
  exact ⟨leads, Bool.eq_false_iff.2 plain, put⟩

theorem refusals_put (system : FileSystem) (place : Place) (entry : Entry) :
    (system.put place entry).refusals = system.refusals := by
  unfold put
  split <;> rfl

theorem createPlace_of_free (free : system.entry? place = none) :
    system.createPlace place =
      system.refusals.creating.elim (.ok (system.put place (.file []))) .error := by
  rw [createPlace, free]
  cases system.refusals.creating <;> rfl

theorem fill_put (free : system.entry? place = none) (entry : Entry) (data : List UInt8) :
    (system.put place entry).fill place data =
      system.refusals.writing.elim (.ok (system.put place (.file data))) .error := by
  rw [fill, put_put free, refusals_put]
  cases system.refusals.writing <;> rfl

theorem openPlace_put (free : system.entry? place = none) (data : List UInt8) :
    (system.put place (.file data)).openPlace place =
      system.refusals.opening.elim (.ok [.bytes data]) .error := by
  rw [openPlace, entry?_put free, refusals_put]
  cases system.refusals.opening <;> rfl

namespace MadeNew

variable {made : FileSystem} {file : StagedFile}

/-- The path of a new file leads to its place and is no directory's, and an empty file has been put
there. -/
theorem path_and_eq_put (new : MadeNew system file made) :
    system.locate file.path = .ok file.place ∧ endsInSlash file.path = false ∧
      made = system.put file.place (.file []) := by
  obtain ⟨leads, plain, put⟩ := of_create new.created
  rw [createPlace_of_free new.free] at put
  cases refused : system.refusals.creating with
  | some error => rw [refused] at put; cases put
  | none =>
    rw [refused] at put
    cases put
    exact ⟨leads, plain, rfl⟩

/-- Whatever is written to a new file is what it holds. -/
theorem holds (new : MadeNew system file made) (data : List UInt8) :
    Holds (system.put file.place (.file data)) file data :=
  ⟨locate_put new.free _ new.path_and_eq_put.1, entry?_put new.free _⟩

theorem fill (new : MadeNew system file made) (data : List UInt8) :
    made.fill file.place data =
      system.refusals.writing.elim (.ok (system.put file.place (.file data))) .error := by
  rw [new.path_and_eq_put.2.2]
  exact fill_put new.free _ data

/-- A new file that has been written is opened by its path. -/
theorem open? (new : MadeNew system file made) (data : List UInt8) :
    (system.put file.place (.file data)).open? file.path =
      system.refusals.opening.elim (.ok [.bytes data]) .error := by
  rw [FileSystem.open?, (new.holds data).leads, ← openPlace_put new.free]
  show (if endsInSlash file.path then _ else _) = _
  rw [new.path_and_eq_put.2.1, if_neg Bool.false_ne_true]

end MadeNew

end FileSystem

/-! ## Staging -/

/-- What is relied on: the files of the stager are made where nothing stood, and a file that still
stands where it was made is removed when it is given up, in the one way or the other. -/
structure Stager.Lawful (stager : Stager) : Prop where
  makes_new {system made : FileSystem} {directory start finish : String} {file : StagedFile} :
    stager.make system directory start finish = .ok (file, made) → system.MadeNew file made
  drop_eq {system made later : FileSystem} {file : StagedFile} {data : List UInt8} :
    system.MadeNew file made → later.Holds file data →
    stager.drop later file = later.remove file.place
  close_eq {system made later : FileSystem} {file : StagedFile} {data : List UInt8} :
    system.MadeNew file made → later.Holds file data →
    stager.close later file = (.ok (), later.remove file.place)

namespace FileSystem

variable {stager : Stager} {system made : FileSystem} {file : StagedFile}
  {directory text : String}

/-- A file can be made for a text, filled with it, and opened again. -/
def Stages (stager : Stager) (system : FileSystem) (directory text : String) : Prop :=
  ∃ file made filled deliveries, stager.make system directory "edntree-" ".edn" = .ok (file, made) ∧
    made.fill file.place (Encoding.utf8.encode text) = .ok filled ∧
    filled.open? file.path = .ok deliveries

/-- The values of a text for which a file has been made, by what is bound to fail then. -/
def stagedValues (refusals : Refusals) (settings : Settings) (text : String) : List Value :=
  match refusals.writing, refusals.opening with
  | some error, _ => [unstaged error]
  | none, some error => [Document.unopened error]
  | none, none => Document.ofBytes settings (Encoding.utf8.encode text)

/-- When a file has been made, staging gives values that do not depend on the file, and leaves the
system as it was. -/
theorem parseStaged_of_make (lawful : stager.Lawful) (settings : Settings) (text : String)
    (makes : stager.make system directory "edntree-" ".edn" = .ok (file, made)) :
    system.parseStaged stager settings directory text =
      (stagedValues system.refusals settings text, system) := by
  have new := lawful.makes_new makes
  rw [parseStaged, makes]
  dsimp only
  rw [new.fill, stagedValues]
  cases system.refusals.writing with
  | some error =>
    have dropped := lawful.drop_eq new (new.holds [])
    rw [← new.path_and_eq_put.2.2] at dropped
    rw [Option.elim, dropped, new.path_and_eq_put.2.2, remove_put new.free]
  | none =>
    let filled := system.put file.place (.file (Encoding.utf8.encode text))
    have closed : stager.close filled file = _ := lawful.close_eq new (new.holds _)
    show (filled.parseFile settings file.path, (stager.close filled file).2) = _
    rw [closed, remove_put new.free, parseFile, new.open?]
    cases system.refusals.opening with
    | some error => rfl
    | none => exact congrArg (·, system) (Document.ofOpened_encode settings file.path (.single _))

/-- A file that has been made can be filled and opened again unless that is bound to fail. -/
theorem stages_iff (lawful : stager.Lawful) (text : String)
    (makes : stager.make system directory "edntree-" ".edn" = .ok (file, made)) :
    system.Stages stager directory text ↔
      system.refusals.writing = none ∧ system.refusals.opening = none := by
  have new := lawful.makes_new makes
  rw [Stages, makes]
  constructor
  · intro stages
    obtain ⟨file', made', filled, deliveries, same, written, opened⟩ := stages
    cases same
    rw [new.fill] at written
    cases writing : system.refusals.writing with
    | some error => rw [writing] at written; cases written
    | none =>
      rw [writing] at written
      cases written
      rw [new.open?] at opened
      cases opening : system.refusals.opening with
      | some error => rw [opening] at opened; cases opened
      | none => exact ⟨rfl, rfl⟩
  · intro sound
    let filled := system.put file.place (.file (Encoding.utf8.encode text))
    refine ⟨file, made, filled, [.bytes (Encoding.utf8.encode text)], rfl, ?_, ?_⟩
    · rw [new.fill, sound.1]
      rfl
    · rw [new.open?, sound.2]
      rfl

/-- A text that cannot be written, or not be read again, comes to one error. -/
theorem stagedValues_of_refusal {refusals : Refusals}
    (refused : ¬ (refusals.writing = none ∧ refusals.opening = none)) (settings : Settings)
    (text : String) : ∃ message, stagedValues refusals settings text = [.error message] := by
  rcases refusals with ⟨_, _ | _, _ | error⟩
  · exact absurd ⟨rfl, rfl⟩ refused
  · show ∃ message, [Document.unopened error] = [Value.error message]
    unfold Document.unopened
    split <;> exact ⟨_, rfl⟩
  all_goals exact ⟨_, rfl⟩

/-- A text that is read by way of a new file gives what reading its bytes gives, however they
arrive, if the file can be made, filled and opened again; otherwise it gives one error. Whatever
becomes of it, the directories and files are afterwards what they were before. -/
theorem parseStaged_invisible (stager : Stager) (lawful : stager.Lawful) (system : FileSystem)
    (settings : Settings) (directory text : String) :
    let staged := system.parseStaged stager settings directory text
    staged.2 = system ∧
    (system.Stages stager directory text → ∀ deliveries,
      Delivery.Bring deliveries (Encoding.utf8.encode text) none →
      staged.1 = Document.ofDeliveries settings deliveries) ∧
    (¬ system.Stages stager directory text → ∃ message, staged.1 = [.error message]) := by
  intro staged
  cases makes : stager.make system directory "edntree-" ".edn" with
  | error error =>
    have outcome : staged = ([unstaged error], system) := by
      show system.parseStaged stager settings directory text = _
      rw [parseStaged, makes]
    rw [outcome]
    refine ⟨rfl, ?_, fun _ => ⟨_, rfl⟩⟩
    intro stages
    obtain ⟨file, made, -, -, made_eq, -⟩ := stages
    cases makes.symm.trans made_eq
  | ok result =>
    obtain ⟨file, made⟩ := result
    have outcome : staged = (stagedValues system.refusals settings text, system) :=
      parseStaged_of_make lawful settings text makes
    rw [outcome, stages_iff lawful text makes]
    refine ⟨rfl, ?_, fun refused => stagedValues_of_refusal refused settings text⟩
    intro sound deliveries bring
    rw [stagedValues, sound.1, sound.2]
    exact (Document.ofOpened_encode settings directory (.single _)).symm.trans
      (Document.ofOpened_encode settings directory bring)

end FileSystem

/-! ## The stager that numbers its files -/

namespace FileSystem

variable {system made : FileSystem} {file : StagedFile}

theorem madeNew_of_createNew {path : String} {place : Place}
    (created : system.createNew? path = .ok (place, made)) :
    system.MadeNew ⟨path, place⟩ made := by
  obtain ⟨found, leads, created⟩ := exists_of_bind_eq_ok created
  split at created
  · cases created
  next free =>
  obtain ⟨leads', -, -⟩ := of_create created
  cases leads.symm.trans leads'
  exact ⟨Option.not_isSome_iff_eq_none.1 free, created⟩

theorem madeNew_of_stageFirst {path : Nat → String} {tries n : Nat}
    (staged : system.stageFirst path tries n = .ok (file, made)) : system.MadeNew file made := by
  induction tries generalizing n with
  | zero => cases staged
  | succ tries ih =>
    rw [stageFirst] at staged
    split at staged
    · next created =>
      cases staged
      exact madeNew_of_createNew created
    · split at staged
      · exact ih staged
      · cases staged

/-- A file that stands where it was made can be removed. -/
theorem MadeNew.removeFile {later : FileSystem} {data : List UInt8}
    (new : system.MadeNew file made) (holds : later.Holds file data) :
    later.removeFile file.path = .ok (later.remove file.place) := by
  have stands := holds.stands
  have plain := new.path_and_eq_put.2.1
  rw [FileSystem.removeFile, holds.leads]
  simp only [bind, Except.bind, stands, plain, Bool.false_eq_true, if_false, pure, Except.pure]

end FileSystem

theorem Stager.lawful_numbering : Stager.numbering.Lawful where
  makes_new := FileSystem.madeNew_of_stageFirst
  drop_eq new holds := by
    simp only [numbering, new.removeFile holds, Except.toOption, Option.getD]
  close_eq new holds := by
    simp only [numbering, new.removeFile holds]

/-- The first name that is tried is taken, and the bytes arrive in pieces that part a character. -/
theorem FileSystem.parseStaged_invisible_taken :
    let system := FileSystem.fresh.put ["work", "edntree-000000.edn"] (.file [0x31])
    let deliveries : List Delivery := [.bytes [0x5B, 0xCE], .bytes [0xBB, 0x5D]]
    Stager.numbering.Lawful ∧
      system.Stages .numbering "" "[λ]" ∧
      Delivery.Bring deliveries (Encoding.utf8.encode "[λ]") none ∧
      (Stager.numbering.make system "" "edntree-" ".edn").map (·.1.path) =
        .ok "edntree-000001.edn" ∧
      system.parseStaged .numbering .clojure "" "[λ]" =
        ([.sequence .vector [.atom .symbol "λ"]], system) := by
  intro system deliveries
  have lawful := Stager.lawful_numbering
  have makes : Stager.numbering.make system "" "edntree-" ".edn" =
      .ok (⟨"edntree-000001.edn", ["work", "edntree-000001.edn"]⟩,
        system.put ["work", "edntree-000001.edn"] (.file [])) := by decide +kernel
  have stages : system.Stages .numbering "" "[λ]" := (stages_iff lawful _ makes).2 ⟨rfl, rfl⟩
  have bring : Delivery.Bring deliveries (Encoding.utf8.encode "[λ]") none :=
    .chunk (List.cons_ne_nil _ _) (.chunk (List.cons_ne_nil _ _) .finished)
  have read : Document.ofDeliveries .clojure deliveries =
      [.sequence .vector [.atom .symbol "λ"]] := by decide +kernel
  obtain ⟨kept, same, -⟩ := parseStaged_invisible .numbering lawful system .clojure "" "[λ]"
  have values := same stages deliveries bring
  refine ⟨lawful, stages, bring, ?_, Prod.ext (values.trans read) kept⟩
  rw [makes]
  rfl

end Edn
