import Edn.Proofs.Document
import Edn.Proofs.Enclosing

/-!
# Settings that allow more

Settings widen others when they separate forms the same way and read every kind of form that the
others read. Nothing that stands in a text by the narrower settings is read as anything else by the
wider ones: where a kind of form is not read, its sign is refused and never taken for something
else, so a derivation has no step that more kinds of forms could upset (`Forms.widened`). Whatever
is read without an error is then read the same by wider settings that also allow as much nesting.
-/

namespace Edn

/-- The second settings read every kind of form that the first ones read, and they separate forms
the same way. How deep forms may nest is left open. -/
structure Settings.WidenedBy (settings wider : Settings) : Prop where
  commaIsBlank : wider.commaIsBlank = settings.commaIsBlank
  readerMacros : settings.readerMacros = true → wider.readerMacros = true
  taggedLiterals : settings.taggedLiterals = true → wider.taggedLiterals = true
  discard : settings.discard = true → wider.discard = true

namespace Settings.WidenedBy

variable {settings wider : Settings}

theorem isBlank_eq (wide : settings.WidenedBy wider) (c : Char) :
    wider.isBlank c = settings.isBlank c := by
  rw [Settings.isBlank, Settings.isBlank, wide.commaIsBlank]

theorem isTokenChar_eq (wide : settings.WidenedBy wider) (c : Char) :
    wider.isTokenChar c = settings.isTokenChar c := by
  rw [Settings.isTokenChar, Settings.isTokenChar, wide.isBlank_eq]

end Settings.WidenedBy

/-! ## Derivations -/

namespace Grammar

variable {settings wider : Settings} {text rest : List Char}

theorem Ends.widened (ends : Ends settings rest) (wide : settings.WidenedBy wider) :
    Ends wider rest := by
  intro c first
  rw [wide.isTokenChar_eq]
  exact ends c first

theorem AtomText.widened {kind : AtomKind} {body : List Char} (legal : AtomText settings kind body)
    (wide : settings.WidenedBy wider) : AtomText wider kind body := by
  cases legal with
  | integer valid => exact .integer valid
  | float valid => exact .float valid
  | symbol inside plain other =>
    simp only [← wide.isTokenChar_eq] at inside
    exact .symbol inside plain other
  | keyword inside plain =>
    simp only [← wide.isTokenChar_eq] at inside
    exact .keyword inside plain
  | string valid => exact .string valid
  | character valid plain => exact .character valid plain

theorem Atom.widened {kind : AtomKind} {body : List Char}
    (atom : Atom settings text kind body rest) (wide : settings.WidenedBy wider) :
    Atom wider text kind body rest := by
  refine ⟨atom.whole, atom.legal.widened wide, ?_⟩
  intro unquoted first
  simp only [wide.isTokenChar_eq] at first
  exact (atom.maximal unquoted first).widened wide

theorem Opens.widened {construct : Construct} (opens : Opens settings text construct rest)
    (wide : settings.WidenedBy wider) : Opens wider text construct rest := by
  cases opens with
  | collection bracket => exact .collection bracket rest
  | wrapper kind enabled no_splice => exact .wrapper kind (wide.readerMacros enabled) no_splice
  | tag enabled alphabetic inside ends =>
    simp only [← wide.isTokenChar_eq] at inside
    exact .tag (wide.taggedLiterals enabled) alphabetic inside (ends.widened wide)
  | discard enabled => exact .discard (wide.discard enabled)

theorem Blank.widened (blank : Blank settings text rest) (wide : settings.WidenedBy wider) :
    Blank wider text rest := by
  cases blank with
  | char blank => exact .char ((wide.isBlank_eq _).trans blank)
  | comment plain ends => exact .comment plain ends

mutual

theorem Form.widened {depth : Nat} {text rest : List Char} {value : Value}
    (form : Form settings depth text value rest) (wide : settings.WidenedBy wider) :
    Form wider depth text value rest := by
  match form with
  | .atom atom => exact .atom (atom.widened wide)
  | .sequence opens inside => exact .sequence (opens.widened wide) (inside.widened wide)
  | .dictionary opens inside paired =>
    exact .dictionary (opens.widened wide) (inside.widened wide) paired
  | .wrapped opens gaps content =>
    exact .wrapped (opens.widened wide) (gaps.widened wide) (content.widened wide)
  | .tagged opens gaps content =>
    exact .tagged (opens.widened wide) (gaps.widened wide) (content.widened wide)

theorem Gap.widened {depth : Nat} {text rest : List Char} (gap : Gap settings depth text rest)
    (wide : settings.WidenedBy wider) : Gap wider depth text rest := by
  match gap with
  | .blank blank => exact .blank (blank.widened wide)
  | .discard opens gaps dropped =>
    exact .discard (opens.widened wide) (gaps.widened wide) (dropped.widened wide)

/-- What stands in a text by some settings stands there by wider ones. -/
theorem Forms.widened {depth : Nat} {text rest : List Char} {values : List Value}
    (forms : Forms settings depth text values rest) (wide : settings.WidenedBy wider) :
    Forms wider depth text values rest := by
  match forms with
  | .nil => exact .nil
  | .gap parted forms => exact .gap (parted.widened wide) (forms.widened wide)
  | .form found forms => exact .form (found.widened wide) (forms.widened wide)

end

end Grammar

/-! ## Whole inputs -/

open Grammar

/-- What is read without an error, from whatever bytes and however they arrive, is read the same by
settings that read more kinds of forms and allow deeper nesting. -/
theorem Document.ofDeliveries_widened (settings wider : Settings) (deliveries : List Delivery)
    (values : List Value) (wide : settings.WidenedBy wider)
    (deeper : settings.maxDepth ≤ wider.maxDepth)
    (read : ofDeliveries settings deliveries = values)
    (no_error : ∀ message, values ≠ [.error message]) :
    ofDeliveries wider deliveries = values := by
  obtain ⟨text, same, derives⟩ := derives_of_ofDeliveries read no_error
  have wider_derives : Derives wider text values := (Forms.widened derives wide).mono deeper
  rw [ofDeliveries, same, ofStream_ofText _ (.of_derives wider_derives),
    if_neg (Derives.malformed_notMem wider_derives)]

/-- Signs of forms that the narrower settings do not read stand inside tokens, strings and
comments, and the text arrives in two reads. -/
theorem Document.ofDeliveries_widened_plain :
    let narrow : Settings := ⟨false, false, false, true, 1⟩
    let deliveries := [Delivery.bytes (Utf8.encode "a'b#_c, [x~@y \\^ \"#t ".toList),
      .bytes (Utf8.encode "'\"] ; #_(".toList)]
    let values : List Value := [.atom .symbol "a'b#_c",
      .sequence .vector [.atom .symbol "x~@y", .atom .character "^", .atom .string "#t '"]]
    narrow.WidenedBy .clojure ∧ narrow.maxDepth ≤ Settings.clojure.maxDepth ∧
      ofDeliveries narrow deliveries = values ∧ ofDeliveries .clojure deliveries = values := by
  intro narrow deliveries values
  have wide : narrow.WidenedBy .clojure := ⟨rfl, nofun, nofun, nofun⟩
  have deeper : narrow.maxDepth ≤ Settings.clojure.maxDepth := by decide
  have read : ofDeliveries narrow deliveries = values := by decide +kernel
  have no_error : ∀ message, values ≠ [.error message] := by simp [values]
  exact ⟨wide, deeper, read,
    ofDeliveries_widened narrow .clojure deliveries values wide deeper read no_error⟩

end Edn
