import Mathlib
import Reconcile.Proofs.Place
import Reconcile.Proofs.Text
import Reconcile.Proofs.Trace

/-!
What blanking out secrets changes. At every place of a document everything stays as it is, the keys of objects and their
order and the length of lists included, except for the single values that stand under a key that sounds secret.
-/

namespace Reconcile

/-- What a value is on its own: a single value, so many items, or these keys in this order. -/
inductive Shape where
  | scalar (value : Value)
  | list (length : Nat)
  | object (keys : List Key)

def Value.shape : Value → Shape
  | .list items => .list items.length
  | .object fields => .object (Assoc.keys fields)
  | value => .scalar value

namespace Trace

theorem toLower_eq_iff {letter : Char} (small : letter.isLower = true) (c : Char) :
    c.toLower = letter ↔ c = letter ∨ c = letter.toUpper := by
  have kept : letter.toLower = letter := Char.toLower_eq_of_not_isUpper (Char.not_isUpper_of_isLower small)
  constructor
  · rintro rfl
    by_cases capital : c.isUpper = true
    · right
      rw [Char.toUpper_toLower_eq_toUpper, Char.toUpper_eq_of_not_isLower (Char.not_isLower_of_isUpper capital)]
    · left
      exact (Char.toLower_eq_of_not_isUpper capital).symm
  · rintro (rfl | rfl)
    · exact kept
    · rw [Char.toLower_toUpper_eq_toLower, kept]

/-- Whether a character is a small letter in any case: the letter, its capital, or a long s for an s. -/
def SpellsLetter (c letter : Char) : Prop :=
  c = letter ∨ c = letter.toUpper ∨ letter = 's' ∧ c = 'ſ'

theorem foldLetter_eq_iff {letter : Char} (small : letter.isLower = true) (c : Char) :
    foldLetter c = letter ↔ SpellsLetter c letter := by
  unfold foldLetter SpellsLetter
  split
  next long =>
    subst long
    have apart : ('ſ' : Char).toLower ≠ letter := by
      rintro rfl
      exact absurd small (by decide)
    have others := mt (toLower_eq_iff small 'ſ').mpr apart
    rw [not_or] at others
    simp [others.1, others.2, eq_comm]
  next other => simp [toLower_eq_iff small, other]

theorem map_foldLetter_eq_iff {word : List Char} (small : ∀ letter ∈ word, letter.isLower = true) (part : List Char) :
    part.map foldLetter = word ↔ List.Forall₂ SpellsLetter part word := by
  induction word generalizing part with
  | nil => simp
  | cons letter word ih =>
    obtain ⟨here, others⟩ := List.forall_mem_cons.mp small
    cases part with
    | nil => simp
    | cons c part =>
      rw [List.map_cons, List.cons_eq_cons, List.forall₂_cons, foldLetter_eq_iff here, ih others]

theorem soundsSecret_iff (key : Key) :
    soundsSecret key = true ↔ ∃ word ∈ ["password", "passphrase", "secret"], ∃ part,
      part <:+: key.display.toList ∧ List.Forall₂ SpellsLetter part word.toList := by
  have small : ∀ word ∈ ["password", "passphrase", "secret"], ∀ letter ∈ word.toList, letter.isLower = true := by
    simp
  simp only [soundsSecret, List.any_eq_true, Text.contains, Text.occurs_iff, String.toList_ofList]
  refine exists_congr fun word => and_congr_right fun listed => ?_
  simp only [← map_foldLetter_eq_iff (small word listed)]
  constructor
  · rintro ⟨front, back, whole⟩
    obtain ⟨start, rest, split, first, rfl⟩ := List.append_eq_map_iff.mp whole
    obtain ⟨before, part, rfl, rfl, same⟩ := List.append_eq_map_iff.mp first.symm
    exact ⟨part, ⟨before, rest, split.symm⟩, same⟩
  · rintro ⟨part, inside, same⟩
    exact same ▸ inside.map foldLetter

example : soundsSecret (.named "authPaſſWord") = true := by decide

example : soundsSecret (.named "passkey") = false := by decide

def shownStep : Place.Step → Value → Value
  | .key key => shownField key
  | .position _ => censored

/-- Whether a value at a place is a secret. -/
def isSecretAtPlace (place : Place) (value : Value) : Bool :=
  match place.getLast? with
  | some (.key key) => isSecret key value
  | _ => false

theorem keys_censoredFields (fields : Fields) : Assoc.keys (censoredFields fields) = Assoc.keys fields := by
  rw [censoredFields_eq_map]
  simp [Assoc.keys]

theorem shape_censored (value : Value) : (censored value).shape = value.shape := by
  cases value with
  | list items => simp [censored, Value.shape, censoredItems_eq_map]
  | object fields => rw [censored, Value.shape, Value.shape, keys_censoredFields]
  | _ => rfl

theorem child?_censored (document : Value) (step : Place.Step) :
    (censored document).child? step = (document.child? step).map (shownStep step) := by
  cases document with
  | list items =>
    cases step with
    | key => rfl
    | position index => simp [censored, Value.child?, censoredItems_eq_map, shownStep]
  | object fields =>
    cases step with
    | key key => rw [censored, Value.child?, Value.child?, censoredFields_eq_map, Assoc.get?_map, shownStep]
    | position => rfl
  | _ => rfl

theorem at?_shownStep (step next : Place.Step) (rest : Place) (value : Value) :
    (shownStep step value).at? (next :: rest) = (censored value).at? (next :: rest) := by
  cases step with
  | position => rfl
  | key key =>
    rw [shownStep, shownField]
    split
    next secret =>
      have scalar := isContainer_of_isSecret secret
      rw [censored_of_scalar scalar, Value.at?_cons, Value.at?_cons, Value.child?_of_scalar scalar]
      rfl
    next => rfl

theorem shape_shownStep (step : Place.Step) (value : Value) :
    (shownStep step value).shape =
      if isSecretAtPlace [step] value then .scalar (.text blank) else value.shape := by
  cases step with
  | position => exact shape_censored value
  | key key =>
    rw [shownStep, shownField, isSecretAtPlace, List.getLast?_singleton]
    dsimp only
    split
    next => rfl
    next => exact shape_censored value

/-- At every place a document is shown in its shape, unless there is a secret. -/
theorem shape_at?_censored (place : Place) (document : Value) :
    ((censored document).at? place).map Value.shape = (document.at? place).map fun value =>
      if isSecretAtPlace place value then .scalar (.text blank) else value.shape := by
  induction place generalizing document with
  | nil => exact congrArg some (shape_censored document)
  | cons step rest ih =>
    rw [Value.at?_cons, Value.at?_cons, child?_censored]
    cases document.child? step with
    | none => rfl
    | some child =>
      cases rest with
      | nil => exact congrArg some (shape_shownStep step child)
      | cons next rest =>
        rw [Option.map_some, Option.bind_some, Option.bind_some, at?_shownStep, ih]
        rfl

theorem shownField_again (key : Key) {value : Value} (again : censored (censored value) = censored value) :
    shownField key (shownField key value) = shownField key value := by
  unfold shownField
  split
  next => exact ite_self _
  next plain =>
    have level : isSecret key (censored value) = isSecret key value := by
      rw [isSecret, isSecret, isContainer_censored]
    rw [level, if_neg plain, again]

theorem censored_again (document : Value) : censored (censored document) = censored document := by
  induction document using Value.byParts with
  | scalar value scalar => rw [censored_of_scalar scalar, censored_of_scalar scalar]
  | list items each =>
    rw [censored, censored, censoredItems_eq_map, censoredItems_eq_map, List.map_map]
    exact congrArg Value.list (List.map_congr_left each)
  | object fields each =>
    rw [censored, censored, censoredFields_eq_map, censoredFields_eq_map, List.map_map]
    refine congrArg Value.object (List.map_congr_left fun entry member => ?_)
    have again := shownField_again entry.1 (each entry member)
    rw [Function.comp_apply, again]

/-- Two documents look the same with their secrets blanked out exactly when they differ in secrets at most, a secret being
a single value under a key with one of three words in it, in letters of any case. Of a document every key, every length
and all order are kept, every secret is blank, every other single value is as it was, and nothing is left to blank out. -/
theorem censored_exactly (document : Value) :
    (∀ key, soundsSecret key = true ↔ ∃ word ∈ ["password", "passphrase", "secret"], ∃ part,
      part <:+: key.display.toList ∧ List.Forall₂ SpellsLetter part word.toList) ∧
    (∀ other, censored document = censored other ↔ Alike document other) ∧
    (∀ place, ((censored document).at? place).map Value.shape = (document.at? place).map fun value =>
      if isSecretAtPlace place value then .scalar (.text blank) else value.shape) ∧
    censored (censored document) = censored document :=
  ⟨soundsSecret_iff, censored_eq_iff document, fun place => shape_at?_censored place document, censored_again document⟩

end Trace

end Reconcile
