import Reconcile.Proofs.Document

/-!
Places inside a document. A place leads through objects by key and through lists by position, so that everything that a
proper document holds has a place.
-/

namespace Reconcile

inductive Place.Step where
  | key (key : Key)
  | position (index : Nat)
deriving DecidableEq

abbrev Place := List Place.Step

theorem List.forall₂_modify {α : Type} {related : α → α → Prop} {items : List α} {index : Nat} {change : α → α}
    (here : ∀ item, items[index]? = some item → related item (change item))
    (others : ∀ position item, items[position]? = some item → position ≠ index → related item item) :
    List.Forall₂ related items (items.modify index change) := by
  refine List.forall₂_iff_get.mpr ⟨(List.length_modify ..).symm, fun position inside _ => ?_⟩
  have found : items[position]? = some items[position] := List.getElem?_eq_getElem inside
  rw [List.get_eq_getElem, List.get_eq_getElem, List.getElem_modify]
  by_cases same : index = position
  · subst same
    rw [if_pos rfl]
    exact here _ found
  · rw [if_neg same]
    exact others position _ found (Ne.symm same)

namespace Value

def child? : Value → Place.Step → Option Value
  | .object fields, .key key => Assoc.get? fields key
  | .list items, .position index => items[index]?
  | _, _ => none

def at? : Place → Value → Option Value
  | [], value => some value
  | step :: rest, value => (value.child? step).bind (at? rest)

/-- A document with something else at a place. Where the place leads nowhere, the document stays as it is. -/
def replace : Place → Value → Value → Value
  | [], fresh, _ => fresh
  | .key key :: rest, fresh, .object fields => .object (Assoc.adjust fields key (replace rest fresh))
  | .position index :: rest, fresh, .list items => .list (items.modify index (replace rest fresh))
  | _ :: _, _, value => value

def text? : Value → Option String
  | .text content => some content
  | _ => none

theorem at?_cons (step : Place.Step) (rest : Place) (value : Value) :
    at? (step :: rest) value = (value.child? step).bind (at? rest) := rfl

theorem child?_key (key : Key) (value : Value) : value.child? (.key key) = value.get? key := by
  cases value <;> rfl

theorem at?_key (key : Key) (rest : Place) (fields : Fields) :
    at? (.key key :: rest) (.object fields) = (Assoc.get? fields key).bind (at? rest) := rfl

theorem at?_position (index : Nat) (rest : Place) (items : List Value) :
    at? (.position index :: rest) (.list items) = items[index]?.bind (at? rest) := rfl

theorem replace_key (key : Key) (rest : Place) (fresh : Value) (fields : Fields) :
    replace (.key key :: rest) fresh (.object fields) = .object (Assoc.adjust fields key (replace rest fresh)) := rfl

theorem replace_position (index : Nat) (rest : Place) (fresh : Value) (items : List Value) :
    replace (.position index :: rest) fresh (.list items) = .list (items.modify index (replace rest fresh)) := rfl

theorem at?_append (front rest : Place) (value : Value) :
    at? (front ++ rest) value = (at? front value).bind (at? rest) := by
  induction front generalizing value with
  | nil => rfl
  | cons step front ih =>
    rw [List.cons_append, at?_cons, at?_cons]
    cases value.child? step with
    | none => rfl
    | some inner => exact ih inner

theorem child?_of_scalar {value : Value} (scalar : value.isContainer = false) (step : Place.Step) :
    value.child? step = none := by
  cases value with
  | list => cases scalar
  | object => cases scalar
  | _ => rfl

theorem at?_field {fields : Fields} (unique : (Assoc.keys fields).Nodup) {entry : Key × Value} (member : entry ∈ fields)
    (rest : Place) : at? (.key entry.1 :: rest) (.object fields) = at? rest entry.2 := by
  rw [at?_key, Assoc.get?_of_mem unique member, Option.bind_some]

theorem exists_of_at? {fields : Fields} {place : Place} {content : String}
    (text : at? place (.object fields) = some (.text content)) :
    ∃ key value rest, (key, value) ∈ fields ∧ place = .key key :: rest ∧ at? rest value = some (.text content) := by
  cases place with
  | nil => cases text
  | cons step rest =>
    cases step with
    | position => cases text
    | key key =>
      obtain ⟨value, found, inside⟩ := Option.bind_eq_some_iff.mp text
      exact ⟨key, value, rest, Assoc.mem_of_get? found, rfl, inside⟩

theorem eq_of_at?_text {place : Place} {content other : String} (text : at? place (.text content) = some (.text other)) :
    other = content := by
  cases place with
  | nil => exact (Value.text.inj (Option.some.inj text)).symm
  | cons => cases text

theorem isProper_of_at? {place : Place} {value inner : Value} (proper : value.isProper = true)
    (found : at? place value = some inner) : inner.isProper = true := by
  induction place generalizing value with
  | nil => exact Option.some.inj found ▸ proper
  | cons step rest ih =>
    obtain ⟨child, here, found⟩ := Option.bind_eq_some_iff.mp found
    apply ih _ found
    cases value with
    | object fields =>
      cases step with
      | key key => exact isProper_of_get? proper here
      | position => cases here
    | list items =>
      cases step with
      | key => cases here
      | position index => exact isProper_list.mp proper child (List.mem_of_getElem? here)
    | _ => cases here

theorem isContainer_of_child? {value inner : Value} {step : Place.Step} (found : value.child? step = some inner) :
    value.isContainer = true := by
  cases shape : value.isContainer with
  | true => rfl
  | false =>
    rw [child?_of_scalar shape step] at found
    cases found

theorem isContainer_replace {step : Place.Step} {rest : Place} {value : Value} (container : value.isContainer = true)
    (fresh : Value) : (replace (step :: rest) fresh value).isContainer = true := by
  cases value with
  | object fields => cases step <;> rfl
  | list items => cases step <;> rfl
  | _ => cases container

theorem text?_of_isContainer {value : Value} (container : value.isContainer = true) : value.text? = none := by
  cases value with
  | text => cases container
  | _ => rfl

end Value

end Reconcile
