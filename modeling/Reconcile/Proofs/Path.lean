import Reconcile.Path
import Reconcile.Proofs.Document
import Reconcile.Proofs.Text

/-!
Addresses inside a document. A value that is written is found at its path, and what is found elsewhere does not change,
as long as neither path leads through the other.
-/

namespace Reconcile

namespace Path

theorem ofDotted_undotted {name : String} (undotted : '.' ∉ name.toList) : ofDotted name = [.named name] := by
  unfold ofDotted Text.cut
  have dot : ".".toList = ['.'] := rfl
  rw [dot, Text.pieces_of_absent undotted]
  simp

/-- Neither path leads through the other. -/
def Apart (path other : Path) : Prop :=
  ¬ path <+: other ∧ ¬ other <+: path

instance (path other : Path) : Decidable (Apart path other) :=
  inferInstanceAs (Decidable (¬_ ∧ ¬_))

theorem Apart.symm {path other : Path} (apart : Apart path other) : Apart other path :=
  ⟨apart.2, apart.1⟩

theorem apart_of_head_ne {key head : Key} (differ : key ≠ head) (rest tail : Path) :
    Apart (key :: rest) (head :: tail) :=
  ⟨fun whole => differ (List.cons_prefix_cons.mp whole).1,
    fun whole => differ (List.cons_prefix_cons.mp whole).1.symm⟩

theorem Apart.ne_nil {path other : Path} (apart : Apart path other) : path ≠ [] := by
  rintro rfl
  exact apart.1 List.nil_prefix

theorem apart_singleton {key head : Key} {rest : Path} : Apart [key] (head :: rest) ↔ key ≠ head := by
  refine ⟨?_, fun differ => apart_of_head_ne differ [] rest⟩
  rintro apart rfl
  exact apart.1 (List.cons_prefix_cons.mpr ⟨rfl, List.nil_prefix⟩)

theorem apart_cons {key : Key} {rest tail : Path} : Apart (key :: rest) (key :: tail) ↔ Apart rest tail := by
  simp [Apart, List.cons_prefix_cons]

theorem apart_of_length_eq {path other : Path} (level : path.length = other.length) (differ : path ≠ other) :
    Apart path other :=
  ⟨fun whole => differ (whole.eq_of_length level), fun whole => differ (whole.eq_of_length level.symm).symm⟩

def inside (field? : Option Value) : Fields :=
  (field?.bind Value.fields?).getD []

theorem get?_inside (field? : Option Value) (key : Key) :
    Assoc.get? (inside field?) key = field?.bind (·.get? key) := by
  cases field? with
  | none => rfl
  | some value => cases value <;> rfl

theorem get?_one (key : Key) (value : Value) : get? [key] value = value.get? key := by
  rw [get?]
  cases value.get? key <;> rfl

theorem get?_two (outer name : Key) (value : Value) :
    get? [outer, name] value = (value.get? outer).bind (·.get? name) := by
  rw [get?]
  cases value.get? outer with
  | none => rfl
  | some inner => exact get?_one name inner

theorem get?_pair (outer name : Key) (fields : Fields) :
    get? [outer, name] (.object fields) = (Assoc.get? fields outer).bind (·.get? name) :=
  get?_two outer name (.object fields)

theorem inner_eq_inside (fields : Fields) (key : Key) : inner fields key = inside (Assoc.get? fields key) := by
  unfold inner inside
  cases Assoc.get? fields key with
  | none => rfl
  | some value => cases value <;> rfl

theorem get?_inner (outer name : Key) (fields : Fields) :
    get? [outer, name] (.object fields) = Assoc.get? (inner fields outer) name := by
  rw [get?_pair, inner_eq_inside, get?_inside]

theorem get?_cons_object (key : Key) (rest : Path) (fields : Fields) :
    get? (key :: rest) (.object fields) = (Assoc.get? fields key).bind (get? rest) := by
  rw [get?, Value.get?]
  cases Assoc.get? fields key <;> rfl

theorem get?_singleton (key : Key) (fields : Fields) : get? [key] (.object fields) = Assoc.get? fields key := by
  rw [get?_cons_object]
  cases Assoc.get? fields key <;> rfl

theorem get?_cons_inner (key next : Key) (rest : Path) (fields : Fields) :
    get? (key :: next :: rest) (.object fields) = get? (next :: rest) (.object (inner fields key)) := by
  rw [get?_cons_object, inner_eq_inside]
  cases Assoc.get? fields key with
  | none => rfl
  | some value => cases value <;> rfl

theorem get?_append (path rest : Path) (value : Value) :
    get? (path ++ rest) value = (get? path value).bind (get? rest) := by
  induction path generalizing value with
  | nil => rfl
  | cons key tail ih =>
    rw [List.cons_append, get?, get?]
    cases value.get? key with
    | none => rfl
    | some inner => exact ih inner

theorem get?_concat (path : Path) (key : Key) (value : Value) :
    get? (path ++ [key]) value = (get? path value).bind (·.get? key) := by
  rw [get?_append]
  exact congrArg _ (funext (get?_one key))

/-- Whether there is an object at a path. -/
def HasObject (path : Path) (value : Value) : Prop :=
  ∃ fields, path.get? value = some (.object fields)

theorem get?_put_head {head key : Key} (other : key ≠ head) (rest : Path) (value : Value) (fields : Fields) :
    Assoc.get? (put (head :: rest) value fields) key = Assoc.get? fields key := by
  cases rest with
  | nil => exact Assoc.get?_put_of_ne (Ne.symm other) _
  | cons next rest => exact Assoc.get?_put_of_ne (Ne.symm other) _

theorem get?_put_self {path : Path} (long : path ≠ []) (value : Value) (fields : Fields) :
    get? path (.object (path.put value fields)) = some value := by
  induction path generalizing fields with
  | nil => exact absurd rfl long
  | cons key rest ih =>
    cases rest with
    | nil => rw [put, get?_cons_object, Assoc.get?_put_self, Option.bind_some, get?]
    | cons next rest =>
      rw [put, get?_cons_object, Assoc.get?_put_self, Option.bind_some]
      exact ih (List.cons_ne_nil next rest) (inner fields key)

theorem get?_put_object {path : Path} {front : Path} (before : front <+: path) (content fields : Fields) :
    path = [] ∨ ∃ inner, get? front (.object (path.put (.object content) fields)) = some (.object inner) := by
  induction path generalizing front fields with
  | nil => exact .inl rfl
  | cons key rest ih =>
    refine .inr ?_
    cases front with
    | nil => exact ⟨_, rfl⟩
    | cons head tail =>
      obtain ⟨rfl, later⟩ := List.cons_prefix_cons.mp before
      cases rest with
      | nil =>
        obtain rfl := List.prefix_nil.mp later
        exact ⟨content, get?_put_self (List.cons_ne_nil _ _) _ _⟩
      | cons next rest =>
        rw [put, get?_cons_object, Assoc.get?_put_self, Option.bind_some]
        exact (ih later (inner fields head)).resolve_left (List.cons_ne_nil _ _)

theorem get?_put_apart {path other : Path} (apart : Apart path other) (value : Value) (fields : Fields) :
    get? other (.object (path.put value fields)) = get? other (.object fields) := by
  induction path generalizing other fields with
  | nil => exact absurd rfl apart.ne_nil
  | cons key rest ih =>
    obtain ⟨head, tail, rfl⟩ := List.exists_cons_of_ne_nil apart.symm.ne_nil
    by_cases differ : head = key
    · subst differ
      have later : Apart rest tail := apart_cons.mp apart
      obtain ⟨next, rest, rfl⟩ := List.exists_cons_of_ne_nil later.ne_nil
      obtain ⟨next', tail, rfl⟩ := List.exists_cons_of_ne_nil later.symm.ne_nil
      rw [put, get?_cons_object, Assoc.get?_put_self, Option.bind_some, ih later, get?_cons_inner]
    · rw [get?_cons_object, get?_put_head differ, get?_cons_object]

/-- Writing changes what is at the path and nothing else that is as deep. -/
theorem get?_put {path other : Path} (long : path ≠ []) (level : path.length = other.length) (value : Value)
    (fields : Fields) :
    get? other (.object (path.put value fields)) =
      if path = other then some value else get? other (.object fields) := by
  by_cases same : path = other
  · rw [if_pos same, ← same, get?_put_self long]
  · rw [if_neg same, get?_put_apart (apart_of_length_eq level same)]

theorem get?_erase_apart {key : Key} {path : Path} (apart : Apart [key] path) (fields : Fields) :
    get? path (.object (Assoc.erase fields key)) = get? path (.object fields) := by
  obtain ⟨head, rest, rfl⟩ := List.exists_cons_of_ne_nil apart.symm.ne_nil
  rw [get?_cons_object, Assoc.get?_erase_of_ne (apart_singleton.mp apart), get?_cons_object]

theorem nodup_keys_put {path : Path} {fields : Fields} (unique : (Assoc.keys fields).Nodup) (value : Value) :
    (Assoc.keys (path.put value fields)).Nodup := by
  match path with
  | [] => exact unique
  | [key] => exact Assoc.nodup_keys_put unique key value
  | key :: next :: rest => exact Assoc.nodup_keys_put unique key _

theorem erase_singleton (key : Key) (fields : Fields) : erase [key] fields = Assoc.erase fields key := by
  unfold erase erase?
  cases present : Assoc.has fields key with
  | true => rfl
  | false =>
    rw [Assoc.has_eq_isSome, Option.isSome_eq_false_iff, Option.isNone_iff_eq_none] at present
    exact (Assoc.erase_eq_self present).symm

theorem erase_cons (key next : Key) (rest : Path) (fields : Fields) :
    erase (key :: next :: rest) fields =
      match Assoc.get? fields key with
      | some (.object inside) => Assoc.put fields key (.object (erase (next :: rest) inside))
      | _ => fields := by
  cases found : Assoc.get? fields key with
  | none => simp [erase, erase?, found]
  | some value =>
    cases value with
    | object inside =>
      simp only [erase, erase?, found]
      cases erase? (next :: rest) inside with
      | none => exact (Assoc.put_eq_self found).symm
      | some left => rfl
    | _ => simp [erase, erase?, found]

theorem erase_nil (path : Path) : erase path [] = [] := by
  match path with
  | [] => rfl
  | [key] => rfl
  | key :: next :: rest => rfl

theorem isProper_inside {field? : Option Value} (proper : ∀ value, field? = some value → value.isProper = true) :
    (Value.object (inside field?)).isProper = true := by
  cases field? with
  | none => rfl
  | some value =>
    cases value with
    | object fields => exact proper _ rfl
    | _ => rfl

theorem isProper_inner {fields : Fields} (proper : (Value.object fields).isProper = true) (key : Key) :
    (Value.object (inner fields key)).isProper = true := by
  rw [inner_eq_inside]
  exact isProper_inside fun value found => Value.isProper_of_get? proper found

theorem isProper_put (path : Path) {value : Value} {fields : Fields} (fresh : value.isProper = true)
    (proper : (Value.object fields).isProper = true) : (Value.object (path.put value fields)).isProper = true := by
  induction path generalizing fields with
  | nil => exact proper
  | cons key rest ih =>
    cases rest with
    | nil => exact Value.isProper_put proper key fresh
    | cons next rest => exact Value.isProper_put proper key (ih (isProper_inner proper key))

theorem isProper_erase (path : Path) {fields : Fields} (proper : (Value.object fields).isProper = true) :
    (Value.object (path.erase fields)).isProper = true := by
  induction path generalizing fields with
  | nil => exact proper
  | cons key rest ih =>
    cases rest with
    | nil => exact erase_singleton key fields ▸ Value.isProper_filter proper _
    | cons next rest =>
      rw [erase_cons]
      split
      next found => exact Value.isProper_put proper key (ih (Value.isProper_of_get? proper found))
      next => exact proper

theorem inner_put_self (fields : Fields) (key : Key) (inside : Fields) :
    inner (Assoc.put fields key (.object inside)) key = inside := by
  rw [inner, Assoc.get?_put_self]

theorem put_put (path : Path) (value last : Value) (fields : Fields) :
    path.put last (path.put value fields) = path.put last fields := by
  induction path generalizing fields with
  | nil => rfl
  | cons key rest ih =>
    cases rest with
    | nil => exact Assoc.put_put fields key value last
    | cons next rest => rw [put, put, put, inner_put_self, ih, Assoc.put_put]

theorem isSome_erase? {path : Path} (long : path ≠ []) (fields : Fields) :
    (erase? path fields).isSome = (path.get? (.object fields)).isSome := by
  induction path generalizing fields with
  | nil => exact absurd rfl long
  | cons key rest ih =>
    cases rest with
    | nil =>
      rw [erase?, get?_singleton, ← Assoc.has_eq_isSome]
      cases Assoc.has fields key <;> rfl
    | cons next rest =>
      rw [erase?, get?_cons_object]
      cases Assoc.get? fields key with
      | none => rfl
      | some value =>
        cases value with
        | object inside => rw [Option.isSome_map, ih (List.cons_ne_nil next rest), Option.bind_some]
        | _ => rfl

theorem get?_erase?_self {path : Path} {fields left : Fields} (erased : erase? path fields = some left) :
    path.get? (.object left) = none := by
  induction path generalizing fields left with
  | nil => cases erased
  | cons key rest ih =>
    cases rest with
    | nil =>
      rw [erase?] at erased
      split at erased
      next =>
        cases erased
        rw [get?_singleton, Assoc.get?_erase_self]
      next => cases erased
    | cons next rest =>
      rw [erase?] at erased
      split at erased
      next inside found =>
        obtain ⟨remains, inner, rfl⟩ := Option.map_eq_some_iff.mp erased
        rw [get?_cons_object, Assoc.get?_put_self, Option.bind_some]
        exact ih inner
      next => cases erased

theorem get?_erase?_apart {path other : Path} (apart : Apart path other) {fields left : Fields}
    (erased : erase? path fields = some left) : other.get? (.object left) = other.get? (.object fields) := by
  induction path generalizing other fields left with
  | nil => cases erased
  | cons key rest ih =>
    obtain ⟨head, tail, rfl⟩ := List.exists_cons_of_ne_nil apart.symm.ne_nil
    cases rest with
    | nil =>
      rw [erase?] at erased
      split at erased
      next =>
        cases erased
        exact get?_erase_apart apart fields
      next => cases erased
    | cons next rest =>
      rw [erase?] at erased
      split at erased
      next inside found =>
        obtain ⟨remains, inner, rfl⟩ := Option.map_eq_some_iff.mp erased
        rw [get?_cons_object, get?_cons_object]
        by_cases differ : key = head
        · subst differ
          rw [Assoc.get?_put_self, found, Option.bind_some, Option.bind_some]
          exact ih (apart_cons.mp apart) inner
        · rw [Assoc.get?_put_of_ne differ]
      next => cases erased

theorem putIn_object {path : Path} (long : path ≠ []) (value : Value) (fields : Fields) :
    path.putIn value (.object fields) = .ok (.object (path.put value fields)) := by
  rw [putIn]
  exact long

theorem eraseIn_object {path : Path} (long : path ≠ []) (fields : Fields) :
    path.eraseIn (.object fields) =
      .ok ((erase? path fields).isSome, .object ((erase? path fields).getD fields)) := by
  rw [eraseIn]
  · cases erase? path fields <;> rfl
  · exact long

/-- Whatever the document and the path, what is written there is what is found there afterwards, and the value written last
stays; what is there can be erased and then is gone, and nothing else can be erased. Neither reaches a path that stands
apart. -/
theorem putIn_eraseIn_lawful {path : Path} (long : path ≠ []) (fields : Fields) :
    (∀ value, ∃ after, path.putIn value (.object fields) = .ok after ∧ path.get? after = some value ∧
      (∀ other, Apart path other → other.get? after = other.get? (.object fields)) ∧
      ∀ last, path.putIn last after = path.putIn last (.object fields)) ∧
    ∃ erased after, path.eraseIn (.object fields) = .ok (erased, after) ∧
      (erased = true ↔ ∃ value, path.get? (.object fields) = some value) ∧ path.get? after = none ∧
      (∀ other, Apart path other → other.get? after = other.get? (.object fields)) ∧
      (erased = false → after = .object fields) := by
  constructor
  · intro value
    refine ⟨_, putIn_object long value fields, get?_put_self long value fields, ?_, ?_⟩
    · exact fun other apart => get?_put_apart apart value fields
    · intro last
      rw [putIn_object long, putIn_object long, put_put]
  · refine ⟨_, _, eraseIn_object long fields, ?_, ?_, ?_, ?_⟩
    · rw [isSome_erase? long, Option.isSome_iff_exists]
    · cases erased : erase? path fields with
      | none =>
        have absent := isSome_erase? long fields
        rw [erased, eq_comm] at absent
        exact Option.isNone_iff_eq_none.mp (Option.isSome_eq_false_iff.mp absent)
      | some left => exact get?_erase?_self erased
    · intro other apart
      cases erased : erase? path fields with
      | none => rfl
      | some left => exact get?_erase?_apart apart erased
    · intro kept
      rw [Option.isSome_eq_false_iff, Option.isNone_iff_eq_none] at kept
      rw [kept, Option.getD_none]

/-- A password is written where there is a text in place of an object, and erased again; the object is left behind. -/
theorem putIn_eraseIn_lawful_password :
    let path : Path := ["user", "authentication", "password"]
    let other : Path := ["user", "name"]
    let fields : Fields := [("user", .object [("name", .text "admin"), ("authentication", .text "none")])]
    path ≠ [] ∧ Apart path other ∧ path.eraseIn (.object fields) = .ok (false, .object fields) ∧
      ∃ after erased, path.putIn (.text "x") (.object fields) = .ok after ∧ path.get? after = some (.text "x") ∧
        other.get? after = some (.text "admin") ∧ path.eraseIn after = .ok (true, erased) ∧ path.get? erased = none ∧
        other.get? erased = some (.text "admin") := by
  intro path other fields
  have long : path ≠ [] := by decide
  have apart : Apart path other := by decide
  obtain ⟨after, written, found, kept, _⟩ := (putIn_eraseIn_lawful long fields).1 (.text "x")
  cases written
  obtain ⟨erased, left, done, _, gone, kept', _⟩ := (putIn_eraseIn_lawful long (path.put (.text "x") fields)).2
  cases done
  exact ⟨long, apart, rfl, _, _, rfl, found, kept other apart, rfl, gone, (kept' other apart).trans (kept other apart)⟩

end Path

end Reconcile
