import Reconcile.Proofs.Document
import Reconcile.Proofs.Result
import Reconcile.Shaping.Context
import Reconcile.Shaping.Spelling

/-!
Shaping that comes to rest. What has been shaped once is left alone by the same shaping, and this carries over from the
items of a list to the list and from the objects of a class to the class.
-/

namespace Reconcile

namespace Result

variable {α β : Type}

theorem mapM_eq_map {step : α → Result β} {change : α → β} {items : List α}
    (each : ∀ item ∈ items, step item = .ok (change item)) : items.mapM step = .ok (items.map change) := by
  induction items with
  | nil => rfl
  | cons item rest ih =>
    have ⟨first, others⟩ := List.forall_mem_cons.mp each
    rw [List.mapM_cons, first, ok_bind, ih others]
    rfl

theorem mapM_eq_self {step : α → Result α} {items : List α} (each : ∀ item ∈ items, step item = .ok item) :
    items.mapM step = .ok items := by
  have mapped : items.mapM step = .ok (items.map id) := mapM_eq_map each
  rw [mapped, List.map_id]

end Result

namespace Value

theorem fieldsOrFail_eq_ok {value : Value} {fields : Fields} : value.fieldsOrFail = .ok fields ↔ value = .object fields := by
  cases value <;> simp [fieldsOrFail]

theorem isProper_toValue (key : Key) : key.toValue.isProper = true := by
  cases key <;> rfl

theorem isProper_of_itemsOrFail {value : Value} {items : List Value} (proper : value.isProper = true)
    (found : value.itemsOrFail = .ok items) : ∀ item ∈ items, item.isProper = true := by
  cases value with
  | list => exact Except.ok.inj found ▸ isProper_list.mp proper
  | object fields =>
    rw [← Except.ok.inj found]
    exact List.forall_mem_map.mpr fun entry _ => isProper_toValue entry.1
  | text content =>
    rw [← Except.ok.inj found]
    exact List.forall_mem_map.mpr fun _ _ => rfl
  | _ => cases found

end Value

namespace Shaping

/-- Whether shaping leaves alone what it has shaped. -/
def Settles (shape : Value → Result Value) : Prop :=
  ∀ value shaped, value.isProper = true → shape value = .ok shaped → shape shaped = .ok shaped

variable {shape : Value → Result Value}

theorem Settles.mapM (settles : Settles shape) {items values : List Value}
    (proper : ∀ item ∈ items, item.isProper = true) (run : items.mapM shape = .ok values) :
    values.mapM shape = .ok values := by
  refine Result.mapM_eq_self fun value member => ?_
  obtain ⟨item, present, shaped⟩ := Result.mem_of_mapM run value member
  exact settles item value (proper item present) shaped

theorem eachItem_list (items : List Value) : eachItem shape (.list items) = Value.list <$> items.mapM shape := by
  rw [eachItem]
  cases items with
  | nil => rfl
  | cons item rest =>
    have given : (Value.list (item :: rest)).truthy = true := rfl
    rw [if_pos given, map_eq_pure_bind]
    rfl

theorem Settles.eachItem (settles : Settles shape) : Settles (eachItem shape) := by
  intro items shaped proper done
  rw [Shaping.eachItem] at done
  split at done
  next given =>
    obtain ⟨listed, found, rest⟩ := Result.bind_eq_ok.mp done
    obtain ⟨values, run, same⟩ := Result.bind_eq_ok.mp rest
    cases same
    rw [eachItem_list, settles.mapM (Value.isProper_of_itemsOrFail proper found) run]
    rfl
  next missing =>
    cases done
    rw [Shaping.eachItem, if_neg missing]
    rfl

theorem itemsAt_object (key : Key) (fields : Fields) :
    itemsAt key shape (.object fields) =
      if (Fields.lookup fields key).truthy then
        (fun items => .object (Assoc.put fields key items)) <$> eachItem shape (Fields.lookup fields key)
      else .ok (.object fields) := by
  rw [itemsAt, Value.fieldsOrFail, Result.ok_bind, map_eq_pure_bind]
  dsimp only
  cases (Fields.lookup fields key).truthy <;> rfl

theorem itemsAt_list {key : Key} {fields : Fields} {items : List Value}
    (found : Assoc.get? fields key = some (.list items)) :
    itemsAt key shape (.object fields) =
      (fun values => .object (Assoc.put fields key (.list values))) <$> items.mapM shape := by
  rw [itemsAt_object, Fields.lookup, found, Option.getD_some, eachItem_list]
  cases items with
  | nil =>
    have same : Assoc.put fields key (.list []) = fields := Assoc.put_eq_self found
    exact congrArg (Except.ok ∘ Value.object) same.symm
  | cons item rest =>
    have given : (Value.list (item :: rest)).truthy = true := rfl
    rw [if_pos given]
    cases (item :: rest).mapM shape <;> rfl

theorem lookup_put_self (fields : Fields) (key : Key) (value : Value) :
    Fields.lookup (Assoc.put fields key value) key = value := by
  rw [Fields.lookup, Assoc.get?_put_self, Option.getD_some]

theorem isProper_lookup {fields : Fields} (proper : (Value.object fields).isProper = true) (key : Key) :
    (Fields.lookup fields key).isProper = true := by
  rw [Fields.lookup]
  cases found : Assoc.get? fields key with
  | none => rfl
  | some value => exact Value.isProper_of_get? proper found

theorem Settles.itemsAt (settles : Settles shape) (key : Key) : Settles (itemsAt key shape) := by
  intro value shaped proper done
  obtain ⟨fields, object, _⟩ := Result.bind_eq_ok.mp done
  obtain rfl := Value.fieldsOrFail_eq_ok.mp object
  rw [itemsAt_object] at done
  split at done
  next given =>
    obtain ⟨items, run, rfl⟩ := Result.map_eq_ok.mp done
    have again := settles.eachItem _ items (isProper_lookup proper key) run
    rw [itemsAt_object, lookup_put_self, again]
    have same : Assoc.put (Assoc.put fields key items) key items = Assoc.put fields key items :=
      Assoc.put_eq_self (Assoc.get?_put_self fields key items)
    split
    next => exact congrArg (Except.ok ∘ Value.object) same
    next => rfl
  next missing =>
    cases done
    rw [itemsAt_object, if_neg missing]

def shapeEntry (shape : Value → Result Value) (entry : Key × Value) : Result (Key × Value) := do
  return (entry.1, ← shape entry.2)

theorem shapeEntry_eq_ok {entry final : Key × Value} :
    shapeEntry shape entry = .ok final ↔ final.1 = entry.1 ∧ shape entry.2 = .ok final.2 := by
  rw [shapeEntry, Result.bind_eq_ok]
  constructor
  · rintro ⟨shaped, done, same⟩
    cases same
    exact ⟨rfl, done⟩
  · rintro ⟨name, done⟩
    exact ⟨final.2, done, congrArg Except.ok (Prod.ext name.symm rfl)⟩

theorem eachObject_eq_ok {objects done : Value} :
    eachObject shape objects = .ok done ↔
      ∃ entries finals, objects = .object entries ∧ done = .object finals ∧
        entries.mapM (shapeEntry shape) = .ok finals := by
  rw [eachObject, Result.bind_eq_ok]
  constructor
  · rintro ⟨entries, object, rest⟩
    obtain ⟨finals, run, same⟩ := Result.bind_eq_ok.mp rest
    cases same
    exact ⟨entries, finals, Value.fieldsOrFail_eq_ok.mp object, rfl, run⟩
  · rintro ⟨entries, finals, rfl, rfl, run⟩
    exact ⟨entries, rfl, Result.bind_eq_ok.mpr ⟨finals, run, rfl⟩⟩

theorem Settles.eachObject (settles : Settles shape) : Settles (eachObject shape) := by
  intro objects done proper shaped
  obtain ⟨entries, finals, rfl, rfl, run⟩ := eachObject_eq_ok.mp shaped
  refine eachObject_eq_ok.mpr ⟨finals, finals, rfl, rfl, Result.mapM_eq_self fun final member => ?_⟩
  obtain ⟨entry, present, shaped⟩ := Result.mem_of_mapM run final member
  have here := (shapeEntry_eq_ok.mp shaped).2
  exact shapeEntry_eq_ok.mpr ⟨rfl, settles _ _ ((Value.isProper_object.mp proper).2 entry present) here⟩

theorem get?_eachObject {objects done : Value} (shaped : eachObject shape objects = .ok done) {name : Key} {value : Value}
    (found : objects.get? name = some value) : ∃ final, shape value = .ok final ∧ done.get? name = some final := by
  obtain ⟨entries, finals, rfl, rfl, run⟩ := eachObject_eq_ok.mp shaped
  have here := Result.get?_mapM (fun _ _ shaped => (shapeEntry_eq_ok.mp shaped).1) run name
  rw [show Assoc.get? entries name = some value from found] at here
  obtain ⟨final, shaped, held⟩ := here
  exact ⟨final, (shapeEntry_eq_ok.mp shaped).2, held⟩

theorem get?_settleEnabled (fields : Fields) (key : Key) :
    Assoc.get? (settleEnabled fields) key =
      if key = "disabled" then none
      else if key = "enabled" then some (.bool (isEnabled fields)) else Assoc.get? fields key := by
  rw [settleEnabled, Assoc.get?_erase, Assoc.get?_put]
  simp only [eq_comm]

theorem settleEnabled_eq_self {fields : Fields} {flag : Bool} (enabled : Assoc.get? fields "enabled" = some (.bool flag))
    (disabled : Assoc.get? fields "disabled" = none) : settleEnabled fields = fields := by
  have known : isEnabled fields = flag := by
    simp only [isEnabled, Fields.lookup, enabled, Option.getD_some]
  rw [settleEnabled, known, Assoc.put_eq_self enabled, Assoc.erase_eq_self disabled]

theorem settleEnabled_again (fields : Fields) : settleEnabled (settleEnabled fields) = settleEnabled fields := by
  have enabled : Assoc.get? (settleEnabled fields) "enabled" = some (.bool (isEnabled fields)) := by
    rw [get?_settleEnabled]
    simp
  have disabled : Assoc.get? (settleEnabled fields) "disabled" = none := by
    rw [get?_settleEnabled, if_pos rfl]
  exact settleEnabled_eq_self enabled disabled

end Shaping

end Reconcile
