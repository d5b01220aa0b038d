import Reconcile.Proofs.Declaration.Verdict
import Reconcile.Proofs.Place

/-!
Where a pointer leads. What it comes to depends on the texts of the document only in that it may come to one: when a text
is replaced by another, only the pointers that lead to its place are affected.
-/

namespace Reconcile

open Result

namespace Pointer

def placeFrom? : List String → Value → Option Place
  | [], _ => some []
  | step :: rest, .object fields =>
    (Assoc.get? fields (.named step)).bind fun inner => (placeFrom? rest inner).map (.key step :: ·)
  | step :: rest, .list items =>
    match index? step items.length with
    | .ok (some index) => items[index]?.bind fun inner => (placeFrom? rest inner).map (.position index :: ·)
    | _ => none
  | _ :: _, _ => none

/-- The place that a pointer names in a document. -/
def place? (document : Value) (pointer : String) : Option Place :=
  placeFrom? (steps pointer) document

theorem follow_key (step : String) (rest : List String) (fields : Fields) :
    follow (step :: rest) (.object fields) = follow rest ((Assoc.get? fields (.named step)).getD .null) := rfl

theorem follow_position {step : String} {items : List Value} {index : Nat}
    (read : index? step items.length = .ok (some index)) (rest : List String) :
    follow (step :: rest) (.list items) = follow rest (items[index]?.getD .null) := by
  rw [follow, read, ok_bind, ← List.getD_eq_getElem?_getD]

theorem placeFrom?_key (step : String) (rest : List String) (fields : Fields) :
    placeFrom? (step :: rest) (.object fields) =
      (Assoc.get? fields (.named step)).bind fun inner => (placeFrom? rest inner).map (.key step :: ·) := rfl

theorem placeFrom?_position {step : String} {items : List Value} {index : Nat}
    (read : index? step items.length = .ok (some index)) (rest : List String) :
    placeFrom? (step :: rest) (.list items) =
      items[index]?.bind fun inner => (placeFrom? rest inner).map (.position index :: ·) := by
  rw [placeFrom?, read]

theorem follow_null (steps : List String) : follow steps .null = .ok .null := by
  cases steps <;> rfl

theorem follow_of_placeFrom? {steps : List String} {value : Value} {place : Place}
    (leads : placeFrom? steps value = some place) :
    ∃ target, Value.at? place value = some target ∧ follow steps value = .ok target := by
  induction steps generalizing value place with
  | nil =>
    cases leads
    exact ⟨value, rfl, rfl⟩
  | cons step rest ih =>
    cases value with
    | object fields =>
      obtain ⟨inner, found, leads⟩ := Option.bind_eq_some_iff.mp leads
      obtain ⟨onward, later, rfl⟩ := Option.map_eq_some_iff.mp leads
      rw [Value.at?_key, follow_key, found]
      exact ih later
    | list items =>
      cases read : index? step items.length with
      | error fault =>
        rw [placeFrom?, read] at leads
        cases leads
      | ok position? =>
        cases position? with
        | none =>
          rw [placeFrom?, read] at leads
          cases leads
        | some index =>
          rw [placeFrom?_position read] at leads
          obtain ⟨inner, found, leads⟩ := Option.bind_eq_some_iff.mp leads
          obtain ⟨onward, later, rfl⟩ := Option.map_eq_some_iff.mp leads
          rw [Value.at?_position, follow_position read, found]
          exact ih later
    | _ => cases leads

theorem placeFrom?_of_follow {steps : List String} {value target : Value} (comes : follow steps value = .ok target)
    (given : target ≠ .null) : ∃ place, placeFrom? steps value = some place := by
  induction steps generalizing value with
  | nil => exact ⟨[], rfl⟩
  | cons step rest ih =>
    have onward {inner? : Option Value} (comes : follow rest (inner?.getD .null) = .ok target) :
        ∃ inner place, inner? = some inner ∧ placeFrom? rest inner = some place := by
      cases inner? with
      | none =>
        rw [Option.getD_none, follow_null] at comes
        exact absurd (Except.ok.inj comes).symm given
      | some inner =>
        obtain ⟨place, leads⟩ := ih comes
        exact ⟨inner, place, rfl, leads⟩
    cases value with
    | object fields =>
      rw [follow_key] at comes
      obtain ⟨inner, place, found, leads⟩ := onward comes
      exact ⟨.key step :: place, by rw [placeFrom?_key, found, Option.bind_some, leads, Option.map_some]⟩
    | list items =>
      obtain ⟨position?, read, rest⟩ := bind_eq_ok.mp comes
      cases position? with
      | none => exact absurd (Except.ok.inj rest).symm given
      | some index =>
        rw [follow_position read] at comes
        obtain ⟨inner, place, found, leads⟩ := onward comes
        exact ⟨.position index :: place, by rw [placeFrom?_position read, found, Option.bind_some, leads, Option.map_some]⟩
    | _ => exact absurd (Except.ok.inj comes).symm given

/-- A pointer comes to something other than null exactly when it names a place and that is there. -/
theorem resolve_eq_ok_iff {document target : Value} (given : target ≠ .null) (pointer : String) :
    resolve document pointer = .ok target ↔
      ∃ place, place? document pointer = some place ∧ Value.at? place document = some target := by
  constructor
  · intro comes
    obtain ⟨place, leads⟩ := placeFrom?_of_follow comes given
    obtain ⟨other, there, same⟩ := follow_of_placeFrom? leads
    obtain rfl : target = other := Except.ok.inj (comes.symm.trans same)
    exact ⟨place, leads, there⟩
  · rintro ⟨place, leads, there⟩
    obtain ⟨other, found, comes⟩ := follow_of_placeFrom? leads
    obtain rfl : target = other := Option.some.inj (there.symm.trans found)
    exact comes

theorem follow_replace {place : Place} {value : Value} {content : String} (text : Value.at? place value = some (.text content))
    (fresh : String) {steps : List String} (elsewhere : placeFrom? steps value ≠ some place) :
    Value.text? <$> follow steps (Value.replace place (.text fresh) value) = Value.text? <$> follow steps value := by
  induction steps generalizing value place with
  | nil =>
    cases place with
    | nil => exact absurd rfl elsewhere
    | cons step rest =>
      -- The steps end at a container, which remains one.
      obtain ⟨inner, found, _⟩ := Option.bind_eq_some_iff.mp text
      have container := Value.isContainer_of_child? found
      have kept : (Value.replace (step :: rest) (.text fresh) value).isContainer = true :=
        Value.isContainer_replace container (.text fresh)
      change Except.ok (Value.replace (step :: rest) (.text fresh) value).text? = Except.ok value.text?
      rw [Value.text?_of_isContainer container, Value.text?_of_isContainer kept]
  | cons next later ih =>
    cases place with
    | nil =>
      obtain rfl : value = .text content := Option.some.inj text
      rfl
    | cons step rest =>
      obtain ⟨inner, found, inside⟩ := Option.bind_eq_some_iff.mp text
      cases value with
      | object fields =>
        cases step with
        | position => cases found
        | key key =>
          have found : Assoc.get? fields key = some inner := found
          rw [Value.replace_key, follow_key, follow_key, Assoc.get?_adjust]
          by_cases here : key = .named next
          · subst here
            rw [if_pos rfl, found]
            refine ih inside fun leads => elsewhere ?_
            rw [placeFrom?_key, found, Option.bind_some, leads, Option.map_some]
          · rw [if_neg here]
      | list items =>
        cases step with
        | key => cases found
        | position index =>
          have found : items[index]? = some inner := found
          rw [Value.replace_position]
          cases read : index? next items.length with
          | error fault =>
            rw [follow, follow, List.length_modify, read]
            rfl
          | ok position? =>
            cases position? with
            | none =>
              rw [follow, follow, List.length_modify, read]
              rfl
            | some position =>
              rw [follow_position (List.length_modify .. ▸ read), follow_position read]
              by_cases here : index = position
              · subst here
                rw [List.getElem?_modify_eq, found]
                refine ih inside fun leads => elsewhere ?_
                rw [placeFrom?_position read, found, Option.bind_some, leads, Option.map_some]
              · rw [List.getElem?_modify_ne _ _ here]
      | _ => cases found

end Pointer

namespace Declaration

variable {root other : Value}

theorem resolveText_eq (root : Value) (content : String) :
    resolveText root content =
      if Text.startsWith "/" content then
        Value.text? <$> Pointer.resolve root content >>= fun target? =>
          if target? = some content then .error (.selfPointer content) else .ok (.text (target?.getD content))
      else .ok (.text content) := by
  unfold resolveText
  split
  next =>
    cases Pointer.resolve root content with
    | error fault => rfl
    | ok target =>
      cases target with
      | text target =>
        by_cases same : target = content
        · subst same
          exact (if_pos rfl).trans (if_pos rfl).symm
        · exact (if_neg same).trans (if_neg fun equal => same (Option.some.inj equal)).symm
      | _ => rfl
  next => rfl

theorem resolveText_of_ok {content : String} {target : Value} (slash : Text.startsWith "/" content = true)
    (found : Pointer.resolve root content = .ok target) :
    resolveText root content =
      if target.text? = some content then .error (.selfPointer content)
      else .ok (.text (target.text?.getD content)) := by
  rw [resolveText_eq, if_pos slash, found]
  rfl

theorem resolveText_of_error {content : String} {fault : Fault} (slash : Text.startsWith "/" content = true)
    (failed : Pointer.resolve root content = .error fault) : resolveText root content = .error fault := by
  rw [resolveText_eq, if_pos slash, failed]
  rfl

theorem resolveText_of_plain {content : String} (plain : Text.startsWith "/" content = false) :
    resolveText root content = .ok (.text content) := by
  rw [resolveText_eq, plain, if_neg Bool.false_ne_true]

theorem resolveText_congr {content : String}
    (same : Text.startsWith "/" content = true →
      Value.text? <$> Pointer.resolve root content = Value.text? <$> Pointer.resolve other content) :
    resolveText root content = resolveText other content := by
  rw [resolveText_eq, resolveText_eq]
  split
  next slash => rw [same slash]
  next => rfl

theorem resolveText_error {content : String} {fault : Fault} (failed : resolveText root content = .error fault) :
    Text.startsWith "/" content = true ∧
      (fault = .unreadableText ∧ Pointer.Strays root content ∨ fault = .selfPointer content) := by
  cases slash : Text.startsWith "/" content with
  | false =>
    rw [resolveText_of_plain slash] at failed
    cases failed
  | true =>
    refine ⟨rfl, ?_⟩
    have outcome := Pointer.resolve_failsWhen root content
    by_cases strays : Pointer.Strays root content
    · rw [resolveText_of_error slash (outcome.fails strays)] at failed
      exact .inl ⟨(Except.error.inj failed).symm, strays⟩
    · obtain ⟨target, found⟩ := outcome.succeeds strays
      rw [resolveText_of_ok slash found] at failed
      split at failed
      next => exact .inr (Except.error.inj failed).symm
      next => cases failed

theorem resolveItems_eq_mapM (root : Value) (items : List Value) :
    resolveItems root items = items.mapM (resolveTexts root) := by
  induction items with
  | nil => rfl
  | cons item rest ih =>
    rw [resolveItems, List.mapM_cons, ih]

def resolveField (root : Value) (entry : Key × Value) : Result (Key × Value) :=
  (entry.1, ·) <$> resolveTexts root entry.2

theorem resolveFields_eq_mapM (root : Value) (fields : Fields) :
    resolveFields root fields = fields.mapM (resolveField root) := by
  induction fields with
  | nil => rfl
  | cons entry rest ih =>
    rw [resolveFields, List.mapM_cons, ih, resolveField]
    cases resolveTexts root entry.2 <;> rfl

theorem resolveField_keeps (entry resolved : Key × Value) (run : resolveField root entry = .ok resolved) :
    resolved.1 = entry.1 := by
  obtain ⟨value, _, rfl⟩ := map_eq_ok.mp run
  rfl

theorem resolveFields_same {fields : Fields}
    (same : ∀ entry ∈ fields, resolveTexts root entry.2 = resolveTexts other entry.2) :
    resolveFields root fields = resolveFields other fields := by
  rw [resolveFields_eq_mapM, resolveFields_eq_mapM]
  refine mapM_eq_of_forall₂ (List.forall₂_same.mpr fun entry member => ?_)
  exact congrArg ((entry.1, ·) <$> ·) (same entry member)

theorem resolveFields_adjust {fields : Fields} (unique : (Assoc.keys fields).Nodup) {key : Key} {change : Value → Value}
    (here : ∀ value, Assoc.get? fields key = some value → resolveTexts root value = resolveTexts other (change value))
    (others : ∀ entry ∈ fields, entry.1 ≠ key → resolveTexts root entry.2 = resolveTexts other entry.2) :
    resolveFields root fields = resolveFields other (Assoc.adjust fields key change) := by
  rw [resolveFields_eq_mapM, resolveFields_eq_mapM]
  refine mapM_eq_of_forall₂ (Assoc.forall₂_adjust unique (fun value found => ?_) fun entry member apart => ?_)
  · exact congrArg ((key, ·) <$> ·) (here value found)
  · exact congrArg ((entry.1, ·) <$> ·) (others entry member apart)

theorem resolveTexts_congr {value : Value} (proper : value.isProper = true)
    (same : ∀ place content, Value.at? place value = some (.text content) →
      resolveText root content = resolveText other content) :
    resolveTexts root value = resolveTexts other value := by
  induction value using Value.byParts with
  | scalar value flat =>
    cases value with
    | text content => exact same [] content rfl
    | list => cases flat
    | object => cases flat
    | _ => rfl
  | list items ih =>
    rw [resolveTexts, resolveTexts, resolveItems_eq_mapM, resolveItems_eq_mapM]
    refine congrArg (· >>= _) (mapM_eq_of_forall₂ (List.forall₂_same.mpr fun item member => ?_))
    obtain ⟨index, found⟩ := List.mem_iff_getElem?.mp member
    refine ih item member (Value.isProper_list.mp proper item member) fun place content there => ?_
    exact same (.position index :: place) content (by rw [Value.at?_position, found, Option.bind_some, there])
  | object fields ih =>
    obtain ⟨unique, inner⟩ := Value.isProper_object.mp proper
    rw [resolveTexts, resolveTexts]
    refine congrArg (· >>= _) (resolveFields_same fun entry member => ?_)
    refine ih entry member (inner entry member) fun place content there => ?_
    exact same (.key entry.1 :: place) content (by rw [Value.at?_field unique member, there])

theorem resolveTexts_replace {place : Place} {value : Value} (proper : value.isProper = true) {content fresh : String}
    (text : Value.at? place value = some (.text content)) (here : resolveText root content = resolveText other fresh)
    (others : ∀ elsewhere content, elsewhere ≠ place → Value.at? elsewhere value = some (.text content) →
      resolveText root content = resolveText other content) :
    resolveTexts root value = resolveTexts other (Value.replace place (.text fresh) value) := by
  induction place generalizing value with
  | nil =>
    obtain rfl : value = .text content := Option.some.inj text
    exact here
  | cons step rest ih =>
    obtain ⟨inner, found, inside⟩ := Option.bind_eq_some_iff.mp text
    cases value with
    | object fields =>
      have ⟨unique, innerProper⟩ := Value.isProper_object.mp proper
      cases step with
      | position => cases found
      | key key =>
        have found : Assoc.get? fields key = some inner := found
        rw [Value.replace_key, resolveTexts, resolveTexts]
        refine congrArg (· >>= _) (resolveFields_adjust unique (fun value there => ?_) fun entry member apart => ?_)
        · obtain rfl : inner = value := Option.some.inj (found.symm.trans there)
          refine ih (Value.isProper_of_get? proper found) inside fun place content away there => ?_
          refine others (.key key :: place) content (fun same => away (List.cons.inj same).2) ?_
          rw [Value.at?_key, found, Option.bind_some, there]
        · refine resolveTexts_congr (innerProper entry member) fun place content there => ?_
          refine others (.key entry.1 :: place) content (fun same => ?_) (by rw [Value.at?_field unique member, there])
          exact apart (Place.Step.key.inj (List.cons.inj same).1)
    | list items =>
      cases step with
      | key => cases found
      | position index =>
        have found : items[index]? = some inner := found
        have innerProper := Value.isProper_list.mp proper
        rw [Value.replace_position, resolveTexts, resolveTexts, resolveItems_eq_mapM, resolveItems_eq_mapM]
        refine congrArg (· >>= _) (mapM_eq_of_forall₂ (List.forall₂_modify (fun item there => ?_) ?_))
        · obtain rfl : inner = item := Option.some.inj (found.symm.trans there)
          refine ih (innerProper _ (List.mem_of_getElem? found)) inside fun place content away there => ?_
          refine others (.position index :: place) content (fun same => away (List.cons.inj same).2) ?_
          rw [Value.at?_position, found, Option.bind_some, there]
        · intro position item there apart
          refine resolveTexts_congr (innerProper _ (List.mem_of_getElem? there)) fun place content inside => ?_
          refine others (.position position :: place) content (fun same => ?_)
            (by rw [Value.at?_position, there, Option.bind_some, inside])
          exact apart (Place.Step.position.inj (List.cons.inj same).1)
    | _ => cases found

theorem at?_resolveTexts {place : Place} {value resolved : Value} (run : resolveTexts root value = .ok resolved)
    {content : String} (text : Value.at? place value = some (.text content)) :
    ∃ found, resolveText root content = .ok found ∧ Value.at? place resolved = some found := by
  induction place generalizing value resolved with
  | nil =>
    obtain rfl : value = .text content := Option.some.inj text
    exact ⟨resolved, run, rfl⟩
  | cons step rest ih =>
    obtain ⟨inner, found, inside⟩ := Option.bind_eq_some_iff.mp text
    cases value with
    | object fields =>
      cases step with
      | position => cases found
      | key key =>
        have found : Assoc.get? fields key = some inner := found
        rw [resolveTexts] at run
        obtain ⟨after, resolved, done⟩ := bind_eq_ok.mp run
        cases done
        rw [resolveFields_eq_mapM] at resolved
        have there := get?_mapM resolveField_keeps resolved key
        rw [found] at there
        obtain ⟨final, step, there⟩ := there
        obtain ⟨value, step, same⟩ := map_eq_ok.mp step
        cases same
        rw [Value.at?_key, there]
        exact ih step inside
    | list items =>
      cases step with
      | key => cases found
      | position index =>
        rw [resolveTexts] at run
        obtain ⟨after, resolved, done⟩ := bind_eq_ok.mp run
        cases done
        rw [resolveItems_eq_mapM] at resolved
        obtain ⟨final, step, there⟩ := getElem?_mapM resolved found
        rw [Value.at?_position, there]
        exact ih step inside
    | _ => cases found

theorem resolveTexts_error {value : Value} (proper : value.isProper = true) {fault : Fault}
    (failed : resolveTexts root value = .error fault) :
    ∃ place content, Value.at? place value = some (.text content) ∧ resolveText root content = .error fault := by
  have of_bind {α β : Type} {action : Result α} {finish : α → β}
      (failed : (action >>= fun done => .ok (finish done)) = .error fault) : action = .error fault := by
    cases action with
    | error => exact congrArg Except.error (Except.error.inj failed)
    | ok => cases failed
  induction value using Value.byParts with
  | scalar value flat =>
    cases value with
    | text content => exact ⟨[], content, rfl, failed⟩
    | list => cases flat
    | object => cases flat
    | _ => cases failed
  | list items ih =>
    rw [resolveTexts, resolveItems_eq_mapM] at failed
    obtain ⟨item, member, failed⟩ := exists_of_mapM_error (of_bind failed)
    obtain ⟨place, content, there, failed⟩ := ih item member (Value.isProper_list.mp proper item member) failed
    obtain ⟨index, found⟩ := List.mem_iff_getElem?.mp member
    exact ⟨.position index :: place, content, by rw [Value.at?_position, found, Option.bind_some, there], failed⟩
  | object fields ih =>
    obtain ⟨unique, inner⟩ := Value.isProper_object.mp proper
    rw [resolveTexts, resolveFields_eq_mapM] at failed
    obtain ⟨entry, member, failed⟩ := exists_of_mapM_error (of_bind failed)
    obtain ⟨place, content, there, failed⟩ := ih entry member (inner entry member) (of_bind failed)
    exact ⟨.key entry.1 :: place, content, by rw [Value.at?_field unique member, there], failed⟩

end Declaration

end Reconcile
