import Mathlib.Data.List.Pairwise
import Reconcile.Declaration.Native
import Reconcile.Proofs.Mapping.Reading
import Reconcile.Proofs.Path

/-!
Three passes over the rules of a class: an item read in translation, an item read in the device's own names, and a
declared object renamed. Each of them works off one rule after the other, and a rule reads and writes two places only,
the one under its id and its declared path. So a pass leaves in the places of a rule what that rule alone leaves there.
-/

namespace Reconcile

theorem Path.ofDotted_eq_cons (dotted : String) :
    ∃ rest, ofDotted dotted = .named (RenamingPass.headOf dotted) :: rest := by
  unfold ofDotted RenamingPass.headOf
  have some : Text.cut "." dotted ≠ [] := mt List.map_eq_nil_iff.mp (Text.pieces_ne_nil _ _ _ _)
  obtain ⟨head, rest, parts⟩ := List.exists_cons_of_ne_nil some
  exact ⟨rest.map .named, by rw [parts]; rfl⟩

namespace PropertyRule

def newIds (rules : List PropertyRule) : List String :=
  rules.filterMap newId?

/-- A simple rule that can be read in either direction. What it makes of an omitted property is up to its sentinels or to
its default, not to both. -/
structure Reversible (rule : PropertyRule) : Prop extends Simple rule where
  unnamed : rule.newId? ≠ some "name"
  truth : rule.hasFalsehood = true → rule.hasTruth = true
  undefaulted : rule.hasTruth = true → rule.defaultWhenOmitted = none
  default : ∀ value ∈ rule.defaultWhenOmitted, value.isNull = false

instance (rule : PropertyRule) : Decidable rule.Reversible :=
  decidable_of_iff (rule.Simple ∧ rule.newId? ≠ some "name" ∧ (rule.hasFalsehood = true → rule.hasTruth = true) ∧
      (rule.hasTruth = true → rule.defaultWhenOmitted = none) ∧ ∀ value ∈ rule.defaultWhenOmitted, value.isNull = false)
    ⟨fun ⟨simple, unnamed, truth, undefaulted, default⟩ => ⟨simple, unnamed, truth, undefaulted, default⟩,
      fun ⟨simple, unnamed, truth, undefaulted, default⟩ => ⟨simple, unnamed, truth, undefaulted, default⟩⟩

/-- Rules that do not share a place: each has an id of its own, no new id leads through another, none begins with the id of
a rule, and nothing is moved up from below. -/
structure Separate (rules : List PropertyRule) : Prop where
  undotted : ∀ rule ∈ rules, '.' ∉ rule.id.toList
  level : ∀ rule ∈ rules, rule.upLevel = 0 ∨ rule.transform = []
  distinct : (rules.map id).Nodup
  apart : (newIds rules).Pairwise fun newId other => Path.Apart (.ofDotted newId) (.ofDotted other)
  free : ∀ newId ∈ newIds rules, ∀ rule ∈ rules, RenamingPass.headOf newId ≠ rule.id

instance (rules : List PropertyRule) : Decidable (Separate rules) :=
  decidable_of_iff ((∀ rule ∈ rules, '.' ∉ rule.id.toList) ∧ (∀ rule ∈ rules, rule.upLevel = 0 ∨ rule.transform = []) ∧
      (rules.map PropertyRule.id).Nodup ∧
      ((newIds rules).Pairwise fun newId other => Path.Apart (.ofDotted newId) (.ofDotted other)) ∧
      ∀ newId ∈ newIds rules, ∀ rule ∈ rules, RenamingPass.headOf newId ≠ rule.id)
    ⟨fun ⟨undotted, level, distinct, apart, free⟩ => ⟨undotted, level, distinct, apart, free⟩,
      fun ⟨undotted, level, distinct, apart, free⟩ => ⟨undotted, level, distinct, apart, free⟩⟩

def places (rule : PropertyRule) : List Path :=
  [[.named rule.id], rule.declaredPath]

/-- Both places of a rule are apart from the path. -/
structure Clear (rule : PropertyRule) (path : Path) : Prop where
  id : Path.Apart [.named rule.id] path
  declared : Path.Apart rule.declaredPath path

variable {rule other : PropertyRule} {rules : List PropertyRule}

theorem declaredPath_of_none (undotted : '.' ∉ rule.id.toList) (same : rule.newId? = none) :
    rule.declaredPath = [.named rule.id] := by
  rw [declaredPath, declaredName, same]
  exact Path.ofDotted_undotted undotted

theorem declaredPath_of_some {newId : String} (renamed : rule.newId? = some newId) :
    rule.declaredPath = .ofDotted newId := by
  rw [declaredPath, declaredName, renamed, Option.getD_some]

theorem mem_newIds (member : rule ∈ rules) {newId : String} (renamed : rule.newId? = some newId) :
    newId ∈ newIds rules :=
  List.mem_filterMap.mpr ⟨rule, member, renamed⟩

theorem declaredPath_ne_nil (rule : PropertyRule) : rule.declaredPath ≠ [] := by
  obtain ⟨rest, path⟩ := Path.ofDotted_eq_cons rule.declaredName
  rw [declaredPath, path]
  exact List.cons_ne_nil _ _

theorem Separate.apart_declared (separate : Separate rules) (member : rule ∈ rules) {key : Key}
    (other : key ≠ .named rule.id)
    (fresh : ∀ newId, rule.newId? = some newId → key ≠ .named (RenamingPass.headOf newId)) :
    Path.Apart [key] rule.declaredPath := by
  cases renamed : rule.newId? with
  | none =>
    rw [declaredPath_of_none (separate.undotted rule member) renamed]
    exact Path.apart_singleton.mpr other
  | some newId =>
    obtain ⟨rest, path⟩ := Path.ofDotted_eq_cons newId
    rw [declaredPath_of_some renamed, path]
    exact Path.apart_singleton.mpr (fresh newId renamed)

theorem Separate.apart_id (separate : Separate rules) (member : rule ∈ rules) (otherMember : other ∈ rules)
    (differ : other.id ≠ rule.id) : Path.Apart [.named other.id] rule.declaredPath :=
  separate.apart_declared member (by simpa using differ) fun newId renamed same =>
    separate.free newId (mem_newIds member renamed) other otherMember (Key.named.inj same).symm

theorem Separate.declared_apart (separate : Separate rules) (member : rule ∈ rules) (otherMember : other ∈ rules)
    (differ : other.id ≠ rule.id) : Path.Apart other.declaredPath rule.declaredPath := by
  have distinct : other ≠ rule := fun same => differ (congrArg PropertyRule.id same)
  -- The first steps decide unless both rules rename; then the new ids may share a head and part later.
  cases renamed : other.newId? with
  | none =>
    rw [declaredPath_of_none (separate.undotted other otherMember) renamed]
    exact separate.apart_id member otherMember differ
  | some newId =>
    cases renamed' : rule.newId? with
    | none =>
      rw [declaredPath_of_none (separate.undotted rule member) renamed']
      exact (separate.apart_id otherMember member differ.symm).symm
    | some newId' =>
      rw [declaredPath_of_some renamed, declaredPath_of_some renamed']
      have pairwise := List.pairwise_filterMap.mp separate.apart
      have symmetric : Std.Symm fun rule other : PropertyRule => ∀ newId, rule.newId? = some newId →
          ∀ newId', other.newId? = some newId' → Path.Apart (.ofDotted newId) (.ofDotted newId') :=
        ⟨fun _ _ apart newId renamed newId' renamed' => (apart newId' renamed' newId renamed).symm⟩
      exact pairwise.forall otherMember member distinct newId renamed newId' renamed'

theorem Separate.clear (separate : Separate rules) (member : rule ∈ rules) (otherMember : other ∈ rules)
    (differ : other.id ≠ rule.id) : ∀ path ∈ rule.places, other.Clear path := by
  have apart : Path.Apart [.named other.id] [.named rule.id] := Path.apart_singleton.mpr (by simpa using differ)
  refine List.forall_mem_cons.mpr ⟨⟨apart, ?_⟩, List.forall_mem_singleton.mpr ⟨?_, ?_⟩⟩
  · exact (separate.apart_id otherMember member differ.symm).symm
  · exact separate.apart_id member otherMember differ
  · exact separate.declared_apart member otherMember differ

theorem Separate.clear_key (separate : Separate rules) {key : Key} (foreign : ∀ rule ∈ rules, key ≠ .named rule.id)
    (fresh : ∀ newId ∈ newIds rules, key ≠ .named (RenamingPass.headOf newId)) (member : rule ∈ rules) :
    rule.Clear [key] :=
  ⟨Path.apart_singleton.mpr (foreign rule member).symm,
    (separate.apart_declared member (foreign rule member) fun newId renamed =>
      fresh newId (mem_newIds member renamed)).symm⟩

section Passes

variable {σ β : Type} {step : σ → PropertyRule → Result σ} (view : σ → Fields)

theorem Separate.pairwise_clear (separate : Separate rules) :
    rules.Pairwise fun first later => ∀ path ∈ later.places, first.Clear path := by
  refine List.Pairwise.imp_of_mem ?_ (List.pairwise_map.mp separate.distinct)
  exact fun member later differ => separate.clear later member differ

/-- In a pass whose steps leave alone what is clear of their rule, each rule finds its places as they were at the start,
and they stay as it leaves them. -/
theorem Separate.foldlM_at (separate : Separate rules) (member : rule ∈ rules)
    (frame : ∀ other ∈ rules, ∀ path, other.Clear path → ∀ state next, step state other = .ok next →
      path.get? (.object (view next)) = path.get? (.object (view state)))
    {start final : σ} (run : rules.foldlM step start = .ok final) :
    ∃ before after, step before rule = .ok after ∧ ∀ path ∈ rule.places,
      path.get? (.object (view before)) = path.get? (.object (view start)) ∧
      path.get? (.object (view final)) = path.get? (.object (view after)) := by
  obtain ⟨front, back, rfl⟩ := List.append_of_mem member
  have distinct := separate.distinct
  rw [List.map_append, List.map_cons, List.nodup_middle, List.nodup_cons, ← List.map_append] at distinct
  have keeps : ∀ path ∈ rule.places, ∀ other ∈ front ++ back, ∀ state next, step state other = .ok next →
      path.get? (.object (view next)) = path.get? (.object (view state)) := by
    intro path place other among
    have otherMember : other ∈ front ++ rule :: back :=
      List.mem_append.mpr ((List.mem_append.mp among).imp_right (List.mem_cons_of_mem rule))
    have differ : other.id ≠ rule.id := fun same => distinct.1 (same ▸ List.mem_map_of_mem among)
    exact frame other otherMember path (separate.clear member otherMember differ path place)
  rw [List.foldlM_append] at run
  obtain ⟨before, early, run⟩ := Result.bind_eq_ok.mp run
  rw [List.foldlM_cons] at run
  obtain ⟨after, here, late⟩ := Result.bind_eq_ok.mp run
  refine ⟨before, after, here, fun path place => ⟨?_, ?_⟩⟩
  · exact Result.foldlM_keeps (fun state => path.get? (.object (view state)) = path.get? (.object (view start)))
      (fun other among state next same done =>
        (keeps path place other (List.mem_append_left back among) state next done).trans same) rfl early
  · exact Result.foldlM_keeps (fun state => path.get? (.object (view state)) = path.get? (.object (view after)))
      (fun other among state next same done =>
        (keeps path place other (List.mem_append_right front among) state next done).trans same) rfl late

theorem Separate.foldlM_succeeds (separate : Separate rules)
    (frame : ∀ other ∈ rules, ∀ path, other.Clear path → ∀ state next, step state other = .ok next →
      path.get? (.object (view next)) = path.get? (.object (view state)))
    {start : σ} (each : ∀ rule ∈ rules, ∀ state, (∀ path ∈ rule.places,
      path.get? (.object (view state)) = path.get? (.object (view start))) → Result.Succeeds (step state rule)) :
    Result.Succeeds (rules.foldlM step start) := by
  have clear := separate.pairwise_clear
  clear separate
  induction rules generalizing start with
  | nil => exact .ok start
  | cons rule rest ih =>
    obtain ⟨first, others⟩ := List.pairwise_cons.mp clear
    obtain ⟨next, done⟩ := each rule (List.mem_cons_self ..) start fun _ _ => rfl
    rw [List.foldlM_cons, done, Result.ok_bind]
    refine ih (fun other member => frame other (List.mem_cons_of_mem rule member)) (fun other member state same => ?_) others
    refine each other (List.mem_cons_of_mem rule member) state fun path place => (same path place).trans ?_
    exact frame rule (List.mem_cons_self ..) path (first other member path place) start next done

theorem Separate.foldl_at (separate : Separate rules) (member : rule ∈ rules) (step : σ → PropertyRule → σ)
    (frame : ∀ other ∈ rules, ∀ path, other.Clear path → ∀ state,
      path.get? (.object (view (step state other))) = path.get? (.object (view state))) (start : σ) :
    ∃ before, ∀ path ∈ rule.places,
      path.get? (.object (view before)) = path.get? (.object (view start)) ∧
      path.get? (.object (view (rules.foldl step start))) = path.get? (.object (view (step before rule))) := by
  have run : rules.foldlM (fun state rule => (.ok (step state rule) : Result σ)) start = .ok (rules.foldl step start) :=
    List.foldlM_pure
  obtain ⟨before, after, here, around⟩ := separate.foldlM_at view member
    (fun other among path clear state next done => Except.ok.inj done ▸ frame other among path clear state) run
  cases here
  exact ⟨before, around⟩

theorem foldl_keeps {step : σ → PropertyRule → σ} (view : σ → β)
    (keeps : ∀ rule ∈ rules, ∀ state, view (step state rule) = view state) (start : σ) :
    view (rules.foldl step start) = view start :=
  List.foldlRecOn (motive := fun state => view state = view start) rules step rfl
    fun state same rule member => (keeps rule member state).trans same

end Passes

end PropertyRule

namespace ItemMapper

open PropertyRule

variable {mapper : ItemMapper} {rule : PropertyRule} {rules : List PropertyRule}

theorem absent_of_outcome {found? : Option Value} (outcome : mapper.outcome? rule found? = .ok none) :
    found? = none := by
  cases found? with
  | none => rfl
  | some value =>
    obtain ⟨_, _, same⟩ := Result.map_eq_ok.mp outcome
    cases same

theorem absent_declared (undotted : '.' ∉ rule.id.toList) {item : Fields}
    (fresh : ∀ newId, rule.newId? = some newId → Assoc.get? item (.named (RenamingPass.headOf newId)) = none)
    (absent : Assoc.get? item (.named rule.id) = none) : rule.declaredPath.get? (.object item) = none := by
  cases renamed : rule.newId? with
  | none => rw [declaredPath_of_none undotted renamed, Path.get?_singleton, absent]
  | some newId =>
    obtain ⟨rest, path⟩ := Path.ofDotted_eq_cons newId
    rw [declaredPath_of_some renamed, path, Path.get?_cons_object, fresh newId renamed, Option.bind_none]

def filed (mapper : ItemMapper) (rule : PropertyRule) (fields : Fields) : Option Value → Fields
  | some value => mapper.store rule value fields
  | none => fields

theorem applies_of_ungated (ungated : given? rule.minVersion = none) : mapper.applies rule = .ok true := by
  rw [applies, ungated]
  cases mapper.version <;> rfl

theorem applyRule_eq (simple : rule.Simple) (fields : Fields) :
    mapper.applyRule fields rule =
      mapper.filed rule fields <$> mapper.outcome? rule (Assoc.get? fields (.named rule.id)) := by
  have whole : (!rule.transform.isEmpty) = false := by rw [simple.flat]; rfl
  unfold applyRule outcome?
  rw [applies_of_ungated simple.ungated, Result.ok_bind, if_neg (by simp)]
  cases Assoc.get? fields (.named rule.id) with
  | some value =>
    dsimp only
    rw [whole, Bool.false_and, if_neg Bool.false_ne_true]
    cases mapper.convert value rule <;> rfl
  | none =>
    dsimp only
    cases mapper.omitted? rule with
    | error fault => rfl
    | ok value? => cases value? <;> rfl

theorem applyRule_cases (level : rule.upLevel = 0 ∨ rule.transform = []) {fields next : Fields}
    (done : mapper.applyRule fields rule = .ok next) : next = fields ∨ ∃ value, next = mapper.store rule value fields := by
  unfold applyRule at done
  obtain ⟨applies, _, done⟩ := Result.bind_eq_ok.mp done
  split at done
  next =>
    cases done
    exact .inl rfl
  next =>
    cases found : Assoc.get? fields (.named rule.id) with
    | some value =>
      rw [found] at done
      dsimp only at done
      split at done
      next nested =>
        have flat : ¬rule.upLevel ≠ 0 := by
          rcases level with zero | empty
          · simp [zero]
          · simp [empty] at nested
        rw [if_neg flat] at done
        cases done
        exact .inr ⟨_, rfl⟩
      next =>
        obtain ⟨stored, _, done⟩ := Result.bind_eq_ok.mp done
        cases done
        exact .inr ⟨stored, rfl⟩
    | none =>
      rw [found] at done
      obtain ⟨value?, _, done⟩ := Result.bind_eq_ok.mp done
      cases value? with
      | some value =>
        cases done
        exact .inr ⟨value, rfl⟩
      | none =>
        cases done
        exact .inl rfl

theorem get?_store_clear {path : Path} (clear : rule.Clear path) (value : Value) (fields : Fields) :
    path.get? (.object (mapper.store rule value fields)) = path.get? (.object fields) := by
  unfold store
  split
  next newId _ renamed =>
    rw [← declaredPath_of_some renamed, Path.get?_put_apart clear.declared, Path.get?_erase_apart clear.id]
  next => exact Path.get?_put_apart clear.id value fields

theorem get?_applyRule_clear (level : rule.upLevel = 0 ∨ rule.transform = []) {path : Path} (clear : rule.Clear path)
    {fields next : Fields} (done : mapper.applyRule fields rule = .ok next) :
    path.get? (.object next) = path.get? (.object fields) := by
  rcases applyRule_cases level done with rfl | ⟨value, rfl⟩
  · rfl
  · exact get?_store_clear clear value fields

theorem get?_store_self (translating : mapper.translate = true) (undotted : '.' ∉ rule.id.toList) (value : Value)
    (fields : Fields) : rule.declaredPath.get? (.object (mapper.store rule value fields)) = some value := by
  unfold store
  rw [translating]
  split
  next newId _ renamed =>
    rw [← declaredPath_of_some renamed]
    exact Path.get?_put_self rule.declaredPath_ne_nil value _
  next same =>
    have plain : rule.newId? = none := Option.eq_none_iff_forall_ne_some.mpr fun newId => same newId rfl
    rw [declaredPath_of_none undotted plain, Path.get?_singleton]
    exact Assoc.get?_put_self _ _ _

theorem store_native (reconciling : mapper.translate = false) (value : Value) (fields : Fields) :
    mapper.store rule value fields = Assoc.put fields (.named rule.id) value := by
  rw [store, reconciling]

theorem nodup_keys_applyRule (level : rule.upLevel = 0 ∨ rule.transform = []) {fields next : Fields}
    (unique : (Assoc.keys fields).Nodup) (done : mapper.applyRule fields rule = .ok next) :
    (Assoc.keys next).Nodup := by
  rcases applyRule_cases level done with rfl | ⟨value, rfl⟩
  · exact unique
  · unfold store
    split
    next => exact Path.nodup_keys_put (Assoc.nodup_keys_filter unique _) value
    next => exact Assoc.nodup_keys_put unique _ value

section Items

variable {item mapped : Fields}

theorem nodup_keys_mapFields (separate : Separate rules) (unique : (Assoc.keys item).Nodup)
    (done : mapper.mapFields item rules = .ok mapped) : (Assoc.keys mapped).Nodup :=
  Result.foldlM_keeps (fun fields => (Assoc.keys fields).Nodup)
    (fun rule member _ _ unique done => nodup_keys_applyRule (separate.level rule member) unique done) unique done

theorem get?_mapFields_clear (separate : Separate rules) {path : Path} (clear : ∀ rule ∈ rules, rule.Clear path)
    (done : mapper.mapFields item rules = .ok mapped) : path.get? (.object mapped) = path.get? (.object item) :=
  Result.foldlM_keeps (fun fields => path.get? (.object fields) = path.get? (.object item))
    (fun rule member _ _ same done =>
      (get?_applyRule_clear (separate.level rule member) (clear rule member) done).trans same) rfl done

theorem applyRule_of_mapFields (separate : Separate rules) (member : rule ∈ rules)
    (done : mapper.mapFields item rules = .ok mapped) :
    ∃ before after, mapper.applyRule before rule = .ok after ∧ ∀ path ∈ rule.places,
      path.get? (.object before) = path.get? (.object item) ∧ path.get? (.object mapped) = path.get? (.object after) :=
  separate.foldlM_at (fun fields => fields) member
    (fun other among _ clear _ _ done => get?_applyRule_clear (separate.level other among) clear done) done

/-- An item can be mapped exactly if each rule can read what the item has for it. -/
theorem mapFields_succeeds_iff (mapper : ItemMapper) (separate : Separate rules) (simple : ∀ rule ∈ rules, rule.Simple) (item : Fields) :
    Result.Succeeds (mapper.mapFields item rules) ↔
      ∀ rule ∈ rules, rule.Legible (Assoc.get? item (.named rule.id)) := by
  constructor
  · rintro ⟨mapped, done⟩ rule member
    obtain ⟨before, after, here, around⟩ := applyRule_of_mapFields separate member done
    have same := (around [.named rule.id] (List.mem_cons_self ..)).1
    rw [Path.get?_singleton, Path.get?_singleton] at same
    rw [applyRule_eq (simple rule member)] at here
    obtain ⟨stored?, outcome, _⟩ := Result.map_eq_ok.mp here
    exact (outcome?_succeeds_iff mapper (simple rule member) _).mp ⟨stored?, same ▸ outcome⟩
  · intro legible
    refine separate.foldlM_succeeds (fun fields => fields)
      (fun other among _ clear _ _ done => get?_applyRule_clear (separate.level other among) clear done) ?_
    intro rule member state places
    have same := places [.named rule.id] (List.mem_cons_self ..)
    rw [Path.get?_singleton, Path.get?_singleton] at same
    obtain ⟨stored?, outcome⟩ := (outcome?_succeeds_iff mapper (simple rule member) _).mpr (legible rule member)
    rw [applyRule_eq (simple rule member), same, outcome]
    exact ⟨_, rfl⟩

theorem mapItem_illegible (separate : Separate rules) (simple : ∀ rule ∈ rules, rule.Simple) (member : rule ∈ rules)
    (illegible : ¬rule.Legible (Assoc.get? item (.named rule.id))) :
    mapper.mapItem (.object item) rules false = .error .unreadableText := by
  rw [mapItem_object, (mapper.mapFields_failsOnly item rules).eq_error fun succeeds =>
    illegible ((mapFields_succeeds_iff mapper separate simple item).mp succeeds rule member)]
  rfl

/-- Where the outcome of a rule goes: to its declared path in translation, else under its id. -/
def placeOf (mapper : ItemMapper) (rule : PropertyRule) : Path :=
  if mapper.translate then rule.declaredPath else [.named rule.id]

theorem get?_store_place (undotted : '.' ∉ rule.id.toList) (value : Value) (fields : Fields) :
    (mapper.placeOf rule).get? (.object (mapper.store rule value fields)) = some value := by
  unfold placeOf
  split
  next translating => exact get?_store_self translating undotted value fields
  next reconciling =>
    rw [store_native (Bool.eq_false_iff.mpr reconciling), Path.get?_singleton]
    exact Assoc.get?_put_self ..

theorem placeOf_mem_places (mapper : ItemMapper) (rule : PropertyRule) : mapper.placeOf rule ∈ rule.places := by
  unfold placeOf
  split
  next => exact List.mem_cons_of_mem _ (List.mem_cons_self ..)
  next => exact List.mem_cons_self ..

theorem get?_mapFields (separate : Separate rules) (member : rule ∈ rules) (simple : rule.Simple)
    (fresh : mapper.translate = true → ∀ newId ∈ newIds rules,
      Assoc.get? item (.named (RenamingPass.headOf newId)) = none)
    (done : mapper.mapFields item rules = .ok mapped) :
    mapper.outcome? rule (Assoc.get? item (.named rule.id)) = .ok ((mapper.placeOf rule).get? (.object mapped)) ∧
      (mapper.outcome? rule (Assoc.get? item (.named rule.id)) = .ok none →
        Assoc.get? mapped (.named rule.id) = none) := by
  obtain ⟨before, after, here, around⟩ := applyRule_of_mapFields separate member done
  have undotted := separate.undotted rule member
  have ⟨idBefore, idAfter⟩ := around [.named rule.id] (List.mem_cons_self ..)
  have ⟨placeBefore, placeAfter⟩ := around _ (mapper.placeOf_mem_places rule)
  rw [Path.get?_singleton, Path.get?_singleton] at idBefore idAfter
  -- Both places are now as this one rule leaves them, and it found under its id what the item has there.
  rw [applyRule_eq simple, idBefore] at here
  obtain ⟨stored?, outcome, rfl⟩ := Result.map_eq_ok.mp here
  rw [outcome, placeAfter, idAfter]
  cases stored? with
  | some value =>
    refine ⟨congrArg Except.ok (get?_store_place undotted value before).symm, fun nothing => ?_⟩
    cases nothing
  | none =>
    have absent := absent_of_outcome outcome
    refine ⟨congrArg Except.ok (Eq.symm (placeBefore.trans ?_)), fun _ => idBefore.trans absent⟩
    unfold placeOf
    split
    next translating =>
      exact absent_declared undotted (fun newId renamed => fresh translating newId (mem_newIds member renamed)) absent
    next => rw [Path.get?_singleton, absent]

theorem get?_native_other (reconciling : mapper.translate = false) (separate : Separate rules) {key : Key}
    (foreign : ∀ rule ∈ rules, key ≠ .named rule.id) (done : mapper.mapFields item rules = .ok mapped) :
    Assoc.get? mapped key = Assoc.get? item key := by
  refine Result.foldlM_keeps (fun fields => Assoc.get? fields key = Assoc.get? item key) ?_ rfl done
  intro rule member fields next same done
  rcases applyRule_cases (separate.level rule member) done with rfl | ⟨value, rfl⟩
  · exact same
  · rw [store_native reconciling, Assoc.get?_put_of_ne (foreign rule member).symm, same]

theorem get?_mapFields_other (separate : Separate rules) {key : Key} (foreign : ∀ rule ∈ rules, key ≠ .named rule.id)
    (fresh : mapper.translate = true → ∀ newId ∈ newIds rules, key ≠ .named (RenamingPass.headOf newId))
    (done : mapper.mapFields item rules = .ok mapped) : Assoc.get? mapped key = Assoc.get? item key := by
  cases mode : mapper.translate with
  | true =>
    have same := get?_mapFields_clear separate
      (fun rule member => separate.clear_key foreign (fresh mode) member) done
    rwa [Path.get?_singleton, Path.get?_singleton] at same
  | false => exact get?_native_other mode separate foreign done

end Items

end ItemMapper

namespace RenamingPass

theorem get?_settle (pass : RenamingPass) (item : Fields) (key : Key) :
    Assoc.get? (pass.settle item) key =
      if ∃ name ∈ pass.stale, headOf name ∉ pass.written ∧ .named (headOf name) = key then none
      else Assoc.get? item key := by
  unfold settle
  induction pass.stale generalizing item with
  | nil => simp
  | cons name rest ih =>
    rw [List.map_cons, List.foldl_cons, ih]
    by_cases written : headOf name ∈ pass.written
    · simp [written]
    · by_cases here : .named (headOf name) = key
      · subst here
        simp [written]
      · simp [written, here, Assoc.get?_erase]

theorem nodup_keys_settle (pass : RenamingPass) {item : Fields} (unique : (Assoc.keys item).Nodup) :
    (Assoc.keys (pass.settle item)).Nodup := by
  refine List.foldlRecOn (motive := fun item : Fields => (Assoc.keys item).Nodup) _ _ unique ?_
  intro item unique head _
  split
  next => exact unique
  next => exact Assoc.nodup_keys_filter unique _

end RenamingPass

namespace PropertyRule

variable {rule : PropertyRule} {rules : List PropertyRule} {naming : Naming}

def returned? (rule : PropertyRule) (declared? : Option Value) : Option Value :=
  match rule.toDevice (declared?.getD .null) with
  | .null => none
  | value => some value

/-- The pass when the rule's new id, if it has one, is due to go. -/
def retiring (rule : PropertyRule) (pass : RenamingPass) : RenamingPass :=
  match rule.newId? with
  | some newId => pass.retire newId
  | none => pass

theorem takeOver_eq (unnamed : rule.newId? ≠ some "name") (item : Fields) (pass : RenamingPass) :
    rule.takeOver naming item pass =
      match rule.returned? (rule.declaredPath.get? (.object item)) with
      | some value =>
        (Assoc.put item (.named rule.id) value, rule.retiring { pass with written := pass.written ++ [rule.id] })
      | none => (item, rule.retiring pass) := by
  unfold takeOver returned? retiring
  generalize rule.toDevice _ = native
  cases renamed : rule.newId? with
  | none => cases native <;> rfl
  | some newId =>
    have other : newId ≠ "name" := fun same => unnamed (same ▸ renamed)
    cases native <;> simp only [if_neg other]

theorem get?_takeOver (unnamed : rule.newId? ≠ some "name") (item : Fields) (pass : RenamingPass) (key : Key) :
    Assoc.get? (rule.takeOver naming item pass).1 key =
      if .named rule.id = key then (rule.returned? (rule.declaredPath.get? (.object item))).or (Assoc.get? item key)
      else Assoc.get? item key := by
  rw [takeOver_eq unnamed]
  cases rule.returned? (rule.declaredPath.get? (.object item)) with
  | some value => exact Assoc.get?_put ..
  | none => exact (ite_self _).symm

theorem get?_takeOver_clear (unnamed : rule.newId? ≠ some "name") {path : Path} (clear : rule.Clear path)
    (item : Fields) (pass : RenamingPass) :
    path.get? (.object (rule.takeOver naming item pass).1) = path.get? (.object item) := by
  rw [takeOver_eq unnamed]
  split
  next value _ => exact Path.get?_put_apart clear.id value item
  next => rfl

theorem nodup_keys_takeOver (unnamed : rule.newId? ≠ some "name") {item : Fields} (unique : (Assoc.keys item).Nodup)
    (pass : RenamingPass) : (Assoc.keys (rule.takeOver naming item pass).1).Nodup := by
  rw [takeOver_eq unnamed]
  split
  next value _ => exact Assoc.nodup_keys_put unique _ value
  next => exact unique

theorem mem_stale_retiring {pass : RenamingPass} {name : String} :
    name ∈ (rule.retiring pass).stale ↔ name ∈ pass.stale ∨ rule.newId? = some name := by
  unfold retiring RenamingPass.retire
  split
  next newId renamed =>
    by_cases present : newId ∈ pass.stale
    · rw [if_pos present, renamed, Option.some.injEq]
      exact ⟨.inl, fun either => either.elim (fun member => member) fun same => same ▸ present⟩
    · rw [if_neg present, renamed]
      simp [eq_comm]
  next same => simp [same]

theorem written_retiring (rule : PropertyRule) (pass : RenamingPass) : (rule.retiring pass).written = pass.written := by
  unfold retiring RenamingPass.retire
  split
  next => split <;> rfl
  next => rfl

theorem mem_stale_takeOver (unnamed : rule.newId? ≠ some "name") {item : Fields} {pass : RenamingPass}
    {name : String} :
    name ∈ (rule.takeOver naming item pass).2.stale ↔ name ∈ pass.stale ∨ rule.newId? = some name := by
  rw [takeOver_eq unnamed]
  split
  next => exact mem_stale_retiring
  next => exact mem_stale_retiring

theorem mem_written_takeOver (unnamed : rule.newId? ≠ some "name") {item : Fields} {pass : RenamingPass}
    {name : String} (written : name ∈ (rule.takeOver naming item pass).2.written) :
    name ∈ pass.written ∨ name = rule.id := by
  rw [takeOver_eq unnamed] at written
  split at written
  next => simpa [written_retiring] using written
  next => exact .inl (written_retiring rule pass ▸ written)

def takeOverAll (rules : List PropertyRule) (naming : Naming) (item : Fields) : Fields × RenamingPass :=
  rules.foldl (fun state rule => rule.takeOver naming state.1 state.2) (item, {})

def settled (rules : List PropertyRule) (naming : Naming) (item : Fields) : Fields :=
  (takeOverAll rules naming item).2.settle (takeOverAll rules naming item).1

theorem get?_takeOverAll (separate : Separate rules) (reversible : ∀ rule ∈ rules, rule.Reversible) (item : Fields)
    (member : rule ∈ rules) :
    Assoc.get? (takeOverAll rules naming item).1 (.named rule.id) =
      (rule.returned? (rule.declaredPath.get? (.object item))).or (Assoc.get? item (.named rule.id)) := by
  obtain ⟨before, around⟩ := separate.foldl_at Prod.fst member
    (fun state rule => rule.takeOver naming state.1 state.2) (fun other otherMember path clear state =>
      get?_takeOver_clear (reversible other otherMember).unnamed clear state.1 state.2) (item, {})
  have ⟨⟨idBefore, idAfter⟩, others⟩ := List.forall_mem_cons.mp around
  have ⟨pathBefore, _⟩ := List.forall_mem_singleton.mp others
  rw [Path.get?_singleton, Path.get?_singleton] at idBefore idAfter
  rw [takeOverAll, idAfter, get?_takeOver (reversible rule member).unnamed, if_pos rfl, pathBefore, idBefore]

theorem get?_takeOverAll_other (reversible : ∀ rule ∈ rules, rule.Reversible) (item : Fields) {key : Key}
    (foreign : ∀ rule ∈ rules, key ≠ .named rule.id) :
    Assoc.get? (takeOverAll rules naming item).1 key = Assoc.get? item key :=
  foldl_keeps (fun state : Fields × RenamingPass => Assoc.get? state.1 key) (fun rule member state => by
    rw [get?_takeOver (reversible rule member).unnamed, if_neg (foreign rule member).symm]) (item, {})

theorem mem_stale_takeOverAll (reversible : ∀ rule ∈ rules, rule.Reversible) {item : Fields} {name : String} :
    name ∈ (takeOverAll rules naming item).2.stale ↔ name ∈ newIds rules := by
  suffices general : ∀ state : Fields × RenamingPass,
      name ∈ (rules.foldl (fun state rule => rule.takeOver naming state.1 state.2) state).2.stale ↔
        name ∈ state.2.stale ∨ name ∈ newIds rules by
    rw [takeOverAll, general]
    simp
  induction rules with
  | nil => simp [newIds]
  | cons rule rest ih =>
    intro state
    have ⟨first, others⟩ := List.forall_mem_cons.mp reversible
    rw [List.foldl_cons, ih others, mem_stale_takeOver first.unnamed, newIds, newIds, List.filterMap_cons]
    cases rule.newId? with
    | none => simp
    | some newId => simp [or_assoc, eq_comm]

theorem mem_written_takeOverAll (reversible : ∀ rule ∈ rules, rule.Reversible) (item : Fields) :
    ∀ name ∈ (takeOverAll rules naming item).2.written, ∃ rule ∈ rules, rule.id = name := by
  refine List.foldlRecOn (motive := fun state : Fields × RenamingPass =>
    ∀ name ∈ state.2.written, ∃ rule ∈ rules, rule.id = name) rules _ (fun _ member => nomatch member) ?_
  intro state known rule member name written
  rcases mem_written_takeOver (reversible rule member).unnamed written with earlier | rfl
  · exact known name earlier
  · exact ⟨rule, member, rfl⟩

theorem get?_settled (separate : Separate rules) (reversible : ∀ rule ∈ rules, rule.Reversible) (naming : Naming)
    (item : Fields) (key : Key) :
    Assoc.get? (settled rules naming item) key =
      if ∃ newId ∈ newIds rules, .named (RenamingPass.headOf newId) = key then none
      else Assoc.get? (takeOverAll rules naming item).1 key := by
  have unwritten : ∀ newId ∈ newIds rules,
      RenamingPass.headOf newId ∉ (takeOverAll rules naming item).2.written := by
    intro newId member written
    obtain ⟨rule, among, same⟩ := mem_written_takeOverAll reversible item _ written
    exact separate.free newId member rule among same.symm
  rw [settled, RenamingPass.get?_settle]
  congr 1
  simp only [mem_stale_takeOverAll reversible, eq_iff_iff]
  exact exists_congr fun newId => and_congr_right fun member => and_iff_right (unwritten newId member)

theorem nodup_keys_settled (reversible : ∀ rule ∈ rules, rule.Reversible) {item : Fields}
    (unique : (Assoc.keys item).Nodup) : (Assoc.keys (settled rules naming item)).Nodup := by
  apply RenamingPass.nodup_keys_settle
  exact List.foldlRecOn (motive := fun state : Fields × RenamingPass => (Assoc.keys state.1).Nodup) rules _ unique
    fun state unique rule member => nodup_keys_takeOver (reversible rule member).unnamed unique state.2

end PropertyRule

namespace Entry

variable {entry : Entry} {naming : Naming}

/-- A rule that splices nothing in: it names no target, or the entry refers to nothing by its id. -/
def Unspliced (entry : Entry) (rule : PropertyRule) : Prop :=
  given? rule.dereferenceId = none ∨ entry.referencedRules rule.id = []

theorem unspliced_of_selfContained (selfContained : entry.references = []) (rule : PropertyRule) :
    entry.Unspliced rule := by
  refine .inr ?_
  rw [referencedRules, selfContained]
  rfl

theorem renameProperty_eq (unmerged : entry.schemaMerge = none) (depth : Nat) {rule : PropertyRule}
    (flat : rule.transform = []) (unspliced : entry.Unspliced rule) (item : Fields) (pass : RenamingPass) :
    entry.renameProperty naming depth rule item pass = .ok (rule.takeOver naming item pass) := by
  have loose : entry.mergePath = [] := by rw [mergePath, unmerged]
  have inside (shares : Bool) (item : Fields) : rule.renameInside shares item = .ok item := by
    rw [PropertyRule.renameInside, flat]
    simp [Result.pure_eq_ok, Result.ok_bind]
  rw [renameProperty]
  simp only [loose, List.isEmpty_nil, Bool.not_true, inside]
  rw [if_neg Bool.false_ne_true, Result.pure_eq_ok, Result.ok_bind, Result.ok_bind]
  split
  next target spliced =>
    rcases unspliced with nothing | alone
    · cases nothing.symm.trans spliced
    · rw [alone]
      exact if_pos (Bool.true_or _)
  next => rfl

theorem renameProperties_eq (unmerged : entry.schemaMerge = none) (depth : Nat) {rules : List PropertyRule}
    (flat : ∀ rule ∈ rules, rule.transform = []) (unspliced : ∀ rule ∈ rules, entry.Unspliced rule) (item : Fields)
    (pass : RenamingPass) :
    entry.renameProperties naming depth rules item pass =
      .ok (rules.foldl (fun state rule => rule.takeOver naming state.1 state.2) (item, pass)) := by
  induction rules generalizing item pass with
  | nil => rw [renameProperties, List.foldl_nil]
  | cons rule rest ih =>
    obtain ⟨first, others⟩ := List.forall_mem_cons.mp flat
    obtain ⟨here, later⟩ := List.forall_mem_cons.mp unspliced
    rw [renameProperties, renameProperty_eq unmerged depth first here, Result.ok_bind, List.foldl_cons]
    exact ih others later _ _

end Entry

namespace Catalog

theorem renameObject_eq {catalog : Catalog} {schemaClass : String} {entry : Entry}
    (sole : catalog.entriesOf schemaClass = [entry]) (unmerged : entry.schemaMerge = none)
    (flat : ∀ rule ∈ entry.properties, rule.transform = [])
    (unspliced : ∀ rule ∈ entry.properties, entry.Unspliced rule) (item : Fields) (filed : Option String) :
    ∃ naming, catalog.renameObject schemaClass item filed =
      .ok (PropertyRule.settled entry.properties naming item) := by
  refine ⟨{ filed, declared := item.lookup "name" }, ?_⟩
  rw [renameObject, sole, List.foldlM_cons]
  dsimp only
  rw [Entry.renameProperties_eq unmerged _ flat unspliced]
  rfl

/-- A class that one entry describes all by itself. -/
structure Describes (catalog : Catalog) (schemaClass : String) (entry : Entry) : Prop where
  sole : catalog.entriesOf schemaClass = [entry]
  unmerged : entry.schemaMerge = none
  selfContained : entry.references = []

theorem Describes.renameObject_eq {catalog : Catalog} {schemaClass : String} {entry : Entry}
    (describes : catalog.Describes schemaClass entry) (flat : ∀ rule ∈ entry.properties, rule.transform = [])
    (item : Fields) (filed : Option String) :
    ∃ naming, catalog.renameObject schemaClass item filed =
      .ok (PropertyRule.settled entry.properties naming item) :=
  Catalog.renameObject_eq describes.sole describes.unmerged flat
    (fun rule _ => Entry.unspliced_of_selfContained describes.selfContained rule) item filed

end Catalog

end Reconcile
