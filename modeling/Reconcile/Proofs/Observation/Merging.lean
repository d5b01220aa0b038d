import Reconcile.Observation.Merge
import Reconcile.Proofs.Path

/-!
Merges that add to a class. Without a path they refuse to touch a property that is there. At a path they never refuse,
so that they write over what is in their way; whatever else has been contributed lasts.
-/

namespace Reconcile

namespace MergeRule

def place (merge : MergeRule) : Path :=
  merge.path.map .named

/-- Whether everything that was there is there as it was, but that objects on the way to a place, and the one at that
place, may have gained fields. -/
def Keeps (place : Path) (before after : Value) : Prop :=
  ∀ path value, Path.get? path before = some value →
    Path.get? path after = some value ∨
      path <+: place ∧ value.isObject = true ∧ ∃ fields, Path.get? path after = some (.object fields)

theorem Keeps.refl (place : Path) (value : Value) : Keeps place value value :=
  fun _ _ found => .inl found

def Skips (merge : MergeRule) (value : Value) : Prop :=
  (merge.skipWhenOmitted && isOmitted value) = true

instance (merge : MergeRule) (value : Value) : Decidable (merge.Skips value) :=
  inferInstanceAs (Decidable (_ = true))

def contribution (value : Value) (key : Key) : Option Value :=
  Assoc.get? (Path.inside (some value)).reverse key

/-- Whether a merge at a path writes over what it finds: something on its way that is no object, or a property at its
place for which the value has something else. -/
def Overwrites (merge : MergeRule) (target value : Value) : Prop :=
  merge.path ≠ [] ∧ ¬merge.Skips value ∧
    ((∃ path found, path <+: merge.place ∧ Path.get? path target = some found ∧ found.isObject = false) ∨
      ∃ key old new, Path.get? (merge.place ++ [key]) target = some old ∧ contribution value key = some new ∧ new ≠ old)

def gained (place : Path) (value : Value) (fields : Fields) : Fields :=
  Assoc.putAll (Path.inside (Path.get? place (.object fields))) (Path.inside (some value))

theorem atPath_addAt {path : Path} (long : path ≠ []) (value : Value) (fields : Fields) :
    atPath (fun key fields => addAt key value fields) path fields =
      path.put (.object (gained path value fields)) fields := by
  induction path generalizing fields with
  | nil => exact absurd rfl long
  | cons key rest ih =>
    cases rest with
    | nil =>
      rw [atPath, Path.put, gained, Path.get?_singleton, ← Path.inner_eq_inside]
      cases value <;> rfl
    | cons next rest =>
      rw [atPath, Path.put, ih (List.cons_ne_nil _ _), gained, gained, Path.get?_cons_inner]

theorem keeps_put_gained {place : Path} (long : place ≠ []) (value : Value) (fields : Fields) :
    Keeps place (.object fields) (.object (place.put (.object (gained place value fields)) fields)) ↔
      ¬((∃ path found, path <+: place ∧ Path.get? path (.object fields) = some found ∧ found.isObject = false) ∨
        ∃ key old new, Path.get? (place ++ [key]) (.object fields) = some old ∧ contribution value key = some new ∧
          new ≠ old) := by
  have there (rest : Path) : Path.get? (place ++ rest)
      (.object (place.put (.object (gained place value fields)) fields)) =
        Path.get? rest (.object (gained place value fields)) := by
    rw [Path.get?_append, Path.get?_put_self long, Option.bind_some]
  have written (key : Key) : Assoc.get? (gained place value fields) key =
      (contribution value key).or (Path.get? (place ++ [key]) (.object fields)) := by
    rw [gained, Assoc.get?_putAll, Path.get?_concat, Path.get?_inside]
    rfl
  constructor
  · rintro keeps (⟨path, found, front, present, shape⟩ | ⟨key, old, new, present, fresh, differ⟩)
    · obtain ⟨inner, object⟩ := (Path.get?_put_object front (gained place value fields) fields).resolve_left long
      rcases keeps path found present with same | ⟨_, object', _⟩
      · rw [object] at same
        cases same
        cases shape
      · rw [shape] at object'
        cases object'
    · rcases keeps _ old present with same | ⟨front, _⟩
      · rw [there, Path.get?_singleton, written, fresh] at same
        exact differ (Option.some.inj same)
      · have short := front.length_le
        rw [List.length_append] at short
        exact absurd short (by simp)
  · intro clear path found present
    rw [not_or] at clear
    obtain ⟨free, same⟩ := clear
    by_cases front : path <+: place
    · refine .inr ⟨front, ?_, (Path.get?_put_object front _ fields).resolve_left long⟩
      by_contra shape
      exact free ⟨path, found, front, present, by simpa using shape⟩
    · left
      by_cases back : place <+: path
      · obtain ⟨rest, rfl⟩ := back
        cases rest with
        | nil => exact absurd (by simp) front
        | cons key rest =>
          have split : place ++ key :: rest = (place ++ [key]) ++ rest := by simp
          rw [split, Path.get?_append] at present
          obtain ⟨old, here, below⟩ := Option.bind_eq_some_iff.mp present
          rw [there, Path.get?_cons_object, written, here]
          cases fresh : contribution value key with
          | none => exact below
          | some new =>
            have agree : new = old := by
              by_contra differ
              exact same ⟨key, old, new, here, fresh, differ⟩
            rw [agree]
            exact below
      · rw [Path.get?_put_apart ⟨back, front⟩]
        exact present

/-- Adding properties one by one keeps those that are there, whether or not it comes to an end. It ends early at a
property that is there by then, and only there; else no property was there before. -/
theorem addFields_object (added fields : Fields) :
    ∃ after, (addFields added (.object fields)).1 = .object after ∧
      (∀ key value, Assoc.get? fields key = some value → Assoc.get? after key = some value) ∧
      match (addFields added (.object fields)).2 with
      | none => ∀ entry ∈ added, Assoc.get? fields entry.1 = none
      | some fault => ∃ key, fault = .mergeConflict key ∧ key ∈ Assoc.keys added ∧
        (Assoc.get? after key).isSome = true := by
  induction added generalizing fields with
  | nil => exact ⟨fields, rfl, fun _ _ found => found, fun _ member => absurd member List.not_mem_nil⟩
  | cons entry rest ih =>
    obtain ⟨key, value⟩ := entry
    have mentioned : (Value.object fields).mentions key = .ok (Assoc.has fields key) := rfl
    rw [addFields, mentioned]
    cases present : Assoc.get? fields key with
    | some old =>
      rw [Assoc.has_eq_isSome, present]
      exact ⟨fields, rfl, fun _ _ found => found, key, rfl, List.mem_cons_self .., by rw [present]; rfl⟩
    | none =>
      rw [Assoc.has_eq_isSome, present]
      obtain ⟨after, made, kept, ended⟩ := ih (Assoc.put fields key value)
      have lasting : ∀ other content, Assoc.get? fields other = some content →
          Assoc.get? after other = some content := by
        intro other content found
        refine kept other content ((Assoc.get?_put_of_ne ?_ value).trans found)
        rintro rfl
        rw [present] at found
        cases found
      refine ⟨after, made, lasting, ?_⟩
      change match (addFields rest (.object (Assoc.put fields key value))).2 with
        | none => _
        | some fault => _
      cases outcome : (addFields rest (.object (Assoc.put fields key value))).2 with
      | none =>
        rw [outcome] at ended
        refine List.forall_mem_cons.mpr ⟨present, fun other member => ?_⟩
        have absent := ended other member
        rw [Assoc.get?_put] at absent
        split at absent
        next => cases absent
        next => exact absent
      | some fault =>
        rw [outcome] at ended
        obtain ⟨key', conflict, member, taken⟩ := ended
        exact ⟨key', conflict, List.mem_cons_of_mem _ member, taken⟩

/-- One of a sequence of merges, with what it found and what it left. -/
structure Folding where
  merge : MergeRule
  value : Value
  before : Value
  after : Value
  fault : Option Fault

def foldings : Value → List (MergeRule × Value) → List Folding
  | _, [] => []
  | target, (merge, value) :: rest =>
    let merged := merge.fold target value
    ⟨merge, value, target, merged.1, merged.2⟩ :: foldings merged.1 rest

def folded (target : Value) (calls : List (MergeRule × Value)) : Value :=
  calls.foldl (fun target call => (call.1.fold target call.2).1) target

/-- Whether everything that is no object is still there as it was, and every object still an object. -/
def Lasts (before after : Value) : Prop :=
  ∀ path value, Path.get? path before = some value →
    Path.get? path after = some value ∨
      value.isObject = true ∧ ∃ fields, Path.get? path after = some (.object fields)

theorem Lasts.refl (value : Value) : Lasts value value :=
  fun _ _ found => .inl found

theorem Keeps.lasts {place : Path} {before after : Value} (keeps : Keeps place before after) : Lasts before after := by
  intro path value found
  rcases keeps path value found with same | ⟨_, object, gain⟩
  · exact .inl same
  · exact .inr ⟨object, gain⟩

theorem Lasts.trans {before between after : Value} (first : Lasts before between) (later : Lasts between after) :
    Lasts before after := by
  intro path value found
  rcases first path value found with same | ⟨object, fields, grown⟩
  · exact later path value same
  · refine .inr ⟨object, ?_⟩
    rcases later path (.object fields) grown with same | ⟨_, gain⟩
    · exact ⟨fields, same⟩
    · exact gain

/-- How a merge that adds ends on an object. At a path it goes through, and keeps all that was there unless it writes
over something. Without a path it keeps all, and stops at a property that is there or at a value that has none. -/
structure Added (merge : MergeRule) (value before after : Value) (fault : Option Fault) : Prop where
  grown : ∃ fields, after = .object fields
  keeps_iff : Keeps merge.place before after ↔ ¬merge.Overwrites before value
  at_path : merge.path ≠ [] → fault = none
  fresh : merge.path = [] → ¬merge.Skips value → fault = none →
    ∀ key, (contribution value key).isSome = true → Path.get? [key] before = none
  stopped : ∀ failure, fault = some failure →
    (failure = .noFields ∧ value.isObject = false ∧ after = before) ∨
      ∃ key, failure = .mergeConflict key ∧ (contribution value key).isSome = true ∧
        (Path.get? [key] after).isSome = true

theorem contribution_isSome {value : Value} {key : Key} :
    (contribution value key).isSome = true ↔ key ∈ Assoc.keys (Path.inside (some value)) := by
  rw [contribution, ← Assoc.mem_keys_iff, Assoc.keys, List.map_reverse, List.mem_reverse]
  rfl

theorem not_overwrites_of_pathless {merge : MergeRule} (short : merge.path = []) (target value : Value) :
    ¬merge.Overwrites target value :=
  fun writes => writes.1 short

theorem not_overwrites_of_new {merge : MergeRule} {target value : Value} {present : Fields}
    (there : Path.get? merge.place target = some (.object present))
    (new : ∀ key, (contribution value key).isSome = true → Assoc.get? present key = none) :
    ¬merge.Overwrites target value := by
  rintro ⟨_, _, ⟨path, found, ⟨rest, whole⟩, here, plain⟩ | ⟨key, old, content, here, contributed, _⟩⟩
  · rw [← whole, Path.get?_append, here, Option.bind_some] at there
    cases rest with
    | nil =>
      obtain rfl := Option.some.inj there
      cases plain
    | cons key rest => cases found <;> cases plain <;> cases there
  · rw [Path.get?_append, there, Option.bind_some, Path.get?_singleton] at here
    rw [new key (by rw [contributed]; rfl)] at here
    cases here

theorem added_of_skips {merge : MergeRule} {value : Value} (skips : merge.Skips value) (fields : Fields) :
    Added merge value (.object fields) (.object fields) none where
  grown := ⟨fields, rfl⟩
  keeps_iff := ⟨fun _ writes => writes.2.1 skips, fun _ => Keeps.refl _ _⟩
  at_path _ := rfl
  fresh _ gives := absurd skips gives
  stopped _ stop := by cases stop

theorem fieldsOrFail_orElse (value : Value) :
    (value.orElse .empty).fieldsOrFail = .ok (Path.inside (some value)) ∨
      value.isObject = false ∧ (value.orElse .empty).fieldsOrFail = .error .noFields := by
  cases value with
  | object fields =>
    left
    cases fields <;> rfl
  | _ =>
    unfold Value.orElse
    split
    next => exact .inr ⟨rfl, rfl⟩
    next => exact .inl rfl

theorem added_of_addFields {merge : MergeRule} (short : merge.path = []) (fields : Fields) (value : Value) :
    Added merge value (.object fields) (addFields (Path.inside (some value)) (.object fields)).1
      (addFields (Path.inside (some value)) (.object fields)).2 := by
  obtain ⟨after, made, kept, ended⟩ := addFields_object (Path.inside (some value)) fields
  rw [made]
  refine ⟨⟨after, rfl⟩, ?_, fun long => absurd short long, ?_, ?_⟩
  · refine ⟨fun _ => not_overwrites_of_pathless short _ _, fun _ path found present => ?_⟩
    cases path with
    | nil =>
      cases present
      exact .inr ⟨List.nil_prefix, rfl, after, rfl⟩
    | cons key rest =>
      rw [Path.get?_cons_object] at present
      obtain ⟨inner, here, below⟩ := Option.bind_eq_some_iff.mp present
      left
      rw [Path.get?_cons_object, kept key inner here]
      exact below
  · intro _ _ whole key contributed
    rw [whole] at ended
    obtain ⟨entry, member, rfl⟩ := List.mem_map.mp (contribution_isSome.mp contributed)
    rw [Path.get?_singleton]
    exact ended entry member
  · intro failure stop
    rw [stop] at ended
    obtain ⟨key, conflict, member, taken⟩ := ended
    exact .inr ⟨key, conflict, contribution_isSome.mpr member, by rw [Path.get?_singleton]; exact taken⟩

theorem added_of_noFields {merge : MergeRule} (short : merge.path = []) (fields : Fields) {value : Value}
    (plain : value.isObject = false) : Added merge value (.object fields) (.object fields) (some .noFields) where
  grown := ⟨fields, rfl⟩
  keeps_iff := ⟨fun _ => not_overwrites_of_pathless short _ _, fun _ => Keeps.refl _ _⟩
  at_path long := absurd short long
  fresh _ _ whole := by cases whole
  stopped failure stop := .inl ⟨(Option.some.inj stop).symm, plain, rfl⟩

theorem added_of_path {merge : MergeRule} (long : merge.path ≠ []) {value : Value} (gives : ¬merge.Skips value)
    (fields : Fields) :
    Added merge value (.object fields)
      (.object (merge.place.put (.object (gained merge.place value fields)) fields)) none where
  grown := ⟨_, rfl⟩
  keeps_iff := by
    have placed : merge.place ≠ [] := fun short => long (List.map_eq_nil_iff.mp short)
    rw [keeps_put_gained placed]
    exact not_congr ⟨fun writes => ⟨long, gives, writes⟩, fun writes => writes.2.2⟩
  at_path _ := rfl
  fresh short := absurd short long
  stopped _ stop := by cases stop

theorem fold_added {merge : MergeRule} (adding : merge.isAdd = true) (fields : Fields) (value : Value) :
    Added merge value (.object fields) (merge.fold (.object fields) value).1 (merge.fold (.object fields) value).2 := by
  unfold fold
  split
  next skips => exact added_of_skips skips fields
  next gives =>
    cases way : merge.path with
    | nil =>
      dsimp only
      rcases fieldsOrFail_orElse value with taken | ⟨plain, failed⟩
      · rw [taken]
        exact added_of_addFields way fields value
      · rw [failed]
        exact added_of_noFields way fields plain
    | cons key rest =>
      have long : merge.path ≠ [] := by
        rw [way]
        exact List.cons_ne_nil _ _
      have placed : merge.place ≠ [] := fun short => long (List.map_eq_nil_iff.mp short)
      have there := added_of_path long gives fields
      rw [← atPath_addAt placed] at there
      rw [place, way] at there
      simpa only [adding, if_true] using there

/-- Merges that add to an object, one after the other, each end as `Added` says. As long as none of them writes over
something, all that the first of them found lasts. -/
theorem foldings_added (fields : Fields) (calls : List (MergeRule × Value))
    (adding : ∀ call ∈ calls, call.1.isAdd = true) :
    (∀ folding ∈ foldings (.object fields) calls,
        Added folding.merge folding.value folding.before folding.after folding.fault) ∧
      ((∀ folding ∈ foldings (.object fields) calls, ¬folding.merge.Overwrites folding.before folding.value) →
        Lasts (.object fields) (folded (.object fields) calls)) := by
  induction calls generalizing fields with
  | nil => exact ⟨fun _ member => absurd member List.not_mem_nil, fun _ => Lasts.refl _⟩
  | cons call rest ih =>
    obtain ⟨merge, value⟩ := call
    have first := fold_added (adding _ (List.mem_cons_self ..)) fields value
    obtain ⟨after, made⟩ := first.grown
    obtain ⟨each, lasting⟩ := ih after fun other member => adding other (List.mem_cons_of_mem _ member)
    rw [← made] at each lasting
    refine ⟨List.forall_mem_cons.mpr ⟨first, each⟩, fun clear => ?_⟩
    obtain ⟨here, later⟩ := List.forall_mem_cons.mp clear
    exact (first.keeps_iff.mpr here).lasts.trans (lasting later)

/-- A server joins those of an authentication class that are there, and nothing is lost. -/
theorem foldings_added_server :
    let servers : MergeRule := { path := ["radius", "servers"], adds := some "add" }
    let start : Fields := [(.named "radius", .object [(.named "servers", .object
      [(.named "primary", .object [(.named "server", .text "a")])])])]
    let calls := [(servers, .object [(.named "secondary", .object [(.named "server", .text "b")])])]
    (∀ call ∈ calls, call.1.isAdd = true) ∧ Lasts (.object start) (folded (.object start) calls) := by
  intro servers start calls
  have adding : ∀ call ∈ calls, call.1.isAdd = true := by decide
  refine ⟨adding, (foldings_added start calls adding).2 ?_⟩
  intro folding member
  obtain rfl := List.mem_singleton.mp member
  have there : Path.get? servers.place (.object start) =
      some (.object [(.named "primary", .object [(.named "server", .text "a")])]) := rfl
  refine not_overwrites_of_new there fun key contributed => ?_
  obtain rfl := List.mem_singleton.mp (contribution_isSome.mp contributed)
  rfl

/-- A server that is there is written over by one of its name, and nothing stops the merge. -/
theorem primary_server_overwritten :
    let servers : MergeRule := { path := ["radius", "servers"], adds := some "add" }
    let start : Value := .object [(.named "radius", .object [(.named "servers", .object
      [(.named "primary", .object [(.named "server", .text "a")])])])]
    let merged := servers.fold start (.object [(.named "primary", .object [(.named "server", .text "b")])])
    servers.isAdd = true ∧ merged.2 = none ∧ ¬Keeps servers.place start merged.1 := by
  intro servers start merged
  refine ⟨by decide, rfl, fun keeps => ?_⟩
  have there : Path.get? [.named "radius", .named "servers", .named "primary", .named "server"] start =
      some (.text "a") := rfl
  have written : Path.get? [.named "radius", .named "servers", .named "primary", .named "server"] merged.1 =
      some (.text "b") := rfl
  rcases keeps _ _ there with same | ⟨_, object, _⟩
  · rw [written] at same
    simp at same
  · cases object

end MergeRule

end Reconcile
