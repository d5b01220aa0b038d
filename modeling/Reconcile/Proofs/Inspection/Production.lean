import Reconcile.Inspection.Rebuild
import Reconcile.Proofs.Observation.Outcome

/-!
What the entries of a catalog produce for a tenant, apart from where it is filed. Rebuilding a declaration amounts to
filing, tenant by tenant, everything that is produced.
-/

namespace Reconcile

theorem Result.foldlM_gathered {α β γ : Type} (gather : α → Result (List β)) (add : γ → β → γ) (items : List α)
    (start : γ) :
    (items.foldlM (fun state item => do return (← gather item).foldl add state) start : Result γ) =
      do return (← items.mapM gather).flatten.foldl add start := by
  induction items generalizing start with
  | nil => rfl
  | cons item rest ih =>
    rw [List.foldlM_cons, List.mapM_cons]
    cases gather item with
    | error fault => rfl
    | ok found =>
      rw [ok_bind, pure_eq_ok, ok_bind, ih, ok_bind]
      cases rest.mapM gather with
      | error fault => rfl
      | ok others =>
        simp only [ok_bind, pure_eq_ok, List.flatten_cons, List.foldl_append]

namespace Rebuild

def reworked (key : Key) (value : Value) : List String → Result Reworked
  | [] => .ok (key, some value)
  | name :: rest =>
    match Rework.named? name with
    | none => reworked key value rest
    | some function =>
      if value.isNull then .ok (key, none)
      else do
        match ← function key value with
        | (key, some value) => reworked key value rest
        | (key, none) => return (key, none)

def filedAs : Reworked → Fields
  | (_, none) | (_, some .null) => []
  | (key, some value) => [(key, value)]

def offered (entry : Entry) (object : Key × Value) : Result Fields := do
  return filedAs (← reworked object.1 (declare entry object.2) entry.declaration.customFunctions)

def held (catalog : Catalog) (config : Fields) (entry : Entry) : Fields :=
  match configName? entry with
  | none => []
  | some name =>
    match Assoc.get? config (.named name) with
    | none => []
    | some (.object objects) => if catalog.isNameless name then [(singleKey entry, .object objects)] else objects
    | some value => [(singleKey entry, value)]

def offers (catalog : Catalog) (config : Fields) (entry : Entry) : Result Fields := do
  return (← (held catalog config entry).mapM (offered entry)).flatten

/-- All pairs that a catalog produces for a tenant, in catalog order. None of their values is null. -/
def produced (catalog : Catalog) (config : Fields) : Result Fields := do
  return (← catalog.entries.mapM (offers catalog config)).flatten

def Draft.add (draft : Draft) (pair : Key × Value) : Draft :=
  if Assoc.has draft.fields pair.1 then
    let count := (Assoc.get? draft.duplicates pair.1).getD 0 + 1
    ⟨Assoc.put draft.fields (pair.1.display ++ "_INVALID_" ++ toString count) pair.2,
      Assoc.put draft.duplicates pair.1 count⟩
  else { draft with fields := Assoc.put draft.fields pair.1 pair.2 }

def Draft.start : Draft where
  fields := [("class", .text "Tenant")]

def drafted (catalog : Catalog) (config : Fields) : Result Draft := do
  return (← produced catalog config).foldl Draft.add .start

/-- One more tenant of a rebuilt declaration, and whether all keys have been free so far. -/
def withTenant (catalog : Catalog) (rebuilt : Fields × Bool) (tenant : Key × Value) : Result (Fields × Bool) :=
  match tenant.2 with
  | .object config => do
    let draft ← drafted catalog config
    return (Assoc.put rebuilt.1 tenant.1 (.object draft.fields), rebuilt.2 && draft.duplicates.isEmpty)
  | _ => .ok rebuilt

def rebuilt (catalog : Catalog) (version : String) (tenants : Fields) : Result Inspection := do
  let start : Fields := [("class", .text "Device"), ("schemaVersion", .text version)]
  let (fields, valid) ← tenants.foldlM (withTenant catalog) (start, true)
  return ⟨fields, valid, if valid then [] else [collisionError]⟩

open Logged

theorem yields_skip (names : List String) (key : Key) : (rework.skip names key).Yields (.ok (key, none)) := by
  induction names with
  | nil => exact yields_pure _
  | cons name rest ih =>
    unfold rework.skip
    split
    next => exact yields_pure _
    next => exact (yields_note .warning _).bind fun _ => ih

theorem yields_rework (key : Key) (value : Value) (names : List String) :
    (rework key value names).Yields (reworked key value names) := by
  induction names generalizing key value with
  | nil => exact yields_pure _
  | cons name rest ih =>
    unfold rework reworked
    cases Rework.named? name with
    | none => exact (yields_note .warning _).bind fun _ => ih key value
    | some function =>
      dsimp only
      split
      next => exact yields_pure _
      next =>
        refine (yields_lift (function key value)).bind fun result => ?_
        obtain ⟨key, _ | value⟩ := result
        · exact yields_skip rest key
        · exact ih key value

theorem yields_file (draft : Draft) (tenant key : Key) (value : Value) :
    (draft.file tenant key value).Yields (.ok (draft.add (key, value))) := by
  unfold Draft.file Draft.add
  split
  next => exact (yields_note .warning _).bind fun _ => yields_pure _
  next => exact yields_pure _

theorem yields_fileObject (entry : Entry) (tenant : Key) (draft : Draft) (object : Key × Value) :
    (fileObject entry tenant draft object.1 object.2).Yields
      (do return (← offered entry object).foldl Draft.add draft) := by
  unfold fileObject offered
  rw [bind_assoc]
  refine (yields_rework object.1 (declare entry object.2) _).bind fun result => ?_
  split
  next => exact yields_pure _
  next => exact yields_pure _
  next key value given =>
    have filed : filedAs (key, some value) = [(key, value)] := by
      cases value with
      | null => exact (given rfl).elim
      | _ => rfl
    simp only [Result.pure_eq_ok, Result.ok_bind, filed]
    exact yields_file draft tenant key value

theorem yields_fileEntry (catalog : Catalog) (config : Fields) (tenant : Key) (draft : Draft) (entry : Entry) :
    (fileEntry catalog config tenant draft entry).Yields
      (do return (← offers catalog config entry).foldl Draft.add draft) := by
  have each (objects : Fields) :
      (objects.foldlM (fun draft object => fileObject entry tenant draft object.1 object.2) draft : Logged Draft).Yields
        (do return (← objects.mapM (offered entry)).flatten.foldl Draft.add draft) := by
    rw [← Result.foldlM_gathered]
    exact yields_foldlM (yields_fileObject entry tenant) objects draft
  have single (value : Value) := each [(singleKey entry, value)]
  simp only [List.foldlM_cons, List.foldlM_nil, bind_pure] at single
  unfold fileEntry offers held
  simp only [bind_assoc, pure_bind]
  cases configName? entry with
  | none => exact yields_pure draft
  | some name =>
    dsimp only
    cases Assoc.get? config (.named name) with
    | none => exact yields_pure draft
    | some value =>
      cases value with
      | object objects =>
        dsimp only
        split
        next => exact single _
        next => exact each objects
      | _ => exact single _

theorem yields_declaration (catalog : Catalog) (version : String) (config : Value) :
    (declaration catalog version config).Yields (config.fieldsOrFail >>= rebuilt catalog version) := by
  unfold declaration rebuilt
  refine (yields_lift config.fieldsOrFail).bind fun tenants => ?_
  refine (yields_foldlM (fun state tenant => ?_) tenants _).bind fun state => yields_pure _
  obtain ⟨fields, valid⟩ := state
  obtain ⟨name, value⟩ := tenant
  unfold withTenant
  cases value with
  | object config =>
    simp only [drafted, produced, bind_assoc, pure_bind, ← Result.foldlM_gathered]
    exact (yields_foldlM (yields_fileEntry catalog config name) catalog.entries .start).bind fun draft => yields_pure _
  | _ => exact yields_pure _

end Rebuild

end Reconcile
