import Reconcile.Catalog.Packaged
import Reconcile.Proofs.Assoc
import Reconcile.Proofs.Inspection.Production

/-!
The classes of what is produced for a tenant. Every object is declared with the class of its entry, and neither the
rules of the entry nor its functions touch that class.
-/

namespace Reconcile

/-- Whether two values are objects of one class, or no objects either of them. -/
structure Value.SameClass (left right : Value) : Prop where
  object : left.isObject = right.isObject
  field : left.get? "class" = right.get? "class"

namespace Value.SameClass

theorem refl (value : Value) : value.SameClass value := ⟨rfl, rfl⟩

theorem trans {left middle right : Value} (first : left.SameClass middle) (second : middle.SameClass right) :
    left.SameClass right :=
  ⟨first.object.trans second.object, first.field.trans second.field⟩

theorem put (fields : Fields) {key : Key} (other : key ≠ "class") (value : Value) :
    (Value.object (Assoc.put fields key value)).SameClass (.object fields) :=
  ⟨rfl, Assoc.get?_put_of_ne other value⟩

theorem erase (fields : Fields) {key : Key} (other : key ≠ "class") :
    (Value.object (Assoc.erase fields key)).SameClass (.object fields) :=
  ⟨rfl, Assoc.get?_erase_of_ne other⟩

end Value.SameClass

namespace TidyRule

theorem get?_apply {rule : TidyRule} (other : rule.id ≠ "class") (fields : Fields) :
    Assoc.get? (rule.apply fields) "class" = Assoc.get? fields "class" := by
  have apart : Key.named rule.id ≠ "class" := fun same => other (Key.named.inj same)
  have dropped : Assoc.get? (rule.dropListed fields) "class" = Assoc.get? fields "class" := by
    unfold dropListed
    split
    next =>
      split
      next => exact Assoc.get?_erase_of_ne apart
      next => rfl
    next => rfl
  have read (fields : Fields) : Assoc.get? (rule.readTruth fields) "class" = Assoc.get? fields "class" := by
    unfold readTruth
    split
    next => rfl
    next => exact Assoc.get?_put_of_ne apart _
  have replaced (fields : Fields) : Assoc.get? (rule.replaceListed fields) "class" = Assoc.get? fields "class" := by
    unfold replaceListed
    split
    next => rfl
    next =>
      split
      next => exact Assoc.get?_put_of_ne apart _
      next =>
        split
        next => exact Assoc.get?_put_of_ne apart _
        next => rfl
      next => rfl
  unfold apply
  dsimp only
  rw [replaced]
  split
  next => rw [Assoc.get?_erase_of_ne apart, read, dropped]
  next => rw [read, dropped]

theorem get?_foldl_apply {rules : List TidyRule} (others : ∀ rule ∈ rules, rule.id ≠ "class") (fields : Fields) :
    Assoc.get? (rules.foldl (fun fields rule => rule.apply fields) fields) "class" = Assoc.get? fields "class" := by
  induction rules generalizing fields with
  | nil => rfl
  | cons rule rest ih =>
    obtain ⟨first, later⟩ := List.forall_mem_cons.mp others
    rw [List.foldl_cons, ih later, get?_apply first]

end TidyRule

namespace Rework

/-- Whether a function leaves the class of every object that it lets through as it is. -/
def KeepsClass (function : Key → Value → Result Reworked) : Prop :=
  ∀ {key key' : Key} {entry value : Value}, function key entry = .ok (key', some value) → value.SameClass entry

theorem of_fieldsOrFail {entry : Value} {fields : Fields} (read : entry.fieldsOrFail = .ok fields) :
    entry = .object fields := by
  cases entry with
  | object => exact congrArg Value.object (Except.ok.inj read)
  | _ => cases read

theorem managementIp_keeps : KeepsClass managementIp := by
  intro key key' entry value done
  cases done
  exact .refl _

theorem nameservers_keeps : KeepsClass nameservers := by
  intro key key' entry value done
  obtain ⟨fields, read, rest⟩ := Result.bind_eq_ok.mp done
  obtain rfl := of_fieldsOrFail read
  dsimp only at rest
  split at rest
  next =>
    obtain ⟨zones, _, done⟩ := Result.bind_eq_ok.mp rest
    cases done
    exact .put fields (by decide) _
  next =>
    split at rest
    next =>
      obtain ⟨_, _, done⟩ := Result.bind_eq_ok.mp rest
      cases done
      exact .refl _
    next =>
      cases rest
      exact .refl _

theorem failoverUnicast_keeps : KeepsClass failoverUnicast := by
  intro key key' entry value done
  obtain ⟨ports, _, rest⟩ := Result.bind_eq_ok.mp done
  split at rest
  next => cases rest
  next =>
    cases rest
    exact .refl _

theorem dropIncomplete_keeps {complete : Value → Result Bool} {name : String} (other : name ≠ "class")
    {fields after : Fields} (done : dropIncomplete complete name fields = .ok after) :
    (Value.object after).SameClass (.object fields) := by
  unfold dropIncomplete at done
  split at done
  next =>
    obtain ⟨whole, _, rest⟩ := Result.bind_eq_ok.mp done
    cases rest
    split
    next => exact .refl _
    next => exact .erase fields fun same => other (Key.named.inj same)
  next =>
    cases done
    exact .refl _

theorem authMethods_keeps : KeepsClass authMethods := by
  intro key key' entry value done
  obtain ⟨fields, read, rest⟩ := Result.bind_eq_ok.mp done
  obtain rfl := of_fieldsOrFail read
  have later {before : Fields} (run : (do
      let fields ← dropIncomplete hasServers "ldap" before
      return (key, some (.object (← dropIncomplete hasServers "tacacs" fields)))) =
        (.ok (key', some value) : Result Reworked)) : value.SameClass (.object before) := by
    obtain ⟨withLdap, ldap, rest⟩ := Result.bind_eq_ok.mp run
    obtain ⟨withTacacs, tacacs, done⟩ := Result.bind_eq_ok.mp rest
    cases done
    exact (dropIncomplete_keeps (by decide) tacacs).trans (dropIncomplete_keeps (by decide) ldap)
  dsimp only at rest
  split at rest
  next => exact later rest
  next =>
    obtain ⟨withRadius, radius, rest⟩ := Result.bind_eq_ok.mp rest
    exact (later rest).trans (dropIncomplete_keeps (by decide) radius)

theorem ldapCertificates_keeps : KeepsClass ldapCertificates := by
  intro key key' entry value done
  obtain ⟨fields, read, rest⟩ := Result.bind_eq_ok.mp done
  obtain rfl := of_fieldsOrFail read
  split at rest
  next =>
    cases rest
    exact .put fields (by decide) _
  next =>
    cases rest
    exact .refl _

theorem defaultRouteDomain_keeps : KeepsClass defaultRouteDomain := by
  intro key key' entry value done
  obtain ⟨number, _, done⟩ := Result.bind_eq_ok.mp done
  cases done
  exact .refl _

theorem proberMembers_keeps : KeepsClass proberMembers := by
  intro key key' entry value done
  obtain ⟨fields, read, rest⟩ := Result.bind_eq_ok.mp done
  obtain rfl := of_fieldsOrFail read
  dsimp only at rest
  split at rest
  next =>
    cases rest
    exact .refl _
  next =>
    obtain ⟨_, _, rest⟩ := Result.bind_eq_ok.mp rest
    obtain ⟨members, _, rest⟩ := Result.bind_eq_ok.mp rest
    cases rest
    exact .put fields (by decide) _

theorem staleRules_keeps : KeepsClass staleRules := by
  intro key key' entry value done
  obtain ⟨fields, read, rest⟩ := Result.bind_eq_ok.mp done
  obtain rfl := of_fieldsOrFail read
  split at rest
  next =>
    cases rest
    exact .put fields (by decide) _
  next =>
    cases rest
    exact .refl _

theorem advancedSettings_keeps : KeepsClass advancedSettings := by
  intro key key' entry value done
  obtain ⟨fields, read, rest⟩ := Result.bind_eq_ok.mp done
  obtain rfl := of_fieldsOrFail read
  split at rest
  next =>
    cases rest
    exact .put fields (by decide) _
  next =>
    cases rest
    exact .refl _

theorem named?_keeps {name : String} {function : Key → Value → Result Reworked} (known : named? name = some function) :
    KeepsClass function := by
  unfold named? at known
  split at known
  next => exact Option.some.inj known ▸ managementIp_keeps
  next => exact Option.some.inj known ▸ nameservers_keeps
  next => exact Option.some.inj known ▸ failoverUnicast_keeps
  next => exact Option.some.inj known ▸ authMethods_keeps
  next => exact Option.some.inj known ▸ ldapCertificates_keeps
  next => exact Option.some.inj known ▸ defaultRouteDomain_keeps
  next => exact Option.some.inj known ▸ proberMembers_keeps
  next => exact Option.some.inj known ▸ staleRules_keeps
  next => exact Option.some.inj known ▸ advancedSettings_keeps
  next =>
    cases known
    intro key key' entry value done
    cases done
    exact .refl _
  next => cases known

end Rework

namespace Rebuild

theorem reworked_keeps {names : List String} {key key' : Key} {value after : Value}
    (done : reworked key value names = .ok (key', some after)) : after.SameClass value := by
  induction names generalizing key value with
  | nil =>
    cases done
    exact .refl _
  | cons name rest ih =>
    rw [reworked] at done
    split at done
    next => exact ih done
    next function known =>
      split at done
      next => cases done
      next =>
        obtain ⟨⟨_, _ | middle⟩, here, later⟩ := Result.bind_eq_ok.mp done
        · cases later
        · exact (ih later).trans (Rework.named?_keeps known here)

theorem get?_declare {entry : Entry} (rules : ∀ rule ∈ entry.declaration.properties, rule.id ≠ "class")
    (fields : Fields) :
    (declare entry (.object fields)).get? "class" = some (.ofText? entry.schemaClass) := by
  unfold declare
  dsimp only
  rw [Value.get?, TidyRule.get?_foldl_apply rules]
  split
  next => exact Assoc.get?_put_self ..
  next => rw [Assoc.get?_erase_of_ne (by decide), Assoc.get?_put_self]

end Rebuild

/-- What lets a catalog declare everything that it produces: every entry has a known class of its own, except for the
one of the host name, and no rule touches the class. -/
structure Catalog.Declares (catalog : Catalog) : Prop where
  classes : ∀ entry ∈ catalog.entries, ∀ name ∈ Rebuild.configName? entry,
    entry.schemaClass = some name ∧ name ∈ catalog.classes ∨ entry.schemaClass = none ∧ name = "hostname"
  rules : ∀ entry ∈ catalog.entries, ∀ rule ∈ entry.declaration.properties, rule.id ≠ "class"
  once : (catalog.entries.filterMap Rebuild.configName?).Nodup

theorem Catalog.packaged_declares : Catalog.packaged.Declares where
  classes := by decide +kernel
  rules := by decide +kernel
  once := by decide +kernel

namespace Catalog

/-- Whether a member of a tenant is declared: if it is an object, it says which known class it has. -/
def Declared (catalog : Catalog) (value : Value) : Prop :=
  value.isObject = true → ∃ name ∈ catalog.classes, value.get? "class" = some (.text name)

def single? (catalog : Catalog) (value : Value) : Option String :=
  match value.get? "class" with
  | some (.text name) => if catalog.isNameless name then some name else none
  | _ => none

theorem single?_eq_none (catalog : Catalog) {value : Value} (none : value.isObject = false) :
    catalog.single? value = Option.none := by
  cases value with
  | object => cases none
  | _ => rfl

end Catalog

namespace Rebuild

variable {catalog : Catalog} {config : Fields} {entry : Entry}

theorem offered_class (rules : ∀ rule ∈ entry.declaration.properties, rule.id ≠ "class") {object : Key × Value}
    {pairs : Fields} (done : offered entry object = .ok pairs) :
    ∀ pair ∈ pairs, pair.2.isObject = object.2.isObject ∧
      (pair.2.isObject = true → pair.2.get? "class" = some (.ofText? entry.schemaClass)) := by
  obtain ⟨⟨key, value?⟩, run, done⟩ := Result.bind_eq_ok.mp done
  cases done
  intro pair member
  unfold filedAs at member
  split at member
  next => cases member
  next => cases member
  next key value _ same =>
    cases same
    obtain rfl := List.mem_singleton.mp member
    have kept := reworked_keeps run
    obtain ⟨name, given⟩ := object
    cases given with
    | object fields => exact ⟨kept.object, fun _ => kept.field.trans (get?_declare rules fields)⟩
    | _ => exact ⟨kept.object, fun shaped => by cases kept.object.symm.trans shaped⟩

theorem held_unclassed (declares : catalog.Declares) (member : entry ∈ catalog.entries)
    (host : ∀ value, Assoc.get? config "hostname" = some value → value.isObject = false)
    (unclassed : entry.schemaClass = none) : ∀ object ∈ held catalog config entry, object.2.isObject = false := by
  intro object inside
  unfold held at inside
  split at inside
  next => cases inside
  next name named =>
    rcases declares.classes entry member name named with ⟨classed, _⟩ | ⟨_, rfl⟩
    · rw [unclassed] at classed
      cases classed
    · split at inside
      next => cases inside
      next found => cases host _ found
      next value _ found =>
        obtain rfl := List.mem_singleton.mp inside
        exact host value found

theorem offers_declared (declares : catalog.Declares) (member : entry ∈ catalog.entries)
    (host : ∀ value, Assoc.get? config "hostname" = some value → value.isObject = false) {pairs : Fields}
    (done : offers catalog config entry = .ok pairs) : ∀ pair ∈ pairs, catalog.Declared pair.2 := by
  obtain ⟨lists, run, done⟩ := Result.bind_eq_ok.mp done
  cases done
  refine Result.forall_mem_flatten (fun object inside found offer pair among shaped => ?_) run
  obtain ⟨same, classed⟩ := offered_class (declares.rules entry member) offer pair among
  rw [classed shaped]
  cases named : configName? entry with
  | none =>
    rw [held, named] at inside
    cases inside
  | some name =>
    rcases declares.classes entry member name named with ⟨known, listed⟩ | ⟨unclassed, _⟩
    · exact ⟨name, listed, by rw [known, Value.ofText?]⟩
    · have unshaped := held_unclassed declares member host unclassed object inside
      rw [← same, shaped] at unshaped
      cases unshaped

theorem length_offered {object : Key × Value} {pairs : Fields} (done : offered entry object = .ok pairs) :
    pairs.length ≤ 1 := by
  obtain ⟨result, _, done⟩ := Result.bind_eq_ok.mp done
  cases done
  unfold filedAs
  split <;> simp

theorem offered_single (declares : catalog.Declares) (member : entry ∈ catalog.entries) {name : String}
    (named : configName? entry = some name) {object : Key × Value} {pairs : Fields}
    (done : offered entry object = .ok pairs) {pair : Key × Value} (among : pair ∈ pairs) :
    catalog.single? pair.2 = none ∨ catalog.isNameless name = true ∧ catalog.single? pair.2 = some name := by
  obtain ⟨_, classed⟩ := offered_class (declares.rules entry member) done pair among
  cases shaped : pair.2.isObject with
  | false => exact .inl (catalog.single?_eq_none shaped)
  | true =>
    have field := classed shaped
    rcases declares.classes entry member name named with ⟨known, _⟩ | ⟨unclassed, _⟩
    · rw [known, Value.ofText?] at field
      cases nameless : catalog.isNameless name with
      | true => exact .inr ⟨rfl, by rw [Catalog.single?, field]; exact if_pos nameless⟩
      | false => exact .inl (by rw [Catalog.single?, field]; simp [nameless])
    · rw [unclassed, Value.ofText?] at field
      exact .inl (by rw [Catalog.single?, field])

theorem length_held {name : String} (named : configName? entry = some name) (nameless : catalog.isNameless name = true) :
    (held catalog config entry).length ≤ 1 := by
  unfold held
  rw [named]
  dsimp only
  split
  next => exact Nat.zero_le _
  next => rw [if_pos nameless]; exact Nat.le_refl _
  next => exact Nat.le_refl _

theorem offers_single (declares : catalog.Declares) (member : entry ∈ catalog.entries) {pairs : Fields}
    (done : offers catalog config entry = .ok pairs) :
    (pairs.filterMap fun pair => catalog.single? pair.2).Sublist (configName? entry).toList := by
  obtain ⟨lists, run, done⟩ := Result.bind_eq_ok.mp done
  cases done
  cases named : configName? entry with
  | none =>
    rw [held, named] at run
    cases run
    exact .slnil
  | some name =>
    have yielded : ∀ object ∈ held catalog config entry, ∀ found, offered entry object = .ok found →
        (found.filterMap fun pair => catalog.single? pair.2).Sublist
          (if catalog.isNameless name then [name] else []) := by
      intro object _ found offer
      have few := length_offered offer
      match found, few with
      | [], _ => exact List.nil_sublist _
      | [pair], _ =>
        rcases offered_single declares member named offer (List.mem_singleton_self _) with none | ⟨nameless, some⟩
        · simp [none]
        · simp [nameless, some]
    have all := Result.filterMap_flatten_sublist yielded run
    cases nameless : catalog.isNameless name with
    | false =>
      have nothing : (held catalog config entry).flatMap (fun _ => ([] : List String)) = [] := by simp
      simp only [nameless, Bool.false_eq_true, ↓reduceIte, nothing] at all
      exact all.trans (List.nil_sublist _)
    | true =>
      have few : (held catalog config entry).length ≤ 1 := length_held named nameless
      match held catalog config entry, few, all with
      | [], _, all => exact all.trans (List.nil_sublist _)
      | [object], _, all => simpa [nameless] using all

/-- Everything that a catalog produces is declared, and each class of single objects occurs at most once. -/
theorem produced_declared (declares : catalog.Declares)
    (host : ∀ value, Assoc.get? config "hostname" = some value → value.isObject = false) {pairs : Fields}
    (done : produced catalog config = .ok pairs) :
    (∀ pair ∈ pairs, catalog.Declared pair.2) ∧ (pairs.filterMap fun pair => catalog.single? pair.2).Nodup := by
  obtain ⟨lists, run, done⟩ := Result.bind_eq_ok.mp done
  cases done
  refine ⟨Result.forall_mem_flatten (fun entry member found => offers_declared declares member host) run, ?_⟩
  have picked := Result.filterMap_flatten_sublist (fun entry member found => offers_single declares member) run
  rw [← List.filterMap_eq_flatMap_toList] at picked
  exact declares.once.sublist picked

end Rebuild

end Reconcile
