import Reconcile.Proofs.Declaration.Following
import Reconcile.Proofs.Declaration.Surface

/-!
Where a declaration has its objects, and where these have their pointers.
-/

namespace Reconcile

namespace Declaration

abbrev Stands : Fields → Place → Fields → Prop :=
  StandsBy (fun members key value => Assoc.get? members key = some value) fun group => Fields.lookup group "class" = .null

/-- Where a tenant or a group has a text in an object with a class, apart from the class itself. -/
inductive Carries (members : Fields) : Place → String → Prop where
  | text {declared : Fields} {front inner : Place} {content : String} (stands : Stands declared front members)
      (unmarked : inner.head? ≠ some (.key "class")) (leaf : Value.at? inner (.object declared) = some (.text content)) :
      Carries members (front ++ inner) content

inductive Declares (declared : Fields) : Place → Value → Prop where
  | tenant {fields members : Fields} {name : Key} {front : Place} (among : name ∈ tenants fields)
      (found : Assoc.get? fields name = some (.object members)) (stands : Stands declared front members) :
      Declares declared (.key name :: front) (.object fields)

/-- A pointer in a declared object: where the object is, and where the pointer is in it. -/
structure Points (declaration : Value) (front : Place) (declared : Fields) (inner : Place) (pointer : String) : Prop where
  declares : Declares declared front declaration
  unmarked : inner.head? ≠ some (.key "class")
  leaf : Value.at? inner (.object declared) = some (.text pointer)
  slash : Text.startsWith "/" pointer = true

/-- Whether no pointer but the one that is there leads to a place. -/
def Unshared (declaration : Value) (place : Place) : Prop :=
  ∀ front declared inner pointer, Points declaration front declared inner pointer → front ++ inner ≠ place →
    Pointer.place? declaration pointer ≠ some place

/-- Whether a pointer in a declared object comes to a list with a step that passes for a number and is none. -/
def Misled (declaration : Value) : Prop :=
  ∃ front declared inner pointer, Points declaration front declared inner pointer ∧ Pointer.Strays declaration pointer

/-- Whether a tenant has a loose value under the name of a class of which it declares an object. -/
def Obstructed : Value → Prop
  | .object fields => ∃ tenant ∈ tenants fields, ∃ schemaClass key declared value,
      .object schemaClass key declared ∈ Leaf.ofTenant (.object fields) tenant ∧
        .loose schemaClass value ∈ Leaf.ofTenant (.object fields) tenant
  | _ => False

variable {declared members : Fields} {front : Place}

theorem StandsBy.head {has : Fields → Key → Value → Prop} {groups : Fields → Prop}
    (stands : StandsBy has groups declared front members) :
    ∃ key rest, front = .key key :: rest ∧ key ≠ .named "class" := by
  cases stands with
  | here _ own => exact ⟨_, _, rfl, own⟩
  | grouped _ own => exact ⟨_, _, rfl, own⟩

theorem Stands.at? (stands : Stands declared front members) :
    Value.at? front (.object members) = some (.object declared) := by
  induction stands with
  | here member => rw [Value.at?_key, member, Option.bind_some, Value.at?]
  | grouped member _ _ _ ih => rw [Value.at?_key, member, Option.bind_some, ih]

theorem Carries.here {key : Key} {schemaClass : String} (member : Assoc.get? members key = some (.object declared))
    (own : key ≠ .named "class") (classed : Fields.lookup declared "class" = .text schemaClass) {inner : Place}
    (unmarked : inner.head? ≠ some (.key "class")) {content : String}
    (leaf : Value.at? inner (.object declared) = some (.text content)) : Carries members (.key key :: inner) content :=
  .text (.here member own classed) unmarked leaf

theorem Carries.grouped {key : Key} {group : Fields} (member : Assoc.get? members key = some (.object group))
    (own : key ≠ .named "class") (unclassed : Fields.lookup group "class" = .null) {place : Place} {content : String}
    (carries : Carries group place content) : Carries members (.key key :: place) content := by
  cases carries with
  | text stands unmarked leaf => exact .text (.grouped member own unclassed stands) unmarked leaf

theorem Carries.of_mem (unique : (Assoc.keys members).Nodup) {entry : Key × Value} (member : entry ∈ members) {place : Place}
    {content : String} (carries : Carries [entry] place content) :
    Carries members place content ∧ ∃ rest, place = .key entry.1 :: rest := by
  have among {key : Key} {value : Value} (found : Assoc.get? [entry] key = some value) :
      Assoc.get? members key = some value ∧ key = entry.1 := by
    obtain rfl : (key, value) = entry := List.mem_singleton.mp (Assoc.mem_of_get? found)
    exact ⟨Assoc.get?_of_mem unique member, rfl⟩
  cases carries with
  | text stands unmarked leaf =>
    cases stands with
    | here found own classed =>
      obtain ⟨found, rfl⟩ := among found
      exact ⟨.here found own classed unmarked leaf, _, rfl⟩
    | grouped found own unclassed inside =>
      obtain ⟨found, rfl⟩ := among found
      exact ⟨.grouped found own unclassed (.text inside unmarked leaf), _, rfl⟩

theorem Declares.at? {declaration : Value} (declares : Declares declared front declaration) :
    Value.at? front declaration = some (.object declared) := by
  cases declares with
  | tenant _ found stands => rw [Value.at?_key, found, Option.bind_some, stands.at?]

theorem Points.at? {declaration : Value} {inner : Place} {pointer : String}
    (points : Points declaration front declared inner pointer) :
    Value.at? (front ++ inner) declaration = some (.text pointer) := by
  rw [Value.at?_append, points.declares.at?, Option.bind_some, points.leaf]

theorem unmarked_key {key : Key} (own : key ≠ .named "class") {rest : Place} :
    (Place.Step.key key :: rest).head? ≠ some (.key "class") :=
  fun same => own (Place.Step.key.inj (Option.some.inj same))

theorem exists_key_of_leaf {inner : Place} {content : String}
    (leaf : Value.at? inner (.object declared) = some (.text content)) (unmarked : inner.head? ≠ some (.key "class")) :
    ∃ key rest, inner = .key key :: rest ∧ key ≠ .named "class" := by
  cases inner with
  | nil => cases leaf
  | cons step rest =>
    cases step with
    | key key =>
      refine ⟨key, rest, rfl, fun own => unmarked ?_⟩
      rw [own]
      rfl
    | position => cases leaf

theorem exists_stands {members : Fields} (proper : (Value.object members).isProper = true) {schemaClass : String}
    {key : Key} (leaf : .object schemaClass key declared ∈ Leaf.ofMembers members) :
    ∃ front, Stands declared front members := by
  suffices inside : ∀ value : Value, value.isProper = true → ∀ members, value = .object members →
      .object schemaClass key declared ∈ Leaf.ofMembers members → ∃ front, Stands declared front members from
    inside (.object members) proper members rfl leaf
  intro value
  induction value using Value.byParts with
  | scalar value plain =>
    rintro _ members rfl
    cases plain
  | list => exact fun _ members same => nomatch same
  | object fields ih =>
    intro proper members same leaf
    obtain rfl := Value.object.inj same
    have ⟨unique, inner⟩ := Value.isProper_object.mp proper
    obtain ⟨⟨name, value⟩, member, leaf⟩ := Leaf.mem_ofMembers.mp leaf
    have found := Assoc.get?_of_mem unique member
    cases value with
    | object group =>
      rw [Leaf.ofMember] at leaf
      split at leaf
      next => cases leaf
      next own =>
        split at leaf
        next unclassed =>
          obtain ⟨front, stands⟩ := ih _ member (inner _ member) group rfl leaf
          exact ⟨.key name :: front, .grouped found own unclassed stands⟩
        next classed =>
          cases List.mem_singleton.mp leaf
          exact ⟨[.key name], .here found own classed⟩
        next => cases List.mem_singleton.mp leaf
    | _ =>
      rw [Leaf.ofMember] at leaf
      · split at leaf
        next => cases leaf
        next => cases List.mem_singleton.mp leaf
      all_goals simp

theorem at?_erase {fields : Fields} {place : Place} {content : String}
    (text : Value.at? place (.object (Assoc.erase fields "class")) = some (.text content)) :
    place.head? ≠ some (.key "class") ∧ Value.at? place (.object fields) = some (.text content) := by
  cases place with
  | nil => cases text
  | cons step rest =>
    cases step with
    | position => cases text
    | key key =>
      rw [Value.at?_key, Assoc.get?_erase] at text
      split at text
      next => cases text
      next own =>
        refine ⟨fun same => own ?_, text⟩
        exact (Place.Step.key.inj (Option.some.inj same)).symm

theorem at?_erase_of_unmarked {fields : Fields} {place : Place} (unmarked : place.head? ≠ some (.key "class"))
    {content : String} (text : Value.at? place (.object fields) = some (.text content)) :
    Value.at? place (.object (Assoc.erase fields "class")) = some (.text content) := by
  obtain ⟨key, rest, rfl, own⟩ := exists_key_of_leaf text unmarked
  rw [Value.at?_key, Assoc.get?_erase_of_ne (Ne.symm own)]
  exact text

end Declaration

end Reconcile
