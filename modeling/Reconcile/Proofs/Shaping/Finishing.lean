import Reconcile.Proofs.Path
import Reconcile.Proofs.Shaping.VirtualServer
import Reconcile.Proofs.Value.Sorting
import Reconcile.Shaping.Finish

/-!
Finished classes. Finishing lists the members of pools and the neighbours of routers in order, without losing any of them,
and a class that has been finished is left alone.
-/

namespace Reconcile

def ShapingContext.addressKey (context : ShapingContext) : Key :=
  context.fieldAmong (context.rulesFor "neighborReference") "name"

namespace Shaping

section Pools

variable {key : Key} {fields : Fields} {pool after : Value} {members settled : List Value}

def memberOrder (member : Value) : Value :=
  (member.get? "order").getD (.int 0)

/-- What becomes of a member: it says with a truth value alone whether it is enabled, and keeps all else. -/
structure Settled (before after : Value) : Prop where
  enabled : ∃ fields, before = .object fields ∧ after.get? "enabled" = some (.bool (isEnabled fields))
  disabled : after.get? "disabled" = none
  kept : ∀ key : Key, key ≠ "enabled" → key ≠ "disabled" → after.get? key = before.get? key

theorem poolMember_eq_ok {member after : Value} :
    poolMember member = .ok after ↔ ∃ fields, member = .object fields ∧ after = .object (settleEnabled fields) := by
  rw [poolMember, Result.bind_eq_ok]
  constructor
  · rintro ⟨fields, object, done⟩
    exact ⟨fields, Value.fieldsOrFail_eq_ok.mp object, (Except.ok.inj done).symm⟩
  · rintro ⟨fields, rfl, rfl⟩
    exact ⟨fields, rfl, rfl⟩

theorem settled_poolMember {member after : Value} (done : poolMember member = .ok after) : Settled member after := by
  obtain ⟨fields, rfl, rfl⟩ := poolMember_eq_ok.mp done
  refine ⟨⟨fields, rfl, ?_⟩, ?_, fun key enabled disabled => ?_⟩
  · exact (get?_settleEnabled fields "enabled").trans (by rw [if_neg (by decide), if_pos rfl])
  · exact (get?_settleEnabled fields "disabled").trans (if_pos rfl)
  · exact (get?_settleEnabled fields key).trans (by rw [if_neg disabled, if_neg enabled]; rfl)

theorem settles_poolMember : Settles poolMember := by
  intro member after _ done
  obtain ⟨fields, rfl, rfl⟩ := poolMember_eq_ok.mp done
  exact poolMember_eq_ok.mpr ⟨_, rfl, by rw [settleEnabled_again]⟩

theorem isProper_memberOrder {member : Value} (proper : member.isProper = true) : (memberOrder member).isProper = true := by
  rw [memberOrder]
  cases found : member.get? "order" with
  | none => rfl
  | some order => exact Value.isProper_of_field proper found

theorem isProper_settled (proper : ∀ member ∈ members, member.isProper = true)
    (run : members.mapM poolMember = .ok settled) : ∀ member ∈ settled, (memberOrder member).isProper = true := by
  intro member present
  obtain ⟨before, there, done⟩ := Result.mem_of_mapM run member present
  obtain ⟨fields, rfl, rfl⟩ := poolMember_eq_ok.mp done
  exact isProper_memberOrder (Value.isProper_filter (Value.isProper_put (proper _ there) "enabled" rfl) _)

/-- The members of a pool are settled and listed in order, if what they are listed by can be compared. -/
theorem poolMembers_eq_ok (found : Assoc.get? fields key = some (.list members)) :
    poolMembers key (.object fields) = .ok after ↔
      ∃ settled, members.mapM poolMember = .ok settled ∧ Value.comparable (settled.map memberOrder) = true ∧
        after = .object (Assoc.put fields key (.list (Value.sortByKey (settled.map (Value.keyed memberOrder))))) := by
  rw [poolMembers, Value.fieldsOrFail, Result.ok_bind, found]
  dsimp only
  rw [Result.bind_eq_ok]
  refine exists_congr fun settled => and_congr_right fun _ => ?_
  have keys : (settled.map (Value.keyed memberOrder)).map Prod.fst = settled.map memberOrder := List.map_map ..
  change (if Value.comparable ((settled.map (Value.keyed memberOrder)).map Prod.fst) = true then _ else _) = _ ↔ _
  rw [keys]
  split
  next compared =>
    simp only [compared, true_and]
    exact ⟨fun done => (Except.ok.inj done).symm, fun same => congrArg Except.ok same.symm⟩
  next incomparable =>
    refine iff_of_false ?_ fun done => incomparable done.1
    intro done
    cases done

theorem poolMembers_other (other : ∀ members, Assoc.get? fields key ≠ some (.list members)) :
    poolMembers key (.object fields) = .ok (.object fields) := by
  rw [poolMembers, Value.fieldsOrFail, Result.ok_bind]
  split
  next members found => exact absurd found (other members)
  next => rfl

theorem settles_poolMembers (key : Key) : Settles (poolMembers key) := by
  intro pool after proper done
  obtain ⟨fields, object, _⟩ := Result.bind_eq_ok.mp done
  obtain rfl := Value.fieldsOrFail_eq_ok.mp object
  by_cases listed : ∃ members, Assoc.get? fields key = some (.list members)
  · obtain ⟨members, found⟩ := listed
    obtain ⟨settled, run, compared, rfl⟩ := (poolMembers_eq_ok found).mp done
    have membersProper := Value.isProper_list.mp (Value.isProper_of_get? proper found)
    have orderProper := isProper_settled membersProper run
    have ascending := Value.ascending_sortByKey orderProper compared
    generalize Value.sortByKey (settled.map (Value.keyed memberOrder)) = sorted at ascending ⊢
    refine (poolMembers_eq_ok (Assoc.get?_put_self ..)).mpr ⟨sorted, ?_, ?_, ?_⟩
    · refine Result.mapM_eq_self fun member present => ?_
      obtain ⟨before, there, settles⟩ := Result.mem_of_mapM run member (ascending.perm.mem_iff.mp present)
      exact settles_poolMember before member (membersProper before there) settles
    · refine Value.comparable_perm (ascending.perm.map memberOrder).symm ?_ compared
      exact List.forall_mem_map.mpr orderProper
    · rw [ascending.sortByKey_eq orderProper, Assoc.put_eq_self (Assoc.get?_put_self ..)]
  · have other : ∀ members, Assoc.get? fields key ≠ some (.list members) := not_exists.mp listed
    have same := poolMembers_other other
    cases same.symm.trans done
    exact same

theorem members_of_poolMembers (proper : pool.isProper = true) (done : poolMembers key pool = .ok after)
    (found : pool.get? key = some (.list members)) :
    ∃ settled sorted, List.Forall₂ Settled members settled ∧ after.get? key = some (.list sorted) ∧
      Value.Ascending memberOrder settled sorted := by
  cases pool with
  | object fields =>
    obtain ⟨settled, run, compared, rfl⟩ := (poolMembers_eq_ok found).mp done
    have membersProper := Value.isProper_list.mp (Value.isProper_of_get? proper found)
    refine ⟨settled, _, ?_, Assoc.get?_put_self .., ?_⟩
    · exact (Result.mapM_eq_ok.mp run).imp fun member after done => settled_poolMember done
    · exact Value.ascending_sortByKey (isProper_settled membersProper run) compared
  | _ => cases found

end Pools

section Routers

variable {address : Key} {fields : Fields} {router after found : Value} {listed : List Value}

def addressText (address : Key) (neighbour : Value) : Value :=
  .text ((neighbour.get? address).getD (.text "")).display

def Lists (found : Value) (listed : List Value) : Prop :=
  found = .list listed ∨ found.truthy = false ∧ listed = []

theorem lists_of_itemsOrFail (items : (found.orElse (.list [])).itemsOrFail = .ok listed)
    (objects : ∀ item ∈ listed, ∃ fields, item = .object fields) : Lists found listed := by
  rw [Value.orElse] at items
  split at items
  next given =>
    cases found with
    | list => exact .inl (congrArg Value.list (Except.ok.inj items))
    | object entries =>
      cases items
      cases entries with
      | nil => cases given
      | cons entry rest =>
        obtain ⟨fields, same⟩ := objects _ (List.mem_map_of_mem (List.mem_cons_self ..))
        cases name : entry.1 <;> rw [name] at same <;> cases same
    | text content =>
      cases items
      cases characters : content.toList with
      | nil =>
        rw [String.toList_eq_nil_iff] at characters
        simp [Value.truthy, characters] at given
      | cons c rest =>
        obtain ⟨fields, same⟩ := objects _ (characters ▸ List.mem_map_of_mem (List.mem_cons_self ..))
        cases same
    | _ => cases items
  next missing =>
    exact .inr ⟨Bool.eq_false_iff.mpr missing, (Except.ok.inj items).symm⟩

theorem neighbourKey_eq_ok {neighbour : Value} {entry : Value × Value} :
    neighbourKey address neighbour = .ok entry ↔
      (∃ fields, neighbour = .object fields) ∧ entry = Value.keyed (addressText address) neighbour := by
  rw [neighbourKey, Result.bind_eq_ok]
  constructor
  · rintro ⟨fields, object, done⟩
    obtain rfl := Value.fieldsOrFail_eq_ok.mp object
    exact ⟨⟨fields, rfl⟩, (Except.ok.inj done).symm⟩
  · rintro ⟨⟨fields, rfl⟩, rfl⟩
    exact ⟨fields, rfl, rfl⟩

theorem mentions_renamed {old new : Key} (differ : new ≠ old) (fields : Fields) (value : Value) :
    (Value.object (Assoc.put (Assoc.erase fields old) new value)).mentions old = .ok false := by
  rw [Value.mentions, Assoc.has_eq_isSome, Assoc.get?_put_of_ne differ, Assoc.get?_erase_self]
  rfl

theorem neighbours_eq_self (absent : router.mentions "neighbor" = .ok false) :
    neighbours address router = .ok router := by
  rw [neighbours, absent]
  rfl

theorem peerGroups_eq_self (absent : router.mentions "peerGroup" = .ok false) : peerGroups router = .ok router := by
  rw [peerGroups, absent]
  rfl

theorem of_neighbours (done : neighbours address router = .ok after) :
    (router.mentions "neighbor" = .ok false ∧ after = router) ∨
    ∃ fields listed, router = .object fields ∧ Lists (Fields.lookup fields "neighbor") listed ∧
      after = .object (Assoc.put (Assoc.erase fields "neighbor") "neighbors"
        (.list (Value.sortByKey (listed.map (Value.keyed (addressText address)))))) := by
  obtain ⟨mentioned, known, done⟩ := Result.bind_eq_ok.mp done
  cases mentioned with
  | false =>
    cases done
    exact .inl ⟨known, rfl⟩
  | true =>
    obtain ⟨⟨found, rest⟩, taken, done⟩ := Result.bind_eq_ok.mp done
    obtain ⟨listed, items, done⟩ := Result.bind_eq_ok.mp done
    obtain ⟨entries, run, same⟩ := Result.bind_eq_ok.mp done
    have each : ∀ neighbour ∈ listed, (∃ fields, neighbour = .object fields) ∧
        neighbourKey address neighbour = .ok (Value.keyed (addressText address) neighbour) := by
      intro neighbour member
      obtain ⟨entry, _, here⟩ := Result.exists_of_mapM run neighbour member
      obtain ⟨object, rfl⟩ := neighbourKey_eq_ok.mp here
      exact ⟨object, here⟩
    cases (Result.mapM_eq_map fun neighbour member => (each neighbour member).2).symm.trans run
    cases router with
    | object fields =>
      cases taken
      cases same
      exact .inr ⟨fields, listed, rfl, lists_of_itemsOrFail items fun item member => (each item member).1, rfl⟩
    | _ => cases taken

theorem of_peerGroups (done : peerGroups router = .ok after) :
    (router.mentions "peerGroup" = .ok false ∧ after = router) ∨
    ∃ fields value, router = .object fields ∧
      after = .object (Assoc.put (Assoc.erase fields "peerGroup") "peerGroups" value) := by
  obtain ⟨mentioned, known, done⟩ := Result.bind_eq_ok.mp done
  cases mentioned with
  | false =>
    cases done
    exact .inl ⟨known, rfl⟩
  | true =>
    cases router with
    | object fields =>
      cases done
      exact .inr ⟨fields, _, rfl, rfl⟩
    | _ => cases done

theorem get?_peerGroups (done : peerGroups router = .ok after) {key : Key} (old : key ≠ "peerGroup")
    (new : key ≠ "peerGroups") : after.get? key = router.get? key := by
  rcases of_peerGroups done with ⟨_, rfl⟩ | ⟨fields, value, rfl, rfl⟩
  · rfl
  · exact (Assoc.get?_put_of_ne (Ne.symm new) _).trans (Assoc.get?_erase_of_ne (Ne.symm old))

theorem mentions_of_done {between : Value} (listed : neighbours address router = .ok between)
    (grouped : peerGroups between = .ok after) :
    after.mentions "neighbor" = .ok false ∧ after.mentions "peerGroup" = .ok false := by
  have without : between.mentions "neighbor" = .ok false := by
    rcases of_neighbours listed with ⟨absent, rfl⟩ | ⟨fields, listed, rfl, _, rfl⟩
    · exact absent
    · exact mentions_renamed (by decide) fields _
  rcases of_peerGroups grouped with ⟨absent, rfl⟩ | ⟨fields, value, rfl, rfl⟩
  · exact ⟨without, absent⟩
  · refine ⟨?_, mentions_renamed (by decide) fields value⟩
    rw [Value.mentions, Assoc.has_eq_isSome, Assoc.get?_put_of_ne (by decide), Assoc.get?_erase_of_ne (by decide)]
    exact without

theorem settles_neighbours (address : Key) : Settles fun router => neighbours address router >>= peerGroups := by
  intro router after _ done
  obtain ⟨between, listed, grouped⟩ := Result.bind_eq_ok.mp done
  obtain ⟨neighbor, peerGroup⟩ := mentions_of_done listed grouped
  dsimp only
  rw [neighbours_eq_self neighbor, Result.ok_bind, peerGroups_eq_self peerGroup]

theorem neighbors_of_neighbours (done : (neighbours address router >>= peerGroups) = .ok after)
    (given : router.get? "neighbor" = some found) :
    ∃ listed sorted, Lists found listed ∧ after.get? "neighbors" = some (.list sorted) ∧
      Value.Ascending (addressText address) listed sorted := by
  obtain ⟨between, ordered, grouped⟩ := Result.bind_eq_ok.mp done
  rcases of_neighbours ordered with ⟨absent, rfl⟩ | ⟨fields, listed, rfl, lists, rfl⟩
  · cases between with
    | object fields =>
      rw [Value.mentions, Assoc.has_eq_isSome, show Assoc.get? fields "neighbor" = some found from given] at absent
      cases absent
    | _ => cases given
  · have here : Fields.lookup fields "neighbor" = found := congrArg (Option.getD · Value.null) given
    refine ⟨listed, _, here ▸ lists, ?_, Value.ascending_sortByKey (fun _ _ => rfl) ?_⟩
    · rw [get?_peerGroups grouped (by decide) (by decide)]
      exact Assoc.get?_put_self ..
    · exact Value.comparable_texts _ listed

end Routers

section Rules

variable {fields source : Fields}

def isNetworks (entry : Key × Value) : Bool :=
  entry.1 = .named "vlans"

theorem firewallRule_source (found : Assoc.get? fields "source" = some (.object source)) :
    firewallRule (.object fields) = .ok (.object (Assoc.put fields "source" (.object (source.filter isNetworks)))) := by
  rw [firewallRule, Value.fieldsOrFail, Result.ok_bind, found]
  rfl

theorem firewallRule_other (other : ∀ source, Assoc.get? fields "source" ≠ some (.object source)) :
    firewallRule (.object fields) = .ok (.object fields) := by
  rw [firewallRule, Value.fieldsOrFail, Result.ok_bind]
  split
  next source found => exact absurd found (other source)
  next => rfl

theorem settles_firewallRule : Settles firewallRule := by
  intro rule after _ done
  obtain ⟨fields, object, _⟩ := Result.bind_eq_ok.mp done
  obtain rfl := Value.fieldsOrFail_eq_ok.mp object
  by_cases given : ∃ source, Assoc.get? fields "source" = some (.object source)
  · obtain ⟨source, found⟩ := given
    cases (firewallRule_source found).symm.trans done
    have kept := Assoc.get?_put_self fields (.named "source") (.object (source.filter isNetworks))
    rw [firewallRule_source kept, List.filter_filter]
    simp only [Bool.and_self]
    rw [Assoc.put_eq_self kept]
  · have same := firewallRule_other (not_exists.mp given)
    cases same.symm.trans done
    exact same

end Rules

section Classes

variable {context : ShapingContext} {schemaClass : String} {objects done : Value}

theorem packaged_members (packaged : context.entry ∈ Catalog.packaged.entriesOf "GSLBProberPool") :
    context.field "members" = "members" := by
  have each : ∀ entry ∈ Catalog.packaged.entriesOf "GSLBProberPool", ∀ translate,
      ShapingContext.field { entry := entry, translate := translate } "members" = .named "members" := by decide
  exact each context.entry packaged context.translate

theorem packaged_address (packaged : context.entry ∈ Catalog.packaged.entriesOf "RoutingBGP") :
    context.addressKey = if context.translate then .named "address" else .named "name" := by
  have each : ∀ entry ∈ Catalog.packaged.entriesOf "RoutingBGP", ∀ translate,
      ShapingContext.addressKey { entry := entry, translate := translate } =
        if translate then .named "address" else .named "name" := by decide
  exact each context.entry packaged context.translate

theorem finish_routers (objects : Value) :
    finish "RoutingBGP" context objects =
      eachObject (fun router => neighbours context.addressKey router >>= peerGroups) objects := rfl

theorem settles_finish (packaged : context.entry ∈ Catalog.packaged.entriesOf schemaClass) :
    Settles (finish schemaClass context) := by
  unfold finish
  split
  next => exact (settles_poolMembers _).eachObject
  next => exact (settles_neighbours _).eachObject
  next => exact ((settles_virtualServer (packaged_separate packaged)).itemsAt "virtualServers").eachObject
  next => exact (settles_firewallRule.itemsAt "rules").eachObject
  next => exact fun _ _ _ _ => rfl

/-- A class that has been finished is left alone. The members of a pool are all there, each of them settled, in ascending
order; so are the neighbours of a router, in the order of the texts of their addresses. -/
theorem finish_settles (packaged : context.entry ∈ Catalog.packaged.entriesOf schemaClass)
    (proper : objects.isProper = true) (returned : finish schemaClass context objects = .ok done) :
    finish schemaClass context done = .ok done ∧
    (schemaClass = "GSLBProberPool" → ∀ name members, Path.get? [name, "members"] objects = some (.list members) →
      ∃ settled sorted, List.Forall₂ Settled members settled ∧
        Path.get? [name, "members"] done = some (.list sorted) ∧ Value.Ascending memberOrder settled sorted) ∧
    (schemaClass = "RoutingBGP" → ∀ name found, Path.get? [name, "neighbor"] objects = some found →
      ∃ listed sorted, Lists found listed ∧ Path.get? [name, "neighbors"] done = some (.list sorted) ∧
        Value.Ascending (addressText (if context.translate then "address" else "name")) listed sorted) := by
  refine ⟨settles_finish packaged objects done proper returned, ?_, ?_⟩
  · rintro rfl name members found
    rw [Path.get?_two] at found ⊢
    obtain ⟨pool, held, listed⟩ := Option.bind_eq_some_iff.mp found
    obtain ⟨after, shaped, there⟩ := get?_eachObject returned held
    rw [packaged_members packaged] at shaped
    obtain ⟨settled, sorted, each, stored, ascending⟩ :=
      members_of_poolMembers (Value.isProper_of_field proper held) shaped listed
    exact ⟨settled, sorted, each, by rw [there, Option.bind_some, stored], ascending⟩
  · rintro rfl name found given
    rw [Path.get?_two] at given ⊢
    obtain ⟨router, held, given⟩ := Option.bind_eq_some_iff.mp given
    rw [finish_routers] at returned
    obtain ⟨after, shaped, there⟩ := get?_eachObject returned held
    rw [packaged_address packaged] at shaped
    obtain ⟨listed, sorted, lists, stored, ascending⟩ := neighbors_of_neighbours shaped given
    exact ⟨listed, sorted, lists, by rw [there, Option.bind_some, stored], ascending⟩

def probing (server : String) (order : Int) (said : Key × Value) : Value :=
  .object [("server", .text server), ("order", .int order), said]

def tied : List Value :=
  [probing "east" 1 ("disabled", .text "true"), probing "west" 0 ("enabled", .bool true),
    probing "north" 1 ("enabled", .text "TRUE")]

def neighbourNamed (name : String) : Value :=
  .object [("name", .text name)]

def tiedPools : Value :=
  .object [("pool", .object [("members", .list tied)])]

def numberedRouting : Value :=
  .object [("bgp", .object [("neighbor", .list [neighbourNamed "10.2.0.1", neighbourNamed "10.10.0.1"])])]

/-- Members of the same order stay as they were, and neighbours are listed by texts: 10.10.0.1 comes before 10.2.0.1. -/
theorem finish_settles_ties :
    (∃ done, finish "GSLBProberPool" { entry := Packaged.proberPool, translate := true } tiedPools = .ok done ∧
      finish "GSLBProberPool" { entry := Packaged.proberPool, translate := true } done = .ok done ∧
      ∃ settled, List.Forall₂ Settled tied settled ∧ Value.Ascending memberOrder settled
        [probing "west" 0 ("enabled", .bool true), probing "east" 1 ("enabled", .bool false),
          probing "north" 1 ("enabled", .bool true)]) ∧
    ∃ done, finish "RoutingBGP" { entry := Packaged.bgp } numberedRouting = .ok done ∧
      finish "RoutingBGP" { entry := Packaged.bgp } done = .ok done ∧
      Value.Ascending (addressText "name") [neighbourNamed "10.2.0.1", neighbourNamed "10.10.0.1"]
        [neighbourNamed "10.10.0.1", neighbourNamed "10.2.0.1"] := by
  constructor
  · have packaged : (ShapingContext.mk Packaged.proberPool true .null).entry ∈ Catalog.packaged.entriesOf "GSLBProberPool" :=
      List.mem_filter.mpr ⟨by simp [Catalog.packaged, Packaged.loadBalancingEntries], rfl⟩
    have proper : tiedPools.isProper = true := by decide
    have ⟨again, pooled, _⟩ := finish_settles packaged proper rfl
    obtain ⟨settled, sorted, each, stored, ascending⟩ := pooled rfl "pool" tied rfl
    cases stored
    exact ⟨_, rfl, again, settled, each, ascending⟩
  · have packaged : (ShapingContext.mk Packaged.bgp false .null).entry ∈ Catalog.packaged.entriesOf "RoutingBGP" :=
      List.mem_filter.mpr ⟨by simp [Catalog.packaged, Packaged.networkEntries], rfl⟩
    have proper : numberedRouting.isProper = true := by decide
    have ⟨again, _, routed⟩ := finish_settles packaged proper rfl
    obtain ⟨listed, sorted, same | ⟨missing, _⟩, stored, ascending⟩ := routed rfl "bgp" _ rfl
    · cases same
      cases stored
      exact ⟨_, rfl, again, ascending⟩
    · cases missing

end Classes

end Shaping

end Reconcile
