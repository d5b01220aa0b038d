import Reconcile.Proofs.Mapping.Reading
import Reconcile.Proofs.Observation.Filing

/-!
Items without their links. A device can leave out what an item refers to without any other effect on how the item is
put together: properties that are named as references are dropped in any case. So the answer without links is put
together as the answer with them, and only what the links lead to is missing.
-/

namespace Reconcile

namespace Shaping

def shapedClasses : List String :=
  ["Route", "GSLBMonitor", "RoutingBGP", "SelfIp", "MAC_Masquerade", "GSLBServer", "GSLBProberPool", "SecurityWaf",
    "Authentication", "SyslogRemoteServer", "SSHD", "HTTPD", "Disk", "FirewallPolicy"]

variable {schemaClass : String}

theorem raw_plain (plain : schemaClass ∉ shapedClasses) (value : Value) : raw schemaClass value = .ok value := by
  unfold raw
  split
  case h_4 => rfl
  all_goals exact absurd (by simp [shapedClasses]) plain

theorem item_plain (plain : schemaClass ∉ shapedClasses) (context : ShapingContext) (value : Value) :
    item schemaClass context value = .ok value := by
  unfold item
  split
  case h_7 => rfl
  all_goals exact absurd (by simp [shapedClasses]) plain

theorem finish_plain (plain : schemaClass ∉ shapedClasses) (context : ShapingContext) (objects : Value) :
    finish schemaClass context objects = .ok objects := by
  unfold finish
  split
  case h_5 => rfl
  all_goals exact absurd (by simp [shapedClasses]) plain

end Shaping

namespace Observation

theorem stripFields_filter {nameless : Bool} {keep : Key → Bool}
    (dropped : ∀ key, keep key = false → isBookkeeping nameless key = true) (fields : Fields) :
    stripFields nameless (fields.filter fun field => keep field.1) = stripFields nameless fields := by
  induction fields with
  | nil => rfl
  | cons field rest ih =>
    obtain ⟨key, value⟩ := field
    rw [List.filter_cons]
    cases kept : keep key with
    | true => simp only [↓reduceIte, stripFields, ih]
    | false => simp only [Bool.false_eq_true, ↓reduceIte, stripFields, dropped key kept, ih]

end Observation

namespace Entry

/-- Entries whose items refer to collections in properties that are named as references, each with its own target. -/
structure Refers (entry : Entry) (translate : Bool) : Prop where
  named : ∀ property ∈ Assoc.keys entry.references,
    ∃ name, property = .named name ∧ Text.endsWith "Reference" name = true
  apart : ∀ first second : String, .named first ∈ Assoc.keys entry.references →
    .named second ∈ Assoc.keys entry.references →
    Reference.targetOf entry translate first = Reference.targetOf entry translate second → first = second

def unlinked (entry : Entry) (item : Fields) : Fields :=
  item.filter fun property => !Assoc.has entry.references property.1

variable {entry : Entry} {translate : Bool}

theorem Refers.isBookkeeping (refers : entry.Refers translate) {key : Key}
    (known : Assoc.has entry.references key = true) (nameless : Bool) :
    Observation.isBookkeeping nameless key = true := by
  obtain ⟨name, rfl, ending⟩ := refers.named key (Assoc.has_iff.mp known)
  simp [Observation.isBookkeeping, ending]

theorem Refers.unknown (refers : entry.Refers translate) {name : String}
    (other : Text.endsWith "Reference" name = false) : Assoc.has entry.references (.named name) = false := by
  rw [← Bool.not_eq_true, Assoc.has_iff]
  intro known
  obtain ⟨name', same, ending⟩ := refers.named _ known
  cases same
  rw [other] at ending
  cases ending

theorem lookup_unlinked (item : Fields) (key : Key) :
    Fields.lookup (entry.unlinked item) key =
      if Assoc.has entry.references key then .null else Fields.lookup item key := by
  unfold unlinked Fields.lookup
  rw [Assoc.get?_filter item (fun key => !Assoc.has entry.references key) key]
  cases Assoc.has entry.references key <;> rfl

theorem Refers.strip_unlinked (refers : entry.Refers translate) (nameless : Bool) (item : Fields) (key : Key) :
    Observation.stripFields nameless (Assoc.erase (entry.unlinked item) key) =
      Observation.stripFields nameless (Assoc.erase item key) := by
  have turned : Assoc.erase (entry.unlinked item) key =
      (Assoc.erase item key).filter fun property => !Assoc.has entry.references property.1 := List.filter_comm ..
  rw [turned]
  refine @Observation.stripFields_filter nameless (fun key => !Assoc.has entry.references key) ?_ _
  exact fun other known => refers.isBookkeeping (by simpa using known) nameless

end Entry

namespace Reference

variable {entry : Entry} {translate : Bool} {object : Option Key}

theorem ofItem_succeeds {item : Fields}
    (each : ∀ property ∈ item, Result.Succeeds (ofProperty entry translate object property.1 property.2)) :
    Result.Succeeds (ofItem entry translate object item) :=
  (Result.Succeeds.mapM each).bind fun found => .ok (found.filterMap id)

theorem ofItem_unlinked (entry : Entry) (translate : Bool) (object : Option Key) (item : Fields) :
    ofItem entry translate object (entry.unlinked item) = .ok [] := by
  have nothing : ∀ property ∈ entry.unlinked item,
      ofProperty entry translate object property.1 property.2 = .ok none := by
    intro property member
    have unknown : Assoc.get? entry.references property.1 = none := by
      simpa [Assoc.has_eq_isSome] using (List.mem_filter.mp member).2
    rw [ofProperty_eq, unknown]
  obtain ⟨references, found⟩ := ofItem_succeeds fun property member => ⟨none, nothing property member⟩
  have none_of : references = [] := by
    refine List.eq_nil_iff_forall_not_mem.mpr fun reference member => ?_
    obtain ⟨property, inside, here⟩ := (mem_ofItem found).mp member
    cases (nothing property inside).symm.trans here
  rw [found, none_of]

theorem ofItem_readable {item : Fields} (readable : ∀ property ∈ item, Assoc.has entry.references property.1 = true →
      Result.Succeeds (linkIn property.2)) : Result.Succeeds (ofItem entry translate object item) := by
  refine ofItem_succeeds fun property member => ?_
  rw [ofProperty_eq]
  split
  next rules name known _ =>
    obtain ⟨link?, leads⟩ := readable property member (by rw [Assoc.has_eq_isSome, known]; rfl)
    rw [leads]
    exact ⟨_, rfl⟩
  next => exact .ok none

end Reference

def Gathering.ahead (later : List Reference) (gathering : Gathering) : Gathering :=
  ⟨gathering.classes, gathering.references ++ later⟩

namespace Gatherer

variable {gatherer : Gatherer} {entry : Entry} {schemaClass : String}

def unlinkedItem (entry : Entry) : Value → Value
  | .object fields => .object (entry.unlinked fields)
  | value => value

/-- A collection in which the items that are not passed over carry no links. -/
def unlinkedItems (gatherer : Gatherer) (entry : Entry) (schemaClass : String) (items : List Value) : List Value :=
  items.map fun raw => if gatherer.rejects entry schemaClass raw then raw else unlinkedItem entry raw

def unlinkedAnswer (gatherer : Gatherer) (schemaClass : String) (entry : Entry) : Option Value → Option Value
  | some (.list items) =>
    if entry.class? = some schemaClass then some (.list (gatherer.unlinkedItems entry schemaClass items))
    else some (.list items)
  | answer? => answer?

def links (gatherer : Gatherer) (entry : Entry) : Value → List Reference
  | .object fields =>
    match objectName entry (itemName fields) >>= fun object =>
      Reference.ofItem entry gatherer.translate object fields with
    | .ok references => references
    | .error _ => []
  | _ => []

theorem itemValue?_plain (plain : schemaClass ∉ Shaping.shapedClasses) (several : entry.singleValue = false)
    (fields : Fields) :
    gatherer.itemValue? entry schemaClass fields =
      (fun mapped => some (.object (gatherer.withPlainName entry (itemName fields) mapped))) <$>
        gatherer.mapper.mapFields (Observation.stripFields entry.nameless (Assoc.erase fields "partition"))
          entry.properties := by
  unfold itemValue? mapRaw
  simp only [Shaping.raw_plain plain, Shaping.item_plain plain, several]
  change (gatherer.mapper.mapItem (.object _) entry.properties false >>= _) = _
  rw [ItemMapper.mapItem_object]
  cases gatherer.mapper.mapFields (Observation.stripFields entry.nameless (Assoc.erase fields "partition"))
    entry.properties <;> rfl

theorem mem_links (unmerged : entry.schemaMerge = none) {fields : Fields} (named : (itemName fields).isNull = false)
    (linked : ∀ object, Result.Succeeds (Reference.ofItem entry gatherer.translate object fields))
    {reference : Reference} :
    reference ∈ gatherer.links entry (.object fields) ↔
      ∃ name, (itemName fields).asKey = .ok name ∧ ∃ property value rules link, (.named property, value) ∈ fields ∧
        Assoc.get? entry.references (.named property) = some rules ∧ Reference.linkIn value = .ok (some link) ∧
        reference = Reference.ofLink entry gatherer.translate (some name) property rules link := by
  have called : objectName entry (itemName fields) = some <$> (itemName fields).asKey := by
    rw [objectName, unmerged, named]
    cases (itemName fields).asKey <;> rfl
  rw [links, called]
  cases (itemName fields).asKey with
  | error fault => simp [Functor.map, Except.map, bind, Except.bind]
  | ok name =>
    obtain ⟨references, found⟩ := linked (some name)
    change reference ∈ (match Reference.ofItem entry gatherer.translate (some name) fields with
      | .ok references => references
      | .error _ => []) ↔ _
    rw [found]
    dsimp only
    rw [Reference.mem_ofItem found]
    constructor
    · rintro ⟨⟨key, value⟩, member, refers⟩
      obtain ⟨property, rules, link, rfl, known, leads, rfl⟩ := Reference.ofProperty_some refers
      exact ⟨name, rfl, property, value, rules, link, member, known, leads, rfl⟩
    · rintro ⟨name', same, property, value, rules, link, member, known, leads, rfl⟩
      cases same
      refine ⟨(.named property, value), member, ?_⟩
      rw [Reference.ofProperty_eq, known]
      dsimp only
      rw [leads]
      rfl

variable (refers : entry.Refers gatherer.translate)

include refers

theorem itemName_unlinked (fields : Fields) : itemName (entry.unlinked fields) = itemName fields := by
  rw [itemName, Entry.lookup_unlinked, refers.unknown (by decide)]
  rfl

theorem rejects_unlinked {fields : Fields} (kept : gatherer.rejects entry schemaClass (.object fields) = false) :
    gatherer.rejects entry schemaClass (.object (entry.unlinked fields)) = false := by
  have unmatched (pattern : String) : Observation.patternMatches pattern .null = false := rfl
  have inside : inPartition entry (entry.unlinked fields) = inPartition entry fields := by
    unfold inPartition
    rw [Entry.lookup_unlinked, refers.unknown (by decide)]
    rfl
  rw [rejects_object, Bool.or_eq_false_iff, Bool.or_eq_false_iff] at kept ⊢
  obtain ⟨⟨heeded, member⟩, wanted⟩ := kept
  refine ⟨⟨?_, by rw [inside, member]⟩, by rw [itemName_unlinked refers, wanted]⟩
  -- A rule about a link does not match an item that has none.
  unfold Observation.isIgnored at heeded ⊢
  split
  next => rfl
  next some_rules =>
    rw [if_neg some_rules] at heeded
    have unheeded : (entry.ignore.any fun rule =>
        Observation.patternMatches rule.2 (Fields.lookup fields rule.1)) = false := heeded
    change (entry.ignore.any fun rule =>
      Observation.patternMatches rule.2 (Fields.lookup (entry.unlinked fields) rule.1)) = false
    rw [List.any_eq_false] at unheeded ⊢
    intro rule member
    rw [Entry.lookup_unlinked]
    split
    next => simp [unmatched]
    next => exact unheeded rule member

theorem keepItem_unlinked (several : entry.singleValue = false) (plain : schemaClass ∉ Shaping.shapedClasses)
    {fields : Fields}
    (linked : ∀ object, Result.Succeeds (Reference.ofItem entry gatherer.translate object fields))
    (earlier : List Reference) (gathering : Gathering) :
    gatherer.keepItem entry schemaClass (gathering.ahead earlier) fields =
      Gathering.ahead (earlier ++ gatherer.links entry (.object fields)) <$>
        gatherer.keepItem entry schemaClass gathering (entry.unlinked fields) := by
  unfold keepItem
  rw [itemValue?_plain plain several, itemValue?_plain plain several, itemName_unlinked refers, refers.strip_unlinked]
  cases gatherer.mapper.mapFields (Observation.stripFields entry.nameless (Assoc.erase fields "partition"))
    entry.properties with
  | error fault => rfl
  | ok mapped =>
    rw [Result.map_ok, Result.ok_bind, Result.ok_bind]
    dsimp only
    rw [map_bind]
    refine bind_congr fun classes => ?_
    rw [map_bind, links]
    cases objectName entry (itemName fields) with
    | error fault => rfl
    | ok object =>
      obtain ⟨references, found⟩ := linked object
      simp only [Result.ok_bind, refer, found, Reference.ofItem_unlinked, Gathering.ahead, List.append_nil,
        List.append_assoc]
      rfl

theorem takeItem_unlinked (several : entry.singleValue = false) (plain : schemaClass ∉ Shaping.shapedClasses)
    {raw : Value} (kept : gatherer.rejects entry schemaClass raw = false)
    (linked : ∀ fields, raw = .object fields → ∀ object,
      Result.Succeeds (Reference.ofItem entry gatherer.translate object fields))
    (earlier : List Reference) (gathering : Gathering) :
    gatherer.takeItem entry schemaClass (gathering.ahead earlier) raw =
      Gathering.ahead (earlier ++ gatherer.links entry raw) <$>
        gatherer.takeItem entry schemaClass gathering (unlinkedItem entry raw) := by
  cases raw with
  | object fields =>
    rw [unlinkedItem, takeItem_kept kept, takeItem_kept (rejects_unlinked refers kept), itemName_unlinked refers,
      map_bind]
    exact bind_congr fun _ => keepItem_unlinked refers several plain (linked fields rfl) earlier gathering
  | _ => rw [takeItem_atom rfl, takeItem_atom rfl]; rfl

theorem takeItems_unlinked (several : entry.singleValue = false) (plain : schemaClass ∉ Shaping.shapedClasses)
    {items : List Value}
    (linked : ∀ fields, .object fields ∈ gatherer.accepted entry schemaClass items → ∀ object,
      Result.Succeeds (Reference.ofItem entry gatherer.translate object fields))
    (earlier : List Reference) (gathering : Gathering) :
    items.foldlM (gatherer.takeItem entry schemaClass) (gathering.ahead earlier) =
      Gathering.ahead (earlier ++ (gatherer.accepted entry schemaClass items).flatMap (gatherer.links entry)) <$>
        (gatherer.unlinkedItems entry schemaClass items).foldlM (gatherer.takeItem entry schemaClass) gathering := by
  induction items generalizing earlier gathering with
  | nil => simp [accepted, unlinkedItems]
  | cons raw rest ih =>
    have split : gatherer.unlinkedItems entry schemaClass (raw :: rest) =
        (if gatherer.rejects entry schemaClass raw then raw else unlinkedItem entry raw) ::
          gatherer.unlinkedItems entry schemaClass rest := rfl
    rw [split, List.foldlM_cons, List.foldlM_cons]
    cases kept : gatherer.rejects entry schemaClass raw with
    | true =>
      have same : gatherer.accepted entry schemaClass (raw :: rest) = gatherer.accepted entry schemaClass rest :=
        List.filter_cons_of_neg (by simp [kept])
      rw [same] at linked ⊢
      rw [if_pos rfl, takeItem_rejected kept, takeItem_rejected kept]
      exact ih linked earlier gathering
    | false =>
      have cons : gatherer.accepted entry schemaClass (raw :: rest) = raw :: gatherer.accepted entry schemaClass rest :=
        List.filter_cons_of_pos (by simp [kept])
      rw [cons] at linked ⊢
      rw [if_neg Bool.false_ne_true, takeItem_unlinked refers several plain kept
        (fun fields same => linked fields (same ▸ List.mem_cons_self ..)), List.flatMap_cons, ← List.append_assoc]
      cases gatherer.takeItem entry schemaClass gathering (unlinkedItem entry raw) with
      | error fault => rfl
      | ok next => exact ih (fun fields member => linked fields (List.mem_cons_of_mem _ member)) _ next

omit refers

theorem unlinkedItems_references {items : List Value} {before after : Gathering}
    (run : (gatherer.unlinkedItems entry schemaClass items).foldlM (gatherer.takeItem entry schemaClass) before =
      .ok after) : after.references = before.references := by
  refine Result.foldlM_keeps (fun state => state.references = before.references) ?_ rfl run
  intro raw member state next holds step
  obtain ⟨raw, _, rfl⟩ := List.mem_map.mp member
  cases kept : gatherer.rejects entry schemaClass raw with
  | true =>
    rw [kept, if_pos rfl, takeItem_rejected kept] at step
    cases step
    exact holds
  | false =>
    rw [kept, if_neg Bool.false_ne_true] at step
    obtain ⟨fields, rfl | ⟨same, step⟩⟩ := takeItem_cases step
    · exact holds
    · cases raw with
      | object item =>
        cases same
        rcases keepItem_cases step with ⟨_, rfl⟩ | ⟨_, _, _, _, _, referred⟩
        · exact holds
        · obtain ⟨references, found, grown⟩ := refer_references referred
          rw [Reference.ofItem_unlinked] at found
          cases found
          rw [grown, List.append_nil, holds]
      | _ => cases same

/-- Gatherings of which one has references from a class among the other's, none of which is from there. -/
structure Beside (schemaClass : String) (links : List Reference) (bare linked : Gathering) : Prop where
  classes : linked.classes = bare.classes
  foreign : ∀ reference ∈ bare.references, reference.schemaClass ≠ schemaClass
  among : ∃ earlier later, bare.references = earlier ++ later ∧ linked.references = earlier ++ links ++ later

theorem zip_unlinked (entries : List Entry) (answers : List (Option Value)) :
    entries.zip (List.zipWith (gatherer.unlinkedAnswer schemaClass) entries answers) =
      (entries.zip answers).map fun answered =>
        (answered.1, gatherer.unlinkedAnswer schemaClass answered.1 answered.2) := by
  induction entries generalizing answers with
  | nil => rfl
  | cons entry rest ih =>
    cases answers with
    | nil => rfl
    | cons answer? answers => exact congrArg _ (ih answers)

theorem unlinkedAnswer_other {other : Entry} (differ : other.class? ≠ some schemaClass) (answer? : Option Value) :
    gatherer.unlinkedAnswer schemaClass other answer? = answer? := by
  unfold unlinkedAnswer
  split
  next => exact if_neg differ
  next => rfl

theorem takeAnswers_beside {answers : List (Entry × Option Value)}
    (apart : ∀ answered ∈ answers, answered.1.class? ≠ some schemaClass) (links : List Reference)
    {gathering : Gathering} (foreign : ∀ reference ∈ gathering.references, reference.schemaClass ≠ schemaClass) :
    Result.Matches (Beside schemaClass links)
      (answers.foldlM (fun gathering answered => gatherer.takeAnswer gathering answered.1 answered.2) gathering)
      (answers.foldlM (fun gathering answered => gatherer.takeAnswer gathering answered.1 answered.2)
        (gathering.ahead links)) := by
  obtain ⟨classes, references⟩ := gathering
  have front : (⟨classes, references⟩ : Gathering) = Gathering.behind references ⟨classes, []⟩ := by
    simp [Gathering.behind]
  have behind : Gathering.ahead links ⟨classes, references⟩ =
      Gathering.behind (references ++ links) ⟨classes, []⟩ := by
    simp [Gathering.behind, Gathering.ahead]
  rw [behind, front, Result.foldlM_comm fun answered _ state => takeAnswer_behind _ answered state,
    Result.foldlM_comm fun answered _ state => takeAnswer_behind _ answered state]
  cases late : answers.foldlM (fun gathering answered => gatherer.takeAnswer gathering answered.1 answered.2)
    ⟨classes, []⟩ with
  | error fault => exact .error fault
  | ok after =>
    have later := takeAnswers_foreign apart (fun _ member => (List.not_mem_nil member).elim) late
    exact .ok ⟨rfl, List.forall_mem_append.mpr ⟨foreign, later⟩, references, after.references, rfl, rfl⟩

/-- Putting answers together comes to putting them together without the links of one class, and having these beside. -/
theorem takeAnswers_unlinked (refers : entry.Refers gatherer.translate) (own : entry.class? = some schemaClass)
    (several : entry.singleValue = false) (plain : schemaClass ∉ Shaping.shapedClasses)
    {first last : List (Entry × Option Value)} {items : List Value}
    (apart : ∀ answered ∈ first ++ last, answered.1.class? ≠ some schemaClass)
    (linked : ∀ fields, .object fields ∈ gatherer.accepted entry schemaClass items → ∀ object,
      Result.Succeeds (Reference.ofItem entry gatherer.translate object fields)) :
    Result.Matches
      (Beside schemaClass ((gatherer.accepted entry schemaClass items).flatMap (gatherer.links entry)))
      ((first ++ (entry, some (.list (gatherer.unlinkedItems entry schemaClass items))) :: last).foldlM
        (fun gathering answered => gatherer.takeAnswer gathering answered.1 answered.2) {})
      ((first ++ (entry, some (.list items)) :: last).foldlM
        (fun gathering answered => gatherer.takeAnswer gathering answered.1 answered.2) {}) := by
  rw [List.forall_mem_append] at apart
  rw [List.foldlM_append, List.foldlM_append]
  cases early : first.foldlM (fun gathering answered => gatherer.takeAnswer gathering answered.1 answered.2) {} with
  | error fault => exact .error fault
  | ok before =>
    have started : (gatherer.unlinkedItems entry schemaClass items).isEmpty = items.isEmpty := List.isEmpty_map
    have nothing : begin schemaClass items.isEmpty before =
        (begin schemaClass items.isEmpty before).ahead [] := by simp [Gathering.ahead]
    have taken := takeItems_unlinked refers several plain linked [] (begin schemaClass items.isEmpty before)
    rw [← nothing, List.nil_append] at taken
    rw [Result.ok_bind, Result.ok_bind, List.foldlM_cons, List.foldlM_cons]
    dsimp only
    rw [takeAnswer_items own, takeAnswer_items own, started, taken]
    cases run : (gatherer.unlinkedItems entry schemaClass items).foldlM (gatherer.takeItem entry schemaClass)
      (begin schemaClass items.isEmpty before) with
    | error fault => exact .error fault
    | ok middle =>
      refine takeAnswers_beside apart.2 _ ?_
      rw [unlinkedItems_references run, begin_references]
      exact takeAnswers_foreign apart.1 (fun _ member => (List.not_mem_nil member).elim) early

theorem cut_unlinked (gatherer : Gatherer) {entries : List Entry} {answers : List (Option Value)}
    (own : entry.class? = some schemaClass) {items : List Value} {first last : List (Entry × Option Value)}
    (cut : entries.zip answers = first ++ (entry, some (.list items)) :: last)
    (apart : ∀ answered ∈ first ++ last, answered.1.class? ≠ some schemaClass) :
    entries.zip (List.zipWith (gatherer.unlinkedAnswer schemaClass) entries answers) =
      first ++ (entry, some (.list (gatherer.unlinkedItems entry schemaClass items))) :: last := by
  rw [List.forall_mem_append] at apart
  have same (others : List (Entry × Option Value)) (apart : ∀ answered ∈ others, answered.1.class? ≠ some schemaClass) :
      others.map (fun answered => (answered.1, gatherer.unlinkedAnswer schemaClass answered.1 answered.2)) =
        others := by
    refine (List.map_congr_left fun answered member => ?_).trans (List.map_id others)
    rw [unlinkedAnswer_other (apart answered member)]
    rfl
  rw [zip_unlinked, cut, List.map_append, List.map_cons, same first apart.1, same last apart.2]
  simp only [unlinkedAnswer, if_pos own]

end Gatherer

end Reconcile
