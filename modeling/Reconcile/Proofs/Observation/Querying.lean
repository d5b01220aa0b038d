import Reconcile.Proofs.Observation.Accepting
import Reconcile.Proofs.Observation.Referring
import Reconcile.Proofs.Text
import Reconcile.Proofs.Value.Ordering

/-!
What the queries of a read hold. A container is asked for under the path of its entry, in which the tokens are replaced,
and a collection under the address in the property that refers to it; both for the properties of their rules and the name.
-/

namespace Reconcile

open Result

namespace PropertyRule

def selected (rules : List PropertyRule) : List String :=
  rules.map id ++ if "name" ∈ rules.map id then [] else ["name"]

end PropertyRule

namespace DeviceReader

/-- A path in which tokens are replaced one after the other by the texts that they stand for. -/
inductive Filled : List (String × Value) → String → String → Prop
  | nil (path : String) : Filled [] path path
  | token {token name path next filled : String} {tokens : List (String × Value)}
      (replaced : Text.Replaced token.toList name.toList path.toList next.toList) (later : Filled tokens next filled) :
      Filled ((token, .text name) :: tokens) path filled

/-- The query for the container of an entry: only one whose entry names no partitions is cut down to the common one. -/
structure ContainerQuery (tokens : List (String × Value)) (entry : Entry) (query : Query) : Prop where
  path : Filled tokens entry.path query.path
  select : query.select =
    PropertyRule.selected entry.properties ++ if entry.partitions.isSome then ["partition"] else []
  partition : query.partition = if entry.partitions.isSome then none else some "Common"
  params : query.params = []
  silent : query.silent = entry.silent

variable {tokens : List (String × Value)}

theorem fillTokens_eq_ok (spelt : ∀ token ∈ tokens, token.1 ≠ "") {path filled : String} :
    fillTokens tokens path = .ok filled ↔ Filled tokens path filled := by
  induction tokens generalizing path with
  | nil =>
    constructor
    · intro done
      cases done
      exact .nil _
    · intro fills
      cases fills
      rfl
  | cons token rest ih =>
    obtain ⟨token, value⟩ := token
    obtain ⟨here, others⟩ := List.forall_mem_cons.mp spelt
    rw [fillTokens, List.foldlM_cons]
    constructor
    · intro done
      cases value with
      | text name => exact .token ((Text.replace_eq_iff here).mp rfl) ((ih others).mp done)
      | _ => cases done
    · intro fills
      cases fills with
      | token replaced later =>
        rw [ok_bind, (Text.replace_eq_iff here).mpr replaced]
        exact (ih others).mpr later

theorem fillTokens_succeeds_iff (tokens : List (String × Value)) (path : String) :
    Succeeds (fillTokens tokens path) ↔ ∀ token ∈ tokens, ∃ name, token.2 = .text name := by
  induction tokens generalizing path with
  | nil => exact iff_of_true ⟨path, rfl⟩ nofun
  | cons token rest ih =>
    obtain ⟨token, value⟩ := token
    rw [List.forall_mem_cons, fillTokens, List.foldlM_cons]
    cases value with
    | text name =>
      rw [ok_bind]
      exact (ih _).trans (and_iff_right ⟨name, rfl⟩).symm
    | _ =>
      refine iff_of_false ?_ ?_
      · rintro ⟨_, done⟩
        cases done
      · rintro ⟨⟨_, text⟩, _⟩
        cases text

theorem requested_eq (entry : Entry) : entry.requested =
    PropertyRule.selected entry.properties ++ if entry.partitions.isSome then ["partition"] else [] := by
  unfold Entry.requested PropertyRule.selected
  dsimp only
  split <;> split <;> simp

theorem queryFor_eq_ok (spelt : ∀ token ∈ tokens, token.1 ≠ "") {entry : Entry} {query : Query} :
    queryFor tokens entry = .ok query ↔ ContainerQuery tokens entry query := by
  constructor
  · intro done
    obtain ⟨path, filled, done⟩ := bind_eq_ok.mp done
    cases done
    exact ⟨(fillTokens_eq_ok spelt).mp filled, requested_eq entry, rfl, rfl, rfl⟩
  · rintro ⟨path, select, partition, params, silent⟩
    rw [queryFor, (fillTokens_eq_ok spelt).mpr path, requested_eq, ← select, ← partition, ← params, ← silent]
    rfl

theorem queryFor_succeeds_iff (tokens : List (String × Value)) (entry : Entry) :
    Succeeds (queryFor tokens entry) ↔ ∀ token ∈ tokens, ∃ name, token.2 = .text name := by
  rw [← fillTokens_succeeds_iff tokens entry.path]
  constructor
  · rintro ⟨query, done⟩
    obtain ⟨path, filled, _⟩ := bind_eq_ok.mp done
    exact ⟨path, filled⟩
  · exact fun filled => filled.bind fun path => .ok _

/-- Whether a module is listed with a level other than none. -/
def Provides (listed : Value) (name : String) : Prop :=
  ∃ (items : List Value) (fields : Fields) (level : Value), listed = .list items ∧ .object fields ∈ items ∧
    Assoc.get? fields "name" = some (.text name) ∧ Assoc.get? fields "level" = some level ∧ level ≠ .text "none"

/-- An entry whose module, if it needs one, is provisioned. -/
def Active (listed : Value) (entry : Entry) : Prop :=
  ∀ name, entry.requiredModule = some name → Provides listed name

/-- Whether the path of an active entry has the token for the device's own name. -/
def NamesDevice (reader : DeviceReader) (listed : Value) : Prop :=
  ∃ entry ∈ reader.catalog.entries, Active listed entry ∧ deviceNameToken.toList <:+: entry.path.toList

end DeviceReader

namespace Value

theorem itemsOrFail_list (items : List Value) : ((Value.list items).orElse (.list [])).itemsOrFail = .ok items := by
  cases items <;> rfl

theorem eq_list_of_itemsOrFail {value : Value} {items : List Value}
    (opened : (value.orElse (.list [])).itemsOrFail = .ok items) {fields : Fields} (member : .object fields ∈ items) :
    value = .list items := by
  unfold Value.orElse at opened
  split at opened
  next =>
    cases value with
    | list all =>
      cases opened
      rfl
    | object inner =>
      cases opened
      obtain ⟨⟨key, _⟩, _, same⟩ := List.mem_map.mp member
      cases key <;> cases same
    | text content =>
      cases opened
      obtain ⟨_, _, same⟩ := List.mem_map.mp member
      cases same
    | _ => cases opened
  next =>
    cases opened
    exact absurd member List.not_mem_nil

theorem mapM_fieldsOrFail_eq_ok {items : List Value} {all : List Fields} :
    items.mapM fieldsOrFail = .ok all ↔ items = all.map .object := by
  have opened {item : Value} {fields : Fields} : item.fieldsOrFail = .ok fields ↔ item = .object fields := by
    cases item <;> simp [fieldsOrFail]
  rw [mapM_eq_ok, ← List.forall₂_eq_eq_eq, List.forall₂_map_right_iff]
  simp only [opened]

theorem spells_iff {value : Value} {content : String} : value.spells content = true ↔ value = .text content := by
  cases value <;> simp [spells]

theorem text_mem_distinct {values : List Value} {content : String} :
    .text content ∈ distinct values ↔ .text content ∈ values := by
  suffices general : ∀ kept : List Value, .text content ∈
      values.foldl (fun kept value => if value.isAmong kept then kept else kept ++ [value]) kept ↔
        .text content ∈ kept ∨ .text content ∈ values by
    simpa [distinct] using general []
  induction values with
  | nil => simp
  | cons value rest ih =>
    intro kept
    rw [List.foldl_cons, ih, List.mem_cons]
    split
    next among =>
      -- A text that is passed over is kept already.
      have already : .text content = value → .text content ∈ kept := by
        rintro rfl
        obtain ⟨other, member, same⟩ := List.any_eq_true.mp among
        exact looseEq_text.mp same ▸ member
      tauto
    next => rw [List.mem_append, List.mem_singleton, or_assoc]

end Value

namespace DeviceReader

theorem provisionedName?_text {item : Value} {name : String} :
    provisionedName? item = .ok (some (.text name)) ↔ ∃ fields level, item = .object fields ∧
      Assoc.get? fields "name" = some (.text name) ∧ Assoc.get? fields "level" = some level ∧ level ≠ .text "none" := by
  unfold provisionedName?
  cases item with
  | object fields =>
    change (if ((Assoc.get? fields "level").getD (.text "none")).spells "none" then _ else _) = _ ↔ _
    cases levelled : Assoc.get? fields "level" with
    | none => simp [levelled, Value.spells, pure_eq_ok]
    | some level =>
      rw [Option.getD_some]
      by_cases none : level.spells "none" = true
      · rw [if_pos none]
        refine iff_of_false (fun done => by cases done) ?_
        rintro ⟨_, _, same, _, found, differ⟩
        cases same
        cases levelled.symm.trans found
        exact differ (Value.spells_iff.mp none)
      · rw [if_neg none]
        cases called : Assoc.get? fields "name" with
        | none => simp [called]
        | some value =>
          dsimp only
          constructor
          · intro done
            split at done
            next => cases done
            next =>
              cases done
              exact ⟨fields, level, rfl, called, levelled, mt Value.spells_iff.mpr none⟩
          · rintro ⟨_, _, same, found, _, _⟩
            cases same
            cases called.symm.trans found
            rfl
  | _ => simp [Value.fieldsOrFail, bind, Except.bind]

theorem provides_iff {listed : Value} {provisioned : List Value} (among : provisionedAmong listed = .ok provisioned)
    {name : String} : .text name ∈ provisioned ↔ Provides listed name := by
  obtain ⟨items, opened, rest⟩ := bind_eq_ok.mp among
  obtain ⟨names, read, rest⟩ := bind_eq_ok.mp rest
  obtain rfl : Value.distinct (names.filterMap id) = provisioned := by
    dsimp only at rest
    split at rest
    next => exact Except.ok.inj rest
    next => cases rest
  rw [Value.text_mem_distinct, List.mem_filterMap]
  constructor
  · rintro ⟨name?, member, same⟩
    obtain ⟨item, inside, here⟩ := mem_of_mapM read name? member
    cases same
    obtain ⟨fields, level, rfl, called, levelled, differ⟩ := provisionedName?_text.mp here
    exact ⟨items, fields, level, Value.eq_list_of_itemsOrFail opened inside, inside, called, levelled, differ⟩
  · rintro ⟨all, fields, level, rfl, inside, called, levelled, differ⟩
    cases opened.symm.trans (Value.itemsOrFail_list all)
    obtain ⟨name?, member, here⟩ := exists_of_mapM read _ inside
    cases here.symm.trans (provisionedName?_text.mpr ⟨fields, level, rfl, called, levelled, differ⟩)
    exact ⟨_, member, rfl⟩

theorem hasModule_iff {listed : Value} {provisioned : List Value} (among : provisionedAmong listed = .ok provisioned)
    (entry : Entry) : hasModule provisioned entry = true ↔ Active listed entry := by
  unfold hasModule Active
  cases entry.requiredModule with
  | none => simp
  | some name => simp [Value.spells_iff, ← provides_iff among]

theorem namesDevice_iff {reader : DeviceReader} {listed : Value} {provisioned : List Value}
    (among : provisionedAmong listed = .ok provisioned) :
    (reader.catalog.entries.any fun entry => hasModule provisioned entry && entry.asksForName) = true ↔
      reader.NamesDevice listed := by
  simp only [List.any_eq_true, Bool.and_eq_true, hasModule_iff among, Entry.asksForName, Text.contains,
    Text.occurs_iff, NamesDevice]

end DeviceReader

namespace Device

/-- Whether, among the devices of a cluster, the only one with the host name has this name. -/
def Called (hostname devices name : Value) : Prop :=
  ∃ (front back : List Fields) (own : Fields), devices = .list ((front ++ own :: back).map .object) ∧
    (Fields.lookup own "hostname").looseEq hostname = true ∧
    (∀ other ∈ front ++ back, (Fields.lookup other "hostname").looseEq hostname = false) ∧
    Assoc.get? own "name" = some name

theorem nameAmong_eq_ok {hostname devices name : Value} :
    nameAmong hostname devices = .ok name ↔ Called hostname devices name := by
  constructor
  · intro done
    obtain ⟨items, opened, rest⟩ := bind_eq_ok.mp done
    obtain ⟨all, objects, picked⟩ := bind_eq_ok.mp rest
    clear rest
    obtain rfl := Value.mapM_fieldsOrFail_eq_ok.mp objects
    split at picked
    next own alone =>
      obtain ⟨front, back, rfl, before, here, after⟩ := List.filter_eq_cons_iff.mp alone
      have others : ∀ other ∈ front ++ back, (Fields.lookup other "hostname").looseEq hostname = false := by
        rw [List.forall_mem_append]
        exact ⟨fun other member => by simpa using before other member,
          fun other member => by simpa using List.filter_eq_nil_iff.mp after other member⟩
      split at picked
      next name' called =>
        cases picked
        have member : Value.object own ∈ (front ++ own :: back).map .object :=
          List.mem_map_of_mem (List.mem_append_right _ (List.mem_cons_self ..))
        exact ⟨front, back, own, Value.eq_list_of_itemsOrFail opened member, here, others, called⟩
      next => cases picked
    next => cases picked
    next => cases picked
  · rintro ⟨front, back, own, rfl, here, others, called⟩
    obtain ⟨before, after⟩ := List.forall_mem_append.mp others
    have objects : ((front ++ own :: back).map Value.object).mapM Value.fieldsOrFail = .ok (front ++ own :: back) :=
      Value.mapM_fieldsOrFail_eq_ok.mpr rfl
    have alone : (front ++ own :: back).filter (fun fields => (Fields.lookup fields "hostname").looseEq hostname) =
        [own] :=
      List.filter_eq_cons_iff.mpr ⟨front, back, rfl, fun other member => by simp [before other member], here,
        List.filter_eq_nil_iff.mpr fun other member => by simp [after other member]⟩
    rw [nameAmong, Value.itemsOrFail_list, ok_bind, objects, ok_bind, alone]
    dsimp only
    rw [called]
    rfl

end Device

namespace Reference

/-- Whether a property of an item leads anywhere: the entry knows of it, and it has a link. -/
def LeadsOn (known : List (Key × List PropertyRule)) (property : Key) (value : Value) : Prop :=
  ∃ name rules inner link, property = .named name ∧ Assoc.get? known property = some rules ∧ value = .object inner ∧
    Assoc.get? inner "link" = some link ∧ link.truthy = true

/-- The queries for what an item refers to, property by property: each asks for the path and with the parameters of the
address in the link. -/
inductive Follows (known : List (Key × List PropertyRule)) : Fields → List Query → Prop
  | nil : Follows known [] []
  | link {name address : String} {rules : List PropertyRule} {inner item : Fields} {link : Link} {queries : List Query}
      (refers : Assoc.get? known (.named name) = some rules) (given : address ≠ "")
      (leads : Assoc.get? inner "link" = some (.text address)) (read : Link.ofAddress address = .ok link)
      (later : Follows known item queries) :
      Follows known ((.named name, .object inner) :: item)
        ({ path := link.path, select := PropertyRule.selected rules, partition := none, params := link.params } :: queries)
  | other {property : Key} {value : Value} {item : Fields} {queries : List Query}
      (nowhere : ¬LeadsOn known property value) (later : Follows known item queries) :
      Follows known ((property, value) :: item) queries

theorem selectFor_eq (rules : List PropertyRule) : selectFor rules = PropertyRule.selected rules := by
  unfold selectFor PropertyRule.selected
  dsimp only
  split <;> simp

theorem linkIn_some {value : Value} {link : Link} (leads : linkIn value = .ok (some link)) :
    ∃ inner address, value = .object inner ∧ address ≠ "" ∧ Assoc.get? inner "link" = some (.text address) ∧
      Link.ofAddress address = .ok link := by
  cases value with
  | object inner =>
    rw [linkIn, Fields.lookup] at leads
    cases there : Assoc.get? inner "link" with
    | none =>
      rw [there] at leads
      cases leads
    | some found =>
      rw [there, Option.getD_some] at leads
      split at leads
      next address =>
        split at leads
        next => cases leads
        next given =>
          obtain ⟨_, read, same⟩ := map_eq_ok.mp leads
          cases same
          exact ⟨inner, address, rfl, given, there, read⟩
      next => cases leads
      next => cases leads
      next => cases leads
      next => cases leads
      next => split at leads <;> cases leads
  | _ => cases leads

theorem linkIn_none {inner : Fields} {link : Value} (there : Assoc.get? inner "link" = some link)
    (leads : linkIn (.object inner) = .ok none) : link.truthy = false := by
  rw [linkIn, Fields.lookup, there, Option.getD_some] at leads
  split at leads
  next address =>
    split at leads
    next empty => rw [empty]; rfl
    next =>
      obtain ⟨_, _, same⟩ := map_eq_ok.mp leads
      cases same
  next => rfl
  next => rfl
  next => cases leads
  next => cases leads
  next =>
    split at leads
    next => cases leads
    next untrue => exact Bool.eq_false_iff.mpr untrue

theorem follows_of_ofItem {entry : Entry} {translate : Bool} {object : Option Key} {item : Fields}
    {references : List Reference} (found : ofItem entry translate object item = .ok references) :
    Follows entry.references item (references.map query) := by
  obtain ⟨found?, run, done⟩ := bind_eq_ok.mp found
  cases done
  clear found
  induction item generalizing found? with
  | nil =>
    cases run
    exact .nil
  | cons property rest ih =>
    obtain ⟨property, value⟩ := property
    rw [List.mapM_cons] at run
    obtain ⟨reference?, here, run⟩ := bind_eq_ok.mp run
    obtain ⟨others, there, done⟩ := bind_eq_ok.mp run
    cases done
    have later := ih others there
    cases reference? with
    | some reference =>
      obtain ⟨name, rules, link, rfl, known, leads, rfl⟩ := ofProperty_some here
      obtain ⟨inner, address, rfl, given, there, read⟩ := linkIn_some leads
      change Follows _ _ (queryBehind rules link :: (others.filterMap id).map query)
      rw [queryBehind, selectFor_eq]
      exact .link known given there read later
    | none =>
      refine .other ?_ later
      rintro ⟨name, rules, inner, link, rfl, known, rfl, there, given⟩
      change ofProperty entry translate object (.named name) (.object inner) = .ok none at here
      rw [ofProperty_eq, known] at here
      obtain ⟨link?, leads, none⟩ := map_eq_ok.mp here
      cases Option.map_eq_none_iff.mp none
      rw [linkIn_none there leads] at given
      cases given

end Reference

namespace Gatherer

/-- The queries for what a member of a collection refers to: there are none for an item that is not stored. -/
inductive ItemFollows (gatherer : Gatherer) (entry : Entry) (schemaClass : String) : Value → List Query → Prop
  | stored {fields : Fields} {value : Value} {queries : List Query}
      (kept : gatherer.rejects entry schemaClass (.object fields) = false)
      (shaped : gatherer.itemValue? entry schemaClass fields = .ok (some value))
      (follows : Reference.Follows entry.references fields queries) :
      ItemFollows gatherer entry schemaClass (.object fields) queries
  | rejected {raw : Value} (rejects : gatherer.rejects entry schemaClass raw = true) :
      ItemFollows gatherer entry schemaClass raw []
  | shapeless {fields : Fields} (kept : gatherer.rejects entry schemaClass (.object fields) = false)
      (shaped : gatherer.itemValue? entry schemaClass fields = .ok none) :
      ItemFollows gatherer entry schemaClass (.object fields) []

def singleValue? (gatherer : Gatherer) (entry : Entry) (schemaClass : String) (raw : Fields) : Result (Option Value) := do
  if ← Observation.isIgnored entry.ignore (.object raw) then return none
  let mapped ← gatherer.mapRaw entry (← Shaping.raw schemaClass (.object raw))
  let value ← gatherer.objectValue entry schemaClass raw mapped
  if value.isNull then return none else return some value

/-- The queries for what the answer for an entry refers to, item by item. -/
inductive AnswerFollows (gatherer : Gatherer) (entry : Entry) : Option Value → List Query → Prop
  | items {schemaClass : String} {items : List Value} {lists : List (List Query)} (own : entry.class? = some schemaClass)
      (each : List.Forall₂ (gatherer.ItemFollows entry schemaClass) items lists) :
      AnswerFollows gatherer entry (some (.list items)) lists.flatten
  | object {schemaClass : String} {fields : Fields} {value : Value} {queries : List Query}
      (own : entry.class? = some schemaClass)
      (stored : gatherer.singleValue? entry schemaClass fields = .ok (some value))
      (follows : Reference.Follows entry.references fields queries) :
      AnswerFollows gatherer entry (some (.object fields)) queries
  | unstored {schemaClass : String} {fields : Fields} (own : entry.class? = some schemaClass)
      (nothing : gatherer.singleValue? entry schemaClass fields = .ok none) :
      AnswerFollows gatherer entry (some (.object fields)) []
  | classless {answer? : Option Value} (none : entry.class? = none) : AnswerFollows gatherer entry answer? []
  | bare {answer? : Option Value} (bare : ∀ answer, answer? = some answer → answer.isContainer = false) :
      AnswerFollows gatherer entry answer? []

variable {gatherer : Gatherer} {entry : Entry} {schemaClass : String}

theorem itemReferences_cases {fields : Fields} {references : List Reference}
    (found : gatherer.itemReferences entry schemaClass (.object fields) = .ok references) :
    (gatherer.rejects entry schemaClass (.object fields) = true ∧ references = []) ∨
      (gatherer.rejects entry schemaClass (.object fields) = false ∧
        gatherer.keptReferences entry schemaClass fields = .ok references) := by
  obtain ⟨ignored, heeded, found⟩ := bind_eq_ok.mp found
  have rejects : gatherer.rejects entry schemaClass (.object fields) = _ := rejects_object fields
  rw [heeded] at rejects
  split at found
  next skipped =>
    cases found
    exact .inl ⟨by rw [rejects, skipped]; rfl, rfl⟩
  next heard =>
    obtain ⟨_, opened, found⟩ := bind_eq_ok.mp found
    cases opened
    split at found
    next outside =>
      cases found
      exact .inl ⟨by rw [rejects, outside]; simp, rfl⟩
    next inside =>
      obtain ⟨unwanted, asked, found⟩ := bind_eq_ok.mp found
      rw [asked] at rejects
      split at found
      next skipped =>
        cases found
        exact .inl ⟨by rw [rejects, skipped]; simp [passes], rfl⟩
      next wanted =>
        simp only [Bool.not_eq_true] at heard inside wanted
        exact .inr ⟨by rw [rejects, heard, inside, wanted]; rfl, found⟩

theorem itemReferences_atom {raw : Value} (atom : raw.isObject = false) (references : List Reference) :
    gatherer.itemReferences entry schemaClass raw ≠ .ok references := by
  intro found
  obtain ⟨ignored, heeded, found⟩ := bind_eq_ok.mp found
  unfold Observation.isIgnored at heeded
  cases raw with
  | object fields => cases atom
  | _ =>
    split at heeded
    next =>
      cases heeded
      obtain ⟨_, opened, _⟩ := bind_eq_ok.mp found
      cases opened
    next => cases heeded

theorem itemFollows_of_itemReferences {raw : Value} {references : List Reference}
    (found : gatherer.itemReferences entry schemaClass raw = .ok references) :
    gatherer.ItemFollows entry schemaClass raw (references.map Reference.query) := by
  cases raw with
  | object fields =>
    rcases itemReferences_cases found with ⟨rejects, rfl⟩ | ⟨kept, found⟩
    · exact .rejected rejects
    · obtain ⟨value?, shaped, found⟩ := bind_eq_ok.mp found
      cases value? with
      | none =>
        cases found
        exact .shapeless kept shaped
      | some value =>
        obtain ⟨object, _, found⟩ := bind_eq_ok.mp found
        exact .stored kept shaped (Reference.follows_of_ofItem found)
  | _ => exact (itemReferences_atom rfl references found).elim

theorem answerFollows_of_objectReferences (own : entry.class? = some schemaClass) {fields : Fields}
    {references : List Reference} (found : gatherer.objectReferences entry schemaClass fields = .ok references) :
    gatherer.AnswerFollows entry (some (.object fields)) (references.map Reference.query) := by
  obtain ⟨ignored, heeded, found⟩ := bind_eq_ok.mp found
  split at found
  next skipped =>
    cases found
    refine .unstored own ?_
    rw [singleValue?, heeded, ok_bind, if_pos skipped]
    rfl
  next heard =>
    obtain ⟨shaped, first, found⟩ := bind_eq_ok.mp found
    obtain ⟨mapped, second, found⟩ := bind_eq_ok.mp found
    obtain ⟨value, third, found⟩ := bind_eq_ok.mp found
    have shaping : gatherer.singleValue? entry schemaClass fields =
        if value.isNull then .ok none else .ok (some value) := by
      rw [singleValue?, heeded, ok_bind, if_neg heard, first, ok_bind, second, ok_bind, third, ok_bind]
      rfl
    split at found
    next nothing =>
      cases found
      exact .unstored own (shaping.trans (if_pos nothing))
    next something =>
      exact .object own (shaping.trans (if_neg something)) (Reference.follows_of_ofItem found)

theorem answerFollows_of_answerReferences {answer? : Option Value} {references : List Reference}
    (found : gatherer.answerReferences (entry, answer?) = .ok references) :
    gatherer.AnswerFollows entry answer? (references.map Reference.query) := by
  unfold answerReferences at found
  split at found
  next schemaClass items own answer =>
    dsimp only at own answer
    subst answer
    obtain ⟨lists, run, rfl⟩ := map_eq_ok.mp found
    rw [List.map_flatten]
    refine .items own (List.forall₂_map_right_iff.mpr ?_)
    exact (mapM_eq_ok.mp run).imp fun _ _ => itemFollows_of_itemReferences
  next schemaClass fields own answer =>
    dsimp only at own answer
    subst answer
    exact answerFollows_of_objectReferences own found
  next none_items none_object =>
    cases found
    cases own : entry.class? with
    | none => exact .classless own
    | some schemaClass =>
      refine .bare fun answer same => ?_
      cases answer with
      | list items => exact (none_items schemaClass items own same).elim
      | object fields => exact (none_object schemaClass fields own same).elim
      | _ => rfl

end Gatherer

end Reconcile
