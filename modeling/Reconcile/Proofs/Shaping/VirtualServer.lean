import Reconcile.Catalog.Packaged
import Reconcile.Proofs.Place
import Reconcile.Proofs.Shaping.Destination
import Reconcile.Proofs.Shaping.Settling

/-!
Virtual servers. Shaping one divides its destination, lists its monitors and says in one way whether it is enabled; none of
this disturbs the others, so that a virtual server that has been shaped is left alone, and tells the address and the number
that its destination was made of.
-/

namespace Reconcile

def ShapingContext.monitorKey (context : ShapingContext) : Key :=
  context.fieldAmong (context.rulesFor "virtualServersReference") "monitor"

def ShapingContext.translatedKey (context : ShapingContext) : Key :=
  context.fieldAmong (context.rulesFor "virtualServersReference") "translationAddress"

namespace Shaping

section Server

variable {monitor translated : Key} {fields located : Fields}

/-- The fields of a virtual server with an address and a number in place of a destination. -/
def locate (fields : Fields) : Result Fields :=
  match Fields.lookup fields "destination" with
  | .text destination => do
    let rest := Assoc.erase fields "destination"
    let placed := Assoc.put rest "address" (.text (splitDestination destination).1)
    return Assoc.put placed "port" (← portNumber (splitDestination destination).2)
  | _ => .ok (Assoc.erase fields "destination")

def dropNone (translated : Key) (fields : Fields) : Fields :=
  if (Fields.lookup fields translated).spells "none" then Assoc.erase fields translated else fields

def equip (monitor translated : Key) (located : Fields) (monitors : Value) : Fields :=
  dropNone translated (settleEnabled (Assoc.put located monitor monitors))

theorem virtualServer_object (fields : Fields) :
    virtualServer monitor translated (.object fields) =
      locate fields >>= fun located =>
        monitorList (Fields.lookup located monitor) >>= fun monitors =>
          .ok (.object (equip monitor translated located monitors)) := by
  rw [virtualServer, takeOut, Result.ok_bind, locate]
  cases Fields.lookup fields "destination" with
  | text destination =>
    dsimp only
    cases portNumber (splitDestination destination).2 <;> rfl
  | _ => rfl

theorem virtualServer_eq_ok {server shaped : Value} :
    virtualServer monitor translated server = .ok shaped ↔
      ∃ fields located monitors, server = .object fields ∧ locate fields = .ok located ∧
        monitorList (Fields.lookup located monitor) = .ok monitors ∧
        shaped = .object (equip monitor translated located monitors) := by
  constructor
  · intro done
    cases server with
    | object fields =>
      rw [virtualServer_object] at done
      obtain ⟨located, found, done⟩ := Result.bind_eq_ok.mp done
      obtain ⟨monitors, listed, done⟩ := Result.bind_eq_ok.mp done
      exact ⟨fields, located, monitors, rfl, found, listed, (Except.ok.inj done).symm⟩
    | _ => cases done
  · rintro ⟨fields, located, monitors, rfl, found, listed, rfl⟩
    rw [virtualServer_object, found, Result.ok_bind, listed, Result.ok_bind]

theorem get?_dropNone {key : Key} (other : key ≠ translated) :
    Assoc.get? (dropNone translated fields) key = Assoc.get? fields key := by
  rw [dropNone]
  split
  next => exact Assoc.get?_erase_of_ne (Ne.symm other)
  next => rfl

theorem spells_dropNone (translated : Key) (fields : Fields) :
    (Fields.lookup (dropNone translated fields) translated).spells "none" = false := by
  rw [dropNone]
  split
  next =>
    rw [Fields.lookup, Assoc.get?_erase_self]
    rfl
  next other => exact Bool.eq_false_iff.mpr other

theorem dropNone_eq_self (other : (Fields.lookup fields translated).spells "none" = false) :
    dropNone translated fields = fields := by
  rw [dropNone, other, if_neg Bool.false_ne_true]

/-- Names that a virtual server has uses of its own for. -/
def ownNames : List Key :=
  ["destination", "address", "port", "enabled", "disabled"]

/-- Whether monitors and the translated address are stored under names that nothing else goes by. -/
structure Separate (monitor translated : Key) : Prop where
  monitorFree : monitor ∉ ownNames
  translatedFree : translated ∉ ownNames
  differ : monitor ≠ translated

instance (monitor translated : Key) : Decidable (Separate monitor translated) :=
  decidable_of_iff (monitor ∉ ownNames ∧ translated ∉ ownNames ∧ monitor ≠ translated)
    ⟨fun parts => ⟨parts.1, parts.2.1, parts.2.2⟩, fun separate => ⟨separate.1, separate.2, separate.3⟩⟩

theorem monitorList_eq_ok {value monitors : Value} (listed : monitorList value = .ok monitors) :
    ∃ items, monitors = .list items := by
  cases value with
  | list items => exact ⟨items, (Except.ok.inj listed).symm⟩
  | text content =>
    rw [monitorList] at listed
    split at listed
    next => exact ⟨[], (Except.ok.inj listed).symm⟩
    next => exact ⟨_, (Except.ok.inj listed).symm⟩
  | _ =>
    simp only [monitorList] at listed
    split at listed
    next => cases listed
    next => exact ⟨[], (Except.ok.inj listed).symm⟩

section Fields

variable {monitors : Value} (separate : Separate monitor translated)
include separate

theorem get?_equip {key : Key} (own : key ∈ ownNames) (named : key ≠ "enabled" ∧ key ≠ "disabled") :
    Assoc.get? (equip monitor translated located monitors) key = Assoc.get? located key := by
  have other : key ≠ translated := fun same => separate.translatedFree (same ▸ own)
  have other' : monitor ≠ key := fun same => separate.monitorFree (same ▸ own)
  rw [equip, get?_dropNone other, get?_settleEnabled, if_neg named.2, if_neg named.1, Assoc.get?_put_of_ne other']

theorem get?_equip_monitor :
    Assoc.get? (equip monitor translated located monitors) monitor = some monitors := by
  have own := separate.monitorFree
  simp only [ownNames, List.mem_cons, List.not_mem_nil, or_false, not_or] at own
  rw [equip, get?_dropNone separate.differ, get?_settleEnabled, if_neg own.2.2.2.2, if_neg own.2.2.2.1,
    Assoc.get?_put_self]

theorem get?_equip_enabled :
    Assoc.get? (equip monitor translated located monitors) "enabled" =
      some (.bool (isEnabled (Assoc.put located monitor monitors))) := by
  have other : .named "enabled" ≠ translated := fun same => separate.translatedFree (same ▸ by decide)
  rw [equip, get?_dropNone other, get?_settleEnabled]
  simp

theorem get?_equip_disabled : Assoc.get? (equip monitor translated located monitors) "disabled" = none := by
  have other : .named "disabled" ≠ translated := fun same => separate.translatedFree (same ▸ by decide)
  rw [equip, get?_dropNone other, get?_settleEnabled, if_pos rfl]

theorem equip_again :
    equip monitor translated (equip monitor translated located monitors) monitors =
      equip monitor translated located monitors := by
  conv_lhs => rw [equip]
  rw [Assoc.put_eq_self (get?_equip_monitor separate),
    settleEnabled_eq_self (get?_equip_enabled separate) (get?_equip_disabled separate)]
  exact dropNone_eq_self (spells_dropNone translated _)

end Fields

theorem get?_locate_destination (found : locate fields = .ok located) :
    Assoc.get? located "destination" = none := by
  unfold locate at found
  split at found
  next destination _ =>
    obtain ⟨port, _, same⟩ := Result.bind_eq_ok.mp found
    cases same
    rw [Assoc.get?_put_of_ne (by decide), Assoc.get?_put_of_ne (by decide), Assoc.get?_erase_self]
  next =>
    cases found
    exact Assoc.get?_erase_self fields _

theorem get?_locate_other (found : locate fields = .ok located) {key : Key} (other : key ∉ ownNames) :
    Assoc.get? located key = Assoc.get? fields key := by
  simp only [ownNames, List.mem_cons, List.not_mem_nil, or_false, not_or] at other
  unfold locate at found
  split at found
  next destination _ =>
    obtain ⟨port, _, same⟩ := Result.bind_eq_ok.mp found
    cases same
    rw [Assoc.get?_put_of_ne (Ne.symm other.2.2.1), Assoc.get?_put_of_ne (Ne.symm other.2.1),
      Assoc.get?_erase_of_ne (Ne.symm other.1)]
  next =>
    cases found
    exact Assoc.get?_erase_of_ne (Ne.symm other.1)

theorem locate_eq_self (divided : Assoc.get? fields "destination" = none) : locate fields = .ok fields := by
  rw [locate, Fields.lookup, divided, Assoc.erase_eq_self divided]
  rfl

theorem locate_text {destination : String} (told : Assoc.get? fields "destination" = some (.text destination))
    (found : locate fields = .ok located) :
    Assoc.get? located "address" = some (.text (splitDestination destination).1) ∧
      ∃ port, portNumber (splitDestination destination).2 = .ok port ∧ Assoc.get? located "port" = some port := by
  rw [locate, Fields.lookup, told, Option.getD_some] at found
  obtain ⟨port, read, same⟩ := Result.bind_eq_ok.mp found
  cases same
  refine ⟨?_, port, read, Assoc.get?_put_self ..⟩
  rw [Assoc.get?_put_of_ne (by decide), Assoc.get?_put_self]

theorem settles_virtualServer (separate : Separate monitor translated) : Settles (virtualServer monitor translated) := by
  intro server shaped _ done
  obtain ⟨fields, located, monitors, rfl, found, listed, rfl⟩ := virtualServer_eq_ok.mp done
  obtain ⟨items, rfl⟩ := monitorList_eq_ok listed
  have divided : Assoc.get? (equip monitor translated located (.list items)) "destination" = none := by
    rw [get?_equip separate (by decide) (by decide), get?_locate_destination found]
  refine virtualServer_eq_ok.mpr ⟨_, _, .list items, rfl, locate_eq_self divided, ?_, ?_⟩
  · rw [Fields.lookup, get?_equip_monitor separate]
    rfl
  · rw [equip_again separate]

end Server

section Classes

def virtualPlace (name : Key) (index : Nat) : Place :=
  [.key name, .key "virtualServers", .position index]

def lone (name : Key) (server : Value) : Value :=
  .object [(name, .object [("virtualServers", .list [server])])]

variable {context : ShapingContext}

theorem packaged_separate (packaged : context.entry ∈ Catalog.packaged.entriesOf "GSLBServer") :
    Separate context.monitorKey context.translatedKey := by
  have each : ∀ entry ∈ Catalog.packaged.entriesOf "GSLBServer", ∀ translate,
      let context : ShapingContext := { entry := entry, translate := translate }
      Separate context.monitorKey context.translatedKey := by decide
  exact each context.entry packaged context.translate

theorem finish_servers (objects : Value) :
    finish "GSLBServer" context objects =
      eachObject (itemsAt "virtualServers" (virtualServer context.monitorKey context.translatedKey)) objects := rfl

theorem at?_finish_servers {objects done : Value} (returned : finish "GSLBServer" context objects = .ok done) {name : Key}
    {index : Nat} {server : Value} (found : objects.at? (virtualPlace name index) = some server) :
    ∃ after, virtualServer context.monitorKey context.translatedKey server = .ok after ∧
      done.at? (virtualPlace name index) = some after := by
  obtain ⟨value, here, found⟩ := Option.bind_eq_some_iff.mp found
  obtain ⟨inner, there, found⟩ := Option.bind_eq_some_iff.mp found
  obtain ⟨_, placed, same⟩ := Option.bind_eq_some_iff.mp found
  cases same
  rw [Value.child?_key] at here there
  obtain ⟨final, shaped, held⟩ := get?_eachObject returned here
  cases value with
  | object fields =>
    cases inner with
    | list items =>
      rw [itemsAt_list there] at shaped
      obtain ⟨values, run, rfl⟩ := Result.map_eq_ok.mp shaped
      obtain ⟨after, shaped, listed⟩ := Result.getElem?_mapM run placed
      refine ⟨after, shaped, ?_⟩
      rw [virtualPlace, Value.at?_cons, Value.child?_key, held, Option.bind_some, Value.at?_key, Assoc.get?_put_self,
        Option.bind_some, Value.at?_position, listed]
      rfl
    | _ => cases placed
  | _ => cases there

theorem finish_lone (name : Key) (server : Value) :
    finish "GSLBServer" context (lone name server) =
      lone name <$> virtualServer context.monitorKey context.translatedKey server := by
  rw [finish_servers, lone, eachObject, Value.fieldsOrFail, Result.ok_bind, List.mapM_cons, List.mapM_nil,
    itemsAt_list rfl, List.mapM_cons, List.mapM_nil]
  cases virtualServer context.monitorKey context.translatedKey server <;> rfl

/-- What can be listed as monitors: a list, a text, or nothing. -/
def Listable (monitors : Value) : Prop :=
  monitors.isList = true ∨ monitors.isText = true ∨ monitors.truthy = false

instance (monitors : Value) : Decidable (Listable monitors) :=
  inferInstanceAs (Decidable (_ ∨ _))

theorem succeeds_monitorList_iff {monitors : Value} : Result.Succeeds (monitorList monitors) ↔ Listable monitors := by
  cases monitors with
  | list items => exact iff_of_true (.ok _) (.inl rfl)
  | text content => exact iff_of_true (.ok _) (.inr (.inl rfl))
  | _ =>
    rw [monitorList, Listable]
    · cases given : Value.truthy _ with
      | true => exact iff_of_false (by rintro ⟨_, done⟩; cases done) (by simp [Value.isList, Value.isText])
      | false => exact iff_of_true (.ok _) (.inr (.inr rfl))
    · exact nofun
    · exact nofun

/-- Apart from its destination nothing but its monitors can keep a virtual server from being shaped. -/
theorem succeeds_virtualServer_iff {monitor translated : Key} (separate : Separate monitor translated) (fields : Fields) :
    Result.Succeeds (virtualServer monitor translated (.object fields)) ↔
      Listable (Fields.lookup fields monitor) ∧ Result.Succeeds (locate fields) := by
  have kept {located : Fields} (found : locate fields = .ok located) :
      Fields.lookup located monitor = Fields.lookup fields monitor := by
    rw [Fields.lookup, get?_locate_other found separate.monitorFree, Fields.lookup]
  rw [← succeeds_monitorList_iff]
  constructor
  · rintro ⟨shaped, done⟩
    obtain ⟨_, located, monitors, same, found, listed, _⟩ := virtualServer_eq_ok.mp done
    cases same
    exact ⟨⟨monitors, kept found ▸ listed⟩, located, found⟩
  · rintro ⟨⟨monitors, listed⟩, located, found⟩
    exact ⟨_, virtualServer_eq_ok.mpr ⟨fields, located, monitors, rfl, found, (kept found).symm ▸ listed, rfl⟩⟩

def ListensAt (server : Value) (address : String) (number : Int) : Prop :=
  server.get? "address" = some (.text address) ∧ server.get? "port" = some (.int number)

/-- What a virtual server says that had this destination: the text itself and zero if there is no separator in it, and
otherwise what stands before the last separator, with the number that stands behind it or zero if that is not all digits. -/
def Tells (destination : String) (server : Value) : Prop :=
  ((∀ c ∈ destination.toList, ¬IsSeparator c) ∧ ListensAt server destination 0) ∨
  ∃ (address rest : String) (separator : Char) (number : Int),
    destination = joined address separator rest ∧ IsSeparator separator ∧ (∀ c ∈ rest.toList, ¬IsSeparator c) ∧
    ListensAt server address number ∧ (Text.allDigits rest.toList = false → number = 0) ∧
    (Text.allDigits rest.toList = true → Text.integer? rest.toList = some number)

section Destinations

variable {monitor translated : Key} {fields : Fields} {address destination : String} {separator : Char} {number : Nat}

theorem listensAt_of_virtualServer (separate : Separate monitor translated) {server after : Value}
    (done : virtualServer monitor translated server = .ok after)
    (told : server.get? "destination" = some (.text destination)) {address rest : String}
    (divided : splitDestination destination = (address, rest)) :
    ∃ number : Int, portNumber rest = .ok (.int number) ∧ ListensAt after address number := by
  obtain ⟨fields, located, monitors, rfl, found, _, rfl⟩ := virtualServer_eq_ok.mp done
  obtain ⟨placed, port, read, listening⟩ := locate_text told found
  rw [divided] at placed read
  obtain ⟨number, rfl, _⟩ := portNumber_eq_ok read
  refine ⟨number, read, ?_, ?_⟩
  · exact (get?_equip separate (by decide) (by decide)).trans placed
  · exact (get?_equip separate (by decide) (by decide)).trans listening

theorem tells_of_virtualServer (separate : Separate monitor translated) {server after : Value}
    (done : virtualServer monitor translated server = .ok after)
    (told : server.get? "destination" = some (.text destination)) : Tells destination after := by
  rcases whole_or_joined destination with whole | ⟨address, separator, rest, separates, last, rfl⟩
  · obtain ⟨number, read, listens⟩ := listensAt_of_virtualServer separate done told (splitDestination_whole whole)
    cases read
    exact .inl ⟨whole, listens⟩
  · have divided := splitDestination_joined address separates last
    obtain ⟨number, read, listens⟩ := listensAt_of_virtualServer separate done told divided
    obtain ⟨_, same, other, digits⟩ := portNumber_eq_ok read
    cases same
    exact .inr ⟨address, rest, separator, number, rfl, separates, last, listens, other, digits⟩

theorem listensAt_of_joined (separate : Separate monitor translated) {server after : Value}
    (done : virtualServer monitor translated server = .ok after) (separates : IsSeparator separator)
    (told : server.get? "destination" = some (.text (joined address separator (toString number)))) :
    ListensAt after address number := by
  have divided := splitDestination_joined address separates (not_isSeparator_digit number)
  obtain ⟨port, read, listens⟩ := listensAt_of_virtualServer separate done told divided
  rw [portNumber_toString] at read
  split at read
  next =>
    cases read
    exact listens
  next => cases read

theorem locate_of_long (separates : IsSeparator separator)
    (told : Assoc.get? fields "destination" = some (.text (joined address separator (toString number))))
    (long : Text.digitLimit < (toString number).length) : locate fields = .error .unreadableText := by
  rw [locate, Fields.lookup, told, Option.getD_some]
  dsimp only
  rw [splitDestination_joined address separates (not_isSeparator_digit number), portNumber_toString,
    if_neg (Nat.not_le.mpr long)]
  rfl

theorem succeeds_locate_iff (separates : IsSeparator separator)
    (told : Assoc.get? fields "destination" = some (.text (joined address separator (toString number)))) :
    Result.Succeeds (locate fields) ↔ (toString number).length ≤ Text.digitLimit := by
  constructor
  · rintro ⟨located, found⟩
    by_contra long
    cases (locate_of_long separates told (Nat.not_le.mp long)).symm.trans found
  · intro short
    rw [locate, Fields.lookup, told, Option.getD_some]
    dsimp only
    rw [splitDestination_joined address separates (not_isSeparator_digit number), portNumber_toString, if_pos short]
    exact .ok _

end Destinations

/-- Whatever the class, each virtual server in it says afterwards what its destination was made of: an address and a number
that were joined come back, and any other text is divided at its last separator. A virtual server whose destination joins
an address and a number can be shaped exactly if its monitors can be listed and the number has no more digits than can be
read. -/
theorem finish_destinations (separate : Separate context.monitorKey context.translatedKey) :
    (∀ objects done, finish "GSLBServer" context objects = .ok done → ∀ name index server destination,
      objects.at? (virtualPlace name index) = some server → server.get? "destination" = some (.text destination) →
      ∃ after, done.at? (virtualPlace name index) = some after ∧ Tells destination after ∧
        ∀ (address : String) (separator : Char) (number : Nat), IsSeparator separator →
          destination = joined address separator (toString number) → ListensAt after address number) ∧
    ∀ (name : Key) (fields : Fields) (address : String) (separator : Char) (number : Nat), IsSeparator separator →
      Assoc.get? fields "destination" = some (.text (joined address separator (toString number))) →
      ((∃ after, finish "GSLBServer" context (lone name (.object fields)) = .ok (lone name after) ∧
          ListensAt after address number) ↔
        Listable (Fields.lookup fields context.monitorKey) ∧ (toString number).length ≤ Text.digitLimit) := by
  constructor
  · intro objects done returned name index server destination found told
    obtain ⟨after, shaped, held⟩ := at?_finish_servers returned found
    refine ⟨after, held, tells_of_virtualServer separate shaped told, ?_⟩
    rintro address separator number separates rfl
    exact listensAt_of_joined separate shaped separates told
  · intro name fields address separator number separates told
    rw [← succeeds_locate_iff separates told, ← succeeds_virtualServer_iff separate, finish_lone]
    constructor
    · rintro ⟨after, done, _⟩
      obtain ⟨shaped, done, _⟩ := Result.map_eq_ok.mp done
      exact ⟨shaped, done⟩
    · rintro ⟨after, done⟩
      refine ⟨after, ?_, listensAt_of_joined separate done separates told⟩
      rw [done]
      rfl

/-- Two notations that use each other's separators, and a name in place of a number. -/
theorem finish_destinations_notations :
    let context : ShapingContext := { entry := Packaged.server, translate := true }
    let sixth : Fields := [("destination", .text "2001:db8::5.443"), ("monitors", .text "/Common/http and /Common/tcp")]
    let named : Value := .object [("destination", .text "10.0.0.5:http"), ("disabled", .text "true")]
    Separate context.monitorKey context.translatedKey ∧
      (∃ after, finish "GSLBServer" context (lone "site" (.object sixth)) = .ok (lone "site" after) ∧
        ListensAt after "2001:db8::5" 443) ∧
      ∃ done after, finish "GSLBServer" context (lone "site" named) = .ok done ∧
        done.at? (virtualPlace "site" 0) = some after ∧ Tells "10.0.0.5:http" after ∧ ListensAt after "10.0.0.5" 0 := by
  intro context sixth named
  have separate : Separate context.monitorKey context.translatedKey := by decide
  have joins : "2001:db8::5.443" = joined "2001:db8::5" '.' (toString 443) := by decide
  have listens := ((finish_destinations separate).2 "site" sixth "2001:db8::5" '.' 443 (by decide)
    (congrArg (some ∘ Value.text) joins)).mpr ⟨by decide, by decide⟩
  refine ⟨separate, listens, ?_⟩
  obtain ⟨after, held, tells, _⟩ := (finish_destinations separate).1 (lone "site" named) _ rfl "site" 0 named "10.0.0.5:http"
    rfl rfl
  cases held
  exact ⟨_, _, rfl, rfl, tells, rfl, rfl⟩

theorem finish_oversized (exponent : Nat) (many : Text.digitLimit ≤ exponent) :
    finish "GSLBServer" { entry := Packaged.server } (lone "site" (.object [
      ("destination", .text (joined "10.0.0.1" ':' (toString (Nat.pow 10 exponent))))])) = .error .unreadableText := by
  have long := many.trans_lt (Text.lt_length_power exponent (Nat.lt_of_lt_of_le (by decide) many))
  rw [finish_lone, virtualServer_object, locate_of_long (.inr rfl) rfl long]
  rfl

theorem oversized_number_unread :
    finish "GSLBServer" { entry := Packaged.server } (lone "site" (.object [
      ("destination", .text (joined "10.0.0.1" ':' (toString (Nat.pow 10 4300))))])) = .error .unreadableText := by
  -- Under a name of its own the exponent keeps the power from being worked out.
  generalize exact : 4300 = exponent
  exact finish_oversized exponent (exact ▸ by decide)

end Classes

end Shaping

end Reconcile
