import Reconcile.Mapping.Item
import Reconcile.Proofs.Numeral
import Reconcile.Proofs.Result
import Reconcile.Proofs.Text

/-!
What a rule stores for what it finds in a device item: its own words for true and false, the integer that a text starts
with, or the value without the common partition. Nothing can go wrong with that but a numeral of more digits than can be
read.
-/

namespace Reconcile

open Result

/-- Whether a value can be read where an integer is asked for. -/
def Value.Legible : Value → Prop
  | .text content => Text.Legible content.toList
  | _ => True

instance (value : Value) : Decidable value.Legible := by
  cases value <;> unfold Value.Legible <;> infer_instance

theorem integerOrFail_failsOnly (content : List Char) : FailsOnly .unreadableText (Text.integerOrFail content) := by
  unfold Text.integerOrFail
  split
  next number _ => exact .ok number
  next => exact .error

theorem parseInteger_text (content : String) :
    parseInteger (.text content) = match Text.leadingNumeral? content.toList with
      | some numeral => Text.integerOrFail numeral >>= fun number => .ok (Value.int number)
      | none => .ok (.text content) := rfl

theorem parseInteger_failsOnly (value : Value) : FailsOnly .unreadableText (parseInteger value) := by
  cases value with
  | text content =>
    rw [parseInteger_text]
    split
    next numeral _ => exact (integerOrFail_failsOnly numeral).bind fun number => .ok (Value.int number)
    next => exact .ok _
  | _ => exact .ok _

theorem parseInteger_succeeds_iff (value : Value) : Succeeds (parseInteger value) ↔ value.Legible := by
  cases value with
  | text content =>
    rw [parseInteger_text, Value.Legible]
    cases leads : Text.leadingNumeral? content.toList with
    | none => exact iff_of_true ⟨_, rfl⟩ (by simp [Text.Legible, leads])
    | some numeral =>
      dsimp only
      rw [← Text.integer?_leadingNumeral leads, Text.integerOrFail]
      cases Text.integer? numeral with
      | some number => exact iff_of_true ⟨.int number, rfl⟩ rfl
      | none => exact iff_of_false (by rintro ⟨value, read⟩; cases read) Bool.false_ne_true
  | _ => exact iff_of_true ⟨_, rfl⟩ trivial

theorem versionParts_failsOnly (version : String) : FailsOnly .unreadableText (versionParts version) := by
  unfold versionParts
  induction Text.cut "." version with
  | nil => exact .ok []
  | cons part rest ih =>
    unfold versionParts.numbers
    split
    next numeral _ =>
      exact (integerOrFail_failsOnly numeral).bind fun number => ih.bind fun numbers => .ok (number :: numbers)
    next => exact .ok []

theorem withoutPartition_append (rest : String) : withoutPartition (.text (commonHead ++ rest)) = .text rest := by
  rw [withoutPartition, Text.dropHead_append]

theorem withoutPartition_eq_self_iff (value : Value) :
    withoutPartition value = value ↔ ∀ rest, value ≠ .text (commonHead ++ rest) := by
  constructor
  · rintro same rest rfl
    rw [withoutPartition_append, Value.text.injEq] at same
    have longer := congrArg String.length same
    simp [commonHead] at longer
  · intro apart
    cases value with
    | text content =>
      have other : Text.startsWith commonHead content = false := by
        rw [← Bool.not_eq_true]
        intro starts
        obtain ⟨rest, whole⟩ := List.isPrefixOf_iff_prefix.mp starts
        refine apart (String.ofList rest) (congrArg Value.text ?_)
        rw [← String.toList_inj, String.toList_append, String.toList_ofList, whole]
      simp [withoutPartition, Text.dropHead, other]
    | _ => rfl

theorem withoutPartition_toString (number : Nat) :
    withoutPartition (.text (toString number)) = .text (toString number) := by
  refine (withoutPartition_eq_self_iff _).mpr fun rest same => ?_
  have digits : Nat.toDigits 10 number = '/' :: ("Common/".toList ++ rest.toList) := by
    rw [← Nat.toList_repr]
    exact (congrArg String.toList (Value.text.inj same)).trans String.toList_append
  cases (Text.isDigit_of_mem_toDigits (digits ▸ List.mem_cons_self ..) : '/'.isDigit = true)

namespace PropertyRule

variable {rule : PropertyRule} {value : Value}

/-- What is stored for a value that a rule has to read as an integer, or as it is. -/
inductive Parses (rule : PropertyRule) : Value → Value → Prop
  | number {content : String} {numeral : List Char} {number : Int} (asked : rule.stringToInt = true)
      (leads : Text.leadingNumeral? content.toList = some numeral) (spells : Text.integer? numeral = some number) :
      Parses rule (.text content) (.int number)
  | kept {value : Value} (worded : rule.stringToInt = true → ∀ content, value = .text content →
      Text.leadingNumeral? content.toList = none) : Parses rule value value

theorem parses_unasked_iff {stored : Value} (unasked : rule.stringToInt = false) :
    rule.Parses value stored ↔ stored = value := by
  constructor
  · rintro (⟨asked, _, _⟩ | _)
    · cases unasked.symm.trans asked
    · rfl
  · rintro rfl
    exact .kept fun asked => by cases unasked.symm.trans asked

theorem parses_numeral_iff {content : String} {numeral : List Char} {stored : Value} (asked : rule.stringToInt = true)
    (leads : Text.leadingNumeral? content.toList = some numeral) :
    rule.Parses (.text content) stored ↔ ∃ number, Text.integer? numeral = some number ∧ stored = .int number := by
  constructor
  · rintro (⟨_, leads', spells⟩ | worded)
    · cases leads.symm.trans leads'
      exact ⟨_, spells, rfl⟩
    · cases leads.symm.trans (worded asked content rfl)
  · rintro ⟨number, spells, rfl⟩
    exact .number asked leads spells

theorem parses_worded_iff {stored : Value}
    (worded : ∀ content, value = .text content → Text.leadingNumeral? content.toList = none) :
    rule.Parses value stored ↔ stored = value := by
  constructor
  · rintro (⟨_, leads, _⟩ | _)
    · cases leads.symm.trans (worded _ rfl)
    · rfl
  · rintro rfl
    exact .kept fun _ => worded

theorem parsed_eq_ok {stored : Value} : rule.parsed value = .ok stored ↔ rule.Parses value stored := by
  unfold parsed
  cases asked : rule.stringToInt with
  | false =>
    rw [if_neg Bool.false_ne_true, parses_unasked_iff asked]
    exact ok_eq_ok
  | true =>
    rw [if_pos rfl]
    cases value with
    | text content =>
      rw [parseInteger_text]
      cases leads : Text.leadingNumeral? content.toList with
      | none =>
        rw [parses_worded_iff fun _ same => Value.text.inj same ▸ leads]
        exact ok_eq_ok
      | some numeral =>
        rw [parses_numeral_iff asked leads, bind_eq_ok]
        simp only [Text.integerOrFail_eq_ok, ok_eq_ok]
    | _ =>
      rw [parses_worded_iff fun _ same => by cases same]
      exact ok_eq_ok

theorem parsed_failsOnly (rule : PropertyRule) (value : Value) : FailsOnly .unreadableText (rule.parsed value) := by
  unfold parsed
  split
  next => exact parseInteger_failsOnly value
  next => exact .ok value

theorem parsed_succeeds_iff : Succeeds (rule.parsed value) ↔ (rule.stringToInt = true → value.Legible) := by
  unfold parsed
  cases rule.stringToInt with
  | true => simpa using parseInteger_succeeds_iff value
  | false => exact iff_of_true (.ok value) (fun asked => by cases asked)

theorem scaledUp_failsOnly (rule : PropertyRule) (factor : Int) (value : Value) :
    FailsOnly .unreadableText (rule.scaledUp factor value) := by
  unfold scaledUp
  split
  next => exact .ok (Value.int 0)
  next =>
    refine (parseInteger_failsOnly value).bind fun number => ?_
    cases number <;> exact .ok _

theorem toDeclaration_failsOnly (rule : PropertyRule) (value : Value) :
    FailsOnly .unreadableText (rule.toDeclaration value) := by
  unfold toDeclaration
  dsimp only
  split
  next factor _ => exact (scaledUp_failsOnly rule factor _).bind (parsed_failsOnly rule)
  next => exact parsed_failsOnly rule _

/-- A rule that stores one value for another, in no other unit and whatever the version of the device. -/
structure Simple (rule : PropertyRule) : Prop where
  unscaled : rule.multiplier? = none
  flat : rule.transform = []
  ungated : given? rule.minVersion = none

instance (rule : PropertyRule) : Decidable rule.Simple :=
  decidable_of_iff (rule.multiplier? = none ∧ rule.transform = [] ∧ given? rule.minVersion = none)
    ⟨fun ⟨unscaled, flat, ungated⟩ => ⟨unscaled, flat, ungated⟩,
      fun ⟨unscaled, flat, ungated⟩ => ⟨unscaled, flat, ungated⟩⟩

def Affirms (rule : PropertyRule) (value : Value) : Prop :=
  value.truthy = true ∧ value.looseEq rule.truth = true

/-- How true and false are stored: as such in translation, else in the rule's own words, as far as it has them. -/
def wordFor (rule : PropertyRule) (translate : Bool) : Bool → Value
  | true => if translate then .bool true else rule.truth
  | false => if translate then .bool false else if rule.hasFalsehood then rule.falsehood else .bool false

/-- What a simple rule stores for what it finds under its id. -/
inductive Reads (rule : PropertyRule) (translate : Bool) : Option Value → Option Value → Prop
  | affirmed {value : Value} (truth : rule.hasTruth = true) (affirms : rule.Affirms value) :
      Reads rule translate (some value) (some (rule.wordFor translate true))
  | denied {value : Value} (truth : rule.hasTruth = true) (other : ¬rule.Affirms value) :
      Reads rule translate (some value) (some (rule.wordFor translate false))
  /-- What is omitted is false, unless the rule skips it. -/
  | unsaid (truth : rule.hasTruth = true) (counted : rule.skipWhenOmitted = false) :
      Reads rule translate none (some (rule.wordFor translate false))
  | parsed {value stored : Value} (truthless : rule.hasTruth = false) (parses : rule.Parses (rule.read value) stored) :
      Reads rule translate (some value) (some stored)
  | default {value stored : Value} (silent : rule.hasTruth = false ∨ rule.skipWhenOmitted = true)
      (given : rule.defaultWhenOmitted = some value) (parses : rule.Parses value stored) :
      Reads rule translate none (some stored)
  | nothing (silent : rule.hasTruth = false ∨ rule.skipWhenOmitted = true)
      (undefaulted : rule.defaultWhenOmitted = none) : Reads rule translate none none

def unread? (rule : PropertyRule) : Option Value → Option Value
  | some value => if rule.hasTruth then none else some (rule.read value)
  | none => if rule.hasTruth && !rule.skipWhenOmitted then none else rule.defaultWhenOmitted

/-- Whether a rule can read what it finds: if it asks for an integer, a numeral there has few enough digits. -/
def Legible (rule : PropertyRule) (found? : Option Value) : Prop :=
  rule.stringToInt = true → ∀ value ∈ rule.unread? found?, value.Legible

instance (rule : PropertyRule) (found? : Option Value) : Decidable (rule.Legible found?) :=
  inferInstanceAs (Decidable (_ → ∀ value ∈ rule.unread? found?, _))

end PropertyRule

namespace ItemMapper

open PropertyRule

variable {mapper : ItemMapper} {rule : PropertyRule}

def outcome? (mapper : ItemMapper) (rule : PropertyRule) : Option Value → Result (Option Value)
  | some value => some <$> mapper.convert value rule
  | none => mapper.omitted? rule

theorem convert_truth (truth : rule.hasTruth = true) (simple : rule.Simple) (value : Value) :
    mapper.convert value rule = .ok (rule.wordFor mapper.translate (rule.saysTrue value)) := by
  unfold convert settledTruth
  cases mapper.translate with
  | true =>
    rw [if_pos rfl, toDeclaration, truth, if_pos rfl, simple.unscaled]
    cases rule.saysTrue value <;> exact ite_self _
  | false =>
    rw [if_neg Bool.false_ne_true, if_pos truth]
    cases rule.saysTrue value <;> simp [wordFor, toDevice, truth]

theorem convert_plain (truthless : rule.hasTruth = false) (simple : rule.Simple) (value : Value) :
    mapper.convert value rule = rule.parsed (rule.read value) := by
  unfold convert
  split
  next => simp [toDeclaration, truthless, simple.unscaled]
  next => simp [truthless]

theorem saysTrue_iff (value : Value) : rule.saysTrue value = true ↔ rule.Affirms value :=
  Bool.and_eq_true_iff

theorem reads_truth_iff {translate : Bool} (truth : rule.hasTruth = true) {value : Value} {stored? : Option Value} :
    rule.Reads translate (some value) stored? ↔ stored? = some (rule.wordFor translate (rule.saysTrue value)) := by
  cases affirms : rule.saysTrue value with
  | true =>
    constructor
    · rintro (_ | ⟨_, other⟩ | _ | ⟨truthless, _⟩)
      · rfl
      · exact absurd ((saysTrue_iff value).mp affirms) other
      · cases truth.symm.trans truthless
    · rintro rfl
      exact .affirmed truth ((saysTrue_iff value).mp affirms)
  | false =>
    have other : ¬rule.Affirms value := mt (saysTrue_iff value).mpr (Bool.eq_false_iff.mp affirms)
    constructor
    · rintro (⟨_, affirms⟩ | _ | _ | ⟨truthless, _⟩)
      · exact absurd affirms other
      · rfl
      · cases truth.symm.trans truthless
    · rintro rfl
      exact .denied truth other

theorem reads_plain_iff {translate : Bool} (truthless : rule.hasTruth = false) {value : Value} {stored? : Option Value} :
    rule.Reads translate (some value) stored? ↔ ∃ stored, rule.Parses (rule.read value) stored ∧ some stored = stored? := by
  constructor
  · rintro (⟨truth, _⟩ | ⟨truth, _⟩ | _ | ⟨_, parses⟩)
    · cases truth.symm.trans truthless
    · cases truth.symm.trans truthless
    · exact ⟨_, parses, rfl⟩
  · rintro ⟨stored, parses, rfl⟩
    exact .parsed truthless parses

theorem reads_unsaid_iff {translate : Bool} (truth : rule.hasTruth = true) (counted : rule.skipWhenOmitted = false)
    {stored? : Option Value} :
    rule.Reads translate none stored? ↔ stored? = some (rule.wordFor translate false) := by
  have spoken : ¬(rule.hasTruth = false ∨ rule.skipWhenOmitted = true) := by simp [truth, counted]
  constructor
  · rintro (_ | _ | _ | _ | ⟨silent, _⟩ | ⟨silent, _⟩)
    · rfl
    · exact absurd silent spoken
    · exact absurd silent spoken
  · rintro rfl
    exact .unsaid truth counted

theorem reads_silent_iff {translate : Bool} (silent : rule.hasTruth = false ∨ rule.skipWhenOmitted = true)
    {stored? : Option Value} :
    rule.Reads translate none stored? ↔ Option.Rel rule.Parses rule.defaultWhenOmitted stored? := by
  constructor
  · rintro (_ | _ | ⟨truth, counted⟩ | _ | ⟨_, given, parses⟩ | ⟨_, undefaulted⟩)
    · simp [truth, counted] at silent
    · rw [given]
      exact .some parses
    · rw [undefaulted]
      exact .none
  · intro parses
    cases given : rule.defaultWhenOmitted with
    | none =>
      rw [given] at parses
      cases parses
      exact .nothing silent given
    | some value =>
      rw [given] at parses
      cases parses with
      | some parses => exact .default silent given parses

theorem mapM_parsed_eq_ok {value? stored? : Option Value} :
    value?.mapM rule.parsed = .ok stored? ↔ Option.Rel rule.Parses value? stored? := by
  cases value? with
  | none =>
    constructor
    · intro done
      cases done
      exact .none
    · intro parses
      cases parses
      rfl
  | some value =>
    constructor
    · intro done
      obtain ⟨stored, read, same⟩ := bind_eq_ok.mp done
      cases same
      exact .some (parsed_eq_ok.mp read)
    · intro parses
      cases parses with
      | some parses => exact bind_eq_ok.mpr ⟨_, parsed_eq_ok.mpr parses, rfl⟩

theorem outcome?_eq_ok (simple : rule.Simple) {found? stored? : Option Value} :
    mapper.outcome? rule found? = .ok stored? ↔ rule.Reads mapper.translate found? stored? := by
  cases found? with
  | some value =>
    rw [outcome?]
    cases truth : rule.hasTruth with
    | true =>
      rw [convert_truth truth simple, reads_truth_iff truth]
      exact ok_eq_ok
    | false =>
      rw [convert_plain truth simple, reads_plain_iff truth, map_eq_ok]
      simp only [parsed_eq_ok]
  | none =>
    rw [outcome?, omitted?]
    by_cases spelt : (rule.hasTruth && !rule.skipWhenOmitted) = true
    · obtain ⟨truth, counted⟩ := Bool.and_eq_true_iff.mp spelt
      have denies : rule.saysTrue .null = false := rfl
      rw [if_pos spelt, convert_truth truth simple, denies, reads_unsaid_iff truth ((Bool.not_eq_true' _).mp counted)]
      exact ok_eq_ok
    · have silent : rule.hasTruth = false ∨ rule.skipWhenOmitted = true := by
        simpa [Classical.or_iff_not_imp_left] using spelt
      rw [if_neg spelt, reads_silent_iff silent, mapM_parsed_eq_ok]

theorem outcome?_succeeds_iff (mapper : ItemMapper) (simple : rule.Simple) (found? : Option Value) :
    Succeeds (mapper.outcome? rule found?) ↔ rule.Legible found? := by
  have mapped {change : Value → Option Value} {action : Result Value} :
      Succeeds (change <$> action) ↔ Succeeds action := by
    cases action with
    | error fault => exact iff_of_false (by rintro ⟨_, done⟩; cases done) (by rintro ⟨_, done⟩; cases done)
    | ok value => exact iff_of_true ⟨_, rfl⟩ ⟨_, rfl⟩
  unfold Legible
  cases found? with
  | some value =>
    rw [outcome?, mapped, unread?]
    cases truth : rule.hasTruth with
    | true => exact iff_of_true ⟨_, convert_truth truth simple value⟩ (by simp)
    | false => simpa [convert_plain truth simple] using parsed_succeeds_iff
  | none =>
    rw [outcome?, omitted?, unread?]
    by_cases spelt : (rule.hasTruth && !rule.skipWhenOmitted) = true
    · have truth := (Bool.and_eq_true_iff.mp spelt).1
      rw [if_pos spelt, if_pos spelt, mapped]
      exact iff_of_true ⟨_, convert_truth truth simple .null⟩ (by simp)
    · rw [if_neg spelt, if_neg spelt]
      cases rule.defaultWhenOmitted with
      | none => exact iff_of_true ⟨none, rfl⟩ (by simp)
      | some value =>
        change Succeeds (some <$> rule.parsed value) ↔ _
        rw [mapped]
        simpa using parsed_succeeds_iff

theorem convert_failsOnly (mapper : ItemMapper) (value : Value) (rule : PropertyRule) :
    FailsOnly .unreadableText (mapper.convert value rule) := by
  unfold convert
  split
  next => exact toDeclaration_failsOnly rule value
  next =>
    split
    next => exact .ok _
    next => exact parsed_failsOnly rule _

theorem omitted?_failsOnly (mapper : ItemMapper) (rule : PropertyRule) :
    FailsOnly .unreadableText (mapper.omitted? rule) := by
  unfold omitted?
  split
  next => exact (mapper.convert_failsOnly .null rule).map some
  next =>
    cases rule.defaultWhenOmitted with
    | none => exact .ok none
    | some value => exact (parsed_failsOnly rule value).map some

theorem applies_failsOnly (mapper : ItemMapper) (rule : PropertyRule) :
    FailsOnly .unreadableText (mapper.applies rule) := by
  unfold applies
  split
  next version least _ _ => exact (versionParts_failsOnly least).bind fun parts => .ok _
  next => exact .ok true

theorem applyRule_failsOnly (mapper : ItemMapper) (fields : Fields) (rule : PropertyRule) :
    FailsOnly .unreadableText (mapper.applyRule fields rule) := by
  unfold applyRule
  refine (mapper.applies_failsOnly rule).bind fun applies => ?_
  split
  next => exact .ok fields
  next =>
    cases Assoc.get? fields (.named rule.id) with
    | some value =>
      dsimp only
      split
      next => split <;> exact .ok _
      next => exact (mapper.convert_failsOnly value rule).bind fun value => .ok _
    | none =>
      refine (mapper.omitted?_failsOnly rule).bind fun value? => ?_
      cases value? <;> exact .ok _

theorem translate_of_ofVersion {translate : Bool} {version : Option String} (made : ofVersion translate version = .ok mapper) :
    mapper.translate = translate := by
  obtain ⟨_, _, done⟩ := bind_eq_ok.mp made
  cases done
  rfl

theorem mapItem_object (mapper : ItemMapper) (item : Fields) (rules : List PropertyRule) :
    mapper.mapItem (.object item) rules false = Value.object <$> mapper.mapFields item rules := by
  change (mapper.mapFields item rules >>= fun mapped => .ok (Value.object mapped)) = _
  cases mapper.mapFields item rules <;> rfl

theorem mapFields_failsOnly (mapper : ItemMapper) (item : Fields) (rules : List PropertyRule) :
    FailsOnly .unreadableText (mapper.mapFields item rules) :=
  FailsOnly.foldlM (fun rule _ fields => mapper.applyRule_failsOnly fields rule) item

end ItemMapper

end Reconcile
