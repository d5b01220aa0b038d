import Mathlib.Data.List.TakeDrop
import Reconcile.Proofs.Naming
import Reconcile.Value.Reader
import Reconcile.Value.Writer

/-!
JSON text is read back as what has been written: strings with all their escapes, integers of any size, and from these
whole documents. Fractions are left out.
-/

namespace Reconcile.Value

section Strings

theorem readString_plain (fuel : Nat) (seen : List Char) {c : Char} (unquoted : c ≠ '"') (unescaped : c ≠ '\\')
    (printable : 32 ≤ c.toNat) (rest : List Char) :
    readString (fuel + 1) seen (c :: rest) = readString fuel (c :: seen) rest := by
  rw [readString.eq_def]
  dsimp only
  rw [if_neg unquoted, if_neg unescaped, if_neg (Nat.not_lt.mpr printable)]

theorem readString_quote (fuel : Nat) (seen rest : List Char) :
    readString (fuel + 1) seen ('"' :: rest) = some (String.ofList seen.reverse, rest) := by
  rw [readString.eq_def]
  exact if_pos rfl

theorem hexValue?_hexDigit (value : Nat) : Text.hexValue? (Text.hexDigit value) = some (value % 16) := by
  have small : ∀ digit < 16, Text.hexValue? (Text.hexDigit digit) = some digit := by decide
  have reduced : Text.hexDigit value = Text.hexDigit (value % 16) := by
    rw [Text.hexDigit, Text.hexDigit, Nat.mod_mod]
  rw [reduced]
  exact small (value % 16) (Nat.mod_lt _ (by decide))

theorem readUnit_hex {unit : Nat} (small : unit < 65536) (rest : List Char) :
    readUnit (Text.hex 4 unit ++ rest) = some (unit, rest) := by
  have spelt : unit = ((unit / 4096 % 16) * 16 + unit / 256 % 16) * 256 + (unit / 16 % 16) * 16 + unit % 16 := by omega
  have digits : Text.hex 4 unit ++ rest = Text.hexDigit (unit / 4096) :: Text.hexDigit (unit / 256) ::
      Text.hexDigit (unit / 16) :: Text.hexDigit (unit / 1) :: rest := rfl
  rw [digits, readUnit, hexValue?_hexDigit, hexValue?_hexDigit, hexValue?_hexDigit, hexValue?_hexDigit, Nat.div_one]
  exact congrArg (fun number => some (number, rest)) spelt.symm

theorem readString_unit (fuel : Nat) (seen : List Char) {unit : Nat} (small : unit < 65536)
    (single : unit < 55296 ∨ 57344 ≤ unit) (rest : List Char) :
    readString (fuel + 1) seen ('\\' :: 'u' :: (Text.hex 4 unit ++ rest)) =
      readString fuel (Char.ofNat unit :: seen) rest := by
  have lone : ¬(55296 ≤ unit ∧ unit < 56320) := by omega
  rw [readString, if_neg (by decide), if_pos rfl]
  simp only [readUnit_hex small]
  rw [if_neg lone]

theorem readString_pair (fuel : Nat) (seen : List Char) {high low : Nat} (highSmall : high < 1024) (lowSmall : low < 1024)
    (rest : List Char) :
    readString (fuel + 1) seen
        ('\\' :: 'u' :: (Text.hex 4 (55296 + high) ++ '\\' :: 'u' :: (Text.hex 4 (56320 + low) ++ rest))) =
      readString fuel (Char.ofNat (65536 + high * 1024 + low) :: seen) rest := by
  have first : 55296 ≤ 55296 + high ∧ 55296 + high < 56320 := by omega
  have together : 65536 + (55296 + high - 55296) * 1024 + (56320 + low - 56320) = 65536 + high * 1024 + low := by omega
  rw [readString, if_neg (by decide), if_pos rfl]
  simp only [readUnit_hex (show 55296 + high < 65536 by omega), readUnit_hex (show 56320 + low < 65536 by omega)]
  rw [if_pos first, together]

theorem toNat_single (c : Char) : c.toNat < 55296 ∨ 57344 ≤ c.toNat ∧ c.toNat < 1114112 := by
  have valid := c.valid
  rcases valid with low | ⟨above, below⟩
  · exact .inl low
  · refine .inr ⟨?_, below⟩
    have above : 57343 < c.toNat := above
    omega

theorem readString_jsonChar (fuel : Nat) (seen : List Char) (c : Char) (rest : List Char) :
    readString (fuel + 1) seen (jsonChar c ++ rest) = readString fuel (c :: seen) rest := by
  have range := toNat_single c
  fun_cases jsonChar c with
  | case1 quote =>
    subst quote
    rfl
  | case2 _ back =>
    subst back
    rfl
  | case3 _ _ feed =>
    subst feed
    rfl
  | case4 _ _ _ ret =>
    subst ret
    rfl
  | case5 _ _ _ _ tab =>
    subst tab
    rfl
  | case6 _ _ _ _ _ backspace =>
    have same : Char.ofNat 8 = c := by rw [← backspace, Char.ofNat_toNat]
    rw [← same]
    rfl
  | case7 _ _ _ _ _ _ formFeed =>
    have same : Char.ofNat 12 = c := by rw [← formFeed, Char.ofNat_toNat]
    rw [← same]
    rfl
  | case8 quote back _ _ _ _ _ plain =>
    exact readString_plain fuel seen quote back plain.1 rest
  | case9 _ _ _ _ _ _ _ _ unit =>
    rw [List.cons_append, List.cons_append, readString_unit fuel seen unit (by omega), Char.ofNat_toNat]
  | case10 _ _ _ _ _ _ _ _ unit above =>
    have whole : 65536 + (c.toNat - 65536) / 1024 * 1024 + (c.toNat - 65536) % 1024 = c.toNat := by omega
    have high : (c.toNat - 65536) / 1024 < 1024 := by omega
    have low : (c.toNat - 65536) % 1024 < 1024 := by omega
    have step := readString_pair fuel seen high low rest
    rw [whole, Char.ofNat_toNat] at step
    rw [← step]
    simp [above]

theorem readString_flatMap (content : List Char) {fuel : Nat} (enough : content.length < fuel) (seen rest : List Char) :
    readString fuel seen (content.flatMap jsonChar ++ '"' :: rest) =
      some (String.ofList (seen.reverse ++ content), rest) := by
  induction content generalizing fuel seen with
  | nil =>
    obtain ⟨fuel, rfl⟩ := Nat.exists_eq_add_of_lt enough
    rw [List.flatMap_nil, List.nil_append, List.append_nil, readString_quote]
  | cons c content ih =>
    cases fuel with
    | zero => exact absurd enough (Nat.not_lt_zero _)
    | succ fuel =>
      have enough : content.length < fuel := Nat.lt_of_succ_lt_succ enough
      rw [List.flatMap_cons, List.append_assoc, readString_jsonChar, ih enough, List.reverse_cons, List.append_assoc,
        List.singleton_append]

theorem length_le_flatMap (content : List Char) : content.length ≤ (content.flatMap jsonChar).length := by
  have positive (c : Char) : 0 < (jsonChar c).length := by
    fun_cases jsonChar c <;> exact Nat.succ_pos _
  induction content with
  | nil => exact Nat.le_refl 0
  | cons c rest ih =>
    have first := positive c
    rw [List.flatMap_cons, List.length_append, List.length_cons]
    omega

theorem toList_jsonString (content : String) :
    (jsonString content).toList = '"' :: (content.toList.flatMap jsonChar ++ ['"']) := by
  rw [jsonString, String.toList_ofList, List.cons_append]

theorem readString_jsonString (content : String) (rest : List Char) :
    readString ((content.toList.flatMap jsonChar ++ '"' :: rest).length + 1) []
        (content.toList.flatMap jsonChar ++ '"' :: rest) = some (content, rest) := by
  have enough : content.toList.length < (content.toList.flatMap jsonChar ++ '"' :: rest).length + 1 := by
    have size := length_le_flatMap content.toList
    rw [List.length_append]
    omega
  rw [readString_flatMap content.toList enough, List.reverse_nil, List.nil_append, String.ofList_toList]

end Strings

section Numbers

/-- What may follow a value inside a document: nothing, or what separates or closes. -/
def Ends (rest : List Char) : Prop :=
  ∀ c ∈ rest.head?, c = ',' ∨ c = ']' ∨ c = '\x7d'

theorem digitsOf_append {digits rest : List Char} (all : ∀ c ∈ digits, c.isDigit = true) (ends : Ends rest) :
    digitsOf (digits ++ rest) = (digits, rest) := by
  have inside : ∀ c ∈ digits, ('0' ≤ c && c ≤ '9') = true := all
  rw [digitsOf, List.span_eq_takeWhile_dropWhile, List.takeWhile_append_of_pos inside, List.dropWhile_append_of_pos inside]
  cases rest with
  | nil => rw [List.takeWhile_nil, List.dropWhile_nil, List.append_nil]
  | cons c rest =>
    have outside : ('0' ≤ c && c ≤ '9') = false := by
      rcases ends c rfl with rfl | rfl | rfl <;> decide
    rw [List.takeWhile_cons_of_neg (by rw [outside]; decide), List.dropWhile_cons_of_neg (by rw [outside]; decide),
      List.append_nil]

theorem decimalOf_toDigits (number : Nat) : decimalOf (Nat.toDigits 10 number) = number := by
  have spelt := @Nat.ofDigitChars_ten_toDigits number
  rw [Nat.ofDigitChars_eq_foldl] at spelt
  simp only [Nat.mul_comm 10] at spelt
  exact spelt

theorem head?_toDigits {number : Nat} (positive : 0 < number) : (Nat.toDigits 10 number).head? ≠ some '0' := by
  induction number using Nat.strongRecOn with
  | ind number ih =>
    by_cases small : number < 10
    · rw [Nat.toDigits_of_lt_base small, List.head?_cons]
      intro zero
      have := Nat.digitChar_eq_zero.mp (Option.some.inj zero)
      omega
    · rw [Nat.toDigits_of_base_le (by decide) (by omega), List.head?_append_of_ne_nil _ Nat.toDigits_ne_nil]
      exact ih (number / 10) (by omega) (by omega)

theorem not_padded (number : Nat) :
    ¬((Nat.toDigits 10 number).isEmpty = true ∨
      1 < (Nat.toDigits 10 number).length ∧ (Nat.toDigits 10 number).head? = some '0') := by
  rintro (empty | ⟨long, zero⟩)
  · exact Nat.toDigits_ne_nil (List.isEmpty_iff.mp empty)
  · have short := Nat.length_toDigits_le_iff (n := number) (k := 1) (b := 10) (by decide) (by decide)
    exact head?_toDigits (by omega) zero

theorem readFraction_of_ends {rest : List Char} (ends : Ends rest) : readFraction rest = some (none, rest) := by
  cases rest with
  | nil => rfl
  | cons c rest => rcases ends c rfl with rfl | rfl | rfl <;> rfl

theorem readExponent_of_ends {rest : List Char} (ends : Ends rest) : readExponent rest = some (none, rest) := by
  cases rest with
  | nil => rfl
  | cons c rest => rcases ends c rfl with rfl | rfl | rfl <;> rfl

theorem readNumber_int (number : Int) {rest : List Char} (ends : Ends rest) :
    readNumber ((toString number).toList ++ rest) = some (.int number, rest) := by
  have digits (size : Nat) : digitsOf (Nat.toDigits 10 size ++ rest) = (Nat.toDigits 10 size, rest) :=
    digitsOf_append (fun c member => Nat.isDigit_of_mem_toDigits (by decide) (by decide) member) ends
  cases number with
  | ofNat size =>
    have text : (toString (Int.ofNat size)).toList = Nat.toDigits 10 size := Nat.toList_repr
    -- The reader looks for a sign first, and a digit is none.
    have unsigned : ∀ tail, Nat.toDigits 10 size ++ rest ≠ '-' :: tail := by
      intro tail signed
      have first : '-' ∈ Nat.toDigits 10 size := by
        cases spelt : Nat.toDigits 10 size with
        | nil => exact absurd spelt Nat.toDigits_ne_nil
        | cons c digits =>
          rw [spelt, List.cons_append, List.cons.injEq] at signed
          rw [signed.1]
          exact List.mem_cons_self ..
      exact absurd (Nat.isDigit_of_mem_toDigits (by decide) (by decide) first) (by decide)
    rw [text]
    simp only [readNumber, digits, not_padded, if_false, readFraction_of_ends ends, readExponent_of_ends ends,
      Option.bind_eq_bind, Option.bind_some, decimalOf_toDigits]
    rfl
  | negSucc size =>
    have text : (toString (Int.negSucc size)).toList = '-' :: Nat.toDigits 10 (size + 1) := by
      rw [Int.toString_eq_repr, Int.repr, String.toList_append, Nat.toList_repr]
      rfl
    rw [text, List.cons_append]
    simp only [readNumber, digits, not_padded, if_false, readFraction_of_ends ends, readExponent_of_ends ends,
      Option.bind_eq_bind, Option.bind_some, decimalOf_toDigits]
    rfl

end Numbers

section Documents

mutual

/-- Whether a document has no fractions, at whatever depth. -/
def isWhole : Value → Bool
  | .real _ => false
  | .list items => wholeItems items
  | .object fields => wholeFields fields
  | _ => true

def wholeItems : List Value → Bool
  | [] => true
  | item :: rest => isWhole item && wholeItems rest

def wholeFields : Fields → Bool
  | [] => true
  | (_, value) :: rest => isWhole value && wholeFields rest

end

theorem isWhole_list {items : List Value} :
    (Value.list items).isWhole = true ↔ ∀ item ∈ items, item.isWhole = true := by
  rw [isWhole]
  induction items with
  | nil => simp [wholeItems]
  | cons item rest ih => simp [wholeItems, ih]

theorem isWhole_object {fields : Fields} :
    (Value.object fields).isWhole = true ↔ ∀ entry ∈ fields, entry.2.isWhole = true := by
  rw [isWhole]
  induction fields with
  | nil => simp [wholeFields]
  | cons entry rest ih => simp [wholeFields, ih]

/-- A document made of null, truth values, integers, texts, lists and objects that have each of their names once. -/
structure Plain (value : Value) : Prop where
  proper : value.isProper = true
  named : value.isNamed = true
  whole : value.isWhole = true

theorem plain_list {items : List Value} : Plain (.list items) ↔ ∀ item ∈ items, Plain item := by
  constructor
  · rintro ⟨proper, named, whole⟩ item member
    exact ⟨isProper_list.mp proper item member, isNamed_list.mp named item member, isWhole_list.mp whole item member⟩
  · intro plain
    exact ⟨isProper_list.mpr fun item member => (plain item member).proper,
      isNamed_list.mpr fun item member => (plain item member).named,
      isWhole_list.mpr fun item member => (plain item member).whole⟩

theorem plain_object {fields : Fields} :
    Plain (.object fields) ↔
      (Assoc.keys fields).Nodup ∧ ∀ entry ∈ fields, entry.1.isNamed = true ∧ Plain entry.2 := by
  constructor
  · rintro ⟨proper, named, whole⟩
    have ⟨unique, proper⟩ := isProper_object.mp proper
    refine ⟨unique, fun entry member => ?_⟩
    have ⟨key, named⟩ := isNamed_object.mp named entry member
    exact ⟨key, proper entry member, named, isWhole_object.mp whole entry member⟩
  · rintro ⟨unique, plain⟩
    exact ⟨isProper_object.mpr ⟨unique, fun entry member => (plain entry member).2.proper⟩,
      isNamed_object.mpr fun entry member => ⟨(plain entry member).1, (plain entry member).2.named⟩,
      isWhole_object.mpr fun entry member => (plain entry member).2.whole⟩

def BeginsNumber (c : Char) : Prop :=
  c = '-' ∨ c.isDigit = true

theorem BeginsNumber.apart {c : Char} (begins : BeginsNumber c) (other : Char) (sign : other ≠ '-')
    (digit : other.isDigit = false) : c ≠ other := by
  rintro rfl
  rcases begins with same | some
  · exact sign same
  · rw [digit] at some
    cases some

theorem BeginsNumber.unblank {c : Char} (begins : BeginsNumber c) : isJsonBlank c = false := by
  rw [isJsonBlank]
  simp only [begins.apart ' ' (by decide) (by decide), begins.apart '\n' (by decide) (by decide),
    begins.apart '\r' (by decide) (by decide), begins.apart '\t' (by decide) (by decide)]
  rfl

theorem toList_int (number : Int) :
    ∃ c tail, (toString number).toList = c :: tail ∧ BeginsNumber c := by
  cases number with
  | ofNat size =>
    have text : (toString (Int.ofNat size)).toList = Nat.toDigits 10 size := Nat.toList_repr
    cases spelt : Nat.toDigits 10 size with
    | nil => exact absurd spelt Nat.toDigits_ne_nil
    | cons c tail =>
      refine ⟨c, tail, text.trans spelt, .inr ?_⟩
      exact Nat.isDigit_of_mem_toDigits (b := 10) (n := size) (by decide) (by decide) (spelt ▸ List.mem_cons_self ..)
  | negSucc size => exact ⟨'-', _, by rw [Int.toString_eq_repr, Int.repr, String.toList_append]; rfl, .inl rfl⟩

theorem toList_list (items : List Value) :
    (Value.list items).json.toList = '[' :: ((jsonItems items).toList ++ [']']) := by
  rw [json, String.toList_append, String.toList_append]
  rfl

theorem toList_object (fields : Fields) :
    (Value.object fields).json.toList = '\x7b' :: ((jsonFields fields).toList ++ ['\x7d']) := by
  rw [json, String.toList_append, String.toList_append]
  rfl

theorem toList_jsonItems (item next : Value) (rest : List Value) :
    (jsonItems (item :: next :: rest)).toList =
      item.json.toList ++ ',' :: ' ' :: (jsonItems (next :: rest)).toList := by
  rw [jsonItems, String.toList_append, String.toList_append, List.append_assoc]
  · rfl
  · exact nofun

theorem toList_jsonField (name : String) (value : Value) :
    (jsonFields [(.named name, value)]).toList =
      '"' :: (name.toList.flatMap jsonChar ++ '"' :: ':' :: ' ' :: value.json.toList) := by
  rw [jsonFields, Key.json, String.toList_append, String.toList_append, toList_jsonString]
  simp

theorem length_jsonField (name : String) (value : Value) :
    value.json.toList.length ≤ (jsonFields [(.named name, value)]).toList.length := by
  rw [toList_jsonField]
  simp only [List.length_cons, List.length_append]
  omega

theorem toList_jsonFields (entry next : Key × Value) (rest : Fields) :
    (jsonFields (entry :: next :: rest)).toList =
      (jsonFields [entry]).toList ++ ',' :: ' ' :: (jsonFields (next :: rest)).toList := by
  rw [jsonFields, jsonFields, String.toList_append, String.toList_append, List.append_assoc]
  · rfl
  · exact nofun

theorem head_json {value : Value} (whole : value.isWhole = true) :
    ∃ c tail, value.json.toList = c :: tail ∧ isJsonBlank c = false ∧ c ≠ ']' := by
  cases value with
  | null => exact ⟨'n', _, rfl, rfl, by decide⟩
  | bool flag =>
    cases flag with
    | true => exact ⟨'t', _, rfl, rfl, by decide⟩
    | false => exact ⟨'f', _, rfl, rfl, by decide⟩
  | int number =>
    obtain ⟨c, tail, text, begins⟩ := toList_int number
    exact ⟨c, tail, text, begins.unblank, begins.apart ']' (by decide) (by decide)⟩
  | real => cases whole
  | text content => exact ⟨'"', _, toList_jsonString content, rfl, by decide⟩
  | list items => exact ⟨'[', _, toList_list items, rfl, by decide⟩
  | object fields => exact ⟨'\x7b', _, toList_object fields, rfl, by decide⟩

theorem head_jsonItems {item : Value} (whole : item.isWhole = true) (rest : List Value) :
    ∃ c tail, (jsonItems (item :: rest)).toList = c :: tail ∧ isJsonBlank c = false ∧ c ≠ ']' := by
  obtain ⟨c, tail, text, unblank, opened⟩ := head_json whole
  cases rest with
  | nil => exact ⟨c, tail, text, unblank, opened⟩
  | cons next rest =>
    rw [toList_jsonItems, text]
    exact ⟨c, _, rfl, unblank, opened⟩

theorem head_jsonFields (name : String) (value : Value) (rest : Fields) :
    ∃ tail, (jsonFields ((.named name, value) :: rest)).toList = '"' :: tail := by
  cases rest with
  | nil => exact ⟨_, toList_jsonField name value⟩
  | cons next rest =>
    rw [toList_jsonFields, toList_jsonField]
    exact ⟨_, rfl⟩

theorem skipBlanks_cons {c : Char} (unblank : isJsonBlank c = false) (rest : List Char) :
    skipBlanks (c :: rest) = c :: rest := by
  rw [skipBlanks, List.dropWhile_cons_of_neg (by rw [unblank]; exact Bool.false_ne_true)]

theorem readValue_blank (fuel : Nat) (input : List Char) : readValue fuel (' ' :: input) = readValue fuel input := by
  cases fuel with
  | zero => rfl
  | succ fuel =>
    have skipped : skipBlanks (' ' :: input) = skipBlanks input := rfl
    rw [readValue, readValue, skipped]

theorem readItems_blank (fuel : Nat) (seen : List Value) (input : List Char) :
    readItems fuel seen (' ' :: input) = readItems fuel seen input := by
  cases fuel with
  | zero => rfl
  | succ fuel => rw [readItems, readItems, readValue_blank]

theorem readFields_blank (fuel : Nat) (seen : Fields) (input : List Char) :
    readFields fuel seen (' ' :: input) = readFields fuel seen input := by
  cases fuel with
  | zero => rfl
  | succ fuel =>
    have skipped : skipBlanks (' ' :: input) = skipBlanks input := rfl
    rw [readFields, readFields, skipped]

theorem readValue_number (fuel : Nat) {c : Char} (begins : BeginsNumber c) (rest : List Char) :
    readValue (fuel + 1) (c :: rest) = readNumber (c :: rest) := by
  have apart (other : Char) (sign : other ≠ '-') (digit : other.isDigit = false) (tail : List Char) :
      c :: rest ≠ other :: tail := fun same => begins.apart other sign digit (List.cons.inj same).1
  rw [readValue, skipBlanks_cons begins.unblank]
  split
  next same => exact absurd same (apart 'n' (by decide) (by decide) _)
  next same => exact absurd same (apart 't' (by decide) (by decide) _)
  next same => exact absurd same (apart 'f' (by decide) (by decide) _)
  next same => exact absurd same (apart '"' (by decide) (by decide) _)
  next same => exact absurd same (apart '[' (by decide) (by decide) _)
  next same => exact absurd same (apart '\x7b' (by decide) (by decide) _)
  next => rfl

theorem readValue_text (fuel : Nat) (content : String) (rest : List Char) :
    readValue (fuel + 1) ((Value.text content).json.toList ++ rest) = some (.text content, rest) := by
  have text : (Value.text content).json.toList ++ rest =
      '"' :: (content.toList.flatMap jsonChar ++ '"' :: rest) := by
    rw [json, toList_jsonString, List.cons_append, List.append_assoc, List.singleton_append]
  rw [text, readValue, skipBlanks_cons rfl]
  change (readString _ [] _).map _ = _
  rw [readString_jsonString]
  rfl

theorem readValue_items (fuel : Nat) {c : Char} (unblank : isJsonBlank c = false) (opened : c ≠ ']') (rest : List Char) :
    readValue (fuel + 1) ('[' :: c :: rest) =
      (readItems fuel [] (c :: rest)).map fun (items, rest) => (.list items, rest) := by
  rw [readValue, skipBlanks_cons rfl]
  simp only [skipBlanks_cons unblank]
  split
  next same => exact absurd (List.cons.inj same).1 opened
  next => rfl

theorem readValue_fields (fuel : Nat) (rest : List Char) :
    readValue (fuel + 1) ('\x7b' :: '"' :: rest) =
      (readFields fuel [] ('"' :: rest)).map fun (fields, rest) => (.object fields, rest) := by
  rw [readValue, skipBlanks_cons rfl]
  rfl

/-- Whether the text of a value is read back, wherever it stands. -/
def Reads (value : Value) : Prop :=
  ∀ fuel rest, value.json.toList.length ≤ fuel → Ends rest → readValue fuel (value.json.toList ++ rest) = some (value, rest)

theorem ends_comma (rest : List Char) : Ends (',' :: rest) := fun _ same => .inl (Option.some.inj same).symm

theorem ends_bracket (rest : List Char) : Ends (']' :: rest) := fun _ same => .inr (.inl (Option.some.inj same).symm)

theorem ends_brace (rest : List Char) : Ends ('\x7d' :: rest) := fun _ same => .inr (.inr (Option.some.inj same).symm)

theorem readItems_json {items : List Value} (some : items ≠ []) (each : ∀ item ∈ items, Reads item) {fuel : Nat}
    (enough : (jsonItems items).toList.length < fuel) (seen : List Value) (rest : List Char) :
    readItems fuel seen ((jsonItems items).toList ++ ']' :: rest) = .some (seen.reverse ++ items, rest) := by
  induction items generalizing fuel seen with
  | nil => exact absurd rfl some
  | cons item others ih =>
    have ⟨first, later⟩ := List.forall_mem_cons.mp each
    cases fuel with
    | zero => exact absurd enough (Nat.not_lt_zero _)
    | succ fuel =>
      cases others with
      | nil =>
        have read := first fuel (']' :: rest) (Nat.le_of_lt_succ enough) (ends_bracket rest)
        rw [jsonItems, readItems, read]
        change Option.some ((item :: seen).reverse, rest) = _
        rw [List.reverse_cons]
      | cons next others =>
        rw [toList_jsonItems] at enough ⊢
        have size : item.json.toList.length + ((jsonItems (next :: others)).toList.length + 2) < fuel + 1 := by
          simpa using enough
        have fits : item.json.toList.length ≤ fuel := by omega
        have fitsRest : (jsonItems (next :: others)).toList.length < fuel := by omega
        have read := first fuel (',' :: ' ' :: ((jsonItems (next :: others)).toList ++ ']' :: rest)) fits (ends_comma _)
        rw [List.append_assoc, List.cons_append, List.cons_append, readItems, read]
        change readItems fuel (item :: seen) (' ' :: ((jsonItems (next :: others)).toList ++ ']' :: rest)) = _
        rw [readItems_blank, ih (List.cons_ne_nil _ _) later fitsRest, List.reverse_cons, List.append_assoc,
          List.singleton_append]

def readOn (fuel : Nat) (seen : Fields) (rest : List Char) : Option (Fields × List Char) :=
  match skipBlanks rest with
  | ',' :: rest => readFields fuel seen rest
  | '\x7d' :: rest => some (seen, rest)
  | _ => none

theorem readFields_field {value : Value} (reads : Reads value) {fuel : Nat} (fits : value.json.toList.length ≤ fuel)
    (seen : Fields) (name : String) {rest : List Char} (ends : Ends rest) :
    readFields (fuel + 1) seen ((jsonFields [(.named name, value)]).toList ++ rest) =
      readOn fuel (Assoc.put seen (.named name) value) rest := by
  have text : (jsonFields [(.named name, value)]).toList ++ rest =
      '"' :: (name.toList.flatMap jsonChar ++ '"' :: (':' :: ' ' :: (value.json.toList ++ rest))) := by
    rw [toList_jsonField]
    simp
  have read := reads fuel rest fits ends
  rw [← readValue_blank] at read
  have colon (rest : List Char) : skipBlanks (':' :: rest) = ':' :: rest := skipBlanks_cons rfl rest
  rw [text, readFields, skipBlanks_cons rfl]
  simp only [readString_jsonString, colon, read]
  rfl

theorem readFields_json {fields : Fields} (some : fields ≠ [])
    (each : ∀ entry ∈ fields, entry.1.isNamed = true ∧ Reads entry.2) {fuel : Nat}
    (enough : (jsonFields fields).toList.length < fuel) {seen : Fields} (unique : (Assoc.keys (seen ++ fields)).Nodup)
    (rest : List Char) :
    readFields fuel seen ((jsonFields fields).toList ++ '\x7d' :: rest) = .some (seen ++ fields, rest) := by
  induction fields generalizing fuel seen with
  | nil => exact absurd rfl some
  | cons entry others ih =>
    obtain ⟨key, value⟩ := entry
    have ⟨⟨named, first⟩, later⟩ := List.forall_mem_cons.mp each
    cases key with
    | named name =>
      have fresh : Assoc.has seen (.named name) = false := by
        have split : Assoc.keys (seen ++ (.named name, value) :: others) =
            Assoc.keys seen ++ Assoc.keys ((.named name, value) :: others) := List.map_append
        have apart := List.disjoint_of_nodup_append (split ▸ unique)
        exact Bool.eq_false_iff.mpr fun there => apart (Assoc.has_iff.mp there) (List.mem_cons_self ..)
      have filed : Assoc.put seen (.named name) value = seen ++ [(.named name, value)] := Assoc.put_of_absent fresh value
      cases fuel with
      | zero => exact absurd enough (Nat.not_lt_zero _)
      | succ fuel =>
        cases others with
        | nil =>
          have size := length_jsonField name value
          have fits : value.json.toList.length ≤ fuel := by omega
          rw [readFields_field first fits seen name (ends_brace rest), filed]
          rfl
        | cons next others =>
          rw [toList_jsonFields] at enough ⊢
          have size : (jsonFields [(.named name, value)]).toList.length +
              ((jsonFields (next :: others)).toList.length + 2) < fuel + 1 := by
            simpa using enough
          have sizeFirst := length_jsonField name value
          have fits : value.json.toList.length ≤ fuel := by omega
          have fitsRest : (jsonFields (next :: others)).toList.length < fuel := by omega
          have regrouped : seen ++ (.named name, value) :: next :: others =
              (seen ++ [(.named name, value)]) ++ next :: others := by
            rw [List.append_assoc, List.singleton_append]
          rw [regrouped] at unique ⊢
          rw [List.append_assoc, List.cons_append, List.cons_append, readFields_field first fits seen name (ends_comma _),
            filed]
          change readFields fuel _ (' ' :: ((jsonFields (next :: others)).toList ++ '\x7d' :: rest)) = _
          rw [readFields_blank, ih (List.cons_ne_nil _ _) later fitsRest unique]
    | _ => cases named

theorem Reads.of_succ {value : Value} (whole : value.isWhole = true)
    (succ : ∀ fuel rest, value.json.toList.length ≤ fuel + 1 → Ends rest →
      readValue (fuel + 1) (value.json.toList ++ rest) = some (value, rest)) : Reads value := by
  intro fuel rest enough ends
  cases fuel with
  | zero =>
    obtain ⟨c, tail, text, _⟩ := head_json whole
    rw [text] at enough
    exact absurd enough (Nat.not_succ_le_zero _)
  | succ fuel => exact succ fuel rest enough ends

theorem reads_scalar {value : Value} (scalar : value.isContainer = false) (whole : value.isWhole = true) : Reads value := by
  refine .of_succ whole fun fuel rest _ ends => ?_
  cases value with
  | null => rfl
  | bool flag => cases flag <;> rfl
  | int number =>
    obtain ⟨c, tail, text, begins⟩ := toList_int number
    have read := readNumber_int number ends
    rw [text] at read
    change readValue (fuel + 1) ((toString number).toList ++ rest) = _
    rw [text, List.cons_append, readValue_number fuel begins, ← List.cons_append, read]
  | real => cases whole
  | text content => exact readValue_text fuel content rest
  | list => cases scalar
  | object => cases scalar

theorem reads_list {items : List Value} (whole : (Value.list items).isWhole = true) (each : ∀ item ∈ items, Reads item) :
    Reads (.list items) := by
  refine .of_succ whole fun fuel rest enough _ => ?_
  rw [toList_list] at enough ⊢
  cases items with
  | nil => rfl
  | cons item others =>
    have fits : (jsonItems (item :: others)).toList.length < fuel := Nat.lt_of_succ_le (by simpa using enough)
    have read := readItems_json (List.cons_ne_nil item others) each fits [] rest
    have firstWhole := isWhole_list.mp whole item (List.mem_cons_self ..)
    obtain ⟨c, tail, text, unblank, opened⟩ := head_jsonItems firstWhole others
    rw [List.cons_append, List.append_assoc, List.singleton_append]
    rw [text, List.cons_append] at read ⊢
    rw [readValue_items fuel unblank opened, read]
    rfl

theorem reads_object {fields : Fields} (whole : (Value.object fields).isWhole = true) (unique : (Assoc.keys fields).Nodup)
    (each : ∀ entry ∈ fields, entry.1.isNamed = true ∧ Reads entry.2) : Reads (.object fields) := by
  refine .of_succ whole fun fuel rest enough _ => ?_
  rw [toList_object] at enough ⊢
  cases fields with
  | nil => rfl
  | cons entry others =>
    obtain ⟨key, value⟩ := entry
    have fits : (jsonFields ((key, value) :: others)).toList.length < fuel := Nat.lt_of_succ_le (by simpa using enough)
    have distinct : (Assoc.keys ([] ++ (key, value) :: others)).Nodup := by rwa [List.nil_append]
    have read := readFields_json (List.cons_ne_nil (key, value) others) each fits distinct rest
    cases key with
    | named name =>
      obtain ⟨tail, text⟩ := head_jsonFields name value others
      rw [List.cons_append, List.append_assoc, List.singleton_append]
      rw [text, List.cons_append] at read ⊢
      rw [readValue_fields, read]
      rfl
    | _ => cases (each _ (List.mem_cons_self ..)).1

/-- The text of a document is read back as the document. -/
theorem reads_of_plain (value : Value) (plain : Plain value) : Reads value := by
  induction value using byParts with
  | scalar value scalar => exact reads_scalar scalar plain.whole
  | list items ih =>
    exact reads_list plain.whole fun item member => ih item member (plain_list.mp plain item member)
  | object fields ih =>
    have ⟨unique, each⟩ := plain_object.mp plain
    exact reads_object plain.whole unique fun entry member =>
      ⟨(each entry member).1, ih entry member (each entry member).2⟩

theorem ofJson?_json {value : Value} (plain : Plain value) : ofJson? value.json = some value := by
  have read := reads_of_plain value plain (value.json.toList.length + 1) [] (Nat.le_succ _) nofun
  rw [List.append_nil] at read
  rw [ofJson?, read]
  rfl

theorem json_injective {left right : Value} (plainLeft : Plain left) (plainRight : Plain right)
    (same : left.json = right.json) : left = right := by
  have read := ofJson?_json plainLeft
  rw [same, ofJson?_json plainRight] at read
  exact (Option.some.inj read).symm

end Documents

end Reconcile.Value
