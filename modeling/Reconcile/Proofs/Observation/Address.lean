import Mathlib.Data.List.TakeWhile
import Reconcile.Observation.Link
import Reconcile.Proofs.Assoc
import Reconcile.Proofs.Result
import Reconcile.Proofs.Text

/-!
Addresses as devices give them. An address of a collection is read as the path below the management root and the
parameters in their order, without the one that selects properties.
-/

namespace Reconcile.Link

/-- Characters that stand for themselves wherever they are in an address. -/
def IsPlain (c : Char) : Prop :=
  c.isAlphanum = true ∨ c ∈ ['-', '.', '_', '~', '$']

instance (c : Char) : Decidable (IsPlain c) :=
  inferInstanceAs (Decidable (_ ∨ _))

def Plain (content : String) : Prop :=
  ∀ c ∈ content.toList, IsPlain c

theorem IsPlain.toNat_lt {c : Char} (plain : IsPlain c) : c.toNat < 128 := by
  rcases plain with alphanumeric | listed
  · have ranges : (decide ('A'.val ≤ c.val ∧ c.val ≤ 'Z'.val) || 'a'.val ≤ c.val && c.val ≤ 'z'.val ||
        '0'.val ≤ c.val && c.val ≤ '9'.val) = true := alphanumeric
    simp only [Bool.or_eq_true, Bool.and_eq_true, decide_eq_true_eq, UInt32.le_iff_toNat_le] at ranges
    have code : c.toNat = c.val.toNat := rfl
    have upper : 'Z'.val.toNat = 90 := rfl
    have lower : 'z'.val.toNat = 122 := rfl
    have digit : '9'.val.toNat = 57 := rfl
    omega
  · have small : ∀ d ∈ ['-', '.', '_', '~', '$'], d.toNat < 128 := by simp
    exact small c listed

theorem IsPlain.ne {c d : Char} (plain : IsPlain c) (other : ¬IsPlain d) : c ≠ d :=
  fun same => other (same ▸ plain)

section Unescaping

variable {content : List Char}

theorem bytes_of_small {c : Char} (small : c.toNat < 128) :
    (String.singleton c).toUTF8.toList.map UInt8.toNat = [c.toNat] := by
  have single : c.utf8Size = 1 := by
    rw [Char.utf8Size_eq_one_iff, UInt32.le_iff_toNat_le]
    have code : c.toNat = c.val.toNat := rfl
    have last : (127 : UInt32).toNat = 127 := rfl
    omega
  have code : c.val.toUInt8.toNat = c.toNat := by
    rw [UInt32.toNat_toUInt8]
    exact Nat.mod_eq_of_lt (by unfold Char.toNat at small; omega)
  have alone (byte : UInt8) : [byte].toByteArray.toList = [byte] := by
    rw [ByteArray.toList, ByteArray.toList.loop, ByteArray.toList.loop]
    rfl
  rw [String.toUTF8_eq_toByteArray, String.toByteArray_singleton, List.utf8Encode_singleton,
    String.utf8EncodeChar_eq_singleton single, alone, List.map_singleton, code]

theorem escapedBytes_plain (plain : ∀ c ∈ content, IsPlain c) :
    escapedBytes 0 content = content.map Char.toNat := by
  induction content with
  | nil => rfl
  | cons c rest ih =>
    obtain ⟨here, others⟩ := List.forall_mem_cons.mp plain
    rw [escapedBytes, bytes_of_small here.toNat_lt, ih others, List.map_cons, List.singleton_append]
    rintro _ _ rfl
    exact absurd here (by decide)

theorem decodeUtf8_small (small : ∀ c ∈ content, c.toNat < 128) :
    Text.decodeUtf8 (content.map Char.toNat) = content := by
  unfold Text.decodeUtf8
  induction content with
  | nil => rfl
  | cons c rest ih =>
    obtain ⟨here, others⟩ := List.forall_mem_cons.mp small
    have lead : Text.leadByte c.toNat = some (c.toNat, 0, 128, 191) := if_pos here
    rw [List.map_cons, Text.decodeFrom, if_neg (by simp), lead]
    simp [ih others]

theorem unescaped_plain (plain : ∀ c ∈ content, IsPlain c) : unescaped content = String.ofList content := by
  have unspaced : content.map (fun c => if c = '+' then ' ' else c) = content :=
    (List.map_congr_left fun c member => if_neg ((plain c member).ne (by decide))).trans (List.map_id _)
  rw [unescaped, unspaced, escapedBytes_plain plain, decodeUtf8_small fun c member => (plain c member).toNat_lt]

end Unescaping

theorem breakAt_append {stop : Char → Bool} {front : List Char} (before : ∀ c ∈ front, stop c = false) {c : Char}
    (here : stop c = true) (back : List Char) : Text.breakAt stop (front ++ c :: back) = (front, c :: back) := by
  have inside : ∀ c ∈ front, (!stop c) = true := fun c member => by rw [before c member]; rfl
  rw [Text.breakAt, List.takeWhile_append_of_pos inside, List.dropWhile_append_of_pos inside,
    List.takeWhile_cons_of_neg (by simp [here]), List.dropWhile_cons_of_neg (by simp [here]), List.append_nil]

theorem breakAt_of_absent {stop : Char → Bool} {content : List Char} (before : ∀ c ∈ content, stop c = false) :
    Text.breakAt stop content = (content, []) := by
  have inside : ∀ c ∈ content, (!stop c) = true := fun c member => by rw [before c member]; rfl
  rw [Text.breakAt, List.takeWhile_eq_self_iff.mpr inside, List.dropWhile_eq_nil_iff.mpr inside]

def written (param : String × String) : String :=
  param.1 ++ "=" ++ param.2

theorem param?_written {param : String × String} (name : Plain param.1) (value : Plain param.2) (given : param.2 ≠ "") :
    param? (written param) = some param := by
  have whole : (written param).toList = param.1.toList ++ '=' :: param.2.toList := by
    simp [written]
  have some : param.2.toList.isEmpty = false :=
    List.isEmpty_eq_false_iff.mpr fun none => given (String.toList_inj.mp none)
  rw [param?, whole, breakAt_append (fun c member => decide_eq_false ((name c member).ne (by decide))) (by decide)]
  dsimp only
  rw [some, if_neg Bool.false_ne_true, unescaped_plain name, unescaped_plain value, String.ofList_toList,
    String.ofList_toList]

/-- Parameters that can be read back as they are. -/
structure Readable (params : List (String × String)) : Prop where
  names : ∀ param ∈ params, Plain param.1
  values : ∀ param ∈ params, Plain param.2 ∧ param.2 ≠ ""
  unique : (Assoc.keys params).Nodup

variable {params : List (String × String)}

theorem mem_written {param : String × String} (name : Plain param.1) (value : Plain param.2) {c : Char}
    (member : c ∈ (written param).toList) : IsPlain c ∨ c = '=' := by
  have parts : c ∈ param.1.toList ∨ c = '=' ∨ c ∈ param.2.toList := by simpa [written] using member
  rcases parts with inside | rfl | inside
  · exact .inl (name c inside)
  · exact .inr rfl
  · exact .inl (value c inside)

def queryOf (params : List (String × String)) : String :=
  "&".intercalate (params.map written)

theorem mem_queryOf (readable : Readable params) {c : Char} (member : c ∈ (queryOf params).toList) :
    IsPlain c ∨ c = '=' ∨ c = '&' := by
  rw [queryOf, String.toList_intercalate, List.map_map] at member
  rcases Text.mem_of_mem_intercalate member with between | ⟨part, listed, inside⟩
  · exact .inr (.inr (List.mem_singleton.mp between))
  · obtain ⟨param, own, rfl⟩ := List.mem_map.mp listed
    exact (mem_written (readable.names param own) (readable.values param own).1 inside).imp_right .inl

theorem paramsOf_queryOf (readable : Readable params) : paramsOf (queryOf params).toList = params := by
  by_cases none : params = []
  · subst none
    decide
  have apart : ∀ part ∈ params.map written, '&' ∉ part.toList := by
    intro part listed member
    obtain ⟨param, own, rfl⟩ := List.mem_map.mp listed
    exact absurd (mem_written (readable.names param own) (readable.values param own).1 member) (by decide)
  have read : (params.map written).filterMap param? = params := by
    rw [List.filterMap_map]
    refine (List.filterMap_congr fun param listed => ?_).trans List.filterMap_some
    obtain ⟨plain, given⟩ := readable.values param listed
    exact param?_written (readable.names param listed) plain given
  have cut : Text.cut "&" (queryOf params) = params.map written :=
    Text.cut_intercalate rfl (by simpa using none) apart
  rw [paramsOf, String.ofList_toList, cut, read]
  exact Assoc.putAll_of_absent (by simpa using readable.unique)

def specialChars : List Char := ['#', '\t', '\n', '\r']

theorem cleaned_of_ordinary {address : String} {rest : List Char} (whole : address.toList = 'h' :: rest)
    (ordinary : ∀ c ∈ rest, c ∉ specialChars) : cleaned address = 'h' :: rest := by
  rw [cleaned, whole, List.dropWhile_cons_of_neg (by decide)]
  refine List.filter_eq_self.mpr (List.forall_mem_cons.mpr ⟨by decide, fun c member => ?_⟩)
  have apart : c ∉ ['\t', '\n', '\r'] := fun listed => ordinary c member (List.mem_cons_of_mem _ listed)
  simpa using apart

theorem withoutScheme_https (rest : List Char) :
    withoutScheme ('h' :: 't' :: 't' :: 'p' :: 's' :: ':' :: rest) = rest := by
  have before : ∀ c ∈ ['h', 't', 't', 'p', 's'], decide (c = ':') = false := by simp
  have broken : Text.breakAt (· = ':') ('h' :: 't' :: 't' :: 'p' :: 's' :: ':' :: rest) =
      (['h', 't', 't', 'p', 's'], ':' :: rest) :=
    breakAt_append before rfl rest
  rw [withoutScheme, broken]
  rfl

theorem withoutHost_append {host : List Char} (plain : ∀ c ∈ host, IsPlain c) (rest : List Char) :
    withoutHost ('/' :: '/' :: (host ++ '/' :: rest)) = .ok ('/' :: rest) := by
  have before : ∀ c ∈ host, (decide (c = '/') || decide (c = '?') || decide (c = '#')) = false := by
    intro c member
    simp [(plain c member).ne (by decide : ¬IsPlain '/'), (plain c member).ne (by decide : ¬IsPlain '?'),
      (plain c member).ne (by decide : ¬IsPlain '#')]
  have unbracketed {d : Char} (other : ¬IsPlain d) : host.contains d = false := by
    simpa using fun member => other (plain d member)
  rw [withoutHost, breakAt_append before (by decide)]
  dsimp only
  rw [unbracketed (by decide), unbracketed (by decide), if_pos rfl]

/-- An address of a collection: its path below the management root, and its parameters without the selection. -/
theorem ofAddress_eq {host path : String} (plain : Plain host) (inside : ∀ c ∈ path.toList, c ∉ '?' :: specialChars)
    (readable : Readable params) :
    ofAddress ("https://" ++ host ++ "/mgmt" ++ path ++ "?" ++ queryOf params) =
      .ok ⟨path, Assoc.erase params "$select"⟩ := by
  have strange : ∀ c ∈ specialChars, ¬(IsPlain c ∨ c = '=' ∨ c = '&') := by
    simp only [specialChars, List.forall_mem_cons]
    exact ⟨by decide, by decide, by decide, by decide, List.forall_mem_nil _⟩
  have asked : ∀ c ∈ (queryOf params).toList, c ∉ specialChars :=
    fun c member listed => strange c listed (mem_queryOf readable member)
  have located : ∀ c ∈ '/' :: ("mgmt" ++ path).toList, c ∉ '?' :: specialChars := by
    rw [String.toList_append, List.forall_mem_cons, List.forall_mem_append]
    exact ⟨by decide, by simp [specialChars], inside⟩
  have below : ∀ c ∈ '/' :: ("mgmt" ++ path).toList ++ '?' :: (queryOf params).toList, c ∉ specialChars := by
    rw [List.forall_mem_append, List.forall_mem_cons (a := '?')]
    exact ⟨fun c member listed => located c member (List.mem_cons_of_mem _ listed), by decide, asked⟩
  have clean : cleaned ("https://" ++ host ++ "/mgmt" ++ path ++ "?" ++ queryOf params) =
      'h' :: 't' :: 't' :: 'p' :: 's' :: ':' :: '/' :: '/' ::
        (host.toList ++ ('/' :: ("mgmt" ++ path).toList ++ '?' :: (queryOf params).toList)) := by
    refine cleaned_of_ordinary (by simp) ?_
    simp only [List.forall_mem_cons]
    refine ⟨by decide, by decide, by decide, by decide, by decide, by decide, by decide, ?_⟩
    rw [List.forall_mem_append]
    exact ⟨fun c member listed => strange c listed (.inl (plain c member)), below⟩
  have root : String.ofList ('/' :: ("mgmt" ++ path).toList) = "/mgmt" ++ path := by
    rw [← String.toList_inj]
    simp
  have unfragmented : Text.breakAt (· = '#') ('/' :: ("mgmt" ++ path).toList ++ '?' :: (queryOf params).toList) =
      ('/' :: ("mgmt" ++ path).toList ++ '?' :: (queryOf params).toList, []) :=
    breakAt_of_absent fun c member => decide_eq_false fun same => below c member (by rw [same]; decide)
  have parted : Text.breakAt (· = '?') ('/' :: ("mgmt" ++ path).toList ++ '?' :: (queryOf params).toList) =
      ('/' :: ("mgmt" ++ path).toList, '?' :: (queryOf params).toList) :=
    breakAt_append (fun c member => decide_eq_false fun same => located c member (by rw [same]; decide)) rfl _
  rw [ofAddress, clean, withoutScheme_https, List.cons_append, withoutHost_append plain, Result.ok_bind,
    ← List.cons_append, unfragmented]
  dsimp only
  rw [parted]
  dsimp only
  rw [root, Text.dropHead_append, List.drop_one, List.tail_cons, paramsOf_queryOf readable]
  rfl

end Reconcile.Link
