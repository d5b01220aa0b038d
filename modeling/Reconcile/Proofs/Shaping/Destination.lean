import Mathlib.Data.List.TakeWhile
import Reconcile.Proofs.Numeral
import Reconcile.Proofs.Result
import Reconcile.Shaping.Finish

/-!
Destinations of virtual servers. A destination is divided at its last separator into an address and a number, so that what
has been joined is taken apart again, whatever the address looks like.
-/

namespace Reconcile.Shaping

def IsSeparator (c : Char) : Prop :=
  c = '.' ∨ c = ':'

instance (c : Char) : Decidable (IsSeparator c) :=
  inferInstanceAs (Decidable (_ ∨ _))

def joined (address : String) (separator : Char) (rest : String) : String :=
  String.ofList (address.toList ++ separator :: rest.toList)

variable {rest destination : String} {separator : Char}

theorem splitDestination_joined (address : String) (separates : IsSeparator separator)
    (last : ∀ c ∈ rest.toList, ¬IsSeparator c) :
    splitDestination (joined address separator rest) = (address, rest) := by
  have turned : (joined address separator rest).toList.reverse =
      rest.toList.reverse ++ separator :: address.toList.reverse := by
    rw [joined, String.toList_ofList, List.reverse_append, List.reverse_cons, List.append_assoc, List.singleton_append]
  have inside : ∀ c ∈ rest.toList.reverse, (!(decide (c = '.') || decide (c = ':'))) = true := by
    intro c member
    simpa [IsSeparator] using last c (List.mem_reverse.mp member)
  have stop : (!(decide (separator = '.') || decide (separator = ':'))) = false := by
    rcases separates with rfl | rfl <;> rfl
  rw [splitDestination, turned, Text.breakAt, List.takeWhile_append_of_pos inside, List.dropWhile_append_of_pos inside,
    List.takeWhile_cons, List.dropWhile_cons, stop]
  simp

theorem splitDestination_whole (whole : ∀ c ∈ destination.toList, ¬IsSeparator c) :
    splitDestination destination = (destination, "") := by
  have inside : ∀ c ∈ destination.toList.reverse, (!(decide (c = '.') || decide (c = ':'))) = true := by
    intro c member
    simpa [IsSeparator] using whole c (List.mem_reverse.mp member)
  rw [splitDestination, Text.breakAt, List.dropWhile_eq_nil_iff.mpr inside]

theorem whole_or_joined (destination : String) :
    (∀ c ∈ destination.toList, ¬IsSeparator c) ∨
      ∃ address separator rest, IsSeparator separator ∧ (∀ c ∈ rest.toList, ¬IsSeparator c) ∧
        destination = joined address separator rest := by
  suffices cut : ∀ content : List Char, (∀ c ∈ content, ¬IsSeparator c) ∨
      ∃ front separator back, IsSeparator separator ∧ (∀ c ∈ back, ¬IsSeparator c) ∧ content = front ++ separator :: back by
    refine (cut destination.toList).imp_right ?_
    rintro ⟨front, separator, back, separates, last, same⟩
    refine ⟨String.ofList front, separator, String.ofList back, separates, ?_, ?_⟩
    · rwa [String.toList_ofList]
    · rw [joined, String.toList_ofList, String.toList_ofList, ← same, String.ofList_toList]
  intro content
  induction content with
  | nil => exact .inl fun _ member => (List.not_mem_nil member).elim
  | cons c content ih =>
    rcases ih with whole | ⟨front, separator, back, separates, last, rfl⟩
    · by_cases separates : IsSeparator c
      · exact .inr ⟨[], c, content, separates, whole, rfl⟩
      · exact .inl (List.forall_mem_cons.mpr ⟨separates, whole⟩)
    · exact .inr ⟨c :: front, separator, back, separates, last, rfl⟩

theorem not_isSeparator_digit (number : Nat) : ∀ c ∈ (toString number).toList, ¬IsSeparator c := by
  intro c member separates
  have digit := Text.isDigit_of_mem_toDigits (Nat.toList_repr ▸ member)
  rcases separates with rfl | rfl <;> cases digit

theorem portNumber_of_not_digits (other : Text.allDigits rest.toList = false) : portNumber rest = .ok (.int 0) := by
  rw [portNumber, other, if_neg Bool.false_ne_true]

theorem portNumber_of_digits (digits : Text.allDigits rest.toList = true) : portNumber rest = spelledInteger rest := by
  rw [portNumber, digits, if_pos rfl]

theorem portNumber_toString (number : Nat) :
    portNumber (toString number) =
      if (toString number).length ≤ Text.digitLimit then .ok (.int number) else .error .unreadableText := by
  have spelt : (toString number).toList = Nat.toDigits 10 number := Nat.toList_repr
  rw [portNumber_of_digits (spelt ▸ Text.allDigits_toDigits number), spelledInteger, spelt, Text.integerOrFail,
    Text.integer?_toDigits, ← spelt, String.length_toList]
  by_cases few : (toString number).length ≤ Text.digitLimit
  · rw [if_pos few, if_pos few]
    rfl
  · rw [if_neg few, if_neg few]
    rfl

theorem portNumber_eq_ok {port : Value} (read : portNumber rest = .ok port) :
    ∃ number : Int, port = .int number ∧ (Text.allDigits rest.toList = false → number = 0) ∧
      (Text.allDigits rest.toList = true → Text.integer? rest.toList = some number) := by
  cases digits : Text.allDigits rest.toList with
  | false =>
    rw [portNumber_of_not_digits digits] at read
    cases read
    exact ⟨0, rfl, fun _ => rfl, nofun⟩
  | true =>
    rw [portNumber_of_digits digits] at read
    obtain ⟨number, spelt, same⟩ := Result.bind_eq_ok.mp read
    cases same
    exact ⟨number, rfl, nofun, fun _ => Text.integerOrFail_eq_ok.mp spelt⟩

end Reconcile.Shaping
