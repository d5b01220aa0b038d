/-!
Association lists: finite maps that remember the order in which keys were first written.
The view of a list is `get?`; every operation below comes with its effect on that view.
-/

namespace Reconcile.Assoc

variable {κ : Type} {α : Type} [DecidableEq κ]

def get? : List (κ × α) → κ → Option α
  | [], _ => none
  | (key, value) :: rest, wanted => if key = wanted then some value else get? rest wanted

def has (entries : List (κ × α)) (key : κ) : Bool :=
  (get? entries key).isSome

/-- Replaces the value in place, or adds a last entry when the key is new. -/
def put : List (κ × α) → κ → α → List (κ × α)
  | [], key, value => [(key, value)]
  | (key', value') :: rest, key, value =>
    if key' = key then (key, value) :: rest else (key', value') :: put rest key value

def erase (entries : List (κ × α)) (key : κ) : List (κ × α) :=
  entries.filter fun entry => entry.1 ≠ key

/-- Writes every entry of `fresh` over `entries`, in order. -/
def putAll (entries fresh : List (κ × α)) : List (κ × α) :=
  fresh.foldl (fun merged entry => put merged entry.1 entry.2) entries

def putNew (entries : List (κ × α)) (key : κ) (value : α) : List (κ × α) :=
  if has entries key then entries else put entries key value

def keys (entries : List (κ × α)) : List κ :=
  entries.map Prod.fst

def mapValues {β : Type} (change : κ → α → β) (entries : List (κ × α)) : List (κ × β) :=
  entries.map fun entry => (entry.1, change entry.1 entry.2)

@[simp] theorem get?_nil (key : κ) : get? ([] : List (κ × α)) key = none := rfl

@[simp] theorem get?_put_self (entries : List (κ × α)) (key : κ) (value : α) :
    get? (put entries key value) key = some value := by
  induction entries with
  | nil => simp [put, get?]
  | cons entry rest ih =>
    obtain ⟨key', value'⟩ := entry
    by_cases same : key' = key
    · simp [put, get?, same]
    · simp [put, get?, same, ih]

theorem get?_put_of_ne {entries : List (κ × α)} {key other : κ} (differ : key ≠ other) (value : α) :
    get? (put entries key value) other = get? entries other := by
  induction entries with
  | nil => simp [put, get?, differ]
  | cons entry rest ih =>
    obtain ⟨key', value'⟩ := entry
    by_cases same : key' = key
    · simp [put, get?, same, differ]
    · by_cases here : key' = other
      · simp [put, get?, here, Ne.symm differ]
      · simp [put, get?, same, here, ih]

@[simp] theorem get?_erase_self (entries : List (κ × α)) (key : κ) : get? (erase entries key) key = none := by
  induction entries with
  | nil => rfl
  | cons entry rest ih =>
    obtain ⟨key', value'⟩ := entry
    by_cases same : key' = key
    · simpa [erase, same] using ih
    · simpa [erase, same, get?] using ih

theorem get?_erase_of_ne {entries : List (κ × α)} {key other : κ} (differ : key ≠ other) :
    get? (erase entries key) other = get? entries other := by
  induction entries with
  | nil => rfl
  | cons entry rest ih =>
    obtain ⟨key', value'⟩ := entry
    by_cases same : key' = key
    · simpa [erase, same, get?, differ] using ih
    · by_cases here : key' = other
      · simp [erase, here, get?, Ne.symm differ]
      · simpa [erase, same, here, get?] using ih

theorem has_iff {entries : List (κ × α)} {key : κ} : has entries key = true ↔ key ∈ keys entries := by
  induction entries with
  | nil => simp [has, keys]
  | cons entry rest ih =>
    obtain ⟨key', value'⟩ := entry
    by_cases same : key' = key
    · simp [has, keys, get?, same]
    · simp only [has, keys, get?, same, if_false, List.map_cons, List.mem_cons] at ih ⊢
      rw [ih]
      exact ⟨Or.inr, fun found => found.resolve_left (Ne.symm same)⟩

end Reconcile.Assoc
