import Mathlib.Data.List.Forall2
import Reconcile.Fault
import Reconcile.Proofs.Assoc

/-!
Outcomes step by step: a computation succeeds when each of its steps does.
-/

namespace Reconcile.Result

variable {α β : Type}

theorem ok_bind (value : α) (next : α → Result β) : (Except.ok value >>= next) = next value := rfl

theorem pure_eq_ok (value : α) : (pure value : Result α) = .ok value := rfl

theorem map_ok (change : α → β) (value : α) : (change <$> (Except.ok value : Result α)) = .ok (change value) := rfl

theorem bind_eq_ok {action : Result α} {next : α → Result β} {result : β} :
    (action >>= next) = .ok result ↔ ∃ value, action = .ok value ∧ next value = .ok result := by
  constructor
  · intro done
    cases action with
    | error fault => cases done
    | ok value => exact ⟨value, rfl, done⟩
  · rintro ⟨value, rfl, done⟩
    exact done

theorem ok_eq_ok {value result : α} : (.ok value : Result α) = .ok result ↔ result = value :=
  ⟨fun same => (Except.ok.inj same).symm, fun same => congrArg Except.ok same.symm⟩

theorem map_eq_ok {change : α → β} {action : Result α} {result : β} :
    change <$> action = .ok result ↔ ∃ value, action = .ok value ∧ change value = result := by
  cases action with
  | error fault =>
    constructor
    · intro done
      cases done
    · rintro ⟨value, done, _⟩
      cases done
  | ok value =>
    constructor
    · exact fun done => ⟨value, rfl, Except.ok.inj done⟩
    · rintro ⟨value', same, rfl⟩
      cases same
      rfl

/-- Whether a computation succeeds with a value that passes a check. -/
def passes (check : α → Bool) : Result α → Bool
  | .ok value => check value
  | .error _ => false

theorem of_passes {check : α → Bool} {outcome : Result α} (passed : passes check outcome = true) :
    ∃ value, outcome = .ok value ∧ check value = true := by
  cases outcome with
  | error fault => cases passed
  | ok value => exact ⟨value, rfl, passed⟩

def Succeeds (action : Result α) : Prop :=
  ∃ value, action = .ok value

theorem Succeeds.ok (value : α) : Succeeds (.ok value) := ⟨value, rfl⟩

theorem Succeeds.bind {action : Result α} {next : α → Result β} (first : Succeeds action)
    (second : ∀ value, Succeeds (next value)) : Succeeds (action >>= next) := by
  obtain ⟨value, rfl⟩ := first
  exact second value

theorem Succeeds.ite {condition : Prop} [Decidable condition] {action other : Result α} (left : Succeeds action)
    (right : Succeeds other) : Succeeds (if condition then action else other) := by
  split
  next => exact left
  next => exact right

theorem Succeeds.foldlM {step : β → α → Result β} {items : List α}
    (each : ∀ item ∈ items, ∀ state, Succeeds (step state item)) (start : β) : Succeeds (items.foldlM step start) := by
  induction items generalizing start with
  | nil => exact .ok start
  | cons item rest ih =>
    have ⟨first, others⟩ := List.forall_mem_cons.mp each
    rw [List.foldlM_cons]
    exact (first start).bind (ih others)

theorem Succeeds.mapM {step : α → Result β} {items : List α} (each : ∀ item ∈ items, Succeeds (step item)) :
    Succeeds (items.mapM step) := by
  induction items with
  | nil => exact .ok []
  | cons item rest ih =>
    have ⟨first, others⟩ := List.forall_mem_cons.mp each
    rw [List.mapM_cons]
    exact first.bind fun value => (ih others).bind fun values => .ok (value :: values)

/-- A computation that can fail in one way only. -/
def FailsOnly (fault : Fault) (action : Result α) : Prop :=
  ∀ other, action = .error other → other = fault

section FailsOnly

variable {fault : Fault} {action : Result α}

theorem FailsOnly.ok (value : α) : FailsOnly fault (.ok value) := by
  intro other failed
  cases failed

theorem FailsOnly.error : FailsOnly fault (.error fault : Result α) :=
  fun _ failed => (Except.error.inj failed).symm

theorem FailsOnly.bind {next : α → Result β} (first : FailsOnly fault action)
    (second : ∀ value, FailsOnly fault (next value)) : FailsOnly fault (action >>= next) := by
  intro other failed
  cases action with
  | error early =>
    cases failed
    exact first _ rfl
  | ok value => exact second value other failed

theorem FailsOnly.map (only : FailsOnly fault action) (change : α → β) : FailsOnly fault (change <$> action) := by
  intro other failed
  cases action with
  | error early =>
    cases failed
    exact only _ rfl
  | ok value => cases failed

theorem FailsOnly.foldlM {step : β → α → Result β} {items : List α}
    (each : ∀ item ∈ items, ∀ state, FailsOnly fault (step state item)) (start : β) :
    FailsOnly fault (items.foldlM step start) := by
  induction items generalizing start with
  | nil => exact .ok start
  | cons item rest ih =>
    have ⟨first, others⟩ := List.forall_mem_cons.mp each
    rw [List.foldlM_cons]
    exact (first start).bind (ih others)

theorem FailsOnly.mapM {step : α → Result β} {items : List α} (each : ∀ item ∈ items, FailsOnly fault (step item)) :
    FailsOnly fault (items.mapM step) := by
  induction items with
  | nil => exact .ok []
  | cons item rest ih =>
    have ⟨first, others⟩ := List.forall_mem_cons.mp each
    rw [List.mapM_cons]
    exact first.bind fun value => (ih others).bind fun values => .ok (value :: values)

theorem FailsOnly.eq_error (only : FailsOnly fault action) (fails : ¬Succeeds action) : action = .error fault := by
  cases outcome : action with
  | error other => rw [only other outcome]
  | ok value => exact absurd ⟨value, outcome⟩ fails

end FailsOnly

theorem mapM_eq_error {step : α → Result β} {items : List α} {fault : Fault}
    (only : ∀ item ∈ items, FailsOnly fault (step item)) {item : α} (member : item ∈ items)
    (fails : step item = .error fault) : items.mapM step = .error fault := by
  induction items with
  | nil => cases member
  | cons first rest ih =>
    have ⟨firstOnly, restOnly⟩ := List.forall_mem_cons.mp only
    rw [List.mapM_cons]
    cases outcome : step first with
    | error other =>
      cases firstOnly other outcome
      rfl
    | ok value =>
      rcases List.mem_cons.mp member with rfl | later
      · cases outcome.symm.trans fails
      · rw [ok_bind, ih restOnly later]
        rfl

theorem mapM_map {γ : Type} {step : α → Result β} (change : β → γ) (items : List α) :
    items.mapM (fun item => change <$> step item) = List.map change <$> items.mapM step := by
  induction items with
  | nil => rfl
  | cons item rest ih =>
    rw [List.mapM_cons, List.mapM_cons, ih]
    cases step item with
    | error fault => rfl
    | ok value => cases rest.mapM step <;> rfl

theorem foldlM_keeps {step : β → α → Result β} (keeps : β → Prop) {items : List α}
    (each : ∀ item ∈ items, ∀ state next, keeps state → step state item = .ok next → keeps next) {start final : β}
    (holds : keeps start) (run : items.foldlM step start = .ok final) : keeps final := by
  induction items generalizing start with
  | nil =>
    cases run
    exact holds
  | cons item rest ih =>
    have ⟨first, others⟩ := List.forall_mem_cons.mp each
    rw [List.foldlM_cons] at run
    obtain ⟨next, here, later⟩ := bind_eq_ok.mp run
    exact ih others (first start next holds here) later

theorem foldlM_appends {γ : Type} {step : β → α → Result β} {view : β → List γ} {found : α → Result (List γ)}
    (each : ∀ state item next, step state item = .ok next →
      ∃ added, found item = .ok added ∧ view next = view state ++ added)
    {items : List α} {start final : β} (run : items.foldlM step start = .ok final) :
    ∃ lists, items.mapM found = .ok lists ∧ view final = view start ++ lists.flatten := by
  induction items generalizing start with
  | nil =>
    cases run
    exact ⟨[], rfl, (List.append_nil _).symm⟩
  | cons item rest ih =>
    rw [List.foldlM_cons] at run
    obtain ⟨next, here, later⟩ := bind_eq_ok.mp run
    obtain ⟨first, added, grown⟩ := each start item next here
    obtain ⟨lists, others, more⟩ := ih later
    refine ⟨first :: lists, ?_, ?_⟩
    · rw [List.mapM_cons, added, ok_bind, others]
      rfl
    · rw [more, grown, List.flatten_cons, List.append_assoc]

theorem of_mem_zip {step : α → Result β} {items : List α} {values : List β} (run : items.mapM step = .ok values) :
    ∀ pair ∈ items.zip values, step pair.1 = .ok pair.2 := by
  induction items generalizing values with
  | nil =>
    cases run
    exact fun _ member => (List.not_mem_nil member).elim
  | cons item rest ih =>
    rw [List.mapM_cons] at run
    obtain ⟨value, here, later⟩ := bind_eq_ok.mp run
    obtain ⟨others, there, done⟩ := bind_eq_ok.mp later
    cases done
    exact List.forall_mem_cons.mpr ⟨here, ih there⟩

theorem mem_of_mapM {step : α → Result β} {items : List α} {values : List β} (run : items.mapM step = .ok values) :
    ∀ value ∈ values, ∃ item ∈ items, step item = .ok value := by
  induction items generalizing values with
  | nil =>
    cases run
    exact fun _ member => (List.not_mem_nil member).elim
  | cons item rest ih =>
    rw [List.mapM_cons] at run
    obtain ⟨value, here, later⟩ := bind_eq_ok.mp run
    obtain ⟨others, there, done⟩ := bind_eq_ok.mp later
    cases done
    refine List.forall_mem_cons.mpr ⟨⟨item, List.mem_cons_self .., here⟩, fun other member => ?_⟩
    obtain ⟨item, member, found⟩ := ih there other member
    exact ⟨item, List.mem_cons_of_mem _ member, found⟩

theorem exists_of_mapM {step : α → Result β} {items : List α} {values : List β} (run : items.mapM step = .ok values) :
    ∀ item ∈ items, ∃ value ∈ values, step item = .ok value := by
  induction items generalizing values with
  | nil => exact fun _ member => (List.not_mem_nil member).elim
  | cons item rest ih =>
    rw [List.mapM_cons] at run
    obtain ⟨value, here, later⟩ := bind_eq_ok.mp run
    obtain ⟨others, there, done⟩ := bind_eq_ok.mp later
    cases done
    refine List.forall_mem_cons.mpr ⟨⟨value, List.mem_cons_self .., here⟩, fun other member => ?_⟩
    obtain ⟨value, member, found⟩ := ih there other member
    exact ⟨value, List.mem_cons_of_mem _ member, found⟩

theorem mapM_eq_ok {step : α → Result β} {items : List α} {values : List β} :
    items.mapM step = .ok values ↔ List.Forall₂ (fun item value => step item = .ok value) items values := by
  constructor
  · intro run
    induction items generalizing values with
    | nil =>
      cases run
      exact .nil
    | cons item rest ih =>
      rw [List.mapM_cons] at run
      obtain ⟨value, here, later⟩ := bind_eq_ok.mp run
      obtain ⟨others, there, done⟩ := bind_eq_ok.mp later
      cases done
      exact .cons here (ih there)
  · intro each
    induction each with
    | nil => rfl
    | cons here _ ih =>
      rw [List.mapM_cons, here, ok_bind, ih]
      rfl

theorem zip_of_mapM {step : α → Result β} {front back : List α} {item : α} {values : List β}
    (run : (front ++ item :: back).mapM step = .ok values) :
    ∃ first value last, step item = .ok value ∧
      (front ++ item :: back).zip values = front.zip first ++ (item, value) :: back.zip last := by
  induction front generalizing values with
  | nil =>
    rw [List.nil_append, List.mapM_cons] at run
    obtain ⟨value, here, later⟩ := bind_eq_ok.mp run
    obtain ⟨others, _, done⟩ := bind_eq_ok.mp later
    cases done
    exact ⟨[], value, others, here, rfl⟩
  | cons head rest ih =>
    rw [List.cons_append, List.mapM_cons] at run
    obtain ⟨value, _, later⟩ := bind_eq_ok.mp run
    obtain ⟨others, there, done⟩ := bind_eq_ok.mp later
    cases done
    obtain ⟨first, found, last, here, cut⟩ := ih there
    exact ⟨value :: first, found, last, here, congrArg ((head, value) :: ·) cut⟩

theorem forall_mem_flatten {step : α → Result (List β)} {holds : β → Prop} {items : List α}
    (each : ∀ item ∈ items, ∀ found, step item = .ok found → ∀ value ∈ found, holds value) {lists : List (List β)}
    (run : items.mapM step = .ok lists) : ∀ value ∈ lists.flatten, holds value := by
  induction items generalizing lists with
  | nil =>
    cases run
    exact fun _ member => (List.not_mem_nil member).elim
  | cons item rest ih =>
    have ⟨first, others⟩ := List.forall_mem_cons.mp each
    rw [List.mapM_cons] at run
    obtain ⟨found, here, later⟩ := bind_eq_ok.mp run
    obtain ⟨lists, there, done⟩ := bind_eq_ok.mp later
    cases done
    rw [List.flatten_cons]
    exact List.forall_mem_append.mpr ⟨first found here, ih others there⟩

theorem filterMap_flatten_sublist {γ : Type} {step : α → Result (List β)} {pick : β → Option γ} {yield : α → List γ}
    {items : List α}
    (each : ∀ item ∈ items, ∀ found, step item = .ok found → (found.filterMap pick).Sublist (yield item))
    {lists : List (List β)} (run : items.mapM step = .ok lists) :
    (lists.flatten.filterMap pick).Sublist (items.flatMap yield) := by
  induction items generalizing lists with
  | nil =>
    cases run
    exact .slnil
  | cons item rest ih =>
    have ⟨first, others⟩ := List.forall_mem_cons.mp each
    rw [List.mapM_cons] at run
    obtain ⟨found, here, later⟩ := bind_eq_ok.mp run
    obtain ⟨lists, there, done⟩ := bind_eq_ok.mp later
    cases done
    rw [List.flatten_cons, List.filterMap_append, List.flatMap_cons]
    exact (first found here).append (ih others there)

theorem mapM_eq_of_forall₂ {γ : Type} {step : α → Result β} {next : γ → Result β} {items : List α} {others : List γ}
    (same : List.Forall₂ (fun item other => step item = next other) items others) :
    items.mapM step = others.mapM next := by
  induction same with
  | nil => rfl
  | cons first _ ih => rw [List.mapM_cons, List.mapM_cons, first, ih]

theorem exists_of_mapM_error {step : α → Result β} {items : List α} {fault : Fault}
    (failed : items.mapM step = .error fault) : ∃ item ∈ items, step item = .error fault := by
  induction items with
  | nil => cases failed
  | cons item rest ih =>
    rw [List.mapM_cons] at failed
    cases here : step item with
    | error cause =>
      rw [here] at failed
      obtain rfl : cause = fault := Except.error.inj failed
      exact ⟨item, List.mem_cons_self .., here⟩
    | ok value =>
      rw [here, ok_bind] at failed
      cases later : rest.mapM step with
      | error cause =>
        rw [later] at failed
        obtain rfl : cause = fault := Except.error.inj failed
        obtain ⟨other, member, fails⟩ := ih later
        exact ⟨other, List.mem_cons_of_mem _ member, fails⟩
      | ok values =>
        rw [later] at failed
        cases failed

theorem getElem?_mapM {step : α → Result β} {items : List α} {values : List β} (run : items.mapM step = .ok values)
    {index : Nat} {item : α} (found : items[index]? = some item) :
    ∃ value, step item = .ok value ∧ values[index]? = some value := by
  induction items generalizing values index with
  | nil => cases found
  | cons head rest ih =>
    rw [List.mapM_cons] at run
    obtain ⟨value, here, later⟩ := bind_eq_ok.mp run
    obtain ⟨others, there, done⟩ := bind_eq_ok.mp later
    cases done
    cases index with
    | zero =>
      obtain rfl : head = item := Option.some.inj found
      exact ⟨value, here, rfl⟩
    | succ index => exact ih there found

section Keyed

variable {κ : Type} [DecidableEq κ] {step : κ × α → Result (κ × β)} {entries : List (κ × α)} {finals : List (κ × β)}

omit [DecidableEq κ] in
theorem keys_mapM (keeps : ∀ entry final, step entry = .ok final → final.1 = entry.1)
    (run : entries.mapM step = .ok finals) : Assoc.keys finals = Assoc.keys entries := by
  induction entries generalizing finals with
  | nil =>
    cases run
    rfl
  | cons entry rest ih =>
    rw [List.mapM_cons] at run
    obtain ⟨final, here, later⟩ := bind_eq_ok.mp run
    obtain ⟨others, there, done⟩ := bind_eq_ok.mp later
    cases done
    exact congrArg₂ List.cons (keeps entry final here) (ih there)

theorem get?_mapM (keeps : ∀ entry final, step entry = .ok final → final.1 = entry.1)
    (run : entries.mapM step = .ok finals) (key : κ) :
    match Assoc.get? entries key with
    | none => Assoc.get? finals key = none
    | some value => ∃ final, step (key, value) = .ok (key, final) ∧ Assoc.get? finals key = some final := by
  induction entries generalizing finals with
  | nil =>
    cases run
    rfl
  | cons entry rest ih =>
    rw [List.mapM_cons] at run
    obtain ⟨⟨name, final⟩, here, later⟩ := bind_eq_ok.mp run
    obtain ⟨others, there, done⟩ := bind_eq_ok.mp later
    cases done
    obtain ⟨name', value⟩ := entry
    obtain rfl : name = name' := keeps _ _ here
    rw [Assoc.get?, Assoc.get?]
    by_cases same : name = key
    · subst same
      rw [if_pos rfl, if_pos rfl]
      exact ⟨final, here, rfl⟩
    · rw [if_neg same, if_neg same]
      exact ih there

theorem mapM_adjust {step : κ × α → Result (κ × α)} (keeps : ∀ entry final, step entry = .ok final → final.1 = entry.1)
    {key : κ} (idle : ∀ value, step (key, value) = .ok (key, value)) (entries : List (κ × α)) (change : α → α) :
    (Assoc.adjust entries key change).mapM step = (Assoc.adjust · key change) <$> entries.mapM step := by
  induction entries with
  | nil => rfl
  | cons entry rest ih =>
    obtain ⟨key', value⟩ := entry
    by_cases same : key' = key
    · subst same
      rw [Assoc.adjust, if_pos rfl, List.mapM_cons, List.mapM_cons, idle, idle, ok_bind, ok_bind]
      cases rest.mapM step with
      | error fault => rfl
      | ok finals => exact congrArg Except.ok (if_pos rfl).symm
    · rw [Assoc.adjust, if_neg same, List.mapM_cons, List.mapM_cons, ih]
      cases done : step (key', value) with
      | error fault => rfl
      | ok final =>
        obtain ⟨key'', value'⟩ := final
        obtain rfl : key'' = key' := keeps _ _ done
        cases rest.mapM step with
        | error fault => rfl
        | ok finals => exact congrArg Except.ok (if_neg same).symm

end Keyed

theorem foldlM_congr {step other : β → α → Result β} {items : List α}
    (same : ∀ item ∈ items, ∀ state, step state item = other state item) (start : β) :
    items.foldlM step start = items.foldlM other start := by
  induction items generalizing start with
  | nil => rfl
  | cons item rest ih =>
    have ⟨first, others⟩ := List.forall_mem_cons.mp same
    rw [List.foldlM_cons, List.foldlM_cons, first start]
    exact congrArg (other start item >>= ·) (funext fun next => ih others next)

theorem foldlM_eq_of_forall₂ {γ : Type} {step : β → α → Result β} {next : β → γ → Result β} {items : List α}
    {others : List γ} (same : List.Forall₂ (fun item other => ∀ state, step state item = next state other) items others)
    (start : β) : items.foldlM step start = others.foldlM next start := by
  induction same generalizing start with
  | nil => rfl
  | @cons item other _ _ first _ ih =>
    rw [List.foldlM_cons, List.foldlM_cons, first]
    exact congrArg (next start other >>= ·) (funext ih)

theorem of_mem_foldlM {step : β → α → Result β} {items : List α} {start final : β}
    (run : items.foldlM step start = .ok final) {item : α} (member : item ∈ items) :
    ∃ state next, step state item = .ok next := by
  induction items generalizing start with
  | nil => cases member
  | cons head rest ih =>
    rw [List.foldlM_cons] at run
    obtain ⟨next, here, later⟩ := bind_eq_ok.mp run
    rcases List.mem_cons.mp member with rfl | later'
    · exact ⟨start, next, here⟩
    · exact ih later later'

theorem foldlM_zip {γ : Type} {find : α → Result γ} {step : β → α × γ → Result β} {items : List α} {values : List γ}
    (found : items.mapM find = .ok values) (start : β) :
    (items.zip values).foldlM step start =
      items.foldlM (fun state item => find item >>= fun value => step state (item, value)) start := by
  induction items generalizing values start with
  | nil =>
    cases found
    rfl
  | cons item rest ih =>
    rw [List.mapM_cons] at found
    obtain ⟨value, here, later⟩ := bind_eq_ok.mp found
    obtain ⟨others, there, done⟩ := bind_eq_ok.mp later
    cases done
    rw [List.zip_cons_cons, List.foldlM_cons, List.foldlM_cons, here, ok_bind]
    exact congrArg (step start (item, value) >>= ·) (funext (ih there))

theorem foldlM_comm {step : β → α → Result β} {change : β → β} {items : List α}
    (each : ∀ item ∈ items, ∀ state, step (change state) item = change <$> step state item) (start : β) :
    items.foldlM step (change start) = change <$> items.foldlM step start := by
  induction items generalizing start with
  | nil => rfl
  | cons item rest ih =>
    have ⟨first, others⟩ := List.forall_mem_cons.mp each
    rw [List.foldlM_cons, List.foldlM_cons, first start]
    cases step start item with
    | error fault => rfl
    | ok next => exact ih others next

theorem foldlM_eq_map {γ : Type} {step : β → α → Result β} {find : α → Result γ} {add : β → γ → β} (keeps : β → Prop)
    (kept : ∀ state value, keeps state → keeps (add state value)) {items : List α}
    (each : ∀ item ∈ items, ∀ state, keeps state → step state item = add state <$> find item) {start : β}
    (holds : keeps start) :
    items.foldlM step start = (fun found => found.foldl add start) <$> items.mapM find := by
  induction items generalizing start with
  | nil => rfl
  | cons item rest ih =>
    have ⟨first, others⟩ := List.forall_mem_cons.mp each
    rw [List.foldlM_cons, List.mapM_cons, first start holds]
    cases find item with
    | error fault => rfl
    | ok value =>
      have later := ih others (kept start value holds)
      rw [ok_bind, map_bind]
      change rest.foldlM step (add start value) = _
      rw [later]
      cases rest.mapM find <;> rfl

theorem foldlM_filter {step : β → α → Result β} {keeps : α → Bool} {items : List α}
    (idle : ∀ item ∈ items, keeps item = false → ∀ state, step state item = .ok state) (start : β) :
    items.foldlM step start = (items.filter keeps).foldlM step start := by
  induction items generalizing start with
  | nil => rfl
  | cons item rest ih =>
    have ⟨first, others⟩ := List.forall_mem_cons.mp idle
    rw [List.foldlM_cons]
    cases kept : keeps item with
    | false =>
      rw [first kept, ok_bind, ih others, List.filter_cons_of_neg (Bool.not_eq_true _ ▸ kept)]
    | true =>
      rw [List.filter_cons_of_pos kept, List.foldlM_cons]
      exact congrArg (step start item >>= ·) (funext (ih others))

theorem foldl_eq_self {step : β → α → β} {items : List α} {state : β}
    (fixed : ∀ item ∈ items, step state item = state) : items.foldl step state = state :=
  List.foldlRecOn (motive := fun current => current = state) items step rfl fun _ same item member =>
    same.symm ▸ fixed item member

/-- Outcomes that fail alike or have related values. -/
inductive Matches (related : α → β → Prop) : Result α → Result β → Prop where
  | ok {value : α} {other : β} (values : related value other) : Matches related (.ok value) (.ok other)
  | error (fault : Fault) : Matches related (.error fault) (.error fault)

end Reconcile.Result
