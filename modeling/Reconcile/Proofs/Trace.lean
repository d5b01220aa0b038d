import Reconcile.Difference.Delta
import Reconcile.Proofs.Document
import Reconcile.Trace

/-!
What a trace gives away. Documents that differ only in what they file under secret keys are shown alike, and every
secret that is shown is blank. Of a change that leads to a secret itself the trace shows just that secret.
-/

namespace Reconcile

namespace Trace

/-- Whether a value that stands under a key is a secret. Containers are none, whatever their key is. -/
def isSecret (key : Key) (value : Value) : Bool :=
  soundsSecret key && !value.isContainer

mutual

/-- Whether two documents differ in secrets at most. -/
def Alike : Value → Value → Prop
  | .list items, .list others => AlikeItems items others
  | .object fields, .object others => AlikeFields fields others
  | value, other => value = other

def AlikeItems : List Value → List Value → Prop
  | [], [] => True
  | item :: rest, other :: others => Alike item other ∧ AlikeItems rest others
  | _, _ => False

def AlikeFields : Fields → Fields → Prop
  | [], [] => True
  | (key, value) :: rest, (key', other) :: others =>
    key = key' ∧ (isSecret key value = true ∧ isSecret key other = true ∨ Alike value other) ∧ AlikeFields rest others
  | _, _ => False

end

def shownField (key : Key) (value : Value) : Value :=
  if isSecret key value then .text blank else censored value

theorem censoredFields_cons (key : Key) (value : Value) (rest : Fields) :
    censoredFields ((key, value) :: rest) = (key, shownField key value) :: censoredFields rest := rfl

theorem isContainer_censored (value : Value) : (censored value).isContainer = value.isContainer := by
  cases value <;> rfl

theorem isContainer_of_isSecret {key : Key} {value : Value} (secret : isSecret key value = true) :
    value.isContainer = false := by
  simpa using (Bool.and_eq_true_iff.mp secret).2

theorem censored_of_scalar {value : Value} (scalar : value.isContainer = false) : censored value = value := by
  cases value <;> first | rfl | cases scalar

theorem alike_of_scalar {value other : Value} (scalar : value.isContainer = false) :
    Alike value other ↔ value = other := by
  cases value with
  | list items => cases scalar
  | object fields => cases scalar
  | _ => rw [Alike] <;> simp

theorem isContainer_of_alike {value other : Value} (alike : Alike value other) :
    value.isContainer = other.isContainer := by
  cases value <;> cases other <;> first | rfl | cases alike

theorem isContainer_shownField (key : Key) (value : Value) :
    (shownField key value).isContainer = value.isContainer := by
  unfold shownField
  split
  next secret => exact (isContainer_of_isSecret secret).symm
  next => exact isContainer_censored value

theorem shownField_eq_iff {key : Key} {value other : Value}
    (same : censored value = censored other ↔ Alike value other) :
    shownField key value = shownField key other ↔
      isSecret key value = true ∧ isSecret key other = true ∨ Alike value other := by
  by_cases level : value.isContainer = other.isContainer
  · have secrets : isSecret key other = isSecret key value := by rw [isSecret, isSecret, level]
    unfold shownField
    rw [secrets]
    cases isSecret key value with
    | true => simp
    | false => simpa using same
  · -- A container never looks like a scalar, and only scalars are secrets.
    refine iff_of_false (fun shown => level ?_) ?_
    · rw [← isContainer_shownField key value, shown, isContainer_shownField]
    · rintro (⟨secret, otherSecret⟩ | alike)
      · exact level ((isContainer_of_isSecret secret).trans (isContainer_of_isSecret otherSecret).symm)
      · exact level (isContainer_of_alike alike)

theorem censoredItems_eq_iff {items others : List Value}
    (each : ∀ item ∈ items, ∀ other, censored item = censored other ↔ Alike item other) :
    censoredItems items = censoredItems others ↔ AlikeItems items others := by
  induction items generalizing others with
  | nil => cases others <;> simp [censoredItems, AlikeItems]
  | cons item rest ih =>
    have ⟨first, later⟩ := List.forall_mem_cons.mp each
    cases others with
    | nil => simp [censoredItems, AlikeItems]
    | cons other others => rw [censoredItems, censoredItems, AlikeItems, List.cons.injEq, first, ih later]

theorem censoredFields_eq_iff {fields others : Fields}
    (each : ∀ entry ∈ fields, ∀ other, censored entry.2 = censored other ↔ Alike entry.2 other) :
    censoredFields fields = censoredFields others ↔ AlikeFields fields others := by
  induction fields generalizing others with
  | nil => cases others <;> simp [censoredFields, AlikeFields]
  | cons entry rest ih =>
    obtain ⟨key, value⟩ := entry
    have ⟨first, later⟩ := List.forall_mem_cons.mp each
    cases others with
    | nil => simp [censoredFields, AlikeFields]
    | cons entry others =>
      obtain ⟨key', other⟩ := entry
      rw [censoredFields_cons, censoredFields_cons, AlikeFields, List.cons.injEq, Prod.mk.injEq, ih later, and_assoc]
      refine and_congr_right fun same => ?_
      subst same
      rw [shownField_eq_iff (first other)]

theorem censored_eq_iff (value other : Value) : censored value = censored other ↔ Alike value other := by
  induction value using Value.byParts generalizing other with
  | scalar value scalar =>
    rw [alike_of_scalar scalar]
    exact Value.eq_iff_of_scalar isContainer_censored censored_of_scalar scalar
  | list items each =>
    cases other with
    | list others => rw [censored, censored, Alike, Value.list.injEq, censoredItems_eq_iff each]
    | _ => exact iff_of_false (fun same => by cases same) (fun alike => by cases alike)
  | object fields each =>
    cases other with
    | object others => rw [censored, censored, Alike, Value.object.injEq, censoredFields_eq_iff each]
    | _ => exact iff_of_false (fun same => by cases same) (fun alike => by cases alike)

/-- Whether a document files a value under a key, at any depth. -/
inductive Holds (key : Key) (value : Value) : Value → Prop where
  | here {fields : Fields} (member : (key, value) ∈ fields) : Holds key value (.object fields)
  | field {fields : Fields} {entry : Key × Value} (member : entry ∈ fields) (inside : Holds key value entry.2) :
      Holds key value (.object fields)
  | item {items : List Value} {item : Value} (member : item ∈ items) (inside : Holds key value item) :
      Holds key value (.list items)

theorem censoredItems_eq_map (items : List Value) : censoredItems items = items.map censored := by
  induction items with
  | nil => rfl
  | cons item rest ih => rw [censoredItems, ih, List.map_cons]

theorem censoredFields_eq_map (fields : Fields) :
    censoredFields fields = fields.map fun entry => (entry.1, shownField entry.1 entry.2) := by
  induction fields with
  | nil => rfl
  | cons entry rest ih =>
    obtain ⟨key, value⟩ := entry
    rw [censoredFields_cons, ih, List.map_cons]

theorem shownField_of_isSecret {key : Key} {value : Value} (secret : isSecret key (shownField key value) = true) :
    shownField key value = .text blank := by
  rw [isSecret, isContainer_shownField, ← isSecret] at secret
  exact if_pos secret

theorem blank_of_holds {key : Key} {secret : Value} (sounds : isSecret key secret = true) (document : Value)
    (holds : Holds key secret (censored document)) : secret = .text blank := by
  induction document using Value.byParts with
  | scalar value scalar =>
    rw [censored_of_scalar scalar] at holds
    cases holds <;> cases scalar
  | list items each =>
    rw [censored, censoredItems_eq_map] at holds
    cases holds with
    | item member inside =>
      obtain ⟨item, present, rfl⟩ := List.mem_map.mp member
      exact each item present inside
  | object fields each =>
    rw [censored, censoredFields_eq_map] at holds
    cases holds with
    | here member =>
      obtain ⟨entry, _, same⟩ := List.mem_map.mp member
      cases same
      exact shownField_of_isSecret sounds
    | field member inside =>
      obtain ⟨entry, present, rfl⟩ := List.mem_map.mp member
      dsimp only [shownField] at inside
      split at inside
      next => cases inside
      next => exact each entry present inside

def payload (found : List Change) : Value :=
  censored (.list (found.map Change.outline))

def isSecretAt (path : Path) (value : Value) : Bool :=
  path.getLast?.any fun key => isSecret key value

/-- Whether two values at the end of a path differ in secrets at most, the values themselves included. -/
def AlikeAt (path : Path) (value other : Value) : Prop :=
  isSecretAt path value = true ∧ isSecretAt path other = true ∨ Alike value other

/-- Whether two changes differ in secrets at most. -/
inductive AlikeChange : Change → Change → Prop where
  | create {path : Path} {after other : Value} (alike : AlikeAt path after other) :
      AlikeChange ⟨path, .create after⟩ ⟨path, .create other⟩
  | modify {path : Path} {before after other later : Value} (alike : AlikeAt path before other)
      (alikeAfter : AlikeAt path after later) :
      AlikeChange ⟨path, .modify before after⟩ ⟨path, .modify other later⟩
  | delete {path : Path} {before other : Value} (alike : AlikeAt path before other) :
      AlikeChange ⟨path, .delete before⟩ ⟨path, .delete other⟩

def exposed (change : Change) : Option Value × Option Value :=
  (change.before?.filter (isSecretAt change.path), change.after?.filter (isSecretAt change.path))

theorem isSecretAt_eq (path : Path) (value : Value) :
    isSecretAt path value = (path.getLast?.any soundsSecret && !value.isContainer) := by
  unfold isSecretAt
  cases path.getLast? with
  | none => rfl
  | some key => rw [Option.any_some, Option.any_some, isSecret]

theorem isContainer_of_isSecretAt {path : Path} {value : Value} (secret : isSecretAt path value = true) :
    value.isContainer = false := by
  rw [isSecretAt_eq] at secret
  simpa using (Bool.and_eq_true_iff.mp secret).2

theorem alike_iff_of_alikeAt {path : Path} {value other : Value} (alike : AlikeAt path value other) :
    Alike value other ↔ (some value).filter (isSecretAt path) = (some other).filter (isSecretAt path) := by
  rcases alike with ⟨secret, otherSecret⟩ | alike
  · rw [alike_of_scalar (isContainer_of_isSecretAt secret), Option.filter_some_pos secret,
      Option.filter_some_pos otherSecret, Option.some.injEq]
  · refine iff_of_true alike ?_
    cases secret : isSecretAt path value with
    | true => rw [(alike_of_scalar (isContainer_of_isSecretAt secret)).mp alike]
    | false =>
      have otherSecret : isSecretAt path other = false := by
        rw [isSecretAt_eq] at secret ⊢
        rw [← isContainer_of_alike alike, secret]
      rw [Option.filter_some_neg (by simp [secret]), Option.filter_some_neg (by simp [otherSecret])]

theorem shownField_lhs (value : Value) : shownField "lhs" value = censored value := by
  have plain : soundsSecret "lhs" = false := by decide +kernel
  simp [shownField, isSecret, plain]

theorem shownField_rhs (value : Value) : shownField "rhs" value = censored value := by
  have plain : soundsSecret "rhs" = false := by decide +kernel
  simp [shownField, isSecret, plain]

theorem censored_outline_iff {left right : Change} (alike : AlikeChange left right) :
    censored left.outline = censored right.outline ↔ exposed left = exposed right := by
  cases alike with
  | create alike =>
    have same := (censored_eq_iff _ _).trans (alike_iff_of_alikeAt alike)
    simp [Change.outline, Change.kind, Change.before?, Change.after?, exposed, censored, censoredFields_eq_map,
      shownField_rhs, same]
  | modify alike alikeAfter =>
    have same := (censored_eq_iff _ _).trans (alike_iff_of_alikeAt alike)
    have sameAfter := (censored_eq_iff _ _).trans (alike_iff_of_alikeAt alikeAfter)
    simp [Change.outline, Change.kind, Change.before?, Change.after?, exposed, censored, censoredFields_eq_map,
      shownField_lhs, shownField_rhs, same, sameAfter]
  | delete alike =>
    have same := (censored_eq_iff _ _).trans (alike_iff_of_alikeAt alike)
    simp [Change.outline, Change.kind, Change.before?, Change.after?, exposed, censored, censoredFields_eq_map,
      shownField_lhs, same]

theorem payload_eq_iff {found others : List Change} (alike : List.Forall₂ AlikeChange found others) :
    payload found = payload others ↔ found.map exposed = others.map exposed := by
  rw [payload, payload, censored, censored, Value.list.injEq, censoredItems_eq_map, censoredItems_eq_map]
  induction alike with
  | nil => simp
  | cons first _ ih => simpa [censored_outline_iff first] using fun _ => ih

theorem shown_changes {tracer : Tracer} (listening : tracer.hasListener = true) (found : List Change) (book : Book) :
    (changes tracer found book).1.shown = book.shown ++ [⟨"diff", tracer.task, payload found⟩] := by
  unfold changes publish tell write
  simp only [listening, Bool.not_true, Bool.false_eq_true, ↓reduceIte]
  split
  next => rfl
  next => split <;> rfl

/-- What a listener hears of the changes between two configurations holds no secret under its key that is not blank.
When two lists of changes differ in secrets at most, the listener hears the same of both exactly when the changes that
lead to a secret itself lead to the same secrets: those are shown, and they are all that is. -/
theorem changes_discreet {tracer : Tracer} (listening : tracer.hasListener = true) (book : Book)
    {found others : List Change} (alike : List.Forall₂ AlikeChange found others) :
    (changes tracer found book).1.shown = book.shown ++ [⟨"diff", tracer.task, payload found⟩] ∧
      (∀ key secret, isSecret key secret = true → Holds key secret (payload found) → secret = .text blank) ∧
      ((changes tracer found book).1.shown = (changes tracer others book).1.shown ↔
        found.map exposed = others.map exposed) := by
  refine ⟨shown_changes listening found book, fun key secret sounds holds => blank_of_holds sounds _ holds, ?_⟩
  rw [shown_changes listening, shown_changes listening, ← payload_eq_iff alike]
  simp

def newUser (password : String) : List Change :=
  [⟨["Common", "SnmpUser", "u"], .create (.object [("authPassword", .text password), ("port", .int 161)])⟩]

/-- The password of a new user is not heard. -/
theorem changes_discreet_newUser :
    let tracer : Tracer := { hasListener := true }
    tracer.hasListener = true ∧ List.Forall₂ AlikeChange (newUser "one") (newUser "two") ∧
      (changes tracer (newUser "one") {}).1.shown = (changes tracer (newUser "two") {}).1.shown := by
  intro tracer
  have listening : tracer.hasListener = true := rfl
  have secret : ∀ password, isSecret "authPassword" (.text password) = true := by
    intro password
    have sounds : soundsSecret "authPassword" = true := by decide +kernel
    exact Bool.and_eq_true_iff.mpr ⟨sounds, rfl⟩
  have alike : List.Forall₂ AlikeChange (newUser "one") (newUser "two") := by
    refine .cons (.create (.inr ?_)) .nil
    simp [Alike, AlikeFields, secret]
  have ⟨_, _, same⟩ := changes_discreet listening {} alike
  exact ⟨listening, alike, same.mpr rfl⟩

def withUser (password : String) : Value :=
  .object [("Common", .object [("SnmpUser", .object [("u", .object [("authPassword", .text password)])])])]

def changedPassword (password : String) : List Change :=
  [⟨["Common", "SnmpUser", "u", "authPassword"], .modify (.text "old") (.text password)⟩]

theorem new_password_found :
    ∃ delta, Comparison.delta {} (withUser "new") (withUser "old") .null = .ok delta ∧
      delta.changes = changedPassword "new" :=
  ⟨_, rfl, rfl⟩

theorem newer_password_found :
    ∃ delta, Comparison.delta {} (withUser "newer") (withUser "old") .null = .ok delta ∧
      delta.changes = changedPassword "newer" :=
  ⟨_, rfl, rfl⟩

/-- A password that is changed is shown as it was and as it shall be. -/
theorem changed_password_shown :
    let tracer : Tracer := { hasListener := true }
    ∃ delta other, Comparison.delta {} (withUser "new") (withUser "old") .null = .ok delta ∧
      Comparison.delta {} (withUser "newer") (withUser "old") .null = .ok other ∧
      List.Forall₂ AlikeChange delta.changes other.changes ∧
      (changes tracer delta.changes {}).1.shown ≠ (changes tracer other.changes {}).1.shown := by
  intro tracer
  have listening : tracer.hasListener = true := rfl
  have secret : ∀ password, isSecretAt ["Common", "SnmpUser", "u", "authPassword"] (.text password) = true := by
    intro password
    have sounds : soundsSecret "authPassword" = true := by decide +kernel
    exact Bool.and_eq_true_iff.mpr ⟨sounds, rfl⟩
  have alike : List.Forall₂ AlikeChange (changedPassword "new") (changedPassword "newer") :=
    .cons (.modify (.inl ⟨secret _, secret _⟩) (.inl ⟨secret _, secret _⟩)) .nil
  obtain ⟨delta, compared, found⟩ := new_password_found
  obtain ⟨other, comparedOther, foundOther⟩ := newer_password_found
  refine ⟨delta, other, compared, comparedOther, ?_, fun same => ?_⟩
  · rw [found, foundOther]
    exact alike
  · rw [shown_changes listening, shown_changes listening, found, foundOther] at same
    have heard : payload (changedPassword "new") = payload (changedPassword "newer") := by simpa using same
    have leads := (payload_eq_iff alike).mp heard
    simp [changedPassword, exposed, Change.before?, Change.after?, Option.filter, secret] at leads

end Trace

end Reconcile
