import Mathlib.Logic.Function.Basic
import Reconcile.Baseline.Store
import Reconcile.Proofs.Naming

/-!
Baselines kept on file. What is recorded is read back without complaint, and as long as no two machines share a file,
any run of calls is served from files as it is from memory.
-/

namespace Reconcile

theorem BaselineRecord.ofDocument_document (id : String) (record : BaselineRecord) :
    ofDocument id record.document = .ok {
      id
      config := record.config.orElse .empty
      checksum := record.checksum
      updatedAt := readTime (.ofText? (record.updatedAt.map Timestamp.text)) } := rfl

namespace BaselineStore

def filed (owner : String) (config : Value) (checksum : String) (saved : Timestamp) : StoredFile :=
  .document (BaselineRecord.document ⟨owner, config, .text checksum, some saved⟩)

theorem set_files {config : Value} {checksum : String} (computed : config.checksum = .ok checksum) (id : String)
    (now : Timestamp) (contents : List (String × StoredFile)) :
    set id config (.files now contents) =
      .ok (.files now (Assoc.put contents (fileName id) (filed id config checksum now))) := by
  simp only [set, BaselineRecord.ofConfig, computed]
  rfl

theorem set_files_unordered {config : Value} {left right : Key} (unordered : config.unordered? = some (left, right))
    (id : String) (now : Timestamp) (contents : List (String × StoredFile)) :
    set id config (.files now contents) = .error (.unordered left right) := by
  simp only [set, BaselineRecord.ofConfig, Value.checksum_of_unordered unordered]
  rfl

theorem readFile_filed {fields : Fields} {checksum : String} (computed : (Value.object fields).checksum = .ok checksum)
    (id owner : String) (saved : Timestamp) (log : Log) :
    readFile id (filed owner (.object fields) checksum saved) log = (.ok (.object fields), log) := by
  have given : (Value.object fields).orElse .empty = .object fields := by cases fields <;> rfl
  have genuine : BaselineRecord.isGenuine ⟨id, .object fields, .text checksum,
      BaselineRecord.readTime (.ofText? (Option.map Timestamp.text (some saved)))⟩ = .ok true := by
    simp only [BaselineRecord.isGenuine, computed]
    split
    next => exact congrArg Except.ok (beq_self_eq_true checksum)
    next => rfl
  simp only [readFile, filed, BaselineRecord.ofDocument_document, given, genuine]
  rfl

end BaselineStore

/-- What is asked of a store. Every saving has a time of its own. -/
inductive StoreCall where
  | set (now : Timestamp) (id : String) (config : Value)
  | get (id : String)
  | delete (id : String)

namespace StoreCall

def id : StoreCall → String
  | .set _ id _ | .get id | .delete id => id

/-- Whether what a call records, if it records anything, is an object that files by name at every depth. -/
def RecordsNamed : StoreCall → Prop
  | .set _ _ config => config.isObject = true ∧ config.isNamed = true
  | .get _ | .delete _ => True

end StoreCall

inductive StoreReply where
  | set (outcome : Result Unit)
  | get (outcome : Result (Option Value))
  | delete (present : Bool)

namespace StoreCall

def reply (held : Option Value) : StoreCall → StoreReply
  | .set _ _ _ => .set (.ok ())
  | .get _ => .get (.ok held)
  | .delete _ => .delete held.isSome

def leaves (held : Option Value) : StoreCall → Option Value
  | .set _ _ config => some config
  | .get _ => held
  | .delete _ => none

end StoreCall

structure ServedCall where
  call : StoreCall
  reply : StoreReply
  log : Log

namespace StoreCall

/-- What calls come to when this is held for each machine. -/
def replies (shelf : String → Option Value) : List StoreCall → List ServedCall
  | [] => []
  | call :: rest =>
    ⟨call, call.reply (shelf call.id), []⟩ :: replies (Function.update shelf call.id (call.leaves (shelf call.id))) rest

theorem log_of_mem_replies {shelf : String → Option Value} {calls : List StoreCall} :
    ∀ served ∈ replies shelf calls, served.log = [] := by
  induction calls generalizing shelf with
  | nil => exact fun _ member => absurd member List.not_mem_nil
  | cons call rest ih => exact List.forall_mem_cons.mpr ⟨rfl, ih⟩

/-- What comes of the calls for one machine does not depend on the other calls, nor on what is held for others. -/
theorem replies_filter (id : String) {shelf other : String → Option Value} (same : shelf id = other id)
    (calls : List StoreCall) :
    (replies shelf calls).filter (fun served => served.call.id = id) =
      replies other (calls.filter fun call => call.id = id) := by
  induction calls generalizing shelf other with
  | nil => rfl
  | cons call rest ih =>
    by_cases here : call.id = id
    · have left : Function.update shelf call.id (call.leaves (shelf call.id)) id =
          Function.update other call.id (call.leaves (other call.id)) id := by
        rw [here, same, Function.update_self, Function.update_self]
      simp only [replies, List.filter_cons, here, decide_true, ↓reduceIte, same] at left ⊢
      rw [ih left]
    · have left : Function.update shelf call.id (call.leaves (shelf call.id)) id = other id := by
        rw [Function.update_of_ne (Ne.symm here), same]
      simp only [replies, List.filter_cons, here, decide_false, Bool.false_eq_true, ↓reduceIte]
      exact ih left

end StoreCall

namespace BaselineStore

def reset (now : Timestamp) : BaselineStore → BaselineStore
  | .memory baselines => .memory baselines
  | .files _ contents => .files now contents

def serve (store : BaselineStore) (call : StoreCall) : ServedCall × BaselineStore :=
  match call with
  | .set now id config =>
    match (store.reset now).set id config with
    | .ok later => (⟨call, .set (.ok ()), []⟩, later)
    | .error fault => (⟨call, .set (.error fault), []⟩, store)
  | .get id =>
    let (outcome, log) := store.get id []
    (⟨call, .get outcome, log⟩, store)
  | .delete id =>
    let (present, later) := store.delete id
    (⟨call, .delete present, []⟩, later)

def history (store : BaselineStore) : List StoreCall → List ServedCall
  | [] => []
  | call :: rest =>
    let done := store.serve call
    done.1 :: done.2.history rest

def place : BaselineStore → String → String
  | .memory _, id => id
  | .files _ _, id => fileName id

inductive Filed : Option Value → Option StoredFile → Prop where
  | nothing : Filed none none
  | baseline {fields : Fields} {checksum : String} (computed : (Value.object fields).checksum = .ok checksum)
      (owner : String) (saved : Timestamp) :
      Filed (some (.object fields)) (some (filed owner (.object fields) checksum saved))

/-- Whether this is what a store holds for a machine. -/
def Holds (id : String) (held : Option Value) : BaselineStore → Prop
  | .memory baselines => Assoc.get? baselines id = held ∧ ∀ config ∈ held, config.isObject = true
  | .files _ contents => Filed held (Assoc.get? contents (fileName id))

theorem Filed.isSome_eq {held : Option Value} {file? : Option StoredFile} (filed : Filed held file?) :
    file?.isSome = held.isSome := by
  cases filed <;> rfl

theorem filter_of_isObject {held : Option Value} (isObject : ∀ config ∈ held, config.isObject = true) :
    held.filter (fun config => !config.isNull) = held := by
  cases held with
  | none => rfl
  | some config => cases config <;> first | rfl | cases isObject _ rfl

theorem get_of_holds {store : BaselineStore} {id : String} {held : Option Value} (holds : store.Holds id held)
    (log : Log) : store.get id log = (.ok held, log) := by
  cases store with
  | memory baselines =>
    obtain ⟨found, isObject⟩ := holds
    simp only [get, found, filter_of_isObject isObject]
    rfl
  | files now contents =>
    change Filed held (Assoc.get? contents (fileName id)) at holds
    unfold get
    dsimp only
    generalize Assoc.get? contents (fileName id) = file? at holds ⊢
    cases holds with
    | nothing => rfl
    | baseline computed owner saved =>
      have read := readFile_filed computed id owner saved log
      simp only [Functor.map, ExceptT.map, ExceptT.mk, bind, StateT.bind, read]
      rfl

theorem delete_of_holds {store : BaselineStore} {id : String} {held : Option Value} (holds : store.Holds id held) :
    (store.delete id).1 = held.isSome ∧ (store.delete id).2.Holds id none := by
  cases store with
  | memory baselines =>
    obtain ⟨found, isObject⟩ := holds
    refine ⟨?_, Assoc.get?_erase_self .., fun config member => by cases member⟩
    simp only [delete, found, filter_of_isObject isObject]
  | files now contents =>
    refine ⟨Filed.isSome_eq holds, ?_⟩
    simp only [delete, Holds, Assoc.get?_erase_self]
    exact .nothing

theorem set_of_ordered {fields : Fields} (ordered : (Value.object fields).unordered? = none) (store : BaselineStore)
    (id : String) :
    ∃ later, store.set id (.object fields) = .ok later ∧ later.Holds id (some (.object fields)) := by
  cases store with
  | memory baselines =>
    exact ⟨_, rfl, Assoc.get?_put_self .., fun config member => by cases member; rfl⟩
  | files now contents =>
    obtain ⟨checksum, computed⟩ := Value.checksum_of_ordered ordered
    refine ⟨_, set_files computed id now contents, ?_⟩
    simp only [Holds, Assoc.get?_put_self]
    exact .baseline computed id now

theorem place_serve (store : BaselineStore) (call : StoreCall) : (store.serve call).2.place = store.place := by
  cases store with
  | memory baselines => cases call <;> rfl
  | files now contents =>
    cases call with
    | set now id config =>
      simp only [serve, reset, set]
      cases BaselineRecord.ofConfig id config now <;> rfl
    | _ => rfl

/-- The reply to a call depends on what is held for its machine alone. -/
theorem serve_holds {store : BaselineStore} {call : StoreCall} (named : call.RecordsNamed) {held : Option Value}
    (holds : store.Holds call.id held) :
    (store.serve call).1 = ⟨call, call.reply held, []⟩ ∧ (store.serve call).2.Holds call.id (call.leaves held) := by
  cases call with
  | set now id config =>
    obtain ⟨isObject, isNamed⟩ := named
    cases config with
    | object fields =>
      have ⟨later, recorded, holds⟩ := set_of_ordered (Value.unordered?_of_isNamed _ isNamed) (store.reset now) id
      simp only [serve, recorded]
      exact ⟨rfl, holds⟩
    | _ => cases isObject
  | get id =>
    have found : store.get id [] = (.ok held, []) := get_of_holds holds []
    simp only [serve, found]
    exact ⟨rfl, holds⟩
  | delete id =>
    have ⟨present, gone⟩ : (store.delete id).1 = held.isSome ∧ (store.delete id).2.Holds id none :=
      delete_of_holds holds
    simp only [serve, StoreCall.reply, present]
    exact ⟨trivial, gone⟩

theorem serve_frame {store : BaselineStore} {call : StoreCall} {id : String}
    (apart : store.place call.id ≠ store.place id) {held : Option Value} (holds : store.Holds id held) :
    (store.serve call).2.Holds id held := by
  cases store with
  | memory baselines =>
    cases call with
    | set now other config => exact ⟨(Assoc.get?_put_of_ne apart config).trans holds.1, holds.2⟩
    | get other => exact holds
    | delete other => exact ⟨(Assoc.get?_erase_of_ne apart).trans holds.1, holds.2⟩
  | files now contents =>
    have other : fileName call.id ≠ fileName id := apart
    cases call with
    | set saved owner config =>
      simp only [serve, reset, set]
      cases BaselineRecord.ofConfig owner config saved with
      | error fault => exact holds
      | ok record =>
        have frame : Assoc.get? (Assoc.put contents (fileName owner) (.document record.document)) (fileName id) =
            Assoc.get? contents (fileName id) := Assoc.get?_put_of_ne other _
        exact Eq.subst (motive := Filed held) frame.symm holds
    | get owner => exact holds
    | delete owner =>
      have frame : Assoc.get? (Assoc.erase contents (fileName owner)) (fileName id) =
          Assoc.get? contents (fileName id) := Assoc.get?_erase_of_ne other
      exact Eq.subst (motive := Filed held) frame.symm holds

/-- Whether calls about different machines go to different places. -/
def KeepsApart (store : BaselineStore) (calls : List StoreCall) : Prop :=
  ∀ call ∈ calls, ∀ other ∈ calls, store.place call.id = store.place other.id → call.id = other.id

/-- A store that keeps machines apart serves calls by what it holds for each of them. -/
theorem history_eq_replies {store : BaselineStore} {calls : List StoreCall} (named : ∀ call ∈ calls, call.RecordsNamed)
    (apart : store.KeepsApart calls) {shelf : String → Option Value}
    (holds : ∀ call ∈ calls, store.Holds call.id (shelf call.id)) :
    store.history calls = StoreCall.replies shelf calls := by
  induction calls generalizing store shelf with
  | nil => rfl
  | cons call rest ih =>
    have ⟨callNamed, restNamed⟩ := List.forall_mem_cons.mp named
    have ⟨callHolds, restHolds⟩ := List.forall_mem_cons.mp holds
    have ⟨reply, left⟩ := serve_holds callNamed callHolds
    have later : (store.serve call).2.KeepsApart rest := by
      intro first firstMember second secondMember same
      rw [place_serve] at same
      exact apart first (List.mem_cons_of_mem _ firstMember) second (List.mem_cons_of_mem _ secondMember) same
    rw [history, StoreCall.replies, ← reply]
    refine congrArg (_ :: ·) (ih restNamed later fun other member => ?_)
    by_cases here : other.id = call.id
    · rw [here, Function.update_self]
      exact left
    · rw [Function.update_of_ne here]
      refine serve_frame (fun same => here ?_) (restHolds other member)
      exact (apart call (List.mem_cons_self ..) other (List.mem_cons_of_mem _ member) same).symm

theorem history_inMemory {calls : List StoreCall} (named : ∀ call ∈ calls, call.RecordsNamed) :
    inMemory.history calls = StoreCall.replies (fun _ => none) calls := by
  have apart : inMemory.KeepsApart calls := fun _ _ _ _ same => same
  exact history_eq_replies named apart fun _ _ => ⟨rfl, fun config member => by cases member⟩

/-- From the beginning, files serve every run of calls exactly as memory does, without a warning, as long as what is
recorded files by name and no two machines share a file. What comes of the calls for one machine is then what would
come of them alone. -/
theorem files_serve_as_memory {calls : List StoreCall} (named : ∀ call ∈ calls, call.RecordsNamed) (now : Timestamp)
    (apart : (files now []).KeepsApart calls) :
    (files now []).history calls = inMemory.history calls ∧
      (∀ served ∈ (files now []).history calls, served.log = []) ∧
      ∀ id, ((files now []).history calls).filter (fun served => served.call.id = id) =
        (files now []).history (calls.filter fun call => call.id = id) := by
  have onFile : (files now []).history calls = StoreCall.replies (fun _ => none) calls :=
    history_eq_replies named apart fun _ _ => .nothing
  refine ⟨onFile.trans (history_inMemory named).symm, ?_, fun id => ?_⟩
  · rw [onFile]
    exact StoreCall.log_of_mem_replies
  · have among : ∀ call ∈ calls.filter (fun call => call.id = id), call ∈ calls := fun _ => List.mem_of_mem_filter
    have alone : (files now []).history (calls.filter fun call => call.id = id) =
        StoreCall.replies (fun _ => none) (calls.filter fun call => call.id = id) :=
      history_eq_replies (fun call member => named call (among call member))
        (fun call member other present => apart call (among call member) other (among other present))
        fun _ _ => .nothing
    rw [onFile, alone]
    exact StoreCall.replies_filter id rfl calls

def hostOnly (hostname : String) : Value :=
  .object [("Common", .object [("hostname", .text hostname)])]

def twoMachines (now : Timestamp) : List StoreCall :=
  [.set now "north" (hostOnly "north"), .set now "rack/2" (hostOnly "second"), .get "north", .delete "rack/2",
   .get "rack/2"]

theorem files_serve_as_memory_twoMachines :
    let now : Timestamp := { year := 2024, month := 5, day := 17 }
    (∀ call ∈ twoMachines now, call.RecordsNamed) ∧ (files now []).KeepsApart (twoMachines now) ∧
      (files now []).history (twoMachines now) = inMemory.history (twoMachines now) ∧
      (files now []).history ((twoMachines now).filter fun call => call.id = "north") =
        [⟨.set now "north" (hostOnly "north"), .set (.ok ()), []⟩,
         ⟨.get "north", .get (.ok (some (hostOnly "north"))), []⟩] := by
  intro now
  have named : ∀ call ∈ twoMachines now, call.RecordsNamed := by
    simp only [twoMachines, List.forall_mem_cons]
    exact ⟨⟨rfl, rfl⟩, ⟨rfl, rfl⟩, trivial, trivial, trivial, fun _ member => absurd member List.not_mem_nil⟩
  have apart : (files now []).KeepsApart (twoMachines now) := by
    unfold KeepsApart
    decide +kernel
  have ⟨same, _, alone⟩ := files_serve_as_memory named now apart
  refine ⟨named, apart, same, ?_⟩
  rw [← alone, same]
  rfl

theorem get_of_shared {id other : String} (shared : fileName id = fileName other) {fields : Fields}
    (ordered : (Value.object fields).unordered? = none) (now saved : Timestamp) :
    (files now []).history [.set saved id (.object fields), .get other] =
      [⟨.set saved id (.object fields), .set (.ok ()), []⟩, ⟨.get other, .get (.ok (some (.object fields))), []⟩] := by
  obtain ⟨checksum, computed⟩ := Value.checksum_of_ordered ordered
  have recorded := set_files computed id saved []
  have holds : (files saved (Assoc.put [] (fileName id) (filed id (.object fields) checksum saved))).Holds other
      (some (.object fields)) := by
    simp only [Holds, ← shared, Assoc.get?_put_self]
    exact .baseline computed id saved
  have found := get_of_holds holds []
  simp only [history, serve, reset, recorded, found]

/-- What is recorded for one machine is read for another one whose name differs in a slash. -/
theorem neighbour_reads_baseline :
    let now : Timestamp := { year := 2024, month := 5, day := 17 }
    let calls : List StoreCall := [.set now "a/b" (hostOnly "north"), .get "a_b"]
    (∀ call ∈ calls, call.RecordsNamed) ∧ (files now []).history calls ≠ inMemory.history calls := by
  intro now calls
  refine ⟨List.forall_mem_cons.mpr ⟨⟨rfl, rfl⟩, List.forall_mem_singleton.mpr trivial⟩, fun same => ?_⟩
  have shared : fileName "a/b" = fileName "a_b" := by decide +kernel
  have found := get_of_shared shared (Value.unordered?_of_isNamed (hostOnly "north") rfl) now now
  have held := found.symm.trans same
  injection held with _ last
  injection last with last _
  injection last with _ reply _
  injection reply with outcome
  cases outcome

end BaselineStore

end Reconcile
