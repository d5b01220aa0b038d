import Reconcile.Proofs.Engine.Session
import Reconcile.Proofs.Observation.Visits

/-!
Reads with baselines on file. A read brings the state and the file of the device up to date together or changes
neither, except that a baseline which cannot be sorted becomes known although it cannot be saved.
-/

namespace Reconcile

theorem DeviceReader.isObject_of_stateFrom {reader : DeviceReader} {declaration : Value} {state : DeviceState}
    {store : BaselineStore} {read : String × DeviceState}
    (given : reader.stateFrom declaration state store = .ok read) : ∃ fields, read.2.baseline = .object fields := by
  obtain ⟨observed, _, rest⟩ := Result.bind_eq_ok.mp given
  obtain ⟨baseline, based, built⟩ := Result.bind_eq_ok.mp rest
  obtain ⟨stored?, _, widened⟩ := Result.bind_eq_ok.mp based
  cases built
  exact Widening.widen_object widened

theorem DeviceReader.key_of_stateFrom {reader : DeviceReader} {declaration : Value} {state : DeviceState}
    {store : BaselineStore} {read : String × DeviceState}
    (given : reader.stateFrom declaration state store = .ok read) :
    ∃ identity, reader.device.identity = .ok identity ∧ read.1 = reader.storeKey identity := by
  obtain ⟨⟨identity, classes⟩, observed, rest⟩ := Result.bind_eq_ok.mp given
  obtain ⟨baseline, _, built⟩ := Result.bind_eq_ok.mp rest
  cases built
  exact ⟨identity, observed_identity observed, rfl⟩

namespace Engine

variable (engine : Engine)

/-- With baselines on file, whatever the device answers, a read comes to one of three ends. It returns, and the file of
the device gives out, without a warning, the baseline that is known now. It fails, and the desk is as it was. Or all of
the device was read but two keys of its baseline have no order: then it fails too, and only the state is new. -/
theorem read_commits {before : Moment} {now : Timestamp} {contents : List (String × StoredFile)}
    (onFile : before.desk.store = .files now contents) (declaration : Value) (device : Device) (translate : Bool) :
    let reader := engine.readerOf device translate
    let done := engine.perform before (.read declaration device translate)
    (∃ identity, device.identity = .ok identity ∧ done.answer = .read (.ok ()) ∧
        ∀ log, done.after.desk.store.get (reader.storeKey identity) log =
          (.ok (some done.after.desk.state.baseline), log)) ∨
      (∃ fault, done.answer = .read (.error fault) ∧ done.after.desk = before.desk) ∨
      ∃ read left right, reader.stateFrom declaration before.desk.state before.desk.store = .ok read ∧
        read.2.baseline.unordered? = some (left, right) ∧ done.answer = .read (.error (.unordered left right)) ∧
        done.after.desk = { before.desk with state := read.2 } := by
  intro reader done
  have ended := engine.perform_readInto before declaration device translate
  cases given : reader.stateFrom declaration before.desk.state before.desk.store with
  | error fault =>
    rw [given] at ended
    exact .inr (.inl ⟨fault, ended⟩)
  | ok read =>
    rw [given] at ended
    obtain ⟨answer, desk⟩ := ended
    obtain ⟨fields, isObject⟩ := DeviceReader.isObject_of_stateFrom given
    obtain ⟨identity, identified, key⟩ := DeviceReader.key_of_stateFrom given
    cases sorted : read.2.baseline.unordered? with
    | none =>
      rw [isObject] at sorted
      obtain ⟨later, recorded, holds⟩ := BaselineStore.set_of_ordered sorted before.desk.store read.1
      rw [← isObject] at recorded
      simp only [deskRead, recorded] at answer desk
      refine .inl ⟨identity, identified, answer, fun log => ?_⟩
      rw [desk, isObject, ← key]
      exact BaselineStore.get_of_holds holds log
    | some keys =>
      obtain ⟨left, right⟩ := keys
      have refused := BaselineStore.set_files_unordered sorted read.1 now contents
      rw [← onFile] at refused
      simp only [deskRead, refused] at answer desk
      exact .inr (.inr ⟨read, left, right, rfl, sorted, answer, desk⟩)

def emptyDirectory : Moment where
  desk := { store := .files { year := 2024, month := 5, day := 17 } [] }

theorem oneVlan_readOntoFile :
    (perform ⟨.packaged, defaultTruth, none⟩ emptyDirectory (.read .empty oneVlan false)).answer.error? = none := by
  decide +kernel

/-- The first read of the VLAN device writes its file. -/
theorem read_commits_vlan :
    let done := perform ⟨.packaged, defaultTruth, none⟩ emptyDirectory (.read .empty oneVlan false)
    emptyDirectory.desk.store = .files { year := 2024, month := 5, day := 17 } [] ∧ done.answer = .read (.ok ()) ∧
      done.after.desk.store.get "north" [] = (.ok (some done.after.desk.state.baseline), []) := by
  have onFile : emptyDirectory.desk.store = .files { year := 2024, month := 5, day := 17 } [] := rfl
  have commits := read_commits ⟨.packaged, defaultTruth, none⟩ onFile .empty oneVlan false
  have fine := oneVlan_readOntoFile
  -- The read has been evaluated; from here on only its answer counts.
  dsimp only at commits ⊢
  generalize perform ⟨.packaged, defaultTruth, none⟩ emptyDirectory (.read .empty oneVlan false) = done
    at commits fine ⊢
  rcases commits with ⟨identity, identified, answer, found⟩ | ⟨fault, answer, -⟩ | ⟨read, left, right, -, -, answer, -⟩
  · cases identified
    exact ⟨onFile, answer, found []⟩
  · rw [answer] at fine
    cases fine
  · rw [answer] at fine
    cases fine

def namelessVlan : Device :=
  { oneVlan with
    answer := fun query =>
      if query.select.contains "tag" then
        .ok (.list [.object [("name", .text "wire"), ("tag", .int 7)], .object [("tag", .int 8)]])
      else oneVlan.answer query }

def failsHalfway (path : Path) (done : Performed) : Bool :=
  match done.answer with
  | .read (.error _) =>
    (Path.get? path done.after.desk.state.current).isSome && (Path.get? path done.before.desk.state.current).isNone
  | _ => false

theorem of_failsHalfway {path : Path} {done : Performed} (halfway : failsHalfway path done = true) :
    (∃ fault, done.answer = .read (.error fault)) ∧
      done.after.desk.state.current ≠ done.before.desk.state.current := by
  unfold failsHalfway at halfway
  split at halfway
  next fault failed =>
    rw [Bool.and_eq_true, Option.isNone_iff_eq_none] at halfway
    refine ⟨⟨fault, failed⟩, fun same => ?_⟩
    rw [same, halfway.2] at halfway
    cases halfway.1
  next => cases halfway

/-- The baseline of that device cannot be sorted, so that the read fails, but its VLANs are taken to be there. -/
theorem namelessVlan_halfway :
    let done := perform ⟨.packaged, defaultTruth, none⟩ emptyDirectory (.read .empty namelessVlan false)
    (∃ fault, done.answer = .read (.error fault)) ∧
      done.after.desk.state.current ≠ done.before.desk.state.current := by
  have halfway : failsHalfway ["Common", "VLAN", "wire"]
      (perform ⟨.packaged, defaultTruth, none⟩ emptyDirectory (.read .empty namelessVlan false)) = true := by
    decide +kernel
  exact of_failsHalfway halfway

end Engine

end Reconcile
