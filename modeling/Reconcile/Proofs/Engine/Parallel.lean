import Reconcile.Proofs.Engine.Committing

/-!
Runs side by side. What an engine asks, logs and answers depends on no more of the stored baselines than what is held
for the machine at hand: with stores that can take each other's place for that machine, reading and planning run in
the same way.
-/

namespace Reconcile

variable {α β γ δ : Type}

namespace Observed

/-- Runs that ask and log the same, whatever came before, and have outcomes that match. -/
def Parallel (related : α → β → Prop) (action : Observed α) (other : Observed β) : Prop :=
  ∀ transcript, (action transcript).2 = (other transcript).2 ∧
    Result.Matches related (action transcript).1 (other transcript).1

theorem parallel_pure {related : α → β → Prop} {value : α} {other : β} (values : related value other) :
    Parallel related (pure value) (pure other) := fun _ => ⟨rfl, .ok values⟩

theorem parallel_throw (related : α → β → Prop) (fault : Fault) : Parallel related (throw fault) (throw fault) :=
  fun _ => ⟨rfl, .error fault⟩

theorem Parallel.bind {related : α → β → Prop} {final : γ → δ → Prop} {action : Observed α} {other : Observed β}
    {next : α → Observed γ} {after : β → Observed δ} (first : Parallel related action other)
    (second : ∀ value another, related value another → Parallel final (next value) (after another)) :
    Parallel final (action >>= next) (other >>= after) := by
  intro transcript
  have run := first transcript
  rw [run_bind, run_bind]
  generalize action transcript = done at run ⊢
  generalize other transcript = again at run ⊢
  obtain ⟨outcome, written⟩ := done
  obtain ⟨another, _⟩ := again
  obtain ⟨rfl, outcomes⟩ := run
  cases outcomes with
  | ok values => exact second _ _ values written
  | error fault => exact ⟨rfl, .error fault⟩

theorem parallel_after {final : γ → δ → Prop} (action : Observed α) {next : α → Observed γ} {after : α → Observed δ}
    (second : ∀ value, Parallel final (next value) (after value)) :
    Parallel final (action >>= next) (action >>= after) := by
  intro transcript
  rw [run_bind, run_bind]
  rcases action transcript with ⟨fault | value, written⟩
  · exact ⟨rfl, .error fault⟩
  · exact second value written

theorem parallel_lift {final : γ → δ → Prop} (outcome : Result α) {next : α → Observed γ} {after : α → Observed δ}
    (second : ∀ value, outcome = .ok value → Parallel final (next value) (after value)) :
    Parallel final (liftM outcome >>= next) (liftM outcome >>= after) := by
  cases outcome with
  | error fault => exact fun _ => ⟨rfl, .error fault⟩
  | ok value => exact second value rfl

theorem Parallel.attempt {related : α → β → Prop} {action : Observed α} {other : Observed β}
    (run : Parallel related action other) :
    Parallel (Result.Matches related) (attempt action) (attempt other) :=
  fun transcript => ⟨(run transcript).1, .ok (run transcript).2⟩

end Observed

open Observed

/-- Whether related stores can take each other's place for a machine: they hold the same for it, and recording
something for it leaves them related. -/
structure BaselineStore.Interchangeable (key : String) (related : BaselineStore → BaselineStore → Prop) : Prop where
  get : ∀ {store other}, related store other → store.get key = other.get key
  set : ∀ {store other}, related store other → ∀ baseline,
    Result.Matches related (store.set key baseline) (other.set key baseline)

/-- Desks that differ in nothing but the stored baselines, which are related. -/
structure Desk.Aligned (related : BaselineStore → BaselineStore → Prop) (desk other : Desk) : Prop where
  state : desk.state = other.state
  book : desk.book = other.book
  store : related desk.store other.store

namespace DeviceReader

variable (reader : DeviceReader) {related : BaselineStore → BaselineStore → Prop}

/-- Whether related stores can take each other's place for the machine that is read. -/
def Tolerates (related : BaselineStore → BaselineStore → Prop) : Prop :=
  ∀ identity, reader.device.identity = .ok identity →
    BaselineStore.Interchangeable (reader.storeKey identity) related

variable {reader}

theorem observeState_congr (tolerates : reader.Tolerates related) {store other : BaselineStore}
    (stores : related store other) (declaration : Value) (state : DeviceState) :
    reader.observeState declaration state store = reader.observeState declaration state other := by
  funext transcript
  have seen := reader.yields_observe declaration state transcript
  unfold observeState
  rw [run_bind, run_bind]
  generalize reader.observe declaration state transcript = ran at seen ⊢
  rcases ran with ⟨fault | ⟨identity, classes⟩, written⟩
  · rfl
  · have held := (tolerates identity (observed_identity seen.symm)).get stores
    dsimp only [baselineFor]
    rw [held]

theorem observeState_parallel (tolerates : reader.Tolerates related) {store other : BaselineStore}
    (stores : related store other) (declaration : Value) (state : DeviceState) :
    Parallel (fun read again => read = again ∧
        ∃ identity, reader.device.identity = .ok identity ∧ read.1 = reader.storeKey identity)
      (reader.observeState declaration state store) (reader.observeState declaration state other) := by
  rw [observeState_congr tolerates stores declaration state]
  intro transcript
  refine ⟨rfl, ?_⟩
  rw [reader.yields_observeState declaration state other transcript]
  cases given : reader.stateFrom declaration state other with
  | error fault => exact .error fault
  | ok read => exact .ok ⟨rfl, key_of_stateFrom given⟩

theorem read_parallel (tolerates : reader.Tolerates related) {store other : BaselineStore}
    (stores : related store other) (declaration : Value) (state : DeviceState) :
    Parallel (fun done again => done.1 = again.1 ∧ Result.Matches related done.2 again.2)
      (reader.read declaration state store) (reader.read declaration state other) := by
  refine (observeState_parallel tolerates stores declaration state).attempt.bind ?_
  rintro _ _ (⟨⟨rfl, identity, identified, own⟩⟩ | fault)
  · refine parallel_pure ⟨rfl, ?_⟩
    rw [own]
    exact (tolerates identity identified).set stores _
  · exact parallel_after _ fun _ => parallel_throw _ fault

end DeviceReader

namespace Engine

variable (engine : Engine) {related : BaselineStore → BaselineStore → Prop}

theorem readInto_parallel {device : Device} {translate : Bool}
    (tolerates : (engine.readerOf device translate).Tolerates related) {desk other : Desk}
    (desks : Desk.Aligned related desk other) (declaration : Value) :
    Parallel (fun done again => Desk.Aligned related done.1 again.1 ∧ done.2 = again.2)
      (engine.read declaration device translate desk) (engine.read declaration device translate other) := by
  obtain ⟨state, store, book⟩ := desk
  obtain ⟨_, another, _⟩ := other
  obtain ⟨rfl, rfl, stores⟩ := desks
  refine (DeviceReader.read_parallel tolerates stores declaration state).bind ?_
  rintro ⟨after, _⟩ ⟨_, _⟩ ⟨rfl, ⟨recorded⟩ | fault⟩
  · exact parallel_pure ⟨⟨rfl, rfl, recorded⟩, rfl⟩
  · exact parallel_pure ⟨⟨rfl, rfl, stores⟩, rfl⟩

theorem kept_parallel {desk other : Desk} (desks : Desk.Aligned related desk other) (traced : Trace.Book × Log) :
    Parallel (Desk.Aligned related) (kept desk traced) (kept other traced) :=
  parallel_after _ fun _ => parallel_pure ⟨desks.state, rfl, desks.store⟩

theorem traceConfigs_parallel (desired : Value) {desk other : Desk} (desks : Desk.Aligned related desk other) :
    Parallel (Desk.Aligned related) (engine.traceConfigs desired desk) (engine.traceConfigs desired other) := by
  unfold traceConfigs
  cases engine.tracer with
  | none => exact parallel_pure desks
  | some tracer =>
    dsimp only
    rw [desks.state, desks.book]
    refine (kept_parallel desks _).bind fun desk other desks => ?_
    rw [desks.book]
    exact kept_parallel desks _

theorem traceChanges_parallel (changes : List Change) {desk other : Desk} (desks : Desk.Aligned related desk other) :
    Parallel (Desk.Aligned related) (engine.traceChanges changes desk) (engine.traceChanges changes other) := by
  unfold traceChanges
  cases engine.tracer with
  | none => exact parallel_pure desks
  | some tracer =>
    dsimp only
    rw [desks.book]
    exact kept_parallel desks _

theorem planFrom_parallel (plan : Plan) (desired : FlatDeclaration) {desk other : Desk}
    (desks : Desk.Aligned related desk other) :
    Parallel (fun done again => Desk.Aligned related done.1 again.1 ∧ done.2 = again.2)
      (engine.planFrom plan desired desk) (engine.planFrom plan desired other) := by
  refine (engine.traceConfigs_parallel _ desks).bind fun desk other desks => ?_
  rw [desks.state]
  cases engine.comparison.delta (.object desired.body) other.state.current other.state.baseline with
  | error fault => exact parallel_pure ⟨desks, rfl⟩
  | ok delta =>
    exact (engine.traceChanges_parallel delta.changes desks).bind fun _ _ desks => parallel_pure ⟨desks, rfl⟩

theorem plan_parallel {device : Device} (tolerates : (engine.readerOf device false).Tolerates related)
    {desk other : Desk} (desks : Desk.Aligned related desk other) (declaration : Value) :
    Parallel (fun done again => Desk.Aligned related done.1 again.1 ∧ done.2 = again.2)
      (engine.plan declaration device desk) (engine.plan declaration device other) := by
  refine parallel_after _ fun report => ?_
  split
  next => exact parallel_pure ⟨desks, rfl⟩
  next =>
    rw [desks.state]
    refine parallel_after _ fun flat => ?_
    cases flat with
    | error fault => exact parallel_pure ⟨desks, rfl⟩
    | ok desired =>
      refine (engine.readInto_parallel tolerates desks declaration).attempt.bind ?_
      rintro _ _ (@⟨⟨desk, outcome⟩, ⟨other, _⟩, read, rfl⟩ | fault)
      · cases outcome with
        | error fault => exact parallel_pure ⟨read, rfl⟩
        | ok _ => exact engine.planFrom_parallel _ desired read
      · exact parallel_pure ⟨desks, rfl⟩

end Engine

end Reconcile
