import Reconcile.Catalog.Packaged
import Reconcile.Proofs.Assoc
import Reconcile.Proofs.Inspection.Production

/-!
Where a rebuilt declaration files what is produced for a tenant. The first pair of a key is filed under it, each later
one under a mark of it. Nothing is lost as long as no produced key is itself spelled like a mark that is in use.
-/

namespace Reconcile

theorem List.append_digits_inj {front back digits others : List Char} {stop : Char} (noDigit : stop.isDigit = false)
    (left : ∀ c ∈ digits, c.isDigit = true) (right : ∀ c ∈ others, c.isDigit = true)
    (same : front ++ stop :: digits = back ++ stop :: others) : front = back ∧ digits = others := by
  have ends (text : List Char) {digits : List Char} (all : ∀ c ∈ digits, c.isDigit = true) :
      (text ++ stop :: digits).reverse.takeWhile Char.isDigit = digits.reverse := by
    rw [List.reverse_append, List.reverse_cons, List.append_assoc,
      List.takeWhile_append_of_pos fun c member => all c (List.mem_reverse.mp member)]
    simp [noDigit]
  have equal : digits = others := by
    rw [← List.reverse_inj, ← ends front left, ← ends back right, same]
  subst equal
  exact ⟨List.append_cancel_right same, rfl⟩

namespace Rebuild

/-- The key of a later pair, given how many pairs of its key there have been before. -/
def mark (key : Key) (count : Nat) : Key :=
  key.display ++ "_INVALID_" ++ toString count

theorem mark_inj {key other : Key} {count number : Nat} (same : mark key count = mark other number) :
    key.display = other.display ∧ count = number := by
  have spelled (key : Key) (count : Nat) : (key.display ++ "_INVALID_" ++ toString count).toList =
      (key.display.toList ++ "_INVALID".toList) ++ '_' :: Nat.toDigits 10 count := by
    rw [String.toList_append, String.toList_append, Nat.toString_eq_ofList_toDigits, String.toList_ofList]
    simp
  have texts := congrArg String.toList (Key.named.inj same)
  rw [spelled, spelled] at texts
  have digits (count : Nat) : ∀ c ∈ Nat.toDigits 10 count, c.isDigit = true :=
    fun c member => Nat.isDigit_of_mem_toDigits (by decide) (by decide) member
  obtain ⟨front, back⟩ := List.append_digits_inj (by decide) (digits count) (digits number) texts
  refine ⟨String.toList_inj.mp (List.append_cancel_right front), ?_⟩
  have numbers := congrArg (fun digits => Nat.ofDigitChars 10 digits 0) back
  simpa using numbers

theorem mark_ne_class (key : Key) (count : Nat) : mark key count ≠ "class" := by
  intro same
  have lengths := congrArg String.length (Key.named.inj same)
  have short : "class".length = 5 := rfl
  have long : "_INVALID_".length = 9 := rfl
  rw [String.length_append, String.length_append, short, long] at lengths
  omega

def targets : List Key → List Key → List Key
  | _, [] => []
  | earlier, key :: rest =>
    (if earlier.count key = 0 then key else mark key (earlier.count key)) :: targets (earlier ++ [key]) rest

/-- Keys whose marks cannot be mistaken: no key is spelled like a mark that another one gets, and only equal keys are
displayed alike. -/
structure Unmistakable (keys : List Key) : Prop where
  marks : ∀ key ∈ keys, ∀ count < keys.count key, 0 < count → mark key count ∉ keys
  display : ∀ key ∈ keys, ∀ other ∈ keys, key.display = other.display → key = other

theorem length_targets (earlier keys : List Key) : (targets earlier keys).length = keys.length := by
  induction keys generalizing earlier with
  | nil => rfl
  | cons key rest ih => rw [targets, List.length_cons, List.length_cons, ih]

theorem targets_append (earlier front back : List Key) :
    targets earlier (front ++ back) = targets earlier front ++ targets (earlier ++ front) back := by
  induction front generalizing earlier with
  | nil => rw [List.append_nil]; rfl
  | cons key rest ih => rw [List.cons_append, targets, targets, ih, List.append_assoc]; rfl

theorem of_mem_targets {earlier keys : List Key} {target : Key} (member : target ∈ targets earlier keys) :
    target ∈ keys ∧ earlier.count target = 0 ∨
      ∃ key ∈ keys, ∃ count, 0 < count ∧ earlier.count key ≤ count ∧ count < (earlier ++ keys).count key ∧
        target = mark key count := by
  induction keys generalizing earlier with
  | nil => cases member
  | cons key rest ih =>
    rw [targets, List.mem_cons] at member
    rcases member with here | later
    · split at here
      next first =>
        subst here
        exact .inl ⟨List.mem_cons_self .., first⟩
      next repeated =>
        refine .inr ⟨key, List.mem_cons_self .., _, Nat.pos_of_ne_zero repeated, Nat.le_refl _, ?_, here⟩
        simp
    · rcases ih later with ⟨among, first⟩ | ⟨other, among, count, positive, atLeast, below, same⟩
      · rw [List.count_append] at first
        exact .inl ⟨List.mem_cons_of_mem _ among, by omega⟩
      · rw [List.count_append] at atLeast
        rw [List.append_assoc, List.singleton_append] at below
        exact .inr ⟨other, List.mem_cons_of_mem _ among, count, positive, by omega, below, same⟩

theorem mem_targets_of_first {earlier keys : List Key} {key : Key} (first : earlier.count key = 0)
    (member : key ∈ keys) : key ∈ targets earlier keys := by
  induction keys generalizing earlier with
  | nil => cases member
  | cons head rest ih =>
    rw [targets]
    by_cases same : head = key
    · subst same
      rw [if_pos first]
      exact List.mem_cons_self ..
    · have later := List.mem_of_ne_of_mem (Ne.symm same) member
      exact List.mem_cons_of_mem _ (ih (by simp [List.count_append, first, same]) later)

namespace Unmistakable

variable {all : List Key}

theorem mem_targets (clear : Unmistakable all) {front back : List Key} (split : front ++ back = all) {key : Key}
    (among : key ∈ all) : key ∈ targets [] front ↔ key ∈ front := by
  constructor
  · intro member
    rcases of_mem_targets member with ⟨here, _⟩ | ⟨other, here, count, positive, _, below, rfl⟩
    · exact here
    · rw [List.nil_append] at below
      refine (clear.marks other (split ▸ List.mem_append_left _ here) count ?_ positive among).elim
      rw [← split, List.count_append]
      omega
  · exact mem_targets_of_first List.count_nil

theorem nodup_targets (clear : Unmistakable all) {earlier rest : List Key} (split : earlier ++ rest = all) :
    (targets earlier rest).Nodup := by
  induction rest generalizing earlier with
  | nil => exact List.nodup_nil
  | cons key rest ih =>
    rw [targets, List.nodup_cons]
    have here : key ∈ all := split ▸ List.mem_append_right _ (List.mem_cons_self ..)
    have later {other : Key} (member : other ∈ rest) : other ∈ all :=
      split ▸ List.mem_append_right _ (List.mem_cons_of_mem _ member)
    have splitNext : (earlier ++ [key]) ++ rest = all := by rw [List.append_assoc]; exact split
    refine ⟨?_, ih splitNext⟩
    by_cases fresh : earlier.count key = 0
    · rw [if_pos fresh]
      intro member
      rcases of_mem_targets member with ⟨_, first⟩ | ⟨other, among, count, positive, _, below, same⟩
      · simp at first
      · exact clear.marks other (later among) count (splitNext ▸ below) positive (same ▸ here)
    · rw [if_neg fresh]
      intro member
      rcases of_mem_targets member with ⟨among, _⟩ | ⟨other, among, count, _, atLeast, _, same⟩
      · refine clear.marks key here _ ?_ (Nat.pos_of_ne_zero fresh) (later among)
        rw [← split, List.count_append, List.count_cons_self]
        omega
      · obtain ⟨displayed, rfl⟩ := mark_inj same
        obtain rfl := clear.display key here other (later among) displayed
        rw [List.count_append, List.count_singleton_self] at atLeast
        omega

end Unmistakable

/-- A draft that holds what was produced under some keys so far. -/
structure Draft.Holds (draft : Draft) (earlier : List Key) : Prop where
  keys : Assoc.keys draft.fields = targets [] earlier
  counts : ∀ key, (Assoc.get? draft.duplicates key).getD 0 = earlier.count key - 1

theorem Draft.start_holds : Draft.start.Holds ["class"] where
  keys := rfl
  counts key := by
    by_cases same : "class" = key
    · subst same
      rfl
    · simp [start, same]

namespace Draft.Holds

variable {all earlier : List Key} {draft : Draft}

theorem free (holds : draft.Holds earlier) (clear : Unmistakable all) {key : Key} {rest : List Key}
    (split : earlier ++ key :: rest = all) {target : Key} (next : targets earlier [key] = [target]) :
    Assoc.has draft.fields target = false := by
  have whole := clear.nodup_targets (List.nil_append all)
  rw [← split, targets_append, List.nil_append, ← List.singleton_append, targets_append, next, ← holds.keys] at whole
  have apart := (List.nodup_append.mp whole).2.2 target
  rw [Assoc.has_eq_isSome, Option.isSome_eq_false_iff, Option.isNone_iff_eq_none, Assoc.get?_eq_none_iff]
  exact fun member => apart member target (List.mem_append_left _ (List.mem_singleton_self _)) rfl

theorem add (holds : draft.Holds earlier) (clear : Unmistakable all) {pair : Key × Value} {rest : List Key}
    (split : earlier ++ pair.1 :: rest = all) :
    (draft.add pair).fields = draft.fields ++ (targets earlier [pair.1]).zip [pair.2] ∧
      (draft.add pair).Holds (earlier ++ [pair.1]) := by
  obtain ⟨key, value⟩ := pair
  have among : key ∈ all := split ▸ List.mem_append_right _ (List.mem_cons_self ..)
  have taken : Assoc.has draft.fields key = true ↔ key ∈ earlier := by
    rw [Assoc.has_iff, holds.keys, clear.mem_targets split among]
  have longer {target : Key} (next : targets earlier [key] = [target]) :
      Assoc.keys (draft.fields ++ [(target, value)]) = targets [] (earlier ++ [key]) := by
    rw [targets_append, List.nil_append, next, ← holds.keys]
    exact List.map_append
  unfold Draft.add
  dsimp only
  cases has : Assoc.has draft.fields key with
  | false =>
    have first : earlier.count key = 0 :=
      List.count_eq_zero.mpr fun member => Bool.false_ne_true (has.symm.trans (taken.mpr member))
    have next : targets earlier [key] = [key] := by rw [targets, if_pos first, targets]
    rw [if_neg Bool.false_ne_true, next, Assoc.put_of_absent has]
    refine ⟨rfl, longer next, fun other => ?_⟩
    rw [holds.counts, List.count_append, List.count_singleton]
    split
    next same =>
      rw [← beq_iff_eq.mp same, first]
    next => rfl
  | true =>
    have repeated : earlier.count key ≠ 0 := fun none => List.count_eq_zero.mp none (taken.mp has)
    have next : targets earlier [key] = [mark key (earlier.count key)] := by rw [targets, if_neg repeated, targets]
    have counted : (Assoc.get? draft.duplicates key).getD 0 + 1 = earlier.count key := by
      rw [holds.counts]
      omega
    rw [if_pos rfl, counted]
    have place := Assoc.put_of_absent (holds.free clear split next) value
    rw [mark] at place
    rw [place, next]
    refine ⟨rfl, longer next, fun other => ?_⟩
    rw [Assoc.get?_put, List.count_append, List.count_singleton]
    split
    next same =>
      subst same
      simp
    next other =>
      simp [holds.counts, other]

theorem foldl (holds : draft.Holds earlier) (clear : Unmistakable all) {pairs : Fields}
    (split : earlier ++ Assoc.keys pairs = all) :
    (pairs.foldl Draft.add draft).fields =
      draft.fields ++ (targets earlier (Assoc.keys pairs)).zip (pairs.map Prod.snd) := by
  induction pairs generalizing draft earlier with
  | nil => simp [targets]
  | cons pair rest ih =>
    obtain ⟨filed, next⟩ := holds.add clear split
    have splitNext : (earlier ++ [pair.1]) ++ Assoc.keys rest = all := by rw [List.append_assoc]; exact split
    rw [List.foldl_cons, ih next splitNext, filed, List.append_assoc]
    rfl

end Draft.Holds

section Tenants

variable {catalog : Catalog} {start final : Fields × Bool} {tenant : Key}

theorem withTenant_frame {entry : Key × Value} {next : Fields × Bool} (other : entry.1 ≠ tenant)
    (run : withTenant catalog start entry = .ok next) : Assoc.get? next.1 tenant = Assoc.get? start.1 tenant := by
  unfold withTenant at run
  split at run
  next =>
    obtain ⟨draft, _, done⟩ := Result.bind_eq_ok.mp run
    cases done
    exact Assoc.get?_put_of_ne other _
  next =>
    cases run
    rfl

theorem get?_rebuilt_of_absent {tenants : Fields} (absent : tenant ∉ Assoc.keys tenants)
    (run : tenants.foldlM (withTenant catalog) start = .ok final) :
    Assoc.get? final.1 tenant = Assoc.get? start.1 tenant := by
  refine Result.foldlM_keeps (fun state => Assoc.get? state.1 tenant = Assoc.get? start.1 tenant)
    (fun entry member state next kept step => ?_) rfl run
  have other : entry.1 ≠ tenant := by
    rintro rfl
    exact absent (List.mem_map_of_mem member)
  exact (withTenant_frame other step).trans kept

theorem get?_rebuilt {tenants : Fields} (unique : (Assoc.keys tenants).Nodup) {objects : Fields}
    (there : Assoc.get? tenants tenant = some (.object objects))
    (run : tenants.foldlM (withTenant catalog) start = .ok final) :
    ∃ draft, drafted catalog objects = .ok draft ∧ Assoc.get? final.1 tenant = some (.object draft.fields) := by
  induction tenants generalizing start with
  | nil => cases there
  | cons entry rest ih =>
    obtain ⟨head, value⟩ := entry
    rw [Assoc.keys_cons, List.nodup_cons] at unique
    rw [List.foldlM_cons] at run
    obtain ⟨next, here, later⟩ := Result.bind_eq_ok.mp run
    rw [Assoc.get?] at there
    split at there
    next same =>
      subst same
      cases there
      obtain ⟨draft, made, done⟩ := Result.bind_eq_ok.mp here
      cases done
      exact ⟨draft, made, (get?_rebuilt_of_absent unique.1 later).trans (Assoc.get?_put_self ..)⟩
    next => exact ih unique.2 there later

end Tenants

/-- In a rebuilt declaration each tenant holds, besides its class, every pair that is produced for it under a key of
its own: the first pair of a key under the key, and each later one under a mark. This takes keys whose marks cannot be
mistaken for other keys. -/
theorem declaration_keeps {catalog : Catalog} {version : String} {config : Fields}
    (unique : (Assoc.keys config).Nodup) {log : Log} {inspection : Inspection}
    (done : (declaration catalog version (.object config) log).1 = .ok inspection) {tenant : Key} {objects : Fields}
    (there : Assoc.get? config tenant = some (.object objects)) :
    ∃ pairs kept, produced catalog objects = .ok pairs ∧
      Assoc.get? inspection.declaration tenant = some (.object kept) ∧
      (Unmistakable ("class" :: Assoc.keys pairs) →
        kept = (.named "class", .text "Tenant") :: (targets ["class"] (Assoc.keys pairs)).zip (pairs.map Prod.snd) ∧
        kept.length = pairs.length + 1 ∧ (Assoc.keys kept).Nodup) := by
  rw [yields_declaration catalog version (.object config) log] at done
  change rebuilt catalog version config = .ok inspection at done
  obtain ⟨⟨fields, valid⟩, run, done⟩ := Result.bind_eq_ok.mp done
  cases done
  obtain ⟨draft, made, placed⟩ := get?_rebuilt unique there run
  obtain ⟨pairs, given, done⟩ := Result.bind_eq_ok.mp made
  cases done
  refine ⟨pairs, _, given, placed, fun clear => ?_⟩
  have filed := Draft.start_holds.foldl clear (List.singleton_append ..)
  have distinct := clear.nodup_targets (List.nil_append _)
  have keys : Assoc.keys (pairs.foldl Draft.add .start).fields = targets [] ("class" :: Assoc.keys pairs) := by
    rw [filed]
    exact congrArg (Key.named "class" :: ·) (List.map_fst_zip (by simp [length_targets, Assoc.keys]))
  refine ⟨filed, ?_, keys ▸ distinct⟩
  have counted := congrArg List.length keys
  rw [length_targets] at counted
  simpa [Assoc.keys] using counted

/-- A VLAN, a self IP and a route of one name are all kept. -/
theorem declaration_keeps_external :
    let objects : Fields := [
      ("VLAN", .object [("external", .object [("tag", .int 4094)])]),
      ("SelfIp", .object [("external", .object [("address", .text "10.0.0.1/24")])]),
      ("Route", .object [("external", .object [("gw", .text "10.0.0.254")])])]
    ∃ inspection pairs kept,
      (declaration .packaged currentVersion (.object [("Common", .object objects)])).outcome.1 = .ok inspection ∧
      produced .packaged objects = .ok pairs ∧ Unmistakable ("class" :: Assoc.keys pairs) ∧
      Assoc.get? inspection.declaration "Common" = some (.object kept) ∧
      Assoc.keys kept = [.named "class", .named "external", .named "external_INVALID_1", .named "external_INVALID_2"] := by
  intro objects
  have made : Result.passes (fun _ => true)
      (declaration .packaged currentVersion (.object [("Common", .object objects)])).outcome.1 = true := by
    decide +kernel
  have given : Result.passes (fun pairs => Assoc.keys pairs = [.named "external", .named "external", .named "external"])
      (produced .packaged objects) = true := by
    decide +kernel
  obtain ⟨inspection, done, _⟩ := Result.of_passes made
  obtain ⟨pairs, given, named⟩ := Result.of_passes given
  have there : Assoc.get? [(Key.named "Common", Value.object objects)] (.named "Common") = some (.object objects) := rfl
  have unique : (Assoc.keys [(Key.named "Common", Value.object objects)]).Nodup := List.nodup_singleton _
  obtain ⟨others, kept, givenToo, placed, keeps⟩ := declaration_keeps unique done there
  obtain rfl : others = pairs := Except.ok.inj (givenToo.symm.trans given)
  have named := of_decide_eq_true named
  have clear : Unmistakable ("class" :: Assoc.keys others) := by
    rw [named]
    exact ⟨by decide +kernel, by decide +kernel⟩
  refine ⟨inspection, others, kept, done, given, clear, placed, ?_⟩
  rw [(keeps clear).1, Assoc.keys_cons, Assoc.keys, List.map_fst_zip (by simp [length_targets, Assoc.keys]), named]
  decide +kernel

/-- A trunk and a VLAN share a name, and a second VLAN is named like the mark that the first one gets. Its place is
taken, so that the second VLAN is lost. -/
theorem marked_name_overwritten :
    let objects : Fields := [
      ("Trunk", .object [("a", .object [("mtu", .int 1500)])]),
      ("VLAN", .object [("a_INVALID_1", .object [("tag", .int 1)]), ("a", .object [("tag", .int 2)])])]
    let tagged (tag : Int) (entry : Key × Value) : Bool := (entry.2.get? "tag").any (·.looseEq (.int tag))
    ∃ inspection pairs kept,
      (declaration .packaged currentVersion (.object [("Common", .object objects)])).outcome.1 = .ok inspection ∧
      produced .packaged objects = .ok pairs ∧
      Assoc.get? inspection.declaration "Common" = some (.object kept) ∧
      pairs.length = 3 ∧ pairs.any (tagged 1) = true ∧
      Assoc.keys kept = [.named "class", .named "a", .named "a_INVALID_1"] ∧ kept.any (tagged 1) = false := by
  intro objects tagged
  have made : Result.passes (fun inspection => ((Assoc.get? inspection.declaration (.named "Common")).bind Value.fields?).any
      fun kept : Fields => Assoc.keys kept = [.named "class", .named "a", .named "a_INVALID_1"] && !kept.any (tagged 1))
      (declaration .packaged currentVersion (.object [("Common", .object objects)])).outcome.1 = true := by
    decide +kernel
  have given : Result.passes (fun pairs => pairs.length = 3 && pairs.any (tagged 1))
      (produced .packaged objects) = true := by
    decide +kernel
  obtain ⟨inspection, done, shown⟩ := Result.of_passes made
  obtain ⟨pairs, given, counted⟩ := Result.of_passes given
  cases placed : Assoc.get? inspection.declaration (.named "Common") with
  | none => simp [placed] at shown
  | some value =>
    cases value with
    | object kept =>
      simp only [placed, Option.bind_some, Value.fields?, Option.any_some, Bool.and_eq_true, decide_eq_true_eq,
        Bool.not_eq_true'] at shown
      simp only [Bool.and_eq_true, decide_eq_true_eq] at counted
      exact ⟨inspection, pairs, kept, done, given, placed, counted.1, counted.2, shown.1, shown.2⟩
    | _ => simp [placed, Value.fields?] at shown

end Rebuild

end Reconcile
