import Mathlib.Data.List.Infix
import Reconcile.Text.Split

/-!
Finding, cutting and replacing text.
-/

namespace Reconcile.Text

theorem occurs_iff {part content : List Char} : occurs part content = true ↔ part <:+: content := by
  induction content with
  | nil => simp [occurs]
  | cons c rest ih => rw [occurs, Bool.or_eq_true, List.isPrefixOf_iff_prefix, ih, List.infix_cons_iff]

theorem startsWith_append (head rest : String) : startsWith head (head ++ rest) = true := by
  simp [startsWith]

theorem dropHead_append (head rest : String) : dropHead head (head ++ rest) = rest := by
  rw [dropHead, if_pos (startsWith_append head rest), String.toList_append, List.drop_left, String.ofList_toList]

theorem mem_of_mem_intercalate {separator : List Char} {parts : List (List Char)} {c : Char}
    (member : c ∈ separator.intercalate parts) : c ∈ separator ∨ ∃ part ∈ parts, c ∈ part := by
  induction parts with
  | nil => cases member
  | cons first rest ih =>
    cases rest with
    | nil => exact .inr ⟨first, List.mem_singleton_self first, by simpa using member⟩
    | cons second others =>
      rw [List.intercalate_cons_cons, List.mem_append, List.mem_append] at member
      rcases member with (inside | between) | later
      · exact .inr ⟨first, List.mem_cons_self .., inside⟩
      · exact .inl between
      · exact (ih later).imp_right fun ⟨part, listed, inside⟩ => ⟨part, List.mem_cons_of_mem _ listed, inside⟩

theorem pieces_ne_nil (separator content : List Char) (skip : Nat) (piece : List Char) :
    pieces separator content skip piece ≠ [] := by
  induction content generalizing skip piece with
  | nil => exact List.cons_ne_nil _ _
  | cons c rest ih =>
    cases skip with
    | succ skip => exact ih skip piece
    | zero =>
      rw [pieces]
      split
      next => exact List.cons_ne_nil _ _
      next => exact ih 0 (c :: piece)

theorem pieces_of_absent {c : Char} {content : List Char} (absent : c ∉ content) (piece : List Char) :
    pieces [c] content 0 piece = [piece.reverse ++ content] := by
  induction content generalizing piece with
  | nil => rw [pieces, List.append_nil]
  | cons head rest ih =>
    rw [List.mem_cons, not_or] at absent
    have other : ¬ [c].isPrefixOf (head :: rest) = true := by simpa [List.isPrefixOf] using absent.1
    rw [pieces, if_neg other, ih absent.2, List.reverse_cons, List.append_assoc, List.singleton_append]

theorem pieces_skip (separator content : List Char) (skip : Nat) (piece : List Char) :
    pieces separator content skip piece = pieces separator (content.drop skip) 0 piece := by
  induction content generalizing skip with
  | nil => simp [pieces]
  | cons c rest ih =>
    cases skip with
    | zero => rfl
    | succ skip => exact ih skip

theorem pieces_append {c : Char} {front : List Char} (absent : c ∉ front) (back piece : List Char) :
    pieces [c] (front ++ c :: back) 0 piece = (piece.reverse ++ front) :: pieces [c] back 0 [] := by
  induction front generalizing piece with
  | nil =>
    rw [List.nil_append, pieces, if_pos (by simp), List.append_nil]
    rfl
  | cons head rest ih =>
    rw [List.mem_cons, not_or] at absent
    have other : ¬ [c].isPrefixOf (head :: (rest ++ c :: back)) = true := by simpa [List.isPrefixOf] using absent.1
    rw [List.cons_append, pieces, if_neg other, ih absent.2, List.reverse_cons, List.append_assoc,
      List.singleton_append]

theorem pieces_intercalate {c : Char} {first : List Char} {parts : List (List Char)}
    (absent : ∀ part ∈ first :: parts, c ∉ part) : pieces [c] ([c].intercalate (first :: parts)) 0 [] = first :: parts := by
  induction parts generalizing first with
  | nil =>
    rw [List.intercalate_singleton, pieces_of_absent (absent first (List.mem_cons_self ..))]
    rfl
  | cons second rest ih =>
    obtain ⟨here, others⟩ := List.forall_mem_cons.mp absent
    rw [List.intercalate_cons_cons, List.append_assoc, List.singleton_append, pieces_append here, ih others]
    rfl

theorem cut_intercalate {separator : String} {c : Char} (single : separator.toList = [c]) {parts : List String}
    (some : parts ≠ []) (absent : ∀ part ∈ parts, c ∉ part.toList) :
    cut separator (separator.intercalate parts) = parts := by
  obtain ⟨first, rest, rfl⟩ := List.exists_cons_of_ne_nil some
  have apart : ∀ part ∈ first.toList :: rest.map String.toList, c ∉ part := by
    intro part member
    obtain ⟨text, listed, rfl⟩ := List.mem_map.mp (List.map_cons (f := String.toList) ▸ member)
    exact absent text listed
  rw [cut, single, String.toList_intercalate, single, List.map_cons, pieces_intercalate apart, ← List.map_cons,
    List.map_map]
  exact (List.map_congr_left fun text _ => String.ofList_toList).trans (List.map_id _)

/-- A text in which something else stands for each occurrence of a part, found from the left and not overlapping. -/
inductive Replaced (part value : List Char) : List Char → List Char → Prop
  | nil : Replaced part value [] []
  | here {rest after : List Char} (later : Replaced part value rest after) :
      Replaced part value (part ++ rest) (value ++ after)
  | char {c : Char} {rest after : List Char} (other : ¬part <+: c :: rest) (later : Replaced part value rest after) :
      Replaced part value (c :: rest) (c :: after)

variable {part value content after other : List Char}

theorem Replaced.unique (some : part ≠ []) (first : Replaced part value content after)
    (second : Replaced part value content other) : other = after := by
  induction first generalizing other with
  | nil =>
    generalize same : [] = content at second
    cases second with
    | nil => rfl
    | here => exact absurd (List.append_eq_nil_iff.mp same.symm).1 some
    | char => cases same
  | @here rest after later ih =>
    generalize same : part ++ rest = content at second
    cases second with
    | nil => exact absurd (List.append_eq_nil_iff.mp same).1 some
    | here again =>
      obtain rfl := List.append_cancel_left same
      rw [ih again]
    | char differ => exact absurd ⟨rest, same⟩ differ
  | @char c rest after differ later ih =>
    generalize same : c :: rest = content at second
    cases second with
    | nil => cases same
    | here => exact absurd ⟨_, same.symm⟩ differ
    | char _ again =>
      cases same
      rw [ih again]

theorem exists_replaced (some : part ≠ []) (value content piece : List Char) :
    ∃ after, Replaced part value content after ∧
      value.intercalate (pieces part content 0 piece) = piece.reverse ++ after := by
  induction length : content.length using Nat.strong_induction_on generalizing content piece with
  | _ length ih =>
    subst length
    cases content with
    | nil => exact ⟨[], .nil, by simp [pieces]⟩
    | cons c rest =>
      rw [pieces]
      by_cases starts : part <+: c :: rest
      · obtain ⟨tail, whole⟩ := starts
        obtain ⟨head, others, rfl⟩ := List.exists_cons_of_ne_nil some
        rw [List.cons_append] at whole
        obtain ⟨rfl, rfl⟩ := List.cons_eq_cons.mp whole
        obtain ⟨after, replaced, joined⟩ := ih tail.length (by simp only [List.length_cons, List.length_append]; omega) tail [] rfl
        refine ⟨value ++ after, .here replaced, ?_⟩
        rw [if_pos (by simp), List.length_cons, Nat.add_sub_cancel, pieces_skip, List.drop_left,
          List.intercalate_cons_of_ne_nil (pieces_ne_nil _ _ _ _), joined]
        simp
      · obtain ⟨after, replaced, joined⟩ := ih rest.length (by simp) rest (c :: piece) rfl
        refine ⟨c :: after, .char starts replaced, ?_⟩
        rw [if_neg (by simpa using starts), joined]
        simp

theorem replace_eq_iff {old new content after : String} (some : old ≠ "") :
    replace old new content = after ↔ Replaced old.toList new.toList content.toList after.toList := by
  have part : old.toList ≠ [] := fun none => some (String.toList_inj.mp none)
  obtain ⟨whole, replaced, joined⟩ := exists_replaced part new.toList content.toList []
  have same : (replace old new content).toList = whole := by
    rw [replace, cut, String.toList_intercalate, List.map_map]
    simpa [Function.comp_def] using joined
  rw [← String.toList_inj, same]
  constructor
  · rintro rfl
    exact replaced
  · exact fun other => (replaced.unique part other).symm

end Reconcile.Text
