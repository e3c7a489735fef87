import Mathlib.Data.List.TakeDrop
import Mathlib.Data.List.TakeWhile
import GaleraHealth.Text.Blank

/-!
# Trimmed rows

What `trimEnds` leaves of a row, said from the side of what is left.

* `exists_trimEnds_parts`: only members that are to be trimmed are taken away, at the two ends.
* `trimEnds_eq_iff`: what is left if nothing of it is to be trimmed itself.
* `trimEnds_between`: what is put around a row and is to be trimmed does not matter.
* `toNat_of_isBlank`: white space is apart from what is printed in ASCII.
-/

namespace GaleraHealth

namespace Text

section TrimEnds

variable {α : Type} {p : α → Bool} {xs core front back : List α}

theorem exists_trimEnds_parts (p : α → Bool) (xs : List α) :
    ∃ front back, xs = front ++ trimEnds p xs ++ back ∧ (∀ x ∈ front, p x = true) ∧
      ∀ x ∈ back, p x = true := by
  let rest := xs.dropWhile p
  have hrest : rest = trimEnds p xs ++ (rest.reverse.takeWhile p).reverse := by
    rw [trimEnds, ← List.reverse_append, List.takeWhile_append_dropWhile, List.reverse_reverse]
  refine ⟨xs.takeWhile p, (rest.reverse.takeWhile p).reverse, ?_, ?_, ?_⟩
  · rw [List.append_assoc, ← hrest, List.takeWhile_append_dropWhile]
  · intro x hx
    exact List.mem_takeWhile_imp hx
  · intro x hx
    exact List.mem_takeWhile_imp (List.mem_reverse.mp hx)

theorem dropWhile_front (hfront : ∀ x ∈ front, p x = true) (hcore : ∀ x ∈ core, p x = false)
    (hne : core ≠ []) (back : List α) :
    (front ++ (core ++ back)).dropWhile p = core ++ back := by
  rw [List.dropWhile_append_of_pos hfront]
  cases core with
  | nil => exact absurd rfl hne
  | cons x core =>
    have hx := hcore x List.mem_cons_self
    exact List.dropWhile_cons_of_neg (by rw [hx]; exact Bool.false_ne_true)

theorem trimEnds_of_parts (hfront : ∀ x ∈ front, p x = true) (hcore : ∀ x ∈ core, p x = false)
    (hback : ∀ x ∈ back, p x = true) : trimEnds p (front ++ core ++ back) = core := by
  have hback' : ∀ x ∈ back.reverse, p x = true := fun x hx => hback x (List.mem_reverse.mp hx)
  have hcore' : ∀ x ∈ core.reverse, p x = false := fun x hx => hcore x (List.mem_reverse.mp hx)
  rw [trimEnds, List.append_assoc]
  by_cases hne : core = []
  · have hnothing : (front ++ ([] ++ back)).dropWhile p = [] := by
      rw [List.dropWhile_append_of_pos hfront, List.nil_append]
      exact List.dropWhile_eq_nil_iff.mpr hback
    rw [hne, hnothing]
    rfl
  · have hreverse : core.reverse ≠ [] := fun h => hne (List.reverse_eq_nil_iff.mp h)
    have hend := dropWhile_front hback' hcore' hreverse []
    rw [List.append_nil] at hend
    rw [dropWhile_front hfront hcore hne back, List.reverse_append, hend, List.reverse_reverse]

theorem trimEnds_of_plain (hcore : ∀ x ∈ core, p x = false) : trimEnds p core = core := by
  have h := trimEnds_of_parts (List.forall_mem_nil _) hcore (List.forall_mem_nil _)
  rwa [List.nil_append, List.append_nil] at h

/-- What is left of a row whose ends are trimmed, if nothing of it is to be trimmed itself. -/
theorem trimEnds_eq_iff (hcore : ∀ x ∈ core, p x = false) : trimEnds p xs = core ↔
    ∃ front back, xs = front ++ core ++ back ∧ (∀ x ∈ front, p x = true) ∧
      ∀ x ∈ back, p x = true := by
  constructor
  · rintro rfl
    exact exists_trimEnds_parts p xs
  · rintro ⟨front, back, rfl, hfront, hback⟩
    exact trimEnds_of_parts hfront hcore hback

/-- Members that are to be trimmed can be put around any row. -/
theorem trimEnds_between (hfront : ∀ x ∈ front, p x = true) (hback : ∀ x ∈ back, p x = true)
    (xs : List α) : trimEnds p (front ++ xs ++ back) = trimEnds p xs := by
  have hback' : ∀ x ∈ back.reverse, p x = true := fun x hx => hback x (List.mem_reverse.mp hx)
  rw [trimEnds, trimEnds, List.append_assoc, List.dropWhile_append_of_pos hfront,
    List.dropWhile_append]
  by_cases hrest : xs.dropWhile p = []
  · rw [hrest, List.isEmpty_nil, if_pos rfl, List.dropWhile_eq_nil_iff.mpr hback]
  · rw [if_neg (by rwa [List.isEmpty_iff]), List.reverse_append,
      List.dropWhile_append_of_pos hback']

/-- A front whose members all have a property ends where a rest begins whose first member has not. -/
theorem takeWhile_append_stop (hfront : ∀ x ∈ front, p x = true)
    (hback : ∀ x, back.head? = some x → p x = false) :
    (front ++ back).takeWhile p = front ∧ (front ++ back).dropWhile p = back := by
  rw [List.takeWhile_append_of_pos hfront, List.dropWhile_append_of_pos hfront]
  cases back with
  | nil => simp
  | cons x back =>
    have hx : ¬ p x = true := by
      rw [hback x rfl]
      exact Bool.false_ne_true
    rw [List.takeWhile_cons_of_neg hx, List.dropWhile_cons_of_neg hx, List.append_nil]
    exact ⟨rfl, rfl⟩

end TrimEnds

theorem toNat_of_isBlank {c : Char} (h : isBlank c = true) : c.toNat ≤ 32 ∨ 133 ≤ c.toNat := by
  simp only [isBlank, Bool.or_eq_true, Bool.and_eq_true, decide_eq_true_eq, beq_iff_eq,
    UInt32.le_iff_toNat_le, ← UInt32.toNat_inj, Char.toNat_val, UInt32.reduceToNat] at h
  omega

end Text

end GaleraHealth
