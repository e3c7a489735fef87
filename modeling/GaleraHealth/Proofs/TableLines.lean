import GaleraHealth.Proofs.TextLines
import GaleraHealth.Summary.Table

/-!
# The lines of a table

A cell may hold any text, line breaks included. The table takes it apart into lines of its own and
draws a bar in front of each.

* `no_break_of_mem_cellLines`: what is left of a cell's text has no line break.
* `tableLine_rule`, `tableLine_of_mem_rowLines`: the two kinds of lines.
* `tableLine_of_mem`: every line of a table starts with a plus sign or a bar.
* `lines_render`: the text of a table has no other lines.
-/

namespace GaleraHealth

namespace Summary

/-- A line of a table: it starts with a plus sign or a bar, and is one line. -/
def TableLine (l : String) : Prop :=
  (∃ rest, l.toList = '+' :: rest ∨ l.toList = '|' :: rest) ∧ '\n' ∉ l.toList

namespace Table

theorem notMem_of_mem_splitAt {α : Type} {p : α → Bool} {xs l : List α} (h : l ∈ splitAt p xs) :
    ∀ a ∈ l, p a = false := by
  induction xs generalizing l with
  | nil =>
    rw [splitAt, List.mem_singleton] at h
    rw [h]
    intro a ha
    cases ha
  | cons x xs ih =>
    rw [splitAt] at h
    by_cases hx : p x = true
    · rw [if_pos hx, List.mem_cons] at h
      cases h with
      | inl h =>
        rw [h]
        intro a ha
        cases ha
      | inr h => exact ih h
    · rw [if_neg hx] at h
      rw [Bool.not_eq_true] at hx
      cases hsplit : splitAt p xs with
      | nil =>
        rw [hsplit, List.mem_singleton] at h
        rw [h]
        intro a ha
        rw [List.mem_singleton.mp ha]
        exact hx
      | cons first rest =>
        rw [hsplit, List.mem_cons] at h
        rw [hsplit] at ih
        cases h with
        | inl h =>
          rw [h]
          intro a ha
          cases List.mem_cons.mp ha with
          | inl ha =>
            rw [ha]
            exact hx
          | inr ha => exact ih List.mem_cons_self a ha
        | inr h => exact ih (List.mem_cons_of_mem _ h)

/-- The lines of a cell are lines. -/
theorem no_break_of_mem_cellLines {s l : String} (h : l ∈ cellLines s) : '\n' ∉ l.toList := by
  have hpart : ∀ part ∈ splitAt (· == '\n') s.toList, '\n' ∉ part := by
    intro part hpart hbreak
    have hne := notMem_of_mem_splitAt hpart '\n' hbreak
    cases hne
  rw [cellLines] at h
  obtain ⟨part, hmem, hl⟩ := List.mem_map.mp h
  rw [← hl, String.toList_ofList]
  cases List.mem_append.mp hmem with
  | inl hended =>
    obtain ⟨whole, hwhole, hcut⟩ := List.mem_map.mp hended
    have hclean := hpart whole (List.dropLast_subset _ hwhole)
    rw [← hcut]
    split
    · intro hbreak
      exact hclean (List.dropLast_subset _ hbreak)
    · exact hclean
  | inr hlast =>
    have hlast' : part = (splitAt (· == '\n') s.toList).getLast?.getD [] := by
      split at hlast
      · cases hlast
      · exact List.mem_singleton.mp hlast
    cases hend : (splitAt (· == '\n') s.toList).getLast? with
    | none =>
      rw [hlast', hend]
      exact List.not_mem_nil
    | some end_ =>
      rw [hlast', hend]
      exact hpart end_ (List.mem_of_getLast? hend)

theorem notMem_intercalate {c : Char} {separator : List Char} {parts : List (List Char)}
    (hseparator : c ∉ separator) (hparts : ∀ p ∈ parts, c ∉ p) :
    c ∉ separator.intercalate parts := by
  induction parts with
  | nil => exact List.not_mem_nil
  | cons part rest ih =>
    have hpart := hparts part List.mem_cons_self
    have hrest := ih fun p hp => hparts p (List.mem_cons_of_mem _ hp)
    cases rest with
    | nil =>
      rw [List.intercalate_singleton]
      exact hpart
    | cons next rest =>
      rw [List.intercalate_cons_cons, List.mem_append, List.mem_append, not_or, not_or]
      exact ⟨⟨hpart, hseparator⟩, hrest⟩

/-- A line across the table starts with its left end. -/
theorem tableLine_rule {left fill cross right : Char} (hleft : left = '+' ∨ left = '|')
    (hfill : '\n' ≠ fill) (hcross : '\n' ≠ cross) (hright : '\n' ≠ right) (widths : List Nat) :
    TableLine (rule left fill cross right widths) := by
  have hchars : (rule left fill cross right widths).toList = left ::
      (List.intercalate [cross] (widths.map fun w => List.replicate (w + 2) fill) ++ [right]) := by
    rw [rule, String.toList_ofList]
    rfl
  have hne : '\n' ≠ left := by
    intro h
    rw [← h] at hleft
    revert hleft
    decide
  rw [TableLine, hchars]
  refine ⟨?_, ?_⟩
  · cases hleft with
    | inl h => exact ⟨_, .inl (by rw [h])⟩
    | inr h => exact ⟨_, .inr (by rw [h])⟩
  · have hbody : '\n' ∉ List.intercalate [cross]
        (widths.map fun w => List.replicate (w + 2) fill) := by
      refine notMem_intercalate (by rw [List.mem_singleton]; exact hcross) ?_
      intro p hp hbreak
      obtain ⟨w, -, hw⟩ := List.mem_map.mp hp
      rw [← hw] at hbreak
      exact hfill (List.eq_of_mem_replicate hbreak)
    rw [List.mem_cons, List.mem_append, List.mem_singleton, not_or, not_or]
    exact ⟨hne, hbody, hright⟩

theorem no_break_padded {line : String} (h : '\n' ∉ line.toList) (width : Nat) :
    '\n' ∉ (padded width line).toList := by
  have hfill : '\n' ∉ List.replicate (width - Text.width line) ' ' := by
    intro hbreak
    have hspace := List.eq_of_mem_replicate hbreak
    revert hspace
    decide
  simp only [padded, String.toList_append, String.toList_ofList, List.mem_append, not_or]
  exact ⟨⟨⟨by decide, h⟩, hfill⟩, by decide⟩

/-- The lines of a row start with a bar, whatever is in its cells. -/
theorem tableLine_of_mem_rowLines {widths : List Nat} {row : List String} {l : String}
    (h : l ∈ rowLines widths row) : TableLine l := by
  rw [rowLines] at h
  obtain ⟨i, -, hl⟩ := List.mem_map.mp h
  have hcells : '\n' ∉ ("|".intercalate (List.zipWith (fun w c => padded w (c.getD i "")) widths
      (row.map cellLines))).toList := by
    rw [String.toList_intercalate]
    refine notMem_intercalate (by decide) ?_
    intro p hp
    obtain ⟨part, hpart, hpart'⟩ := List.mem_map.mp hp
    rw [← List.map_uncurry_zip_eq_zipWith] at hpart
    obtain ⟨⟨w, cell⟩, hcell, hpadded⟩ := List.mem_map.mp hpart
    obtain ⟨s, -, hs⟩ := List.mem_map.mp (List.of_mem_zip hcell).2
    have hline : '\n' ∉ (cell.getD i "").toList := by
      rw [List.getD_eq_getElem?_getD]
      cases hget : cell[i]? with
      | none => decide
      | some line =>
        rw [← hs] at hget
        exact no_break_of_mem_cellLines (List.mem_of_getElem? hget)
    rw [← hpart', ← hpadded]
    exact no_break_padded hline w
  have hchars : l.toList = '|' :: (("|".intercalate (List.zipWith
      (fun w c => padded w (c.getD i "")) widths (row.map cellLines))).toList ++ ['|']) := by
    rw [← hl, String.toList_append, String.toList_append]
    rfl
  rw [TableLine, hchars]
  refine ⟨⟨_, .inr rfl⟩, ?_⟩
  rw [List.mem_cons, List.mem_append, List.mem_singleton, not_or, not_or]
  exact ⟨by decide, hcells, by decide⟩

theorem mem_of_mem_intersperse {α : Type} {x separator : α} {xs : List α}
    (h : x ∈ xs.intersperse separator) : x = separator ∨ x ∈ xs := by
  induction xs with
  | nil => cases h
  | cons y xs ih =>
    cases xs with
    | nil => exact .inr h
    | cons z xs =>
      have hcases : x = y ∨ x = separator ∨ x ∈ (z :: xs).intersperse separator := by
        have hsplit : x ∈ y :: separator :: (z :: xs).intersperse separator := h
        rw [List.mem_cons, List.mem_cons] at hsplit
        exact hsplit
      obtain heq | heq | hmem := hcases
      · exact .inr (by rw [heq]; exact List.mem_cons_self)
      · exact .inl heq
      · obtain heq | hrest := ih hmem
        · exact .inl heq
        · exact .inr (List.mem_cons_of_mem _ hrest)

/-- **Every line of a table** starts with a plus sign or a bar. -/
theorem tableLine_of_mem {t : Table} {l : String} (h : l ∈ t.lines) : TableLine l := by
  have hframe : ∀ widths, TableLine (rule '+' '-' '+' '+' widths) :=
    tableLine_rule (.inl rfl) (by decide) (by decide) (by decide)
  have hheader : ∀ widths, TableLine (rule '+' '=' '=' '+' widths) :=
    tableLine_rule (.inl rfl) (by decide) (by decide) (by decide)
  have hbetween : ∀ widths, TableLine (rule '|' '-' '+' '|' widths) :=
    tableLine_rule (.inr rfl) (by decide) (by decide) (by decide)
  rw [lines] at h
  simp only [List.mem_append, List.mem_singleton, List.mem_flatten] at h
  obtain (((h | h) | h) | ⟨block, hblock, hl⟩) | h := h
  · rw [h]
    exact hframe _
  · exact tableLine_of_mem_rowLines h
  · rw [h]
    exact hheader _
  · obtain heq | hrow := mem_of_mem_intersperse hblock
    · rw [heq, List.mem_singleton] at hl
      rw [hl]
      exact hbetween _
    · obtain ⟨row, -, hrow⟩ := List.mem_map.mp hrow
      rw [← hrow] at hl
      exact tableLine_of_mem_rowLines hl
  · rw [h]
    exact hframe _

/-- The lines of a table's text are the lines of the table. -/
theorem lines_render (t : Table) : Text.lines t.render = t.lines := by
  have hne : t.lines ≠ [] := by
    rw [lines]
    simp
  rw [render, Text.lines_intercalate hne]
  have hsingle : ∀ l ∈ t.lines, Text.lines l = [l] := fun l hl =>
    Text.lines_of_no_break (tableLine_of_mem hl).2
  rw [List.flatMap_congr hsingle, List.flatMap_singleton']

end Table

end Summary

end GaleraHealth
