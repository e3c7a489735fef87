import Mathlib.Data.List.Basic
import Mathlib.Data.List.TakeWhile
import GaleraHealth.Text.Blank
import GaleraHealth.Text.Pieces

/-!
# The lines of a text

A reader of a text looks for lines that start with a mark. A writer puts the text together from
parts, and each part brings its own first line and, if it holds line breaks, others behind it. Those
are nobody's intention.

* `lines_append_break`, `lines_intercalate`: the lines of parts that are joined by line breaks.
* `marked_eq`: the marked lines of a part are its first line, if it is marked, and the forged ones.
* `forged_wrapped_iff`: what stands around a text on its line forges nothing and hides nothing.
* `flatMap_append_eq_iff`: additions to a list leave it as it is only if there are none.
-/

namespace GaleraHealth.Text

/-! ### Pieces -/

theorem pieces_append_cons (separator : Char) (xs ys : List Char) :
    pieces separator (xs ++ separator :: ys) = pieces separator xs ++ pieces separator ys := by
  induction xs with
  | nil => simp [pieces]
  | cons x xs ih =>
    rw [List.cons_append, pieces, pieces, ih]
    by_cases hx : x = separator
    · rw [if_pos hx, if_pos hx, List.cons_append]
    · rw [if_neg hx, if_neg hx]
      cases hpieces : pieces separator xs with
      | nil => exact absurd hpieces (pieces_ne_nil separator xs)
      | cons p ps => rfl

theorem pieces_of_notMem {separator : Char} {xs : List Char} (h : separator ∉ xs) :
    pieces separator xs = [xs] := by
  induction xs with
  | nil => rfl
  | cons x xs ih =>
    rw [List.mem_cons, not_or] at h
    rw [pieces, if_neg (Ne.symm h.1), ih h.2]

/-- The first piece is what stands before the first separator. -/
theorem pieces_eq_cons (separator : Char) (xs : List Char) :
    pieces separator xs = xs.takeWhile (· != separator) :: (pieces separator xs).tail := by
  induction xs with
  | nil => rfl
  | cons x xs ih =>
    rw [pieces]
    by_cases hx : x = separator
    · rw [if_pos hx, List.takeWhile_cons_of_neg (by simp [hx]), List.tail_cons]
    · rw [if_neg hx, List.takeWhile_cons_of_pos (by simp [hx]), ih]
      rfl

/-- What stands before a text stands before its first piece. -/
theorem pieces_append_of_notMem {separator : Char} {front : List Char} (h : separator ∉ front)
    (xs : List Char) : pieces separator (front ++ xs) =
      (front ++ xs.takeWhile (· != separator)) :: (pieces separator xs).tail := by
  induction front with
  | nil => exact pieces_eq_cons separator xs
  | cons x front ih =>
    rw [List.mem_cons, not_or] at h
    rw [List.cons_append, pieces, if_neg (Ne.symm h.1), ih h.2]
    rfl

/-- What stands behind a text stands behind its last piece. -/
theorem exists_pieces_append {separator : Char} {back : List Char} (h : separator ∉ back)
    (xs : List Char) : ∃ others last, pieces separator xs = others ++ [last] ∧
      pieces separator (xs ++ back) = others ++ [last ++ back] := by
  induction xs with
  | nil => exact ⟨[], [], rfl, pieces_of_notMem h⟩
  | cons x xs ih =>
    obtain ⟨others, last, hxs, hwhole⟩ := ih
    rw [List.cons_append, pieces, pieces, hxs, hwhole]
    by_cases hx : x = separator
    · rw [if_pos hx, if_pos hx]
      exact ⟨[] :: others, last, rfl, rfl⟩
    · rw [if_neg hx, if_neg hx]
      cases others with
      | nil => exact ⟨[], x :: last, rfl, rfl⟩
      | cons first others => exact ⟨(x :: first) :: others, last, rfl, rfl⟩

/-- A character other than the separator stands in one of the pieces. -/
theorem exists_piece_of_mem {separator c : Char} {xs : List Char} (hc : c ≠ separator)
    (h : c ∈ xs) : ∃ p ∈ pieces separator xs, c ∈ p := by
  induction xs with
  | nil => cases h
  | cons x xs ih =>
    rw [pieces]
    by_cases hx : x = separator
    · rw [if_pos hx]
      rcases List.mem_cons.mp h with rfl | h
      · exact absurd hx hc
      · obtain ⟨p, hp, hcp⟩ := ih h
        exact ⟨p, List.mem_cons_of_mem _ hp, hcp⟩
    · rw [if_neg hx]
      cases hpieces : pieces separator xs with
      | nil => exact absurd hpieces (pieces_ne_nil separator xs)
      | cons p ps =>
        rcases List.mem_cons.mp h with rfl | h
        · exact ⟨c :: p, List.mem_cons_self, List.mem_cons_self⟩
        · obtain ⟨q, hq, hcq⟩ := ih h
          rw [hpieces] at hq
          rcases List.mem_cons.mp hq with rfl | hq
          · exact ⟨x :: q, List.mem_cons_self, List.mem_cons_of_mem _ hcq⟩
          · exact ⟨q, List.mem_cons_of_mem _ hq, hcq⟩

/-- A text is cut into what stands before a mark, the mark, and what stands after it. -/
theorem eq_of_cutAt? {mark cs front back : List Char} (h : cutAt? mark cs = some (front, back)) :
    cs = front ++ mark ++ back := by
  induction cs generalizing front with
  | nil =>
    rw [cutAt?] at h
    cases mark with
    | nil =>
      obtain ⟨rfl, rfl⟩ := Prod.mk.inj (Option.some.inj h)
      rfl
    | cons m mark => cases h
  | cons c cs ih =>
    rw [cutAt?] at h
    by_cases hmark : mark.isPrefixOf (c :: cs) = true
    · rw [if_pos hmark] at h
      obtain ⟨rfl, rfl⟩ := Prod.mk.inj (Option.some.inj h)
      obtain ⟨rest, hrest⟩ := List.isPrefixOf_iff_prefix.mp hmark
      rw [← hrest, List.drop_left, List.nil_append]
    · rw [if_neg hmark] at h
      obtain ⟨⟨front', back'⟩, hcut, heq⟩ := Option.map_eq_some_iff.mp h
      obtain ⟨rfl, rfl⟩ := Prod.mk.inj heq
      rw [ih hcut]
      rfl

/-- **A mark that begins with a character of its own** is found where it stands. -/
theorem cutAt?_of_notMem {d : Char} {mark front : List Char} (h : d ∉ front) (back : List Char) :
    cutAt? (d :: mark) (front ++ (d :: mark) ++ back) = some (front, back) := by
  induction front with
  | nil =>
    have hmark : (d :: mark).isPrefixOf (d :: (mark ++ back)) = true :=
      List.isPrefixOf_iff_prefix.mpr (List.prefix_append (d :: mark) back)
    show cutAt? (d :: mark) (d :: (mark ++ back)) = _
    rw [cutAt?, if_pos hmark, ← List.cons_append, List.drop_left]
  | cons c front ih =>
    rw [List.mem_cons, not_or] at h
    obtain ⟨hc, hfront⟩ := h
    have hmark : ¬ (d :: mark).isPrefixOf (c :: (front ++ (d :: mark) ++ back)) = true := by
      rw [List.isPrefixOf_cons_cons, Bool.and_eq_true, beq_iff_eq]
      exact fun hmark => hc hmark.1
    show cutAt? (d :: mark) (c :: (front ++ (d :: mark) ++ back)) = _
    rw [cutAt?, if_neg hmark, ih hfront]
    rfl

/-! ### Lines -/

/-- The lines of a text. After a last line break there is one more line, which is empty. -/
def lines (text : String) : List String := (pieces '\n' text.toList).map String.ofList

/-- The first line of a text. -/
def firstLine (text : String) : String := String.ofList (text.toList.takeWhile (· != '\n'))

/-- The lines of a text after its first. -/
def laterLines (text : String) : List String := (lines text).tail

theorem lines_eq_cons (text : String) : lines text = firstLine text :: laterLines text := by
  rw [laterLines, lines, pieces_eq_cons]
  rfl

theorem lines_append_break (s t : String) : lines (s ++ "\n" ++ t) = lines s ++ lines t := by
  have hsplit : (s ++ "\n" ++ t).toList = s.toList ++ '\n' :: t.toList := by simp
  rw [lines, hsplit, pieces_append_cons, List.map_append]
  rfl

theorem lines_of_no_break {text : String} (h : '\n' ∉ text.toList) : lines text = [text] := by
  rw [lines, pieces_of_notMem h, List.map_singleton, String.ofList_toList]

theorem firstLine_of_no_break {text : String} (h : '\n' ∉ text.toList) : firstLine text = text := by
  have hcons := lines_eq_cons text
  rw [lines_of_no_break h] at hcons
  exact (List.cons.inj hcons).1.symm

theorem laterLines_of_no_break {text : String} (h : '\n' ∉ text.toList) : laterLines text = [] := by
  rw [laterLines, lines_of_no_break h, List.tail_cons]

/-- **The lines of parts** that are joined by line breaks. -/
theorem lines_intercalate {parts : List String} (h : parts ≠ []) :
    lines ("\n".intercalate parts) = parts.flatMap lines := by
  induction parts with
  | nil => exact absurd rfl h
  | cons part rest ih =>
    cases rest with
    | nil => rw [String.intercalate_singleton, List.flatMap_singleton]
    | cons next rest =>
      rw [String.intercalate_cons_cons, lines_append_break, ih (List.cons_ne_nil _ _)]
      rfl

/-- What stands before a text stands on its first line. -/
theorem laterLines_front {front : String} (h : '\n' ∉ front.toList) (text : String) :
    laterLines (front ++ text) = laterLines text := by
  rw [laterLines, lines, String.toList_append, pieces_append_of_notMem h, List.map_cons,
    List.tail_cons, List.map_tail]
  rfl

/-- What stands behind a text stands on its last line. -/
theorem exists_lines_back {back : String} (h : '\n' ∉ back.toList) (text : String) :
    ∃ others last, lines text = others ++ [last] ∧
      lines (text ++ back) = others ++ [last ++ back] := by
  obtain ⟨others, last, htext, hwhole⟩ := exists_pieces_append h text.toList
  refine ⟨others.map String.ofList, String.ofList last, ?_, ?_⟩
  · rw [lines, htext, List.map_append, List.map_singleton]
  · rw [lines, String.toList_append, hwhole, List.map_append, List.map_singleton,
      String.ofList_append, String.ofList_toList]

/-! ### Marks -/

/-- The lines of a text that start with a mark. -/
def marked (mark text : String) : List String := (lines text).filter fun l => startsWith l mark

/-- The first line of a part that is marked, if its own line is. -/
def own (mark part : String) : List String := if startsWith part mark then [firstLine part] else []

/-- The marked lines of a text after its first. -/
def forged (mark text : String) : List String :=
  (laterLines text).filter fun l => startsWith l mark

theorem isPrefixOf_takeWhile {p : Char → Bool} {mark : List Char} (h : ∀ c ∈ mark, p c = true)
    (xs : List Char) : mark.isPrefixOf (xs.takeWhile p) = mark.isPrefixOf xs := by
  induction mark generalizing xs with
  | nil => simp
  | cons c mark ih =>
    cases xs with
    | nil => rfl
    | cons x xs =>
      by_cases hx : p x = true
      · rw [List.takeWhile_cons_of_pos hx, List.isPrefixOf_cons_cons, List.isPrefixOf_cons_cons,
          ih (fun d hd => h d (List.mem_cons_of_mem _ hd))]
      · have hne : (c == x) = false := by
          rw [beq_eq_false_iff_ne]
          rintro rfl
          exact hx (h c List.mem_cons_self)
        rw [List.takeWhile_cons_of_neg hx, List.isPrefixOf_cons_cons, hne, Bool.false_and]
        rfl

/-- A text cannot be completed to a mark by a character that the mark does not have. -/
theorem isPrefixOf_append {mark back : List Char} {d : Char} (hd : d ∉ mark) (xs : List Char) :
    mark.isPrefixOf (xs ++ d :: back) = mark.isPrefixOf xs := by
  induction mark generalizing xs with
  | nil => simp
  | cons c mark ih =>
    rw [List.mem_cons, not_or] at hd
    cases xs with
    | nil =>
      have hne : (c == d) = false := beq_eq_false_iff_ne.mpr (Ne.symm hd.1)
      rw [List.nil_append, List.isPrefixOf_cons_cons, hne, Bool.false_and]
      rfl
    | cons x xs =>
      rw [List.cons_append, List.isPrefixOf_cons_cons, List.isPrefixOf_cons_cons, ih hd.2]

/-- Whether a text starts with a mark shows at its front, if that is as long as the mark. -/
theorem isPrefixOf_front {mark front : List Char} (h : mark.length ≤ front.length)
    (xs : List Char) : mark.isPrefixOf (front ++ xs) = mark.isPrefixOf front := by
  induction mark generalizing front with
  | nil => simp
  | cons c mark ih =>
    cases front with
    | nil => simp at h
    | cons x front =>
      rw [List.cons_append, List.isPrefixOf_cons_cons, List.isPrefixOf_cons_cons,
        ih (Nat.le_of_succ_le_succ h)]

theorem startsWith_front {mark front : String} (h : mark.toList.length ≤ front.toList.length)
    (text : String) : startsWith (front ++ text) mark = startsWith front mark := by
  rw [startsWith, startsWith, String.toList_append, isPrefixOf_front h]

/-- A text starts with a mark if its first line does. -/
theorem startsWith_firstLine {mark : String} (hmark : '\n' ∉ mark.toList) (text : String) :
    startsWith (firstLine text) mark = startsWith text mark := by
  have hplain : ∀ c ∈ mark.toList, (c != '\n') = true := by
    intro c hc
    rw [bne_iff_ne]
    rintro rfl
    exact hmark hc
  rw [startsWith, firstLine, String.toList_ofList, isPrefixOf_takeWhile hplain]
  rfl

/-- **The marked lines of a part** are its first line, if it is marked, and the forged ones. -/
theorem marked_eq {mark : String} (hmark : '\n' ∉ mark.toList) (part : String) :
    marked mark part = own mark part ++ forged mark part := by
  rw [marked, lines_eq_cons, List.filter_cons, startsWith_firstLine hmark, own, forged]
  split <;> rfl

/-- What stands around a text on its first and on its last line forges nothing and hides nothing. -/
theorem forged_wrapped_iff {mark front back : String} {d : Char} (hfront : '\n' ∉ front.toList)
    (hback : '\n' ∉ back.toList) (hhead : back.toList.head? = some d) (hd : d ∉ mark.toList)
    (text : String) : forged mark (front ++ text ++ back) = [] ↔ forged mark text = [] := by
  obtain ⟨rest, hrest⟩ := List.head?_eq_some_iff.mp hhead
  obtain ⟨others, last, htext, hwrapped⟩ := exists_lines_back hback text
  have hlast : startsWith (last ++ back) mark = startsWith last mark := by
    rw [startsWith, startsWith, String.toList_append, hrest, isPrefixOf_append hd]
  rw [String.append_assoc, forged, forged, laterLines_front hfront, laterLines, laterLines, htext,
    hwrapped]
  cases others with
  | nil => rfl
  | cons first others =>
    have hend : [last ++ back].filter (startsWith · mark) = [] ↔
        [last].filter (startsWith · mark) = [] := by
      simp only [List.filter_eq_nil_iff, List.mem_singleton, forall_eq, hlast]
    rw [List.cons_append, List.cons_append, List.tail_cons, List.tail_cons, List.filter_append,
      List.filter_append, List.append_eq_nil_iff, List.append_eq_nil_iff, hend]

theorem forged_of_no_break {text : String} (h : '\n' ∉ text.toList) (mark : String) :
    forged mark text = [] := by
  rw [forged, laterLines_of_no_break h, List.filter_nil]

/-! ### Additions -/

/-- Additions to the parts of a list leave it as it is only if there are none. -/
theorem flatMap_append_eq_iff {α β : Type} (f g : α → List β) (xs : List α) :
    xs.flatMap (fun x => f x ++ g x) = xs.flatMap f ↔ ∀ x ∈ xs, g x = [] := by
  have hlength : (xs.flatMap fun x => f x ++ g x).length =
      (xs.flatMap f).length + (xs.flatMap g).length := by
    induction xs with
    | nil => rfl
    | cons x xs ih =>
      simp only [List.flatMap_cons, List.length_append, ih]
      omega
  constructor
  · intro h
    rw [h] at hlength
    have hnone : xs.flatMap g = [] := List.eq_nil_of_length_eq_zero (by omega)
    exact List.flatMap_eq_nil_iff.mp hnone
  · intro h
    exact List.flatMap_congr fun x hx => by rw [h x hx, List.append_nil]

end GaleraHealth.Text
