/-! # Lines

A text of lines that each end with a break, and texts cut at a character.
-/

namespace PlotLang.Text

/-- A text of lines, each of which ends with a break. -/
def unlines (ls : List (List Char)) : List Char := ls.flatMap (· ++ ['\n'])

def lines (cs : List Char) : List (List Char) := (cs.splitOn '\n').dropLast

variable {c : Char} {cs l : List Char} {ls : List (List Char)}

theorem unlines_cons (l : List Char) (ls : List (List Char)) :
    unlines (l :: ls) = l ++ '\n' :: unlines ls := by
  simp [unlines]

theorem splitOn_unlines (h : ∀ l ∈ ls, '\n' ∉ l) : (unlines ls).splitOn '\n' = ls ++ [[]] := by
  induction ls with
  | nil => exact List.splitOn_nil '\n'
  | cons l ls ih =>
    obtain ⟨hFirst, hRest⟩ := List.forall_mem_cons.mp h
    rw [unlines_cons, List.splitOn_append_cons_self_of_not_mem hFirst, ih hRest, List.cons_append]

theorem lines_unlines (h : ∀ l ∈ ls, '\n' ∉ l) : lines (unlines ls) = ls := by
  rw [lines, splitOn_unlines h, List.dropLast_concat]

theorem unlines_eq_intercalate (h : ls ≠ []) : unlines ls = ['\n'].intercalate ls ++ ['\n'] := by
  induction ls with
  | nil => exact absurd rfl h
  | cons l ls ih =>
    cases ls with
    | nil => simp [unlines]
    | cons m ls =>
      rw [unlines_cons, ih (List.cons_ne_nil m ls), List.intercalate_cons_cons]
      simp

theorem unlines_splitOn (cs : List Char) : unlines (cs.splitOn '\n') = cs ++ ['\n'] := by
  rw [unlines_eq_intercalate (List.splitOn_ne_nil '\n' cs), List.intercalate_splitOn]

theorem notMem_of_mem_splitOn (h : l ∈ cs.splitOn c) : c ∉ l := by
  induction cs generalizing l with
  | nil =>
    rw [List.splitOn_nil] at h
    obtain rfl := List.mem_singleton.mp h
    exact List.not_mem_nil
  | cons d cs ih =>
    rw [List.splitOn_cons_eq_if_modifyHead] at h
    split at h
    · obtain rfl | h := List.mem_cons.mp h
      · exact List.not_mem_nil
      · exact ih h
    · rename_i hOther
      obtain ⟨first, rest, hSplit⟩ := List.exists_cons_of_ne_nil (List.splitOn_ne_nil c cs)
      rw [hSplit] at ih h
      obtain rfl | h := List.mem_cons.mp h
      · have hFirst := ih List.mem_cons_self
        rw [List.mem_cons, not_or]
        exact ⟨fun hEq => hOther (beq_iff_eq.mpr hEq.symm), hFirst⟩
      · exact ih (List.mem_cons_of_mem first h)

theorem append_intercalate (sep front : List Char) (l : List Char) (ls : List (List Char)) :
    front ++ sep.intercalate (l :: ls) = sep.intercalate ((front ++ l) :: ls) := by
  cases ls with
  | nil => simp
  | cons m ls => simp only [List.intercalate_cons_cons, List.append_assoc]

end PlotLang.Text
