/-! # Runs of characters

The beginning of a text whose characters are all of a class, and where it ends.
-/

namespace PlotLang.Text

variable {p : Char → Bool} {run rest after : List Char}

theorem takeWhile_run (hAll : ∀ c ∈ run, p c) (hRight : ∀ c ∈ after.head?, p c = false) :
    (run ++ after).takeWhile p = run := by
  rw [List.takeWhile_append_of_pos hAll]
  cases after with
  | nil => exact List.append_nil run
  | cons c cs =>
    rw [List.takeWhile_cons_of_neg (by simp [hRight c rfl]), List.append_nil]

theorem dropWhile_run (hAll : ∀ c ∈ run, p c) (hRight : ∀ c ∈ after.head?, p c = false) :
    (run ++ after).dropWhile p = after := by
  rw [List.dropWhile_append_of_pos hAll]
  cases after with
  | nil => rfl
  | cons c cs => exact List.dropWhile_cons_of_neg (by simp [hRight c rfl])

theorem takeWhile_append (hRight : ∀ c ∈ rest.head?, p c = false) :
    (run ++ rest).takeWhile p = run.takeWhile p := by
  have hRest : rest.takeWhile p = [] := takeWhile_run (List.forall_mem_nil _) hRight
  rw [List.takeWhile_append]
  split
  · rename_i hAll
    rw [hRest, List.append_nil, (List.takeWhile_sublist p).eq_of_length hAll]
  · rfl

theorem dropWhile_append (hRight : ∀ c ∈ rest.head?, p c = false) :
    (run ++ rest).dropWhile p = run.dropWhile p ++ rest := by
  have hRest : rest.dropWhile p = rest := dropWhile_run (List.forall_mem_nil _) hRight
  rw [List.dropWhile_append]
  split
  · rename_i hNone
    rw [List.isEmpty_iff.mp hNone, hRest, List.nil_append]
  · rfl

end PlotLang.Text
