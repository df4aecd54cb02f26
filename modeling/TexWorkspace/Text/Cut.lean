set_option autoImplicit false

/-!
Cutting a text behind a run at its front, or at every occurrence of a mark: a path at its slashes, a
message at the ends of its lines. There is always at least one piece, and a text without the mark is
one.
-/

namespace TexWorkspace.Text

/-- A run is taken whole, and nothing more where what stands behind it starts otherwise. -/
theorem takeWhile_append_of_ends {α : Type} {own : α → Bool} {run rest : List α}
    (all : ∀ item ∈ run, own item = true) (ends : ∀ item ∈ rest.head?, own item = false) :
    (run ++ rest).takeWhile own = run ∧ (run ++ rest).dropWhile own = rest := by
  rw [List.takeWhile_append_of_pos all, List.dropWhile_append_of_pos all]
  cases rest with
  | nil => simp
  | cons item rest => simp [ends item rfl]

/-- The pieces of a text between its marks. -/
def cut (mark : Char) : List Char → List (List Char)
  | [] => [[]]
  | c :: rest =>
      if c = mark then [] :: cut mark rest
      else
        match cut mark rest with
        | [] => [[c]]
        | piece :: more => (c :: piece) :: more

theorem cut_ne_nil (mark : Char) (text : List Char) : cut mark text ≠ [] := by
  cases text with
  | nil => simp [cut]
  | cons c rest =>
      unfold cut
      split
      · simp
      · split <;> simp

theorem cut_of_notMem {mark : Char} {text : List Char} (unmarked : mark ∉ text) :
    cut mark text = [text] := by
  induction text with
  | nil => rfl
  | cons c rest ih =>
      simp only [List.mem_cons, not_or] at unmarked
      rw [cut, if_neg (Ne.symm unmarked.1), ih unmarked.2]

theorem cut_append_cons {mark : Char} {piece : List Char} (rest : List Char)
    (unmarked : mark ∉ piece) : cut mark (piece ++ mark :: rest) = piece :: cut mark rest := by
  induction piece with
  | nil => simp [cut]
  | cons c more ih =>
      simp only [List.mem_cons, not_or] at unmarked
      rw [List.cons_append, cut, if_neg (Ne.symm unmarked.1), ih unmarked.2]

/-- The pieces hold no mark, and nothing that is not in the text. -/
theorem notMem_of_mem_cut {mark : Char} {text piece : List Char} (member : piece ∈ cut mark text) :
    mark ∉ piece ∧ piece ⊆ text := by
  induction text generalizing piece with
  | nil =>
      obtain rfl : piece = [] := by simpa [cut] using member
      simp
  | cons c rest ih =>
      unfold cut at member
      split at member
      next =>
        rcases List.mem_cons.mp member with rfl | later
        · simp
        · exact ⟨(ih later).1, List.subset_cons_of_subset c (ih later).2⟩
      next marked =>
        split at member
        next none => exact absurd none (cut_ne_nil mark rest)
        next first more pieces =>
          rw [pieces] at ih
          rcases List.mem_cons.mp member with rfl | later
          · obtain ⟨free, inside⟩ := ih List.mem_cons_self
            exact ⟨by simp [free, Ne.symm marked], List.cons_subset_cons c inside⟩
          · obtain ⟨free, inside⟩ := ih (List.mem_cons_of_mem first later)
            exact ⟨free, List.subset_cons_of_subset c inside⟩

theorem cut_intercalate {mark : Char} {first : List Char} {more : List (List Char)}
    (unmarked : ∀ piece ∈ first :: more, mark ∉ piece) :
    cut mark ([mark].intercalate (first :: more)) = first :: more := by
  induction more generalizing first with
  | nil => rw [List.intercalate_singleton, cut_of_notMem (unmarked first List.mem_cons_self)]
  | cons second rest ih =>
      rw [List.intercalate_cons_cons, List.append_assoc, List.singleton_append,
        cut_append_cons _ (unmarked first List.mem_cons_self),
        ih fun piece member => unmarked piece (List.mem_cons_of_mem first member)]

end TexWorkspace.Text
