import RecordListing.Text.Blank
import RecordListing.Text.Pieces

/-!
# Pieces of a text

Pieces hold no separator, and pieces without separators that are joined by one are the pieces of
the text they make. Where nothing is to be left out, a text is left as it is.
-/

set_option autoImplicit false

namespace RecordListing.Text

variable {sep : Char}

theorem cutAt_eq_singleton {cs : List Char} (h : sep ∉ cs) : cutAt sep cs = [cs] := by
  induction cs with
  | nil => rfl
  | cons c cs ih =>
    obtain ⟨hc, hcs⟩ := not_or.1 (mt List.mem_cons.2 h)
    simp [cutAt, Ne.symm hc, ih hcs]

theorem cutAt_append {front : List Char} (h : sep ∉ front) (rest : List Char) :
    cutAt sep (front ++ sep :: rest) = front :: cutAt sep rest := by
  induction front with
  | nil => simp [cutAt]
  | cons c front ih =>
    obtain ⟨hc, hfront⟩ := not_or.1 (mt List.mem_cons.2 h)
    simp [cutAt, Ne.symm hc, ih hfront]

theorem not_mem_of_mem_cutAt {cs piece : List Char} (h : piece ∈ cutAt sep cs) : sep ∉ piece := by
  induction cs generalizing piece with
  | nil => simp_all [cutAt]
  | cons c cs ih =>
    unfold cutAt at h
    split at h
    · rcases List.mem_cons.1 h with rfl | h
      · simp
      · exact ih h
    · rename_i hc
      split at h
      · simp_all
        exact Ne.symm hc
      · rename_i first rest hcut
        rcases List.mem_cons.1 h with rfl | h
        · simp [Ne.symm hc, ih (hcut ▸ List.mem_cons_self)]
        · exact ih (hcut ▸ List.mem_cons_of_mem _ h)

theorem not_mem_of_mem_pieces {s piece : String} (h : piece ∈ pieces sep s) :
    sep ∉ piece.toList := by
  obtain ⟨cs, hcs, rfl⟩ := List.mem_map.1 h
  simpa using not_mem_of_mem_cutAt hcs

theorem pieces_joined {segments : List String} (hne : segments ≠ [])
    (h : ∀ segment ∈ segments, sep ∉ segment.toList) :
    pieces sep (joined (String.singleton sep) segments) = segments := by
  induction segments with
  | nil => exact absurd rfl hne
  | cons segment rest ih =>
    have hseg := h segment List.mem_cons_self
    cases rest with
    | nil => simp [joined, pieces, cutAt_eq_singleton hseg]
    | cons next rest =>
      have ih := ih (by simp) fun s hs => h s (List.mem_cons_of_mem _ hs)
      simp only [pieces] at ih
      simp [joined, pieces, cutAt_append hseg, ih]

/-! ## Nothing to leave out -/

theorem stripped_eq_self {isOut : Char → Bool} {cs : List Char}
    (h : ∀ c ∈ cs, isOut c = false) : stripped isOut cs = cs := by
  have kept {ds : List Char} (h : ∀ c ∈ ds, isOut c = false) : ds.dropWhile isOut = ds := by
    cases ds with
    | nil => rfl
    | cons d ds => exact List.dropWhile_cons_of_neg (by simp [h d List.mem_cons_self])
  rw [stripped, kept h, kept fun c hc => h c (List.mem_reverse.1 hc), List.reverse_reverse]

theorem without_eq_self {first : Char} {part cs : List Char} (h : first ∉ cs) :
    without (first :: part) cs = cs := by
  rw [without]
  induction cs with
  | nil => rfl
  | cons c cs ih =>
    obtain ⟨hc, hcs⟩ := not_or.1 (mt List.mem_cons.2 h)
    simp [withoutFrom, hc, ih hcs]

end RecordListing.Text
