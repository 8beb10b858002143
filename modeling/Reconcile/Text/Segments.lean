/-!
Cutting a text at every occurrence of a separator. `join_segments` says that nothing but the
separators is lost.
-/

namespace Reconcile.Text

/-- The pieces of a text between the separators; there is one more of them than separators. -/
def segments (separator : Char) : List Char → List (List Char)
  | [] => [[]]
  | c :: rest =>
    if c = separator then [] :: segments separator rest
    else
      match segments separator rest with
      | [] => [[c]]
      | piece :: pieces => (c :: piece) :: pieces

def joinSegments (separator : Char) : List (List Char) → List Char
  | [] => []
  | [piece] => piece
  | piece :: pieces => piece ++ separator :: joinSegments separator pieces

theorem segments_ne_nil (separator : Char) (text : List Char) : segments separator text ≠ [] := by
  cases text with
  | nil => simp [segments]
  | cons c rest =>
    rw [segments]
    split
    · simp
    · split <;> simp

theorem join_segments (separator : Char) (text : List Char) :
    joinSegments separator (segments separator text) = text := by
  induction text with
  | nil => rfl
  | cons c rest ih =>
    rw [segments]
    split
    · rename_i same
      cases h : segments separator rest with
      | nil => exact absurd h (segments_ne_nil separator rest)
      | cons piece pieces => simp [joinSegments, same, ← h, ih]
    · split
      · rename_i h
        exact absurd h (segments_ne_nil separator rest)
      · rename_i piece pieces h
        rw [h] at ih
        cases pieces with
        | nil => simpa [joinSegments] using ih
        | cons next others => simpa [joinSegments] using ih

theorem not_mem_of_mem_segments {separator : Char} {text piece : List Char}
    (member : piece ∈ segments separator text) : separator ∉ piece := by
  induction text generalizing piece with
  | nil =>
    rw [List.mem_singleton.mp member]
    exact List.not_mem_nil
  | cons c rest ih =>
    rw [segments] at member
    split at member
    · rcases List.mem_cons.mp member with rfl | later
      · exact List.not_mem_nil
      · exact ih later
    · rename_i different
      split at member
      · rw [List.mem_singleton.mp member, List.mem_singleton]
        exact Ne.symm different
      · rename_i first pieces cut
        rw [cut] at ih
        rcases List.mem_cons.mp member with rfl | later
        · rw [List.mem_cons, not_or]
          exact ⟨Ne.symm different, ih List.mem_cons_self⟩
        · exact ih (List.mem_cons_of_mem _ later)

theorem segments_of_not_mem {separator : Char} {text : List Char} (absent : separator ∉ text) :
    segments separator text = [text] := by
  induction text with
  | nil => rfl
  | cons c rest ih =>
    simp only [List.mem_cons, not_or] at absent
    rw [segments, if_neg (Ne.symm absent.1), ih absent.2]

end Reconcile.Text
