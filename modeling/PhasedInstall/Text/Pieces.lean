/-!
# The pieces of a text between separators

A text has one piece more than it has separators, so even the empty text has a piece. Putting a
separator between neighbouring pieces gives the text back.
-/

set_option autoImplicit false

namespace PhasedInstall.Text

/-- The pieces between occurrences of a separator, in order. -/
def pieces (separator : Char) : List Char → List (List Char)
  | [] => [[]]
  | c :: rest =>
    match pieces separator rest with
    | piece :: others =>
      if c = separator then [] :: piece :: others else (c :: piece) :: others
    | [] => [[c]]

theorem pieces_ne_nil (separator : Char) (cs : List Char) : pieces separator cs ≠ [] := by
  cases cs with
  | nil => simp [pieces]
  | cons c rest =>
    unfold pieces
    split
    · split <;> simp
    · simp

@[simp] theorem length_pieces (separator : Char) (cs : List Char) :
    (pieces separator cs).length = cs.count separator + 1 := by
  induction cs with
  | nil => rfl
  | cons c rest ih =>
    obtain ⟨piece, others, h⟩ := List.exists_cons_of_ne_nil (pieces_ne_nil separator rest)
    simp only [h, List.length_cons] at ih
    by_cases hc : c = separator
    · simp [pieces, h, hc, ih]
    · simp [pieces, h, hc, ih]

end PhasedInstall.Text
