/-!
# Splitting a text

The parts of a text between the occurrences of a character.

Results:
* `splitAt_ne_nil`: there is always a part.
* `intercalate_splitAt`: the parts, put together again, are the text.
* `notMem_of_mem_splitAt`: no part holds the character.
* `head?_splitAt`: the first part is the text before the first occurrence.
-/

namespace MqttRelay.Text

/-- Splits a text at every occurrence of a character; a text without it is a single part. -/
def splitAt (mark : Char) : List Char → List (List Char)
  | [] => [[]]
  | c :: cs =>
    if c = mark then [] :: splitAt mark cs
    else
      match splitAt mark cs with
      | part :: rest => (c :: part) :: rest
      | [] => [[c]]

theorem splitAt_ne_nil (mark : Char) (cs : List Char) : splitAt mark cs ≠ [] := by
  induction cs with
  | nil => simp [splitAt]
  | cons c cs ih =>
    unfold splitAt
    split
    · simp
    · split <;> simp

/-- The parts, with the character between them again, are the text. -/
theorem intercalate_splitAt (mark : Char) (cs : List Char) :
    List.intercalate [mark] (splitAt mark cs) = cs := by
  induction cs with
  | nil => rfl
  | cons c cs ih =>
    unfold splitAt
    split
    · rename_i h
      cases hs : splitAt mark cs with
      | nil => exact absurd hs (splitAt_ne_nil mark cs)
      | cons part rest =>
        rw [hs] at ih
        simp [List.intercalate, List.intersperse] at ih ⊢
        exact ⟨h.symm, ih⟩
    · cases hs : splitAt mark cs with
      | nil => exact absurd hs (splitAt_ne_nil mark cs)
      | cons part rest =>
        rw [hs] at ih
        cases rest with
        | nil => simpa [List.intercalate, List.intersperse] using ih
        | cons r rest => simpa [List.intercalate, List.intersperse] using ih

theorem notMem_of_mem_splitAt {mark : Char} {cs part : List Char} (h : part ∈ splitAt mark cs) :
    mark ∉ part := by
  induction cs generalizing part with
  | nil => simp_all [splitAt]
  | cons c cs ih =>
    unfold splitAt at h
    split at h
    · rcases List.mem_cons.mp h with rfl | h
      · exact List.not_mem_nil
      · exact ih h
    · rename_i hc
      split at h
      · rename_i first rest hs
        rcases List.mem_cons.mp h with rfl | h
        · have hfirst : mark ∉ first := ih (by rw [hs]; exact List.mem_cons_self)
          simp [hfirst, Ne.symm hc]
        · exact ih (by rw [hs]; exact List.mem_cons_of_mem _ h)
      · rename_i hs
        exact absurd hs (splitAt_ne_nil mark cs)

/-- The first part is the text before the first occurrence of the character. -/
theorem head?_splitAt (mark : Char) (cs : List Char) :
    (splitAt mark cs).head? = some (cs.takeWhile (· ≠ mark)) := by
  induction cs with
  | nil => rfl
  | cons c cs ih =>
    unfold splitAt
    split
    · rename_i h
      simp [h]
    · rename_i h
      cases hs : splitAt mark cs with
      | nil => exact absurd hs (splitAt_ne_nil mark cs)
      | cons part rest =>
        rw [hs, List.head?_cons, Option.some_inj] at ih
        simp [h, ih]

end MqttRelay.Text
