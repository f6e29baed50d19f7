import MqttRelay.Text.CaseTable

/-!
# Lower case

The full lower-case form of a text. A capital maps to one small letter except two: the dotted
capital I becomes an i with a dot above, and a capital sigma that ends a word takes its final
form.

Results:
* `lower_ascii`: on ASCII the full form is the letter-by-letter one.
-/

namespace MqttRelay.Text

/-- Whether a code point lies in one of the ranges. -/
def inRanges (ranges : List (Nat × Nat)) (n : Nat) : Bool :=
  ranges.any fun r => r.1 ≤ n && n ≤ r.2

/-- The simple lower-case form of one character. -/
def lowerChar (c : Char) : Char :=
  if c.toNat < 128 then c.toLower
  else
    let n := c.toNat
    match capitalRuns.find? fun r => r.first ≤ n && n ≤ r.last && (n - r.first) % r.step == 0 with
    | some r => Char.ofNat (n + r.shift).toNat
    | none => c

/-- Whether the first character that is not passed over has case. -/
def meetsCased (cs : List Char) : Bool :=
  match cs.dropWhile fun c => inRanges caseIgnorableRanges c.toNat with
  | [] => false
  | c :: _ => inRanges casedRanges c.toNat

/-- Lower-cases the text that follows `before`, which is kept in reverse order. -/
def lowerAfter (before : List Char) : List Char → List Char
  | [] => []
  | c :: rest =>
    (if c = 'Σ' then [if meetsCased before && !meetsCased rest then 'ς' else 'σ']
     else if c = 'İ' then ['i', '\u0307']
     else [lowerChar c]) ++ lowerAfter (c :: before) rest

/-- The full lower-case form of a text. -/
def lower (s : String) : String :=
  String.ofList (lowerAfter [] s.toList)

/-- The form of a text in which only the ASCII capitals are lowered. -/
def lowerAscii (s : String) : String :=
  String.ofList (s.toList.map Char.toLower)

theorem lowerAfter_ascii (cs before : List Char) (h : ∀ c ∈ cs, c.toNat < 128) :
    lowerAfter before cs = cs.map Char.toLower := by
  induction cs generalizing before with
  | nil => rfl
  | cons c cs ih =>
    have hc : c.toNat < 128 := h c (by simp)
    have h1 : c ≠ 'Σ' := by rintro rfl; revert hc; decide
    have h2 : c ≠ 'İ' := by rintro rfl; revert hc; decide
    have ht := ih (c :: before) fun d hd => h d (by simp [hd])
    simp [lowerAfter, h1, h2, lowerChar, hc, ht]

/-- On ASCII the full lower-case form changes letter by letter. -/
theorem lower_ascii (s : String) (h : ∀ c ∈ s.toList, c.toNat < 128) : lower s = lowerAscii s := by
  simp [lower, lowerAscii, lowerAfter_ascii s.toList [] h]

end MqttRelay.Text
