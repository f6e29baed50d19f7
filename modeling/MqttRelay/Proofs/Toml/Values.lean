import MqttRelay.Proofs.Toml.Spelling
import MqttRelay.Toml.Document

/-!
# Values at the end of a line

What a line holds after its key is tried as a text, then as a date, a fraction and a whole number.
The digits of a number are none of the former when the line ends after them.

* `Writes` — a text that is read as a value, up to the end of its line.

Results:
* `writes_truth`, `writes_nat`, `writes_of_spells`: truth values, natural numbers and texts, however
  they are spelled.
-/

namespace MqttRelay.Toml

open Text (ofDigits ofDigits_toDigits)

/-- A text that is read as a value, up to the end of its line. -/
structure Writes (text : String) (v : Value) : Prop where
  starts : ∀ c ∈ text.toList.head?, isSpace c = false
  reads : ∀ rest, value depthLimit (text.toList ++ '\n' :: rest) = some (v, '\n' :: rest)

/-- What is no array and no table holds no other value. -/
theorem value_of_head?_ne {cs : List Char} (harray : cs.head? ≠ some '[')
    (htable : cs.head? ≠ some '{') (depth : Nat) : value depth cs = scalar cs := by
  cases depth with
  | zero => rfl
  | succ depth =>
    rw [value]
    · rintro late rfl
      exact harray rfl
    · rintro late rfl
      exact htable rfl

theorem scalar_of_head?_ne {cs : List Char} (htrue : cs.head? ≠ some 't')
    (hfalse : cs.head? ≠ some 'f') : scalar cs = (textValue cs).or (number cs) := by
  unfold scalar
  split
  · exact absurd rfl htrue
  · exact absurd rfl hfalse
  · rfl

theorem textValue_of_head?_ne {cs : List Char} (hdouble : cs.head? ≠ some '"')
    (hsingle : cs.head? ≠ some '\'') : textValue cs = none := by
  unfold textValue text
  split
  · exact absurd rfl hdouble
  · exact absurd rfl hdouble
  · exact absurd rfl hsingle
  · exact absurd rfl hsingle
  · rfl

theorem writes_truth (b : Bool) : Writes (Text.truth b) (.bool b) := by
  cases b
  · refine ⟨by simp [Text.truth, isSpace], fun rest => ?_⟩
    rw [value_of_head?_ne (by simp [Text.truth]) (by simp [Text.truth])]
    rfl
  · refine ⟨by simp [Text.truth, isSpace], fun rest => ?_⟩
    rw [value_of_head?_ne (by simp [Text.truth]) (by simp [Text.truth])]
    rfl

/-! ## Texts -/

theorem Spells.eq_cons {w s : List Char} (h : Spells w s) :
    ∃ quote late, w = quote :: late ∧ (quote = '"' ∨ quote = '\'') := by
  cases h with
  | basic _ => exact ⟨_, _, rfl, .inl rfl⟩
  | literal _ => exact ⟨_, _, rfl, .inr rfl⟩
  | basicLines _ _ => exact ⟨_, _, rfl, .inl rfl⟩
  | literalLines _ _ _ => exact ⟨_, _, rfl, .inr rfl⟩

/-- However a text is spelled, it is read as the text. -/
theorem writes_of_spells {written s : String} (h : Spells written.toList s.toList) :
    Writes written (.str s) := by
  have htext (rest : List Char) : textValue (written.toList ++ '\n' :: rest) =
      some (.str s, '\n' :: rest) := by
    rw [textValue, text_of_spells h (by simp) (by simp)]
    simp
  obtain ⟨quote, late, hlate, hquote⟩ := h.eq_cons
  rw [hlate] at htext
  constructor
  · rw [hlate]
    rcases hquote with rfl | rfl <;> simp [isSpace]
  · intro rest
    rw [hlate, value_of_head?_ne, scalar_of_head?_ne, htext]
    · rfl
    all_goals rcases hquote with rfl | rfl <;> simp

/-! ## Numbers -/

section Digits

variable {ds rest : List Char} (hds : ∀ d ∈ ds, d.isDigit = true)

include hds

/-- A number of a given width among digits leaves digits over. -/
theorem exists_of_between {width low high n : Nat} {cs : List Char}
    (h : between width low high (ds ++ '\n' :: rest) = some (n, cs)) :
    ∃ more, (∀ d ∈ more, d.isDigit = true) ∧ cs = more ++ '\n' :: rest := by
  simp only [between, Option.ite_none_right_eq_some, Option.some.injEq, Prod.mk.injEq] at h
  obtain ⟨⟨hwidth, hall, -, -⟩, -, rfl⟩ := h
  have hle : width ≤ ds.length := by
    -- Otherwise the end of the line would be one of the digits.
    by_contra hlt
    rw [List.take_append, List.all_append, List.take_cons (by omega)] at hall
    simp at hall
  exact ⟨ds.drop width, fun d hd => hds d (List.mem_of_mem_drop hd),
    List.drop_append_of_le_length hle⟩

/-- Between the digits and the end of a line there is no other mark. -/
theorem exactly_digits (mark : Char) (hmark : mark.isDigit = false) (hfeed : mark ≠ '\n') :
    exactly mark (ds ++ '\n' :: rest) = none := by
  cases ds with
  | nil => exact if_neg hfeed
  | cons d ds =>
    have hd : d.isDigit = true := hds d List.mem_cons_self
    refine if_neg ?_
    rintro rfl
    rw [hd] at hmark
    cases hmark

theorem date_digits : date (ds ++ '\n' :: rest) = none := by
  unfold date
  cases h : between 4 0 9999 (ds ++ '\n' :: rest) with
  | none => rfl
  | some p =>
    obtain ⟨more, hmore, heq⟩ := exists_of_between hds h
    simp [heq, exactly_digits hmore '-' rfl (by decide)]

theorem timeOfDay_digits : timeOfDay (ds ++ '\n' :: rest) = none := by
  unfold timeOfDay
  cases h : between 2 0 23 (ds ++ '\n' :: rest) with
  | none => rfl
  | some p =>
    obtain ⟨more, hmore, heq⟩ := exists_of_between hds h
    simp [heq, exactly_digits hmore ':' rfl (by decide)]

/-- Digits alone are no date and no time. -/
theorem moment_digits : moment (ds ++ '\n' :: rest) = none := by
  rw [moment, momentEnd, date_digits hds, timeOfDay_digits hds]
  rfl

theorem moreDigits_digits :
    moreDigits Char.isDigit (ds ++ '\n' :: rest) = (ds, '\n' :: rest) := by
  induction ds with
  | nil => rfl
  | cons d ds ih =>
    obtain ⟨hd, hds⟩ := List.forall_mem_cons.1 hds
    rw [List.cons_append, moreDigits, if_pos hd, ih hds]

variable (hne : ds ≠ []) (hzero : ds.head? = some '0' → ds = ['0'])

include hne

/-- What begins with digits begins with no other mark. -/
theorem append_ne_cons {mark : Char} (hmark : mark.isDigit = false) (late : List Char) :
    ds ++ rest ≠ mark :: late := by
  cases ds with
  | nil => exact absurd rfl hne
  | cons d ds =>
    intro h
    obtain rfl : d = mark := (List.cons.inj h).1
    rw [hds d List.mem_cons_self] at hmark
    cases hmark

theorem sign_digits : sign (ds ++ rest) = (false, ds ++ rest) := by
  rw [sign]
  · exact append_ne_cons hds hne rfl
  · exact append_ne_cons hds hne rfl

include hzero

/-- Digits are a whole number if the first one is no zero, unless it is the only one. -/
theorem wholeDigits_digits : wholeDigits (ds ++ '\n' :: rest) = some (ds, '\n' :: rest) := by
  cases ds with
  | nil => exact absurd rfl hne
  | cons d ds =>
    obtain ⟨hd, hmore⟩ := List.forall_mem_cons.1 hds
    by_cases hd0 : d = '0'
    · subst hd0
      rw [hzero rfl]
      rfl
    · rw [List.cons_append, wholeDigits, digits, if_pos hd, moreDigits_digits hmore]
      rintro late h
      exact hd0 (List.cons.inj h).1

/-- Digits alone are no fraction. -/
theorem float_digits : float (ds ++ '\n' :: rest) = none := by
  rw [float, sign_digits hds hne]
  dsimp only
  rw [wholeDigits_digits hds hne hzero]
  split
  · next heq => exact absurd heq (append_ne_cons hds hne rfl _)
  · next heq => exact absurd heq (append_ne_cons hds hne rfl _)
  · rfl

/-- Digits are read as the number that they stand for, if it is not too large. -/
theorem integer_digits : integer (ds ++ '\n' :: rest) =
    if ofDigits 10 ds ≤ greatest then some (.nat (ofDigits 10 ds), '\n' :: rest) else none := by
  have hmark (mark : Char) (hmark : mark ≠ '\n') (late : List Char) :
      ds ++ '\n' :: rest ≠ '0' :: mark :: late := by
    cases ds with
    | nil => exact absurd rfl hne
    | cons d ds =>
      intro h
      obtain ⟨rfl, hlate⟩ := List.cons.inj h
      obtain rfl : ds = [] := (List.cons.inj (hzero rfl)).2
      exact hmark (List.cons.inj hlate).1.symm
  rw [integer, sign_digits hds hne]
  · dsimp only
    rw [wholeDigits_digits hds hne hzero]
    rfl
  all_goals exact fun late h => hmark _ (by decide) late h

end Digits

/-- The digits of a number do not begin with a zero, unless it is the only one. -/
theorem toDigits_eq_zero_of_head? {n : Nat} (h : (Nat.toDigits 10 n).head? = some '0') :
    Nat.toDigits 10 n = ['0'] := by
  induction n using Nat.strongRecOn with
  | ind n ih =>
    by_cases hn : n < 10
    · rw [Nat.toDigits_of_lt_base hn] at h ⊢
      rw [Option.some.inj h]
    · rw [Nat.toDigits_of_base_le (by omega) (by omega),
        List.head?_append_of_ne_nil _ Nat.toDigits_ne_nil] at h
      have hless := congrArg (ofDigits 10) (ih (n / 10) (by omega) h)
      rw [ofDigits_toDigits] at hless
      have : ofDigits 10 ['0'] = 0 := rfl
      omega

/-- The digits of a number are read as the number, if it has at most 63 binary digits. -/
theorem writes_nat {n : Nat} (h : n ≤ greatest) : Writes (toString n) (.nat n) := by
  have htext : (toString n).toList = Nat.toDigits 10 n := by simp
  have hds : ∀ d ∈ Nat.toDigits 10 n, d.isDigit = true := fun d hd =>
    Nat.isDigit_of_mem_toDigits (by decide) (by decide) hd
  have hne : Nat.toDigits 10 n ≠ [] := Nat.toDigits_ne_nil
  have hfirst {rest : List Char} {mark : Char} (hmark : mark.isDigit = false) :
      (Nat.toDigits 10 n ++ rest).head? ≠ some mark := fun hmem =>
    have ⟨late, hlate⟩ := List.head?_eq_some_iff.1 hmem
    append_ne_cons hds hne hmark late hlate
  have hzero := toDigits_eq_zero_of_head? (n := n)
  constructor
  · intro c hc
    have hdigit := hds c (List.mem_of_head? (htext ▸ hc))
    by_contra hspace
    simp only [isSpace, Bool.not_eq_false, Bool.or_eq_true, beq_iff_eq] at hspace
    rcases hspace with rfl | rfl <;> cases hdigit
  · intro rest
    rw [htext, value_of_head?_ne (hfirst rfl) (hfirst rfl),
      scalar_of_head?_ne (hfirst rfl) (hfirst rfl),
      textValue_of_head?_ne (hfirst rfl) (hfirst rfl), number, moment_digits hds,
      float_digits hds hne hzero, integer_digits hds hne hzero, ofDigits_toDigits, if_pos h]
    rfl

end MqttRelay.Toml
