import Mathlib.Data.List.Basic
import MqttRelay.Toml.Text

/-!
# How texts are spelled

What stands for a text in a file, said without the reader: four notations, two with escapes and two
without, two that keep to one line and two that need not. Lines end with line feeds here and are
not joined. Of all the ways to spell a text the writer takes one; the reader has to take any.

* `Escape` — what follows a backslash for a character.
* `Inside`, `InsideLines` — what stands between quotes, and between triple quotes, with escapes.
* `Spells` — a text in one of the four notations.

Results:
* `text_of_spells`: however a text is spelled, it is read as the text.
* `spells_spell`: a text is spelled as it is written.
-/

namespace MqttRelay.Toml

open Text (digitValue? isDigitOf hexDigit ofDigits digitValue?_hexDigit)

/-! ## Spellings -/

/-- What follows a backslash for a character: a short escape, or the character's number in four or
eight digits. -/
inductive Escape : List Char → Char → Prop where
  | short {e c : Char} : shortEscape? e = some c → Escape [e] c
  | four {ds : List Char} {c : Char} : ds.length = 4 → (∀ d ∈ ds, isDigitOf 16 d = true) →
    ofDigits 16 ds = c.toNat → Escape ('u' :: ds) c
  | eight {ds : List Char} {c : Char} : ds.length = 8 → (∀ d ∈ ds, isDigitOf 16 d = true) →
    ofDigits 16 ds = c.toNat → Escape ('U' :: ds) c

/-- What stands between double quotes for a text. -/
inductive Inside : List Char → List Char → Prop where
  | nil : Inside [] []
  | plain {c : Char} {w s : List Char} : isPlain c = true → c ≠ '"' → c ≠ '\\' → Inside w s →
    Inside (c :: w) (c :: s)
  | escape {e w s : List Char} {c : Char} : Escape e c → Inside w s →
    Inside ('\\' :: (e ++ w)) (c :: s)

/-- What stands between triple double quotes for a text, right after so many quotes. No more than
two quotes stand in a row. -/
inductive InsideLines : (row : Nat) → List Char → List Char → Prop where
  | nil {row : Nat} : InsideLines row [] []
  | quote {row : Nat} {w s : List Char} : row < 2 → InsideLines (row + 1) w s →
    InsideLines row ('"' :: w) ('"' :: s)
  | plain {row : Nat} {c : Char} {w s : List Char} : isPlain c = true ∨ c = '\n' → c ≠ '"' →
    c ≠ '\\' → InsideLines 0 w s → InsideLines row (c :: w) (c :: s)
  | escape {row : Nat} {e w s : List Char} {c : Char} : Escape e c → InsideLines 0 w s →
    InsideLines row ('\\' :: (e ++ w)) (c :: s)

/-- What stands between triple quotes, after the line feed that may follow the opening ones. -/
def Opens (w start : List Char) : Prop := start = '\n' :: w ∨ start = w ∧ w.head? ≠ some '\n'

/-- What stands for a text, in one of the four notations. -/
inductive Spells : List Char → List Char → Prop where
  | basic {w s : List Char} : Inside w s → Spells ('"' :: (w ++ ['"'])) s
  | literal {s : List Char} : (∀ c ∈ s, isPlain c = true ∧ c ≠ '\'') →
    Spells ('\'' :: (s ++ ['\''])) s
  | basicLines {w start s : List Char} : InsideLines 0 w s → Opens w start →
    Spells ('"' :: '"' :: '"' :: (start ++ ['"', '"', '"'])) s
  | literalLines {s start : List Char} : (∀ c ∈ s, isPlain c = true ∨ c = '\n') →
    ¬ ['\'', '\'', '\''] <:+: s → Opens s start →
    Spells ('\'' :: '\'' :: '\'' :: (start ++ ['\'', '\'', '\''])) s

/-- Of the characters that end lines only line feeds stand as they are. -/
theorem ne_return_of_plain {c : Char} (h : isPlain c = true ∨ c = '\n') : c ≠ '\r' := by
  rintro rfl
  revert h
  decide

/-! ## Reading escapes -/

/-- What goes through escapes as they are read: a character after a backslash is looked at as an
escape unless it is layout, and so is every digit of a number. -/
structure ReadsEscapes (reader : Progress → Scan (List Char)) : Prop where
  escape : ∀ c cs, isSpace c = false → c ≠ '\n' → c ≠ '\r' →
    reader .escape (c :: cs) = inEscape c (fun p => reader p cs) .escape
  number : ∀ left value c cs, reader (.number left value) (c :: cs) =
    inEscape c (fun p => reader p cs) (.number left value)

namespace ReadsEscapes

variable {reader : Progress → Scan (List Char)} (hreader : ReadsEscapes reader)

include hreader

/-- The digits of a character's number are read as the character. -/
theorem reader_digits {c : Char} {ds : List Char} (hds : ∀ d ∈ ds, isDigitOf 16 d = true)
    {left value : Nat} (hlength : ds.length = left + 1)
    (hvalue : ds.foldl (fun n d => 16 * n + (digitValue? d).getD 0) value = c.toNat)
    (rest : List Char) :
    reader (.number left value) (ds ++ rest) = before c (reader .plain rest) := by
  induction ds generalizing left value with
  | nil => cases hlength
  | cons d ds ih =>
    obtain ⟨hd, hds⟩ := List.forall_mem_cons.1 hds
    obtain ⟨digit, hdigit, -⟩ := (Option.any_eq_true ..).1 hd
    rw [List.foldl_cons, hdigit, Option.getD_some] at hvalue
    rw [List.cons_append, hreader.number, inEscape, hdigit]
    cases left with
    | zero =>
      obtain rfl : ds = [] := List.length_eq_zero_iff.1 (by simpa using hlength)
      have hchar : charOf? (16 * value + digit) = some c := by
        rw [← charOf?_toNat c]
        exact congrArg charOf? hvalue
      simp [hchar]
    | succ left =>
      exact ih hds (by simpa using hlength) hvalue

/-- What follows a backslash is read as the character that it stands for. -/
theorem reader_escape {e : List Char} {c : Char} (h : Escape e c) (rest : List Char) :
    reader .escape (e ++ rest) = before c (reader .plain rest) := by
  cases h with
  | short hshort =>
    next d =>
    have hspace : isSpace d = false := by
      by_contra hd
      simp only [isSpace, Bool.not_eq_false, Bool.or_eq_true, beq_iff_eq] at hd
      rcases hd with rfl | rfl <;> cases hshort
    have hfeed : d ≠ '\n' := by
      rintro rfl
      cases hshort
    have hreturn : d ≠ '\r' := by
      rintro rfl
      cases hshort
    rw [List.singleton_append, hreader.escape d rest hspace hfeed hreturn]
    simp [inEscape, hshort]
  | four hlength hds hvalue =>
    next ds =>
    rw [List.cons_append, hreader.escape 'u' (ds ++ rest) rfl (by decide) (by decide)]
    exact hreader.reader_digits hds hlength hvalue rest
  | eight hlength hds hvalue =>
    next ds =>
    rw [List.cons_append, hreader.escape 'U' (ds ++ rest) rfl (by decide) (by decide)]
    exact hreader.reader_digits hds hlength hvalue rest

end ReadsEscapes

theorem readsEscapes_escaping : ReadsEscapes escaping where
  escape _ _ _ _ _ := rfl
  number _ _ _ _ := rfl

theorem readsEscapes_escapingLines : ReadsEscapes escapingLines where
  escape c cs hspace hfeed hreturn := by
    have hends : endsLine (c :: cs) = false := by
      unfold endsLine
      rw [List.dropWhile_cons_of_neg (by simp [hspace])]
      split
      · next heq => exact absurd (List.cons.inj heq).1 hfeed
      · next heq => exact absurd (List.cons.inj heq).1 hreturn
      · rfl
    rw [escapingLines, if_neg (by simp [hends])]
  number _ _ _ _ := rfl

/-! ## Reading texts on one line -/

/-- A text with escapes is read up to the quote that ends it. -/
theorem escaping_of_inside {w s : List Char} (h : Inside w s) (rest : List Char) :
    escaping .plain (w ++ '"' :: rest) = some (s, rest) := by
  induction h with
  | nil => rfl
  | plain hplain hquote hslash _ ih =>
    rw [List.cons_append, escaping, if_neg hquote, if_neg hslash, if_pos hplain, ih]
    rfl
  | escape he _ ih =>
    rw [List.cons_append, escaping, if_neg (by decide), if_pos rfl, List.append_assoc,
      readsEscapes_escaping.reader_escape he, ih]
    rfl

/-- A text without escapes is read up to the quote that ends it. -/
theorem literal_append {s : List Char} (h : ∀ c ∈ s, isPlain c = true ∧ c ≠ '\'')
    (rest : List Char) : literal (s ++ '\'' :: rest) = some (s, rest) := by
  induction s with
  | nil => rfl
  | cons c s ih =>
    obtain ⟨hc, hs⟩ := List.forall_mem_cons.1 h
    rw [List.cons_append, literal, if_neg hc.2, if_pos hc.1, ih hs]
    rfl

/-! ## Reading texts on several lines -/

section Triple

variable {quote : Char} {rest : List Char}

/-- Two quotes after one close a text, if no more follow. -/
theorem tripleEnd_closing (hrest : rest.head? ≠ some quote) :
    tripleEnd quote (quote :: quote :: rest) = some ([], rest) := by
  cases rest with
  | nil => simp [tripleEnd]
  | cons c rest =>
    have hc : c ≠ quote := by simpa using hrest
    cases rest <;> simp [tripleEnd, hc]

/-- After a quote of the text, the closing ones are those after the last one or two of it. -/
theorem tripleEnd_inside {w : List Char} (hrow : ¬ [quote, quote] <+: w)
    (hrest : rest.head? ≠ some quote) :
    tripleEnd quote (w ++ quote :: quote :: quote :: rest) =
      if w = [] then some ([quote], rest) else if w = [quote] then some ([quote, quote], rest)
      else none := by
  cases w with
  | nil =>
    cases rest with
    | nil => simp [tripleEnd]
    | cons c rest =>
      have hc : c ≠ quote := by simpa using hrest
      simp [tripleEnd, hc]
  | cons a w =>
    by_cases ha : a = quote
    · subst ha
      cases w with
      | nil => simp [tripleEnd]
      | cons b w =>
        have hb : b ≠ a := fun hb => hrow ⟨w, by simp [hb]⟩
        have hnone (cs : List Char) : tripleEnd a (a :: b :: cs) = none := by
          match cs with
          | [] => simp [tripleEnd, hb]
          | [_] => simp [tripleEnd, hb]
          | _ :: _ :: _ => simp [tripleEnd, hb]
        simp [hnone]
    · have hnone (cs : List Char) : tripleEnd quote (a :: cs) = none := by
        match cs with
        | [] => simp [tripleEnd]
        | [_] => simp [tripleEnd, ha]
        | [_, _] => simp [tripleEnd, ha]
        | _ :: _ :: _ :: _ => simp [tripleEnd, ha]
      simp [hnone, ha]

end Triple

/-- After a quote no two more stand in a row. -/
theorem InsideLines.row_le {row : Nat} {w s : List Char} (h : InsideLines (row + 1) w s) :
    ¬ ['"', '"'] <+: w := by
  rintro ⟨late, rfl⟩
  cases h with
  | quote hrow h =>
    cases h with
    | quote hrow' _ => omega
    | plain _ hne _ _ => exact hne rfl
  | plain _ hne _ _ => exact hne rfl

/-- A text with escapes is read up to the triple quotes that end it. -/
theorem escapingLines_of_insideLines {row : Nat} {w s : List Char} (h : InsideLines row w s)
    {rest : List Char} (hrest : rest.head? ≠ some '"') :
    escapingLines .plain (w ++ '"' :: '"' :: '"' :: rest) = some (s, rest) := by
  induction h with
  | nil =>
    rw [List.nil_append, escapingLines, escapingLines.atPlain, if_pos rfl,
      tripleEnd_closing hrest]
    rfl
  | quote _ hw ih =>
    rw [List.cons_append, escapingLines, escapingLines.atPlain, if_pos rfl,
      tripleEnd_inside hw.row_le hrest, ih]
    -- The last two quotes of the text are read with the closing ones.
    split
    · next hnil =>
      subst hnil
      cases hw
      rfl
    · split
      · next hone =>
        subst hone
        cases hw with
        | quote _ hw =>
          cases hw
          rfl
        | plain _ hne _ _ => exact absurd rfl hne
      · rfl
  | plain hplain hquote hslash _ ih =>
    rw [List.cons_append, escapingLines, escapingLines.atPlain, if_neg hquote, if_neg hslash,
      if_neg (ne_return_of_plain hplain), if_pos hplain.symm, ih]
    rfl
  | escape he _ ih =>
    rw [List.cons_append, escapingLines, escapingLines.atPlain, if_neg (by decide), if_pos rfl,
      List.append_assoc, readsEscapes_escapingLines.reader_escape he, ih]
    rfl

/-- A text without escapes is read up to the triple quotes that end it. -/
theorem literalLines_append {s : List Char} (hs : ∀ c ∈ s, isPlain c = true ∨ c = '\n')
    (hrow : ¬ ['\'', '\'', '\''] <:+: s) {rest : List Char} (hrest : rest.head? ≠ some '\'') :
    literalLines (s ++ '\'' :: '\'' :: '\'' :: rest) = some (s, rest) := by
  induction s with
  | nil =>
    rw [List.nil_append, literalLines, if_pos rfl, tripleEnd_closing hrest]
    rfl
  | cons c s ih =>
    obtain ⟨hc, hs⟩ := List.forall_mem_cons.1 hs
    have ih := ih hs fun h => hrow (List.infix_cons h)
    rw [List.cons_append, literalLines, ih]
    split
    · next hquote =>
      subst hquote
      have hpair : ¬ ['\'', '\''] <+: s := fun h =>
        hrow (List.IsPrefix.isInfix (List.cons_prefix_cons.2 ⟨rfl, h⟩))
      rw [tripleEnd_inside hpair hrest]
      split
      · next hnil => rw [hnil]; rfl
      · split
        · next hone => rw [hone]; rfl
        · rfl
    · rw [if_neg (ne_return_of_plain hc), if_pos hc.symm]
      rfl

/-! ## Reading texts in all notations -/

section Opening

variable {quote : Char} {w rest : List Char}

/-- What stands between quotes is not taken for triple quotes. -/
theorem not_prefix_pair (hw : w.head? ≠ some quote) (hrest : rest.head? ≠ some quote) :
    ¬ [quote, quote] <+: w ++ quote :: rest := by
  rintro ⟨late, hlate⟩
  cases w with
  | nil => exact hrest (by rw [← (List.cons.inj hlate).2]; rfl)
  | cons c w => exact hw (by rw [(List.cons.inj hlate).1]; rfl)

theorem text_double {cs : List Char} (h : ¬ ['"', '"'] <+: cs) :
    text ('"' :: cs) = escaping .plain cs := by
  rw [text]
  rintro late rfl
  exact h ⟨late, rfl⟩

theorem text_single {cs : List Char} (h : ¬ ['\'', '\''] <+: cs) :
    text ('\'' :: cs) = literal cs := by
  rw [text]
  rintro late rfl
  exact h ⟨late, rfl⟩

theorem skipLine_of_head?_ne {cs : List Char} (hfeed : cs.head? ≠ some '\n')
    (hreturn : cs.head? ≠ some '\r') : skipLine cs = cs := by
  unfold skipLine
  split
  · exact absurd rfl hfeed
  · exact absurd rfl hreturn
  · rfl

/-- A text begins on the line below the opening quotes, or right after them. -/
theorem skipLine_append {start : List Char} (h : Opens w start) (hreturn : w.head? ≠ some '\r')
    (hrest : rest.head? = some quote) (hquote : quote ≠ '\n' ∧ quote ≠ '\r') :
    skipLine (start ++ rest) = w ++ rest := by
  rcases h with rfl | ⟨rfl, hfeed⟩
  · rfl
  · have hne {mark : Char} (hstart : start.head? ≠ some mark) (hmark : quote ≠ mark) :
        (start ++ rest).head? ≠ some mark := by
      rw [List.head?_append, hrest]
      cases hhead : start.head? with
      | none => simpa using hmark
      | some c => simpa [hhead] using hstart
    exact skipLine_of_head?_ne (hne hfeed hquote.1) (hne hreturn hquote.2)

end Opening

theorem Inside.head?_ne {w s : List Char} (h : Inside w s) : w.head? ≠ some '"' := by
  cases h with
  | nil => nofun
  | plain _ hquote _ _ => exact fun h => hquote (Option.some.inj h)
  | escape _ _ => nofun

/-- Lines do not begin with what only belongs to the end of a line, and they begin with a line feed
only if the text does. -/
theorem InsideLines.head?_cases {row : Nat} {w s : List Char} (h : InsideLines row w s) :
    w.head? ≠ some '\r' ∧ (w.head? = some '\n' → s.head? = some '\n') := by
  cases h with
  | nil => exact ⟨nofun, nofun⟩
  | quote _ _ => exact ⟨nofun, nofun⟩
  | plain hplain _ _ _ =>
    exact ⟨fun h => ne_return_of_plain hplain (Option.some.inj h), id⟩
  | escape _ _ => exact ⟨nofun, nofun⟩

/-- However a text is spelled, it is read as the text, up to where no more quotes follow. -/
theorem text_of_spells {w s : List Char} (h : Spells w s) {rest : List Char}
    (hdouble : rest.head? ≠ some '"') (hsingle : rest.head? ≠ some '\'') :
    text (w ++ rest) = some (s, rest) := by
  cases h with
  | basic hw =>
    rw [List.cons_append, List.append_assoc, List.singleton_append,
      text_double (not_prefix_pair hw.head?_ne hdouble), escaping_of_inside hw]
  | literal hs =>
    have hfirst : s.head? ≠ some '\'' := fun h => (hs _ (List.mem_of_head? h)).2 rfl
    rw [List.cons_append, List.append_assoc, List.singleton_append,
      text_single (not_prefix_pair hfirst hsingle), literal_append hs]
  | basicLines hw hopens =>
    simp only [List.cons_append, List.append_assoc, List.nil_append, text]
    rw [skipLine_append hopens hw.head?_cases.1 rfl (by decide),
      escapingLines_of_insideLines hw hdouble]
  | literalLines hs hrow hopens =>
    have hfirst : s.head? ≠ some '\r' := fun h =>
      ne_return_of_plain (hs _ (List.mem_of_head? h)) rfl
    simp only [List.cons_append, List.append_assoc, List.nil_append, text]
    rw [skipLine_append hopens hfirst rfl (by decide), literalLines_append hs hrow hsingle]

/-! ## Writing -/

/-- A character is written as it is if it may stand so, or else as an escape. -/
theorem quoteChar_cases (c : Char) :
    (quoteChar c = [c] ∧ isPlain c = true ∧ c ≠ '"' ∧ c ≠ '\\') ∨
      ∃ e, quoteChar c = '\\' :: e ∧ Escape e c := by
  unfold quoteChar
  split_ifs with hback htab hfeed hform hreturn hquote hslash hcontrol
  · exact .inr ⟨_, rfl, .short (by subst hback; rfl)⟩
  · exact .inr ⟨_, rfl, .short (by subst htab; rfl)⟩
  · exact .inr ⟨_, rfl, .short (by subst hfeed; rfl)⟩
  · exact .inr ⟨_, rfl, .short (by subst hform; rfl)⟩
  · exact .inr ⟨_, rfl, .short (by subst hreturn; rfl)⟩
  · exact .inr ⟨_, rfl, .short (by subst hquote; rfl)⟩
  · exact .inr ⟨_, rfl, .short (by subst hslash; rfl)⟩
  · have hhigh := digitValue?_hexDigit (c.toNat / 16) (by omega)
    have hlow := digitValue?_hexDigit (c.toNat % 16) (by omega)
    refine .inr ⟨_, rfl, .four rfl ?_ ?_⟩
    · simp only [List.forall_mem_cons, isDigitOf, hhigh, hlow, Option.any_some, decide_eq_true_eq]
      exact ⟨rfl, rfl, by omega, by omega, nofun⟩
    · have hzero : digitValue? '0' = some 0 := rfl
      simp only [ofDigits, List.foldl_cons, List.foldl_nil, hzero, hhigh, hlow, Option.getD_some]
      omega
  · refine .inl ⟨rfl, ?_, hquote, hslash⟩
    simp only [isPlain, Bool.or_eq_true, Bool.and_eq_true, decide_eq_true_eq, bne_iff_ne]
    exact .inr (by omega)

theorem inside_quoted (cs : List Char) : Inside (cs.flatMap quoteChar) cs := by
  induction cs with
  | nil => exact .nil
  | cons c cs ih =>
    rw [List.flatMap_cons]
    obtain ⟨heq, hplain, hquote, hslash⟩ | ⟨e, heq, he⟩ := quoteChar_cases c
    · rw [heq]
      exact .plain hplain hquote hslash ih
    · rw [heq]
      exact .escape he ih

theorem insideLines_quoteLines {row : Nat} (hrow : row ≤ 2) (cs : List Char) :
    InsideLines row (quoteLines row cs) cs := by
  induction cs generalizing row with
  | nil => exact .nil
  | cons c cs ih =>
    rw [quoteLines]
    split_ifs with hquote hless hfeed
    · subst hquote
      exact .quote hless (ih hless)
    · subst hquote
      exact .escape (.short rfl) (ih (Nat.zero_le 2))
    · subst hfeed
      exact .plain (.inr rfl) (by decide) (by decide) (ih (Nat.zero_le 2))
    · obtain ⟨heq, hplain, -, hslash⟩ | ⟨e, heq, he⟩ := quoteChar_cases c
      · rw [heq]
        exact .plain (.inl hplain) hquote hslash (ih (Nat.zero_le 2))
      · rw [heq]
        exact .escape he (ih (Nat.zero_le 2))

theorem tripled_cons {mark : Char} {cs : List Char} (h : tripled mark cs = true) (c : Char) :
    tripled mark (c :: cs) = true := by
  match cs with
  | [] => cases h
  | [_] => cases h
  | _ :: _ :: _ => rw [tripled, h, Bool.or_true]

theorem tripled_of_row {mark : Char} {cs : List Char} (h : [mark, mark, mark] <:+: cs) :
    tripled mark cs = true := by
  obtain ⟨early, late, rfl⟩ := h
  induction early with
  | nil => simp [tripled]
  | cons c early ih => exact tripled_cons ih c

/-- Quotes without escapes are taken on one line for a text that may stand there as it is. -/
theorem plain_of_literal {cs : List Char} (h : Style.of cs = .literal) :
    ∀ c ∈ cs, isPlain c = true ∧ c ≠ '\'' := by
  simp only [Style.of] at h
  split_ifs at h with _ hliteral
  simp only [Bool.and_eq_true, List.all_eq_true, Bool.or_eq_true, beq_iff_eq,
    Bool.not_eq_true', List.contains_eq_mem, decide_eq_false_iff_not] at hliteral
  obtain ⟨⟨hraw, hlines⟩, hquote⟩ := hliteral
  intro c hc
  refine ⟨(hraw c hc).resolve_right ?_, ?_⟩
  · rintro rfl
    exact hlines hc
  · rintro rfl
    exact hquote hc

/-- Quotes without escapes are taken on several lines for a text that may stand there as it is. -/
theorem plain_of_literalLines {cs : List Char} (h : Style.of cs = .literalLines) :
    (∀ c ∈ cs, isPlain c = true ∨ c = '\n') ∧ tripled '\'' cs = false := by
  simp only [Style.of] at h
  split_ifs at h with _ _ _ hliteral
  simpa only [Bool.and_eq_true, List.all_eq_true, Bool.or_eq_true, beq_iff_eq,
    Bool.not_eq_true'] using hliteral

/-- A text of several lines begins below the opening quotes, and so may begin with a line feed. -/
theorem opens_opening {w cs : List Char} (h : w.head? = some '\n' → cs.head? = some '\n') :
    Opens w (opening cs ++ w) := by
  unfold opening
  split
  · exact .inl rfl
  · next hlines =>
    refine .inr ⟨rfl, fun hw => hlines ?_⟩
    exact List.contains_iff_mem.2 (List.mem_of_head? (h hw))

/-- A text is spelled as it is written. -/
theorem spells_spell (s : String) : Spells (spell s).toList s.toList := by
  rw [spell, String.toList_ofList]
  cases hstyle : Style.of s.toList with
  | basic => exact .basic (inside_quoted s.toList)
  | literal => exact .literal (plain_of_literal hstyle)
  | basicLines =>
    have hw := insideLines_quoteLines (Nat.zero_le 2) s.toList
    exact .basicLines hw (opens_opening hw.head?_cases.2)
  | literalLines =>
    obtain ⟨hs, hrow⟩ := plain_of_literalLines hstyle
    refine .literalLines hs (fun h => ?_) (opens_opening id)
    rw [tripled_of_row h] at hrow
    cases hrow

end MqttRelay.Toml
