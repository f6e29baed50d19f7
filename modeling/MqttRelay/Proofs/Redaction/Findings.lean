import Mathlib.Data.List.Infix
import Mathlib.Data.List.TakeWhile
import MqttRelay.Redaction

/-!
# What is found at the front of a text

Secrets and credentials as texts with parts, apart from the search for them: a word is spelled in
any letter case, a value runs up to a blank, and the parts of an address hold no character that
ends them.

* `Mention` — a secret's name, the separator after it and blanks.
* `Credentials` — the beginning of an address, up to its at sign.

Results:
* `secretAt_eq_some_iff`: a secret is found exactly where a mention stands before a value.
* `credentialsAt_eq_some_iff`: credentials are found exactly where they stand.
-/

namespace MqttRelay.Redaction

/-! ## Characters of a text -/

-- What holds of the characters of a text is decided along the text. The instances for whatever
-- holds of all characters there are would go through each of these.

instance decidableForallMem {p : Char → Prop} [DecidablePred p] (cs : List Char) :
    Decidable (∀ c ∈ cs, p c) :=
  cs.decidableBAll p

instance decidableExistsMem {p : Char → Prop} [DecidablePred p] (cs : List Char) :
    Decidable (∃ c ∈ cs, p c) :=
  cs.decidableBEx p

/-! ## Words in any letter case -/

/-- The small letter that a character counts as when case does not matter. -/
def letter (c : Char) : Char :=
  if c = 'ſ' then 's' else if c = '\u212a' then 'k' else c.toLower

/-- A text is one of the words when case does not matter. -/
def Spells (words : List (List Char)) (name : List Char) : Prop := name.map letter ∈ words

instance (words : List (List Char)) (name : List Char) : Decidable (Spells words name) :=
  inferInstanceAs (Decidable (name.map letter ∈ words))

/-- Words to search for: they are written in letters that stand for themselves, and none of them
begins with another. -/
structure Searchable (words : List (List Char)) : Prop where
  plain : ∀ w ∈ words, ∀ p ∈ w, p ≠ 'ſ' ∧ p ≠ '\u212a'
  apart : ∀ v ∈ words, ∀ w ∈ words, v <+: w → v = w

theorem searchable_secretWords : Searchable secretWords :=
  ⟨by decide, by decide⟩

theorem searchable_schemes : Searchable schemes :=
  ⟨by decide, by decide⟩

theorem sameLetter_iff {p : Char} (hp : p ≠ 'ſ' ∧ p ≠ '\u212a') (c : Char) :
    sameLetter p c = true ↔ letter c = p := by
  unfold sameLetter letter
  by_cases hs : c = 'ſ'
  · subst hs
    have hlower : Char.toLower 'ſ' = 'ſ' := by decide
    have hkelvin : ('ſ' == '\u212a') = false := by decide
    rw [hlower, beq_eq_false_iff_ne.2 hp.1.symm, hkelvin, if_pos rfl]
    simp only [Bool.false_or, beq_self_eq_true, Bool.and_true, Bool.and_false, Bool.or_false,
      beq_iff_eq]
    exact eq_comm
  · by_cases hk : c = '\u212a'
    · subst hk
      have hlower : Char.toLower '\u212a' = '\u212a' := by decide
      rw [hlower, beq_eq_false_iff_ne.2 hp.2.symm, beq_eq_false_iff_ne.2 hs, if_neg hs, if_pos rfl]
      simp only [Bool.false_or, beq_self_eq_true, Bool.and_true, Bool.and_false, beq_iff_eq]
      exact eq_comm
    · rw [beq_eq_false_iff_ne.2 hs, beq_eq_false_iff_ne.2 hk, if_neg hs, if_neg hk]
      simp only [Bool.and_false, Bool.or_false, beq_iff_eq]

/-- A word stands at the front of a text if the text begins with its letters. -/
theorem wordAt_eq_some_iff {w : List Char} (hw : ∀ p ∈ w, p ≠ 'ſ' ∧ p ≠ '\u212a') (cs : List Char)
    (n : Nat) : wordAt w cs = some n ↔ n = w.length ∧ w <+: cs.map letter := by
  induction w generalizing cs n with
  | nil => simp [wordAt, eq_comm]
  | cons p ps ih =>
    obtain ⟨hp, hps⟩ := List.forall_mem_cons.1 hw
    cases cs with
    | nil => simp [wordAt]
    | cons c cs =>
      rw [wordAt, List.map_cons, List.cons_prefix_cons, List.length_cons]
      by_cases hc : letter c = p
      · rw [if_pos ((sameLetter_iff hp c).2 hc), Option.map_eq_some_iff]
        constructor
        · rintro ⟨m, hm, rfl⟩
          obtain ⟨rfl, hpre⟩ := (ih hps cs m).1 hm
          exact ⟨rfl, hc.symm, hpre⟩
        · rintro ⟨rfl, -, hpre⟩
          exact ⟨ps.length, (ih hps cs _).2 ⟨rfl, hpre⟩, rfl⟩
      · rw [if_neg fun h => hc ((sameLetter_iff hp c).1 h)]
        exact ⟨nofun, fun h => absurd h.2.1.symm hc⟩

/-- One of the words stands at the front of a text if the text begins with a spelling of it. -/
theorem anyWordAt_eq_some_iff {words : List (List Char)} (h : Searchable words) (cs : List Char)
    (n : Nat) : anyWordAt words cs = some n ↔
      ∃ name rest, cs = name ++ rest ∧ Spells words name ∧ n = name.length := by
  have hword : ∀ w ∈ words, ∀ m, wordAt w cs = some m ↔ m = w.length ∧ w <+: cs.map letter :=
    fun w hw => wordAt_eq_some_iff (h.plain w hw) cs
  constructor
  · intro hn
    obtain ⟨w, hw, hn⟩ := List.exists_of_findSome?_eq_some hn
    obtain ⟨rfl, after, hafter⟩ := (hword w hw n).1 hn
    refine ⟨cs.take w.length, cs.drop w.length, (List.take_append_drop ..).symm, ?_, ?_⟩
    · rw [Spells, List.map_take, ← hafter, List.take_left]
      exact hw
    · have hlength := congrArg List.length hafter
      rw [List.length_append, List.length_map] at hlength
      rw [List.length_take]
      omega
  · rintro ⟨name, rest, rfl, hname, rfl⟩
    have hfound : wordAt (name.map letter) (name ++ rest) = some name.length := by
      refine (hword _ hname _).2 ⟨(List.length_map _).symm, ?_⟩
      rw [List.map_append]
      exact List.prefix_append ..
    cases hany : anyWordAt words (name ++ rest) with
    | none => exact absurd (hfound.symm.trans (List.findSome?_eq_none_iff.1 hany _ hname)) nofun
    | some m =>
      obtain ⟨w, hw, hm⟩ := List.exists_of_findSome?_eq_some hany
      -- Two words at the front of one text are the same.
      have hpre := ((hword w hw m).1 hm).2
      have hpre' := ((hword _ hname _).1 hfound).2
      have hsame : w = name.map letter := by
        rcases List.prefix_or_prefix_of_prefix hpre hpre' with hle | hle
        · exact h.apart _ hw _ hname hle
        · exact (h.apart _ hname _ hw hle).symm
      rw [hsame, hfound] at hm
      exact hm.symm

theorem anyWordAt_name_append {words : List (List Char)} (h : Searchable words) {name : List Char}
    (hname : Spells words name) (rest : List Char) :
    anyWordAt words (name ++ rest) = some name.length :=
  (anyWordAt_eq_some_iff h _ _).2 ⟨name, rest, rfl, hname, rfl⟩

/-! ## Runs of characters -/

/-- The longest run at the front of a text is known by what it consists of and what ends it. -/
theorem takeWhile_append_of_head {p : Char → Bool} {run rest : List Char}
    (hrun : ∀ c ∈ run, p c = true) (hrest : ∀ c ∈ rest.head?, p c = false) :
    (run ++ rest).takeWhile p = run := by
  rw [List.takeWhile_append_of_pos hrun]
  cases rest with
  | nil => simp
  | cons c rest => simp [hrest c rfl]

theorem exists_run (p : Char → Bool) (cs : List Char) :
    ∃ run rest, cs = run ++ rest ∧ (∀ c ∈ run, p c = true) ∧ (∀ c ∈ rest.head?, p c = false) := by
  refine ⟨cs.takeWhile p, cs.dropWhile p, List.takeWhile_append_dropWhile.symm,
    fun c hc => List.mem_takeWhile_imp hc, ?_⟩
  cases h : cs.dropWhile p with
  | nil => exact nofun
  | cons d ds =>
    rintro c hc
    obtain rfl := Option.some.inj hc
    simpa [h] using List.head?_dropWhile_not p cs

/-! ## Secrets -/

/-- What comes before the value of a secret. -/
structure Mention where
  name : List Char
  separator : Char
  blanks : List Char
  isName : Spells secretWords name
  isSeparator : separator = '=' ∨ separator = ':'
  areBlank : ∀ c ∈ blanks, Text.isBlank c = true

/-- The text of a mention. -/
def Mention.text (m : Mention) : List Char := m.name ++ m.separator :: m.blanks

theorem Mention.text_append (m : Mention) (rest : List Char) :
    m.text ++ rest = m.name ++ m.separator :: (m.blanks ++ rest) := by
  simp [text]

/-- A name and an equals sign. -/
def Mention.assigned (name : List Char) (h : Spells secretWords name) : Mention :=
  ⟨name, '=', [], h, .inl rfl, List.forall_mem_nil _⟩

/-- A value: it is not empty and has no blanks. -/
structure IsValue (value : List Char) : Prop where
  ne_nil : value ≠ []
  solid : ∀ c ∈ value, Text.isBlank c = false

/-- A text that does not go on with a value: it is empty or begins with a blank. -/
def Ends (rest : List Char) : Prop := ∀ c ∈ rest.head?, Text.isBlank c = true

/-- What is found where a mention stands before a value. -/
def Mention.finding (m : Mention) (value : List Char) : Finding :=
  ⟨m.name.length, "=***".toList, (m.text ++ value).length⟩

/-- A secret is found exactly where a mention stands before a value. -/
theorem secretAt_eq_some_iff (cs : List Char) (f : Finding) :
    secretAt cs = some f ↔ ∃ (m : Mention) (value rest : List Char),
      cs = m.text ++ value ++ rest ∧ IsValue value ∧ Ends rest ∧ f = m.finding value := by
  constructor
  · intro h
    obtain ⟨n, hn, -⟩ := Option.bind_eq_some_iff.1 h
    obtain ⟨name, tail, rfl, hname, -⟩ :=
      (anyWordAt_eq_some_iff searchable_secretWords cs n).1 hn
    rw [secretAt, anyWordAt_name_append searchable_secretWords hname] at h
    simp only [Option.bind_eq_bind, Option.bind_some, List.drop_left] at h
    cases tail with
    | nil => cases h
    | cons sep tail =>
      obtain ⟨blanks, after, rfl, hblanks, hafter⟩ := exists_run Text.isBlank tail
      obtain ⟨value, rest, rfl, hvalue, hrest⟩ := exists_run (fun c => !Text.isBlank c) after
      dsimp only at h
      split at h
      · next hsep =>
        rw [takeWhile_append_of_head hblanks hafter, List.drop_left,
          takeWhile_append_of_head hvalue hrest] at h
        split at h
        · cases h
        · next hne =>
          refine ⟨⟨name, sep, blanks, hname, hsep, hblanks⟩, value, rest, ?_, ⟨?_, ?_⟩, ?_, ?_⟩
          · simp [Mention.text]
          · exact fun he => hne (by rw [he, List.length_nil])
          · simpa using hvalue
          · simpa [Ends] using hrest
          · rw [← Option.some.inj h]
            simp [Mention.finding, Mention.text]
            omega
      · cases h
  · rintro ⟨m, value, rest, rfl, hvalue, hrest, rfl⟩
    have hshape : m.text ++ value ++ rest =
        m.name ++ m.separator :: (m.blanks ++ (value ++ rest)) := by
      simp [Mention.text]
    have hhead : ∀ c ∈ (value ++ rest).head?, Text.isBlank c = false := by
      intro c hc
      rw [List.head?_append_of_ne_nil _ hvalue.ne_nil] at hc
      exact hvalue.solid c (List.mem_of_mem_head? hc)
    have hrun : (value ++ rest).takeWhile (fun c => !Text.isBlank c) = value :=
      takeWhile_append_of_head (by simpa using hvalue.solid) (by simpa [Ends] using hrest)
    rw [hshape, secretAt, anyWordAt_name_append searchable_secretWords m.isName]
    simp only [Option.bind_eq_bind, Option.bind_some, List.drop_left]
    rw [if_pos m.isSeparator, takeWhile_append_of_head m.areBlank hhead, List.drop_left, hrun,
      if_neg (by simpa using hvalue.ne_nil)]
    simp [Mention.finding, Mention.text]
    omega

/-! ## Credentials -/

/-- The beginning of an address that holds credentials. -/
structure Credentials where
  scheme : List Char
  user : List Char
  password : List Char
  isScheme : Spells schemes scheme
  user_ne_nil : user ≠ []
  isUser : ∀ c ∈ user, isUserChar c = true
  password_ne_nil : password ≠ []
  isPassword : ∀ c ∈ password, isPasswordChar c = true

namespace Credentials

/-- What comes before the password. -/
def front (k : Credentials) : List Char := k.scheme ++ (k.user ++ [':'])

/-- The text of credentials, with the at sign after them. -/
def text (k : Credentials) : List Char := k.front ++ (k.password ++ ['@'])

/-- What is found where credentials stand. -/
def finding (k : Credentials) : Finding := ⟨k.scheme.length, "***@".toList, k.text.length⟩

end Credentials

/-- Credentials are found exactly where they stand. -/
theorem credentialsAt_eq_some_iff (cs : List Char) (f : Finding) :
    credentialsAt cs = some f ↔ ∃ (k : Credentials) (rest : List Char),
      cs = k.text ++ rest ∧ f = k.finding := by
  constructor
  · intro h
    obtain ⟨n, hn, -⟩ := Option.bind_eq_some_iff.1 h
    obtain ⟨scheme, tail, rfl, hscheme, -⟩ :=
      (anyWordAt_eq_some_iff searchable_schemes cs n).1 hn
    obtain ⟨user, afterUser, rfl, huser, hafterUser⟩ := exists_run isUserChar tail
    rw [credentialsAt, anyWordAt_name_append searchable_schemes hscheme] at h
    simp only [Option.bind_eq_bind, Option.bind_some, List.drop_left,
      takeWhile_append_of_head huser hafterUser] at h
    split at h
    · next afterColon =>
      obtain ⟨password, afterPassword, rfl, hpassword, hafterPassword⟩ :=
        exists_run isPasswordChar afterColon
      rw [takeWhile_append_of_head hpassword hafterPassword] at h
      simp only [List.drop_left] at h
      split at h
      · next rest =>
        split at h
        · cases h
        · next hne =>
          rw [List.length_eq_zero_iff, List.length_eq_zero_iff, not_or] at hne
          refine ⟨⟨scheme, user, password, hscheme, hne.1, huser, hne.2, hpassword⟩, rest, ?_, ?_⟩
          · simp [Credentials.text, Credentials.front]
          · rw [← Option.some.inj h]
            simp [Credentials.finding, Credentials.text, Credentials.front]
            omega
      · cases h
    · cases h
  · rintro ⟨k, rest, rfl, rfl⟩
    have hshape : k.text ++ rest =
        k.scheme ++ (k.user ++ ':' :: (k.password ++ '@' :: rest)) := by
      simp [Credentials.text, Credentials.front]
    have hcolon : ∀ c ∈ (':' :: (k.password ++ '@' :: rest)).head?, isUserChar c = false := by
      rintro c ⟨⟩
      decide
    have hat : ∀ c ∈ ('@' :: rest).head?, isPasswordChar c = false := by
      rintro c ⟨⟩
      decide
    rw [hshape, credentialsAt, anyWordAt_name_append searchable_schemes k.isScheme]
    simp only [Option.bind_eq_bind, Option.bind_some, List.drop_left,
      takeWhile_append_of_head k.isUser hcolon, takeWhile_append_of_head k.isPassword hat]
    rw [if_neg (by simp [k.user_ne_nil, k.password_ne_nil])]
    simp [Credentials.finding, Credentials.text, Credentials.front]
    omega

end MqttRelay.Redaction
