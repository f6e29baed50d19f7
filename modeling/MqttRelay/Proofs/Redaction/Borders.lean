import MqttRelay.Proofs.Redaction.Scanning

/-!
# Borders that nothing crosses

Where a text is put together from parts, a finding may begin in one part and end in the next. Which
borders are safe depends on the characters that stand there: names are spelled in letters alone,
schemes end with their slashes, and addresses have no blanks.

Results:
* `eq_of_separators`: a name is known by the first separator after it.
* `unentered_of_word`, `unentered_of_foreign`, `unentered_of_colon`: no name reaches into what
  begins with a word of its own, with a character that is in no name, or follows a colon.
* `fence_of_ends`, `fence_of_scheme`: no credentials reach into what begins with a blank or with a
  scheme.
* `secrets_blanks_append`, `passed_of_solid`, `credentials_of_notMem_at`: where nothing is found.
-/

namespace MqttRelay.Redaction

/-! ## Characters of words -/

/-- A character is lowered only if it is an ASCII capital. -/
theorem toLower_cases (c : Char) : c.toLower = c ∨
    (65 ≤ c.toNat ∧ c.toNat ≤ 90) ∧ c.toLower.toNat = c.toNat + 32 := by
  unfold Char.toLower
  split
  · next h =>
    have hcapital : 65 ≤ c.toNat ∧ c.toNat ≤ 90 := by simpa [UInt32.le_iff_toNat_le] using h
    refine .inr ⟨hcapital, ?_⟩
    have hadd : (c.val + 32).toNat = c.toNat + 32 := by
      rw [UInt32.toNat_add, show c.val.toNat = c.toNat from rfl]
      simp only [UInt32.reduceToNat]
      omega
    exact hadd
  · exact .inl rfl

theorem letter_eq_self_or_isLower (c : Char) : letter c = c ∨ (letter c).isLower = true := by
  unfold letter
  split
  · exact .inr (by decide)
  · split
    · exact .inr (by decide)
    · refine (toLower_cases c).imp_right fun h => ?_
      have hval : c.toLower.val.toNat = c.toLower.toNat := rfl
      have hlow : 97 ≤ c.toLower.val.toNat := by omega
      have hhigh : c.toLower.val.toNat ≤ 122 := by omega
      exact Bool.and_eq_true_iff.2 ⟨decide_eq_true (UInt32.le_iff_toNat_le.2 hlow),
        decide_eq_true (UInt32.le_iff_toNat_le.2 hhigh)⟩

/-- A character that counts as one that is not a small letter is that one. -/
theorem eq_of_letter_eq {c d : Char} (h : letter c = d) (hd : d.isLower = false) : c = d := by
  rcases letter_eq_self_or_isLower c with hself | hlower
  · exact hself.symm.trans h
  · rw [h, hd] at hlower
    cases hlower

theorem isBlank_letter (c : Char) : Text.isBlank (letter c) = Text.isBlank c := by
  unfold letter
  split
  · next h => subst h; decide
  · split
    · next h => subst h; decide
    · rcases toLower_cases c with h | ⟨hcapital, h⟩
      · rw [h]
      · simp only [Text.isBlank, h]
        grind

theorem Spells.notMem {words : List (List Char)} {name : List Char} (h : Spells words name)
    {c : Char} (hc : ∀ w ∈ words, letter c ∉ w) : c ∉ name := fun hm =>
  hc _ h (List.mem_map_of_mem hm)

theorem Spells.solid {words : List (List Char)} (hw : ∀ w ∈ words, ∀ p ∈ w, Text.isBlank p = false)
    {name : List Char} (h : Spells words name) : ∀ c ∈ name, Text.isBlank c = false := by
  intro c hc
  rw [← isBlank_letter]
  exact hw _ h _ (List.mem_map_of_mem hc)

namespace Mention

theorem notMem_name (m : Mention) {c : Char} (hc : ∀ w ∈ secretWords, letter c ∉ w) :
    c ∉ m.name := m.isName.notMem hc

theorem solid_name (m : Mention) : ∀ c ∈ m.name, Text.isBlank c = false :=
  m.isName.solid (by decide)

theorem name_plain (m : Mention) : '=' ∉ m.name ∧ ':' ∉ m.name :=
  ⟨m.notMem_name (by decide), m.notMem_name (by decide)⟩

theorem name_ne_nil (m : Mention) : m.name ≠ [] := by
  intro h
  have hname := m.isName
  rw [Spells, h] at hname
  revert hname
  decide

end Mention

/-! ## Characters of addresses -/

/-- A character that is no letter stands in a scheme as often as in the word that it spells. -/
theorem count_of_spells {scheme : List Char} (h : Spells schemes scheme) {d : Char} {n : Nat}
    (hd : d.isLower = false ∧ letter d = d) (hn : ∀ w ∈ schemes, w.count d = n) :
    scheme.count d = n := by
  have hletter : (fun c => c == d) ∘ letter = fun c => c == d := by
    funext c
    have hc : letter c = d ↔ c = d := ⟨fun h => eq_of_letter_eq h hd.1, by rintro rfl; exact hd.2⟩
    simpa [Function.comp_def, beq_eq_decide] using hc
  rw [← hn _ h, List.count_eq_countP, List.count_eq_countP, List.countP_map, hletter]

theorem count_slash_of_spells {scheme : List Char} (h : Spells schemes scheme) :
    scheme.count '/' = 2 :=
  count_of_spells h (by decide) (by decide)

theorem getLast?_of_spells {scheme : List Char} (h : Spells schemes scheme) :
    scheme.getLast? = some '/' := by
  have hlast : ∀ w ∈ schemes, w.getLast? = some '/' := by decide
  have hmap := hlast _ h
  rw [List.getLast?_map] at hmap
  obtain ⟨c, hc, hletter⟩ := Option.map_eq_some_iff.1 hmap
  rw [hc, eq_of_letter_eq hletter (by decide)]

namespace Credentials

theorem solid_front (k : Credentials) : ∀ c ∈ k.front, Text.isBlank c = false := by
  have hscheme := k.isScheme.solid (by decide)
  have huser : ∀ c ∈ k.user, Text.isBlank c = false := by
    intro c hc
    have := k.isUser c hc
    simp only [isUserChar, Bool.not_eq_true', Bool.or_eq_false_iff] at this
    exact this.2
  rw [front, List.forall_mem_append, List.forall_mem_append]
  exact ⟨hscheme, huser, by decide⟩

theorem solid_password (k : Credentials) : ∀ c ∈ k.password, Text.isBlank c = false := by
  intro c hc
  have := k.isPassword c hc
  simp only [isPasswordChar, Bool.not_eq_true', Bool.or_eq_false_iff] at this
  exact this.2

/-- Credentials have no blanks. -/
theorem solid (k : Credentials) : ∀ c ∈ k.text, Text.isBlank c = false := by
  rw [text, List.forall_mem_append, List.forall_mem_append]
  exact ⟨k.solid_front, k.solid_password, by decide⟩

theorem at_notMem_front (k : Credentials) : '@' ∉ k.front := by
  have hscheme : '@' ∉ k.scheme := k.isScheme.notMem (by decide)
  have huser : '@' ∉ k.user := fun h => absurd (k.isUser _ h) (by decide)
  simp [front, hscheme, huser]

theorem at_notMem_password (k : Credentials) : '@' ∉ k.password := fun h =>
  absurd (k.isPassword _ h) (by decide)

/-- The slashes of credentials are those of their scheme. -/
theorem count_slash (k : Credentials) : k.text.count '/' = 2 := by
  have huser : '/' ∉ k.user := fun h => absurd (k.isUser _ h) (by decide)
  have hpassword : '/' ∉ k.password := fun h => absurd (k.isPassword _ h) (by decide)
  simp [text, front, List.count_append, count_slash_of_spells k.isScheme,
    List.count_eq_zero_of_not_mem huser, List.count_eq_zero_of_not_mem hpassword]

theorem getLast?_text (k : Credentials) : k.text.getLast? = some '@' := by
  rw [text, ← List.append_assoc, List.getLast?_concat]

theorem scheme_prefix (k : Credentials) : k.scheme <+: k.text := by
  rw [text, front, List.append_assoc]
  exact List.prefix_append ..

end Credentials

/-! ## Names -/

/-- No name reaches into what begins with a character that is in no name. -/
theorem unentered_of_foreign {c : Char} (hsep : c ≠ '=' ∧ c ≠ ':')
    (hword : ∀ w ∈ secretWords, letter c ∉ w) (p b : List Char) : Unentered p (c :: b) :=
  fun _ _ _ _ _ heq => opens_of_foreign hsep hword heq

/-- The first separator of a text parts it in one way. -/
theorem eq_of_separators {w w' b b' : List Char} {s s' : Char} (hw : '=' ∉ w ∧ ':' ∉ w)
    (hw' : '=' ∉ w' ∧ ':' ∉ w') (hs : s = '=' ∨ s = ':') (hs' : s' = '=' ∨ s' = ':')
    (h : w ++ s :: b = w' ++ s' :: b') : w = w' ∧ s = s' ∧ b = b' := by
  have hrun {l : List Char} {s : Char} (rest : List Char) (hl : '=' ∉ l ∧ ':' ∉ l)
      (hs : s = '=' ∨ s = ':') :
      (l ++ s :: rest).takeWhile (fun c => !(c == '=' || c == ':')) = l := by
    refine takeWhile_append_of_head (fun c hc => ?_) ?_
    · have h1 : c ≠ '=' := fun h => hl.1 (h ▸ hc)
      have h2 : c ≠ ':' := fun h => hl.2 (h ▸ hc)
      simp [h1, h2]
    · rintro c ⟨⟩
      rcases hs with rfl | rfl <;> decide
  obtain rfl : w = w' := by rw [← hrun b hw hs, h, hrun b' hw' hs']
  rw [List.append_cancel_left_eq] at h
  obtain ⟨rfl, rfl⟩ := List.cons.inj h
  exact ⟨rfl, rfl, rfl⟩

/-- No name reaches into what begins with a word of its own before a separator, unless the word is
the end of a name. -/
theorem unentered_of_word {w : List Char} {sep : Char} (hw : '=' ∉ w ∧ ':' ∉ w)
    (hsep : sep = '=' ∨ sep = ':') (hapart : ∀ v ∈ secretWords, w.map letter ∉ v.tail.tails)
    (p b : List Char) : Unentered p (w ++ sep :: b) := by
  intro x hx _ m rest htext
  by_contra hle
  obtain ⟨ending, hending, heq⟩ := Mention.exists_ending htext hle
  have hname := m.name_plain
  rw [← hending, List.mem_append, List.mem_append, not_or, not_or] at hname
  obtain ⟨hsame, -, -⟩ :=
    eq_of_separators hw ⟨hname.1.2, hname.2.2⟩ hsep m.isSeparator heq
  refine hapart _ m.isName ?_
  obtain ⟨c, x, rfl⟩ := List.exists_cons_of_ne_nil hx
  rw [← hending, hsame, List.mem_tails]
  simp

/-- No name reaches over a colon. -/
theorem unentered_of_colon (p b : List Char) : Unentered (p ++ [':']) b := by
  intro x hx hs m rest htext
  by_contra hle
  obtain ⟨ending, hending, -⟩ := Mention.exists_ending htext hle
  obtain ⟨before, hbefore⟩ := hs
  have hlast : x.getLast? = some ':' := by
    rw [← List.getLast?_append_of_ne_nil before hx, hbefore, List.getLast?_concat]
  have hmem : ':' ∈ m.name := hending ▸ List.mem_append_left ending (List.mem_of_getLast? hlast)
  exact m.name_plain.2 hmem

/-- No name reaches into what begins with another. -/
theorem unentered_of_name (m : Mention) {sep : Char} (hsep : sep = '=' ∨ sep = ':')
    (p b : List Char) : Unentered p (m.name ++ sep :: b) := by
  have hapart : ∀ w ∈ secretWords, ∀ v ∈ secretWords, w ∉ v.tail.tails := by decide
  exact unentered_of_word m.name_plain hsep (hapart _ m.isName) p b

theorem unentered_of_mention (m : Mention) (p b : List Char) : Unentered p (m.text ++ b) := by
  rw [m.text_append]
  exact unentered_of_name m m.isSeparator p _

/-- No name reaches into what begins with a scheme. -/
theorem unentered_of_scheme {scheme : List Char} (h : Spells schemes scheme) (p b : List Char) :
    Unentered p (scheme ++ b) := by
  have hapart : ∀ s ∈ schemes, ':' ∈ s ∧
      ∀ v ∈ secretWords, s.takeWhile (fun c => !(c == ':')) ∉ v.tail.tails := by decide
  obtain ⟨hcolon, hwords⟩ := hapart _ h
  obtain ⟨w, rest, rfl, hw, hrest⟩ := exists_run (fun c => !(c == ':')) scheme
  have hnone : ':' ∉ w := fun hm => absurd (hw _ hm) (by decide)
  have hnone' : ':' ∉ w.map letter := by
    intro hm
    obtain ⟨c, hc, hletter⟩ := List.mem_map.1 hm
    exact hnone (eq_of_letter_eq hletter (by decide) ▸ hc)
  cases rest with
  | nil => exact absurd (by simpa using hcolon) hnone'
  | cons sep rest =>
    obtain rfl : sep = ':' := by simpa using hrest sep rfl
    have htake : ((w ++ ':' :: rest).map letter).takeWhile (fun c => !(c == ':')) =
        w.map letter := by
      rw [List.map_append]
      refine takeWhile_append_of_head (fun c hc => ?_) ?_
      · have hne : c ≠ ':' := fun heq => hnone' (heq ▸ hc)
        simpa using hne
      · rintro c ⟨⟩
        decide
    rw [htake] at hwords
    have hequals : '=' ∉ w := fun hm =>
      h.notMem (c := '=') (by decide) (List.mem_append_left _ hm)
    rw [List.append_assoc]
    exact unentered_of_word ⟨hequals, hnone⟩ (.inr rfl) hwords p _

/-! ## Credentials -/

/-- No credentials cross a border if none begin before it and end after it. -/
theorem fence_of {p b : List Char} (h : ∀ x, x ≠ [] → ∀ (k : Credentials) after rest,
    after ≠ [] → k.text = x ++ after → b ≠ after ++ rest) : Fence credentialsAt p b := by
  intro x hx _
  refine Option.ext fun f => ?_
  rw [credentialsAt_eq_some_iff, credentialsAt_eq_some_iff]
  constructor
  · rintro ⟨k, rest, heq, rfl⟩
    rcases List.append_eq_append_iff.1 heq with ⟨after, htext, hb⟩ | ⟨after, rfl, -⟩
    · by_cases hne : after = []
      · exact ⟨k, [], by rw [htext, hne, List.append_nil, List.append_nil], rfl⟩
      · exact absurd hb (h x hx k after rest hne htext)
    · exact ⟨k, after, rfl, rfl⟩
  · rintro ⟨k, rest, rfl, rfl⟩
    exact ⟨k, rest ++ b, List.append_assoc .., rfl⟩

/-- No credentials reach over a blank. -/
theorem fence_of_ends {b : List Char} (hb : Ends b) (p : List Char) : Fence credentialsAt p b := by
  refine fence_of fun x _ k after rest hne htext heq => ?_
  obtain ⟨c, after, rfl⟩ := List.exists_cons_of_ne_nil hne
  have hc : c ∈ k.text := htext ▸ List.mem_append_right x List.mem_cons_self
  have hblank : Text.isBlank c = true := hb c (by rw [heq]; rfl)
  rw [k.solid c hc] at hblank
  cases hblank

/-- Two texts up to a slash, with as many slashes, are the same if one begins with the other. -/
theorem eq_of_prefix_of_slash {a b : List Char} (h : a <+: b) (hc : a.count '/' = b.count '/')
    (hb : b.getLast? = some '/') : a = b := by
  obtain ⟨d, rfl⟩ := h
  rw [List.count_append] at hc
  cases d with
  | nil => rw [List.append_nil]
  | cons c d =>
    rw [List.getLast?_append_of_ne_nil a (List.cons_ne_nil c d)] at hb
    have hpos := List.count_pos_iff.2 (List.mem_of_getLast? hb)
    omega

/-- No credentials reach into what begins with a scheme. -/
theorem fence_of_scheme {scheme : List Char} (h : Spells schemes scheme) (p b : List Char) :
    Fence credentialsAt p (scheme ++ b) := by
  refine fence_of fun x hx k after rest hne htext heq => ?_
  have hat : '@' ∈ after := by
    refine List.mem_of_getLast? ?_
    rw [← List.getLast?_append_of_ne_nil x hne, ← htext, k.getLast?_text]
  rcases List.prefix_or_prefix_of_prefix (List.prefix_append scheme b)
    (heq ▸ List.prefix_append after rest) with hpre | hpre
  · obtain ⟨ending, rfl⟩ := hpre
    rw [← List.append_assoc] at htext
    have hcount := k.count_slash
    have hscheme := count_slash_of_spells h
    have hscheme' := count_slash_of_spells k.isScheme
    rw [htext, List.count_append, List.count_append] at hcount
    have hfront : (x ++ scheme).count '/' = k.scheme.count '/' := by
      rw [List.count_append]
      omega
    -- Both schemes end with the second slash.
    have hsame : x ++ scheme = k.scheme := by
      rcases List.prefix_or_prefix_of_prefix (htext ▸ List.prefix_append (x ++ scheme) ending)
        k.scheme_prefix with hle | hle
      · exact eq_of_prefix_of_slash hle hfront (getLast?_of_spells k.isScheme)
      · refine (eq_of_prefix_of_slash hle hfront.symm ?_).symm
        rw [List.getLast?_append_of_ne_nil x, getLast?_of_spells h]
        rintro rfl
        cases hscheme
    have hapart : ∀ v ∈ schemes, ∀ w ∈ schemes, w ∉ v.tail.tails := by decide
    refine hapart _ k.isScheme _ h ?_
    obtain ⟨c, x, rfl⟩ := List.exists_cons_of_ne_nil hx
    rw [← hsame, List.mem_tails]
    simp
  · exact h.notMem (by decide) (hpre.subset hat)

/-! ## Parts in which nothing is found -/

/-- No secret begins with a character that is in no name. -/
theorem secretAt_of_notMem {c : Char} (h : ∀ m : Mention, c ∉ m.name) (cs : List Char) :
    secretAt (c :: cs) = none := by
  refine Option.eq_none_iff_forall_ne_some.2 fun f hf => ?_
  obtain ⟨m, value, rest, heq, -, -, -⟩ := (secretAt_eq_some_iff _ f).1 hf
  obtain ⟨d, name, hname⟩ := List.exists_cons_of_ne_nil m.name_ne_nil
  rw [Mention.text, hname] at heq
  obtain ⟨rfl, -⟩ := List.cons.inj heq
  exact h m (hname ▸ List.mem_cons_self)

theorem secretAt_of_blank {c : Char} (h : Text.isBlank c = true) (cs : List Char) :
    secretAt (c :: cs) = none := by
  refine secretAt_of_notMem (fun m hm => ?_) cs
  rw [m.solid_name c hm] at h
  cases h

/-- Blanks are passed over. -/
theorem secrets_blanks_append {blanks : List Char} (h : ∀ c ∈ blanks, Text.isBlank c = true)
    (b : List Char) : replaceAll secretAt (blanks ++ b) = blanks ++ replaceAll secretAt b := by
  refine replaceAll_append_of_none fun x hx hs => ?_
  obtain ⟨c, x, rfl⟩ := List.exists_cons_of_ne_nil hx
  exact secretAt_of_blank (h c (hs.subset List.mem_cons_self)) (x ++ b)

/-- What does not go on with a value still does not when it has been searched. -/
theorem ends_replaceAll {find : List Char → Option Finding}
    (hblank : ∀ c cs, Text.isBlank c = true → find (c :: cs) = none) {rest : List Char}
    (h : Ends rest) : Ends (replaceAll find rest) := by
  cases rest with
  | nil => exact h
  | cons c rest =>
    rw [replaceAll_cons_of_none (hblank c rest (h c rfl))]
    rintro d ⟨⟩
    exact h c rfl

theorem ends_secrets {rest : List Char} (h : Ends rest) : Ends (replaceAll secretAt rest) :=
  ends_replaceAll (fun _ cs hc => secretAt_of_blank hc cs) h

/-- Without blanks, a text is left as it is unless a value runs on in it. -/
theorem passed_of_solid {t : List Char} (ht : ∀ c ∈ t, Text.isBlank c = false)
    (hruns : runsOn t = false) : passed t = t := by
  induction t using scan_induction advances_secretBefore with
  | nil => rfl
  | keep c t hc ih =>
    rw [runsOn_cons_of_none hc] at hruns
    have hpassed : passed (c :: t) = c :: passed t := replaceAll_cons_of_none hc
    rw [hpassed, ih (fun d hd => ht d (List.mem_cons_of_mem c hd)) hruns]
  | hit t f _ hf _ =>
    rcases ended_or_running_of_secretBefore hf with ⟨m, v, r, rfl, -, hne, hr⟩ | ⟨m, run, rfl, hrun⟩
    · obtain ⟨c, r, rfl⟩ := List.exists_cons_of_ne_nil hne
      have hblank := hr c rfl
      rw [ht c (List.mem_append_right _ List.mem_cons_self)] at hblank
      cases hblank
    · rw [(passed_of_running hrun).2] at hruns
      cases hruns

/-- There are no credentials without an at sign. -/
theorem credentials_of_notMem_at {t : List Char} (h : '@' ∉ t) :
    replaceAll credentialsAt t = t := by
  have hnone : ∀ x, x ≠ [] → x <:+ t → credentialsAt (x ++ []) = none := by
    intro x _ hs
    refine Option.eq_none_iff_forall_ne_some.2 fun f hf => ?_
    obtain ⟨k, rest, heq, -⟩ := (credentialsAt_eq_some_iff _ f).1 hf
    rw [List.append_nil] at heq
    refine h (hs.subset ?_)
    rw [heq]
    exact List.mem_append_left _ (List.mem_of_getLast? k.getLast?_text)
  have hkept := replaceAll_append_of_none hnone
  rwa [replaceAll_nil, List.append_nil] at hkept

/-- Borders that no credentials cross part the search for them in two. -/
theorem credentials_append {p b : List Char} (h : Fence credentialsAt p b) :
    replaceAll credentialsAt (p ++ b) =
      replaceAll credentialsAt p ++ replaceAll credentialsAt b := by
  refine replaceAll_append_of_fence advances_credentialsAt (fun cs f hf => ?_) h
  obtain ⟨k, rest, rfl, rfl⟩ := (credentialsAt_eq_some_iff cs f).1 hf
  simp [Credentials.finding, Credentials.text, Credentials.front]

theorem credentialsAt_of_blank {c : Char} (h : Text.isBlank c = true) (cs : List Char) :
    credentialsAt (c :: cs) = none := by
  refine Option.eq_none_iff_forall_ne_some.2 fun f hf => ?_
  obtain ⟨k, after, heq, -⟩ := (credentialsAt_eq_some_iff _ f).1 hf
  have hne : k.text ≠ [] := by simp [Credentials.text]
  obtain ⟨d, text, htext⟩ := List.exists_cons_of_ne_nil hne
  rw [htext] at heq
  obtain ⟨rfl, -⟩ := List.cons.inj heq
  rw [k.solid c (htext ▸ List.mem_cons_self)] at h
  cases h

theorem ends_credentials {rest : List Char} (h : Ends rest) :
    Ends (replaceAll credentialsAt rest) :=
  ends_replaceAll (fun _ cs hc => credentialsAt_of_blank hc cs) h

/-- Credentials are replaced, and the search goes on after them. -/
theorem credentials_text_append (k : Credentials) (rest : List Char) :
    replaceAll credentialsAt (k.text ++ rest) =
      k.scheme ++ "***@".toList ++ replaceAll credentialsAt rest := by
  have hfound : credentialsAt (k.text ++ rest) = some k.finding :=
    (credentialsAt_eq_some_iff _ _).2 ⟨k, rest, rfl, rfl⟩
  have hne : k.text ++ rest ≠ [] := by simp [Credentials.text]
  have hdrop : (k.text ++ rest).drop k.finding.length = rest := List.drop_left
  have htake : (k.text ++ rest).take k.finding.kept = k.scheme := by
    simp [Credentials.finding, Credentials.text, Credentials.front]
  rw [replaceAll_of_some advances_credentialsAt hne hfound, hdrop, htake]
  rfl

end MqttRelay.Redaction
