import MqttRelay.Proofs.Redaction.Borders

/-!
# What is left in a redacted message

Each of the two replacements could make a new secret or new credentials of what it leaves, and so
could the cut. None does: what is put in the place of a finding is no part of a name or of an
address, and the mark of a cut goes on with a value but ends no address.

* `Masked` — every value after a name is three stars, right behind an equals sign.
* `Bare` — there are no credentials.

Results:
* `masked_secrets`, `masked_credentials`: the first replacement masks, and the second keeps that.
* `bare_credentials`: the second replacement leaves no credentials.
* `isMask_of_cut`, `bare_of_cut`: what a cut leaves of both.
* `sanitize_masks`: every message that leaves the process is short, bare and masked.
-/

namespace MqttRelay.Redaction

variable {find : List Char → Option Finding}

/-- Every value that stands after a name is three stars, right behind an equals sign. -/
def Masked (t : List Char) : Prop :=
  ∀ before (m : Mention) value rest, t = before ++ (m.text ++ value ++ rest) → IsValue value →
    Ends rest → m.separator = '=' ∧ m.blanks = [] ∧ value = "***".toList

/-- No credentials stand anywhere. -/
def Bare (t : List Char) : Prop := ∀ k : Credentials, ¬ k.text <:+: t

theorem Masked.of_suffix {t u : List Char} (h : Masked t) (hu : u <:+ t) : Masked u := by
  obtain ⟨front, rfl⟩ := hu
  intro before m value rest heq
  exact h (front ++ before) m value rest (by rw [heq, List.append_assoc front])

/-- What begins in a text of two parts begins in the second one, or before the end of the first. -/
theorem begins_cases {put s before u : List Char} (h : put ++ s = before ++ u) :
    (∃ d, before = put ++ d ∧ s = d ++ u) ∨
      ∃ begun, begun ≠ [] ∧ put = before ++ begun ∧ u = begun ++ s := by
  rcases List.append_eq_append_iff.1 h with ⟨d, hd⟩ | ⟨begun, hput, hu⟩
  · exact .inl ⟨d, hd⟩
  · by_cases hne : begun = []
    · rw [hne, List.append_nil] at hput
      exact .inl ⟨[], by rw [hput, List.append_nil], by rw [hu, hne]; rfl⟩
    · exact .inr ⟨begun, hne, hput, hu⟩

/-! ## What comes after a separator -/

/-- What comes after a separator is blank, or a value with blanks before it. -/
theorem tail_cases (m : Mention) (tail : List Char) :
    (∀ c ∈ tail, Text.isBlank c = true) ∨ ∃ (n : Mention) (v r : List Char),
      n.separator = m.separator ∧ tail = n.blanks ++ (v ++ r) ∧
        m.name ++ m.separator :: tail = n.text ++ v ++ r ∧ IsValue v ∧ Ends r := by
  obtain ⟨blanks, after, rfl, hblanks, hafter⟩ := exists_run Text.isBlank tail
  obtain ⟨v, r, rfl, hv, hr⟩ := exists_run (fun c => !Text.isBlank c) after
  cases v with
  | nil =>
    cases r with
    | nil => exact .inl (by simpa using hblanks)
    | cons c r => exact absurd (hafter c rfl) (by simpa using hr c rfl)
  | cons c v =>
    refine .inr ⟨⟨m.name, m.separator, blanks, m.isName, m.isSeparator, hblanks⟩, c :: v, r, rfl,
      rfl, by simp [Mention.text], ⟨List.cons_ne_nil c v, by simpa using hv⟩, ?_⟩
    simpa [Ends] using hr

/-- Blanks and a value that ends are known by the text that they begin. -/
theorem eq_of_value {blanks blanks' v v' r r' : List Char}
    (hblanks : ∀ c ∈ blanks, Text.isBlank c = true) (hv : IsValue v) (hr : Ends r)
    (hblanks' : ∀ c ∈ blanks', Text.isBlank c = true) (hv' : IsValue v') (hr' : Ends r')
    (h : blanks ++ (v ++ r) = blanks' ++ (v' ++ r')) : blanks = blanks' ∧ v = v' ∧ r = r' := by
  have hrun {w s : List Char} (hw : IsValue w) (hs : Ends s) :
      (w ++ s).takeWhile (fun c => !Text.isBlank c) = w :=
    takeWhile_append_of_head (by simpa using hw.solid) (by simpa [Ends] using hs)
  have hhead {w s : List Char} (hw : IsValue w) : ∀ c ∈ (w ++ s).head?, Text.isBlank c = false := by
    intro c hc
    rw [List.head?_append_of_ne_nil w hw.ne_nil] at hc
    exact hw.solid c (List.mem_of_mem_head? hc)
  obtain rfl : blanks = blanks' := by
    rw [← takeWhile_append_of_head hblanks (hhead hv), h,
      takeWhile_append_of_head hblanks' (hhead hv')]
  rw [List.append_cancel_left_eq] at h
  obtain rfl : v = v' := by rw [← hrun hv hr, h, hrun hv' hr']
  exact ⟨rfl, rfl, List.append_cancel_left h⟩

/-- A value that ends is known by the text that it begins, and no blanks come before it. -/
theorem eq_of_solid {blanks v w r s : List Char} (hblanks : ∀ c ∈ blanks, Text.isBlank c = true)
    (hv : IsValue v) (hr : Ends r) (hw : IsValue w) (hs : Ends s)
    (h : blanks ++ (v ++ r) = w ++ s) : blanks = [] ∧ v = w := by
  have hall : blanks ++ (v ++ r) = [] ++ (w ++ s) := h
  obtain ⟨hnone, hsame, -⟩ := eq_of_value hblanks hv hr (List.forall_mem_nil _) hw hs hall
  exact ⟨hnone, hsame⟩

theorem ends_nil : Ends [] := nofun

theorem not_blank_of_value {blanks v r tail : List Char} (hv : IsValue v)
    (h : blanks ++ (v ++ r) = tail) : ¬ ∀ c ∈ tail, Text.isBlank c = true := by
  intro hblank
  obtain ⟨c, v, rfl⟩ := List.exists_cons_of_ne_nil hv.ne_nil
  have hsolid := hv.solid c List.mem_cons_self
  rw [hblank c (by simp [← h])] at hsolid
  cases hsolid

theorem isValue_stars : IsValue "***".toList := ⟨by decide, by decide⟩

/-! ## Names that reach into what was searched -/

/-- A name that ends in what was searched, or borders on it, stands in the source as well, if no
name reaches into what is put in the place of a finding. -/
theorem name_in_source (hfind : Advances find)
    (hput : ∀ t f, t ≠ [] → find t = some f → ∀ p rest,
      Unentered p (t.take f.kept ++ f.added ++ rest)) {t x : List Char} (hx : x ≠ [])
    {m : Mention} {r : List Char} (h : x ++ replaceAll find t = m.text ++ r)
    (hle : x.length ≤ m.name.length) :
    ∃ tail, x ++ t = m.name ++ m.separator :: tail ∧ m.blanks ++ r = replaceAll find tail := by
  induction t using scan_induction hfind generalizing x with
  | nil =>
    have hlength := congrArg List.length h
    simp only [replaceAll_nil, Mention.text, List.length_append, List.length_cons,
      List.length_nil] at hlength
    omega
  | keep d t hd ih =>
    rw [replaceAll_cons_of_none hd] at h
    rcases Nat.eq_or_lt_of_le hle with heq | hlt
    · rw [m.text_append] at h
      obtain ⟨rfl, hcons⟩ := List.append_inj h heq
      obtain ⟨rfl, hrest⟩ := List.cons.inj hcons
      exact ⟨t, rfl, hrest.symm⟩
    · have hne : x ++ [d] ≠ [] := by simp
      have hle' : (x ++ [d]).length ≤ m.name.length := by
        rw [List.length_append, List.length_singleton]
        omega
      obtain ⟨tail, htail, hrest⟩ := ih hne (by rw [← h]; simp) hle'
      exact ⟨tail, by rw [← htail]; simp, hrest⟩
  | hit t f ht hf _ =>
    rw [replaceAll_of_some hfind ht hf] at h
    exact absurd hle (Nat.not_le.2 (hput t f ht hf x _ x hx List.suffix_rfl m r h))

theorem unentered_secret (t : List Char) (f : Finding) (_ : t ≠ []) (hf : secretAt t = some f)
    (p rest : List Char) : Unentered p (t.take f.kept ++ f.added ++ rest) := by
  obtain ⟨m, v, r, rfl, -, -, rfl⟩ := (secretAt_eq_some_iff t f).1 hf
  rw [List.append_assoc m.text, m.take_kept, List.append_assoc]
  exact unentered_of_name m (.inl rfl) p _

theorem unentered_credentials (t : List Char) (f : Finding) (_ : t ≠ [])
    (hf : credentialsAt t = some f) (p rest : List Char) :
    Unentered p (t.take f.kept ++ f.added ++ rest) := by
  obtain ⟨k, r, rfl, rfl⟩ := (credentialsAt_eq_some_iff t f).1 hf
  have htake : (k.text ++ r).take k.finding.kept = k.scheme := by
    simp [Credentials.finding, Credentials.text, Credentials.front]
  rw [htake, List.append_assoc]
  exact unentered_of_scheme k.isScheme p _

/-! ## The first replacement -/

/-- A name that begins in what is put in the place of a secret is the end of its own. -/
theorem masked_put {m n : Mention} {before begun v r s : List Char} (hv : IsValue v) (hr : Ends r)
    (hs : Ends s) (hne : begun ≠ []) (hput : n.name ++ "=***".toList = before ++ begun)
    (h : begun ++ s = m.text ++ v ++ r) :
    m.separator = '=' ∧ m.blanks = [] ∧ v = "***".toList := by
  rw [List.append_assoc, m.text_append] at h
  rcases List.append_eq_append_iff.1 hput with ⟨d, -, hd⟩ | ⟨ending, hending, rfl⟩
  · -- No name begins with an equals sign or a star.
    obtain ⟨c, begun, rfl⟩ := List.exists_cons_of_ne_nil hne
    obtain ⟨c', name, hname⟩ := List.exists_cons_of_ne_nil m.name_ne_nil
    rw [hname] at h
    obtain ⟨rfl, -⟩ := List.cons.inj h
    have hforeign : ∀ c ∈ "=***".toList, ∀ w ∈ secretWords, letter c ∉ w := by decide
    have hc : c ∈ "=***".toList := hd ▸ List.mem_append_right d List.mem_cons_self
    exact absurd (hname ▸ List.mem_cons_self) (m.notMem_name (hforeign c hc))
  · have hplain := n.name_plain
    rw [hending, List.mem_append, List.mem_append, not_or, not_or] at hplain
    have hshape : ending ++ "=***".toList ++ s = ending ++ '=' :: ("***".toList ++ s) := by simp
    rw [hshape] at h
    obtain ⟨-, hsep, hrest⟩ :=
      eq_of_separators ⟨hplain.1.2, hplain.2.2⟩ m.name_plain (.inl rfl) m.isSeparator h
    obtain ⟨hblanks, hvalue⟩ := eq_of_solid m.areBlank hv hr isValue_stars hs hrest.symm
    exact ⟨hsep.symm, hblanks, hvalue⟩

/-- The first replacement masks every value. -/
theorem masked_secrets (t : List Char) : Masked (replaceAll secretAt t) := by
  induction t using scan_induction advances_secretAt with
  | nil =>
    intro before m v r heq
    simp [replaceAll_nil, Mention.text] at heq
  | keep c t hc ih =>
    rw [replaceAll_cons_of_none hc]
    intro before m v r heq hv hr
    cases before with
    | cons d before => exact ih before m v r (List.cons.inj heq).2 hv hr
    | nil =>
      exfalso
      have hfront : [c] ++ replaceAll secretAt t = m.text ++ (v ++ r) := by
        rw [← List.append_assoc]
        exact heq
      obtain ⟨tail, htail, hrest⟩ := name_in_source advances_secretAt unentered_secret
        (List.cons_ne_nil c []) hfront (List.length_pos_iff.2 m.name_ne_nil)
      -- The name was there before, and is no secret's: nothing but blanks follows it.
      rcases tail_cases m tail with hblank | ⟨n, w, s, -, -, heq', hw, hs⟩
      · have hkept := secrets_blanks_append hblank []
        rw [replaceAll_nil, List.append_nil] at hkept
        exact not_blank_of_value hv (hrest.trans hkept) hblank
      · have hfound := (secretAt_eq_some_iff _ _).2 ⟨n, w, s, htail.trans heq', hw, hs, rfl⟩
        exact absurd (hfound.symm.trans hc) (Option.some_ne_none _)
  | hit t f _ hf ih =>
    obtain ⟨n, w, s, rfl, hw, hs, rfl⟩ := (secretAt_eq_some_iff t f).1 hf
    have hdrop : (n.text ++ w ++ s).drop (n.finding w).length = s := List.drop_left
    rw [hdrop] at ih
    rw [secrets_mention hw hs]
    intro before m v r heq hv hr
    rcases begins_cases heq with ⟨d, -, hd⟩ | ⟨begun, hne, hput, hbegun⟩
    · exact ih d m v r hd hv hr
    · exact masked_put hv hr (ends_secrets hs) hne hput hbegun.symm

/-! ## The second replacement -/

/-- No name is spelled with the letters of a scheme. -/
theorem exists_mem_name (m : Mention) (k : Credentials) :
    ∃ c ∈ m.name, c ∉ k.scheme ++ "***@".toList := by
  have hletters : ∀ w ∈ secretWords, ∃ p ∈ w, (∀ s ∈ schemes, p ∉ s) ∧
      p ∉ "***@".toList.map letter := by decide
  obtain ⟨p, hp, hschemes, hstars⟩ := hletters _ m.isName
  obtain ⟨c, hc, rfl⟩ := List.mem_map.1 hp
  refine ⟨c, hc, fun hm => ?_⟩
  rcases List.mem_append.1 hm with hm | hm
  · exact hschemes _ k.isScheme (List.mem_map_of_mem hm)
  · exact hstars (List.mem_map_of_mem hm)

/-- What is put in the place of credentials ends with an at sign. -/
theorem getLast?_of_put {k : Credentials} {before begun : List Char} (hne : begun ≠ [])
    (hput : k.scheme ++ "***@".toList = before ++ begun) : begun.getLast? = some '@' := by
  rw [← List.getLast?_append_of_ne_nil before hne, ← hput,
    List.getLast?_append_of_ne_nil _ (by decide)]
  rfl

/-- No name begins in what is put in the place of credentials. -/
theorem not_name_in_put {m : Mention} {k : Credentials} {before begun s r : List Char}
    (hne : begun ≠ []) (hput : k.scheme ++ "***@".toList = before ++ begun)
    (h : begun ++ s = m.text ++ r) : False := by
  rw [m.text_append] at h
  have hlast : begun.getLast? = some '@' := getLast?_of_put hne hput
  rcases List.prefix_or_prefix_of_prefix (List.prefix_append begun s)
    (h ▸ List.prefix_append m.name _) with hpre | hpre
  · exact m.notMem_name (by decide) (hpre.subset (List.mem_of_getLast? hlast))
  · obtain ⟨c, hc, hnone⟩ := exists_mem_name m k
    rw [hput] at hnone
    exact hnone (List.mem_append_right before (hpre.subset hc))

/-- The second replacement keeps the masks. -/
theorem masked_credentials {t : List Char} (h : Masked t) :
    Masked (replaceAll credentialsAt t) := by
  induction t using scan_induction advances_credentialsAt with
  | nil => exact h
  | keep c t hc ih =>
    have ih := ih (h.of_suffix (List.suffix_cons c t))
    rw [replaceAll_cons_of_none hc]
    intro before m v r heq hv hr
    cases before with
    | cons d before => exact ih before m v r (List.cons.inj heq).2 hv hr
    | nil =>
      have hfront : [c] ++ replaceAll credentialsAt t = m.text ++ (v ++ r) := by
        rw [← List.append_assoc]
        exact heq
      obtain ⟨tail, htail, hrest⟩ := name_in_source advances_credentialsAt unentered_credentials
        (List.cons_ne_nil c []) hfront (List.length_pos_iff.2 m.name_ne_nil)
      rcases tail_cases m tail with hblank | ⟨n, w, s, hsep, rfl, heq', hw, hs⟩
      · have hat : '@' ∉ tail := fun hm => absurd (hblank _ hm) (by decide)
        rw [credentials_of_notMem_at hat] at hrest
        exact absurd hblank (not_blank_of_value hv hrest)
      · obtain ⟨hequals, hnone, rfl⟩ := h [] n w s (htail.trans heq') hw hs
        have hstars : replaceAll credentialsAt "***".toList = "***".toList :=
          credentials_of_notMem_at (by decide)
        rw [hnone, List.nil_append, credentials_append (fence_of_ends hs _), hstars] at hrest
        obtain ⟨hblanks, hvalue⟩ :=
          eq_of_solid m.areBlank hv hr isValue_stars (ends_credentials hs) hrest
        exact ⟨hsep.symm.trans hequals, hblanks, hvalue⟩
  | hit t f _ hf ih =>
    obtain ⟨k, s, rfl, rfl⟩ := (credentialsAt_eq_some_iff t f).1 hf
    have hdrop : (k.text ++ s).drop k.finding.length = s := List.drop_left
    rw [hdrop] at ih
    have ih := ih (h.of_suffix (List.suffix_append k.text s))
    rw [credentials_text_append]
    intro before m v r heq hv hr
    rcases begins_cases heq with ⟨d, -, hd⟩ | ⟨begun, hne, hput, hbegun⟩
    · exact ih d m v r hd hv hr
    · rw [List.append_assoc] at hbegun
      exact (not_name_in_put hne hput hbegun.symm).elim

/-- What stands before a text that was searched begins no credentials but those it began before. -/
theorem credentialsAt_append_credentials (t : List Char) {x : List Char} (hx : x ≠ []) :
    credentialsAt (x ++ replaceAll credentialsAt t) = credentialsAt (x ++ t) := by
  induction t using scan_induction advances_credentialsAt generalizing x with
  | nil => rfl
  | keep d t hd ih =>
    have hnext := ih (List.append_ne_nil_of_right_ne_nil x (List.cons_ne_nil d []))
    rw [List.append_assoc, List.append_assoc] at hnext
    rw [replaceAll_cons_of_none hd]
    exact hnext
  | hit t f _ hf _ =>
    obtain ⟨k, s, rfl, rfl⟩ := (credentialsAt_eq_some_iff t f).1 hf
    have hafter := fence_of_scheme k.isScheme x
      ("***@".toList ++ replaceAll credentialsAt s) x hx List.suffix_rfl
    have hbefore := fence_of_scheme k.isScheme x
      (k.user ++ ':' :: (k.password ++ '@' :: s)) x hx List.suffix_rfl
    have hshape : k.text ++ s = k.scheme ++ (k.user ++ ':' :: (k.password ++ '@' :: s)) := by
      simp [Credentials.text, Credentials.front]
    rw [credentials_text_append, List.append_assoc, hafter, hshape, hbefore]

/-- No credentials begin in what is put in the place of others. -/
theorem not_credentials_in_put {k n : Credentials} {before begun s r : List Char}
    (hne : begun ≠ []) (hput : n.scheme ++ "***@".toList = before ++ begun)
    (h : begun ++ s = k.text ++ r) : False := by
  have hlast : begun.getLast? = some '@' := getLast?_of_put hne hput
  have hscheme : k.scheme.count ':' = 1 := count_of_spells k.isScheme (by decide) (by decide)
  have hscheme' : n.scheme.count ':' = 1 := count_of_spells n.isScheme (by decide) (by decide)
  have hcolons := congrArg (List.count ':') hput
  rw [List.count_append, List.count_append, hscheme'] at hcolons
  have hstars : "***@".toList.count ':' = 0 := by decide
  rcases List.prefix_or_prefix_of_prefix (List.prefix_append begun s)
    (h ▸ List.prefix_append k.text r) with ⟨d, hd⟩ | ⟨d, rfl⟩
  · cases d with
    | nil =>
      -- An address has a colon more than a scheme.
      have hcount := congrArg (List.count ':') hd
      simp [Credentials.text, Credentials.front, List.count_append, hscheme] at hcount
      omega
    | cons c d =>
      -- The at sign of an address is its last character.
      have hfront : begun <+: k.front ++ k.password := by
        have hall : begun <+: k.front ++ k.password ++ ['@'] :=
          ⟨c :: d, by rw [hd, Credentials.text, List.append_assoc]⟩
        refine List.prefix_of_prefix_length_le hall (List.prefix_append ..) ?_
        have hlength := congrArg List.length hd
        simp only [Credentials.text, List.length_append, List.length_cons, List.length_nil]
          at hlength ⊢
        omega
      rcases List.mem_append.1 (hfront.subset (List.mem_of_getLast? hlast)) with hm | hm
      · exact k.at_notMem_front hm
      · exact k.at_notMem_password hm
  · simp [Credentials.text, Credentials.front, List.count_append, hscheme] at hcolons
    omega

/-- The second replacement leaves no credentials. -/
theorem bare_credentials (t : List Char) : Bare (replaceAll credentialsAt t) := by
  have hnone : ∀ before (k : Credentials) r,
      replaceAll credentialsAt t ≠ before ++ (k.text ++ r) := by
    induction t using scan_induction advances_credentialsAt with
    | nil =>
      intro before k r heq
      simp [replaceAll_nil, Credentials.text] at heq
    | keep c t hc ih =>
      rw [replaceAll_cons_of_none hc]
      intro before k r heq
      cases before with
      | cons d before => exact ih before k r (List.cons.inj heq).2
      | nil =>
        have hsame := credentialsAt_append_credentials t (List.cons_ne_nil c [])
        have hfound := (credentialsAt_eq_some_iff _ _).2 ⟨k, r, heq, rfl⟩
        exact absurd ((hfound.symm.trans hsame).trans hc) (Option.some_ne_none _)
    | hit t f _ hf ih =>
      obtain ⟨n, s, rfl, rfl⟩ := (credentialsAt_eq_some_iff t f).1 hf
      have hdrop : (n.text ++ s).drop n.finding.length = s := List.drop_left
      rw [hdrop] at ih
      rw [credentials_text_append]
      intro before k r heq
      rcases begins_cases heq with ⟨d, -, hd⟩ | ⟨begun, hne, hput, hbegun⟩
      · exact ih d k r hd
      · exact not_credentials_in_put hne hput hbegun.symm
  rintro k ⟨before, r, heq⟩
  exact hnone before k r (by rw [← heq, List.append_assoc])

/-! ## The cut -/

/-- What may stand in the place of a value: three stars, or what a cut left of them before its
mark. -/
def IsMask (value : List Char) : Prop :=
  value = "***".toList ∨ ∃ n, value = "***".toList.take n ++ cutMark

theorem isValue_cutMark : IsValue cutMark := ⟨by decide, by decide⟩

/-- The separator of a mention is not in the mark of a cut. -/
theorem exists_of_cut {kept before after : List Char} {m : Mention}
    (h : kept ++ cutMark = before ++ (m.name ++ m.separator :: after)) :
    ∃ y, kept = before ++ (m.name ++ m.separator :: y) ∧ after = y ++ cutMark := by
  have hsplit : before ++ (m.name ++ [m.separator]) ++ after = kept ++ cutMark := by
    rw [h]
    simp
  rcases begins_cases hsplit with ⟨y, rfl, hafter⟩ | ⟨d, hne, hd, hmark⟩
  · exact ⟨y, by simp, hafter⟩
  · have hlast : d.getLast? = some m.separator := by
      rw [← List.getLast?_append_of_ne_nil kept hne, ← hd, ← List.append_assoc,
        List.getLast?_concat]
    have hmem : m.separator ∈ cutMark := by
      rw [hmark]
      exact List.mem_append_left after (List.mem_of_getLast? hlast)
    rcases m.isSeparator with he | he
    · exact absurd (he ▸ hmem) (by decide)
    · exact absurd (he ▸ hmem) (by decide)

/-- A cut leaves nothing of a value but what is left of its mask. -/
theorem isMask_of_cut {kept more : List Char} (h : Masked (kept ++ more)) {before v r : List Char}
    {m : Mention} (heq : kept ++ cutMark = before ++ (m.text ++ v ++ r)) (hv : IsValue v)
    (hr : Ends r) : IsMask v := by
  rw [List.append_assoc m.text, m.text_append] at heq
  obtain ⟨y, hkept, hafter⟩ := exists_of_cut heq
  have hnil : cutMark = cutMark ++ [] := (List.append_nil cutMark).symm
  rcases tail_cases m (y ++ more) with hblank | ⟨n, w, s, -, htail, hfront, hw, hs⟩
  · -- The value was cut off whole.
    rw [hnil] at hafter
    obtain ⟨-, hvalue, -⟩ := eq_of_value m.areBlank hv hr
      (fun c hc => hblank c (List.mem_append_left more hc)) isValue_cutMark ends_nil hafter
    exact .inr ⟨0, hvalue⟩
  · have hall : kept ++ more = before ++ (n.text ++ w ++ s) := by
      rw [hkept, ← hfront]
      simp
    obtain ⟨-, hnone, rfl⟩ := h before n w s hall hw hs
    rw [hnone, List.nil_append] at htail
    rcases List.append_eq_append_iff.1 htail with ⟨d, hd, -⟩ | ⟨ended, rfl, rfl⟩
    · -- The cut goes through the mask.
      have htake : y = "***".toList.take y.length := by rw [hd, List.take_left]
      have hsolid : ∀ c ∈ y, Text.isBlank c = false := fun c hc =>
        isValue_stars.solid c (hd ▸ List.mem_append_left d hc)
      have hvalue : IsValue (y ++ cutMark) :=
        ⟨List.append_ne_nil_of_right_ne_nil y isValue_cutMark.ne_nil,
          List.forall_mem_append.2 ⟨hsolid, isValue_cutMark.solid⟩⟩
      rw [← List.append_nil (y ++ cutMark)] at hafter
      obtain ⟨-, hsame⟩ := eq_of_solid m.areBlank hv hr hvalue ends_nil hafter
      exact .inr ⟨y.length, by rw [← htake, hsame]⟩
    · by_cases hne : ended = []
      · rw [hne, List.append_nil, ← List.append_nil ("***".toList ++ cutMark)] at hafter
        obtain ⟨-, hsame⟩ := eq_of_solid m.areBlank hv hr ⟨by decide, by decide⟩ ends_nil hafter
        exact .inr ⟨3, hsame⟩
      · -- The cut comes after the mask.
        rw [List.append_assoc] at hafter
        have hends : Ends (ended ++ cutMark) := by
          rw [Ends, List.head?_append_of_ne_nil ended hne] at hs ⊢
          exact hs
        exact .inl (eq_of_solid m.areBlank hv hr isValue_stars hends hafter).2

/-- A cut leaves no credentials where there were none. -/
theorem bare_of_cut {kept more : List Char} (h : Bare (kept ++ more)) : Bare (kept ++ cutMark) := by
  rintro k ⟨before, r, heq⟩
  rcases begins_cases heq with ⟨d, hd, -⟩ | ⟨d, hne, hd, hmark⟩
  · exact h k ⟨before, d ++ more, by rw [hd]; simp⟩
  · -- The mark of a cut has no at sign.
    have hlast : d.getLast? = some '@' := by
      have htext : k.text ≠ [] := by simp [Credentials.text]
      rw [← List.getLast?_append_of_ne_nil kept hne, ← hd,
        List.getLast?_append_of_ne_nil before htext, k.getLast?_text]
    have hmem : '@' ∈ cutMark := by
      rw [hmark]
      exact List.mem_append_left r (List.mem_of_getLast? hlast)
    exact absurd hmem (by decide)

/-! ## Messages -/

/-- The number of bytes of a text. -/
theorem byteLength_eq_utf8ByteSize (cs : List Char) :
    Text.byteLength cs = (String.ofList cs).utf8ByteSize := by
  induction cs with
  | nil => rfl
  | cons c cs ih =>
    rw [Text.byteLength, ih, String.ofList_cons, String.utf8ByteSize_append,
      String.utf8ByteSize_singleton]

/-- No longer beginning of a text fits than the one that is taken. -/
theorem prefix_takeBytes {limit : Nat} {p cs : List Char} (h : p <+: cs)
    (hp : Text.byteLength p ≤ limit) : p <+: Text.takeBytes limit cs := by
  induction p generalizing limit cs with
  | nil => exact List.nil_prefix
  | cons c p ih =>
    obtain ⟨after, rfl⟩ := h
    rw [Text.byteLength] at hp
    have hfits : c.utf8Size ≤ limit := by omega
    rw [List.cons_append, Text.takeBytes, if_pos hfits, List.cons_prefix_cons]
    exact ⟨rfl, ih (List.prefix_append p after) (by omega)⟩

/-- Every message that leaves the process. It has at most 500 bytes, no credentials, and after a
name no value but the mask or what a cut left of it. The redacted message is cut only if it is
longer, and then to its longest beginning of at most 486 bytes before the mark of the cut. -/
theorem sanitize_masks (message : String) :
    (sanitize message).utf8ByteSize ≤ 500 ∧
    Bare (sanitize message).toList ∧
    (∀ before (m : Mention) value rest,
      (sanitize message).toList = before ++ (m.text ++ value ++ rest) → IsValue value →
        Ends rest → IsMask value) ∧
    (Text.byteLength (redacted message.toList) ≤ 500 →
      (sanitize message).toList = redacted message.toList) ∧
    (500 < Text.byteLength (redacted message.toList) →
      ∃ kept, (sanitize message).toList = kept ++ cutMark ∧ kept <+: redacted message.toList ∧
        Text.byteLength kept ≤ 486 ∧
        ∀ other, other <+: redacted message.toList → Text.byteLength other ≤ 486 →
          other <+: kept) := by
  have hmasked : Masked (redacted message.toList) := masked_credentials (masked_secrets _)
  have hbare : Bare (redacted message.toList) := bare_credentials _
  have htext : (sanitize message).toList = bounded (redacted message.toList) := by
    rw [sanitize, String.toList_ofList]
  have hbytes : (sanitize message).utf8ByteSize ≤ 500 := by
    rw [sanitize, ← byteLength_eq_utf8ByteSize]
    exact byteLength_bounded_le _
  have hlimit : maxBytes - Text.byteLength cutMark = 486 := by decide +kernel
  refine ⟨hbytes, ?_⟩
  rw [htext]
  by_cases hle : Text.byteLength (redacted message.toList) ≤ 500
  · rw [bounded_eq_self _ hle]
    refine ⟨hbare, ?_, fun _ => rfl, fun hlt => absurd hle (Nat.not_le.2 hlt)⟩
    intro before m value rest heq hvalue hrest
    exact .inl (hmasked before m value rest heq hvalue hrest).2.2
  · have hcut : bounded (redacted message.toList) =
        Text.takeBytes 486 (redacted message.toList) ++ cutMark := by
      have hlonger : ¬ Text.byteLength (redacted message.toList) ≤ maxBytes := hle
      rw [bounded, if_neg hlonger, hlimit]
    have hprefix := Text.takeBytes_isPrefix 486 (redacted message.toList)
    obtain ⟨more, hmore⟩ := hprefix
    rw [hcut]
    refine ⟨bare_of_cut (hmore.symm ▸ hbare), ?_, fun h => absurd h hle, fun _ => ?_⟩
    · intro before m value rest heq hvalue hrest
      exact isMask_of_cut (hmore.symm ▸ hmasked) heq hvalue hrest
    · exact ⟨_, rfl, ⟨more, hmore⟩, Text.byteLength_takeBytes_le 486 _,
        fun other hother hbytes => prefix_takeBytes hother hbytes⟩

/-- The name of a secret with an equals sign. -/
def secretMention : Mention := .assigned "secret".toList (by decide)

/-- A text with a secret, credentials and 250 letters of two bytes each. -/
def longText : List Char :=
  "secret=abc mqtt://u:p@h ".toList ++ List.replicate 250 'é'

/-- A short message is redacted and kept whole, and a long one is cut behind its masks. -/
theorem sanitize_masks_of_long :
    (sanitize "password=hunter2 for ssl://u:p@h").toList = "password=*** for ssl://***@h".toList ∧
      (∃ kept, (sanitize (String.ofList longText)).toList = kept ++ cutMark ∧
        kept <+: redacted longText ∧ Text.byteLength kept ≤ 486) ∧
      ∃ rest, (sanitize (String.ofList longText)).toList =
        [] ++ (secretMention.text ++ "***".toList ++ rest) ∧ IsMask "***".toList := by
  have htext : (sanitize (String.ofList longText)).toList = bounded (redacted longText) := by
    rw [sanitize, String.toList_ofList, String.toList_ofList]
  have hlength : Text.byteLength (redacted longText) = 524 := by decide +kernel
  have hfront : (bounded (redacted longText)).take 10 = secretMention.text ++ "***".toList := by
    decide +kernel
  have hblank : ((bounded (redacted longText)).drop 10).head? = some ' ' := by decide +kernel
  have hshort : redacted "password=hunter2 for ssl://u:p@h".toList =
      "password=*** for ssl://***@h".toList := by decide +kernel
  have hsplit : (sanitize (String.ofList longText)).toList =
      [] ++ (secretMention.text ++ "***".toList ++ (bounded (redacted longText)).drop 10) := by
    rw [htext, ← hfront, List.nil_append, List.take_append_drop]
  have hends : Ends ((bounded (redacted longText)).drop 10) := by
    rw [Ends, hblank]
    rintro c ⟨⟩
    decide
  obtain ⟨-, -, hmask, -, hcut⟩ := sanitize_masks (String.ofList longText)
  rw [String.toList_ofList] at hcut
  obtain ⟨kept, hkept, hprefix, hbytes, -⟩ := hcut (by rw [hlength]; decide)
  obtain ⟨-, -, -, hwhole, -⟩ := sanitize_masks "password=hunter2 for ssl://u:p@h"
  have hfits : Text.byteLength (redacted "password=hunter2 for ssl://u:p@h".toList) ≤ 500 := by
    rw [hshort]
    decide +kernel
  exact ⟨(hwhole hfits).trans hshort, ⟨kept, hkept, hprefix, hbytes⟩, _, hsplit,
    hmask [] secretMention _ _ hsplit isValue_stars hends⟩

end MqttRelay.Redaction
