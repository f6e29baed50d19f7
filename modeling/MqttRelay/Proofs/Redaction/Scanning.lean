import MqttRelay.Proofs.Redaction.Findings

/-!
# From left to right

A search goes through a text from left to right and leaves each finding behind. What it does in
the first part of a text depends on the second part only as far as a finding reaches over the
border. Credentials end at their at sign, so that no border between words is crossed. A value has
no end but a blank: one that begins in the first part runs on into the second.

* `passed` — what is put out for a text that goes on with something not blank.
* `runsOn` — whether a value that begins in such a text has not ended in it.

Results:
* `scan_induction`: induction along a search.
* `replaceAll_append_of_fence`: a border that no finding crosses parts the search in two.
* `secrets_append`: the search for secrets, parted where a value may run on.
-/

namespace MqttRelay.Redaction

variable {find : List Char → Option Finding}

/-! ## One finding after another -/

/-- Whatever is found covers at least one character. -/
def Advances (find : List Char → Option Finding) : Prop :=
  ∀ cs f, find cs = some f → 0 < f.length

theorem advances_secretAt : Advances secretAt := by
  intro cs f h
  obtain ⟨m, value, rest, -, -, -, rfl⟩ := (secretAt_eq_some_iff cs f).1 h
  simp only [Mention.finding, Mention.text, List.length_append, List.length_cons]
  omega

theorem advances_credentialsAt : Advances credentialsAt := by
  intro cs f h
  obtain ⟨k, rest, -, rfl⟩ := (credentialsAt_eq_some_iff cs f).1 h
  simp only [Credentials.finding, Credentials.text, List.length_append, List.length_cons]
  omega

theorem replaceFrom_eq_replaceAll_drop (find : List Char → Option Finding) (skip : Nat)
    (cs : List Char) : replaceFrom find skip cs = replaceAll find (cs.drop skip) := by
  induction cs generalizing skip with
  | nil => cases skip <;> rfl
  | cons c cs ih =>
    cases skip with
    | zero => rfl
    | succ skip => exact ih skip

theorem replaceAll_nil (find : List Char → Option Finding) : replaceAll find [] = [] := rfl

/-- Where nothing is found a character is kept. -/
theorem replaceAll_cons_of_none {c : Char} {cs : List Char} (h : find (c :: cs) = none) :
    replaceAll find (c :: cs) = c :: replaceAll find cs := by
  rw [replaceAll, replaceFrom, h]
  rfl

/-- A finding is replaced, and the search goes on after it. -/
theorem replaceAll_of_some (hfind : Advances find) {cs : List Char} {f : Finding} (hcs : cs ≠ [])
    (h : find cs = some f) :
    replaceAll find cs = cs.take f.kept ++ f.added ++ replaceAll find (cs.drop f.length) := by
  obtain ⟨n, hn⟩ := Nat.exists_eq_succ_of_ne_zero (hfind cs f h).ne'
  cases cs with
  | nil => exact absurd rfl hcs
  | cons c cs =>
    have hskip : f.length - 1 = n := by omega
    rw [replaceAll, replaceFrom, h, hn, List.drop_succ_cons, ← hskip,
      ← replaceFrom_eq_replaceAll_drop]

/-- Induction along a search: character by character where nothing is found, and from a finding to
what comes after it. -/
theorem scan_induction (hfind : Advances find) {motive : List Char → Prop} (nil : motive [])
    (keep : ∀ c cs, find (c :: cs) = none → motive cs → motive (c :: cs))
    (hit : ∀ cs f, cs ≠ [] → find cs = some f → motive (cs.drop f.length) → motive cs)
    (cs : List Char) : motive cs := by
  induction hn : cs.length using Nat.strong_induction_on generalizing cs with
  | _ n ih =>
    cases cs with
    | nil => exact nil
    | cons c cs =>
      rw [List.length_cons] at hn
      cases h : find (c :: cs) with
      | none => exact keep c cs h (ih cs.length (by omega) cs rfl)
      | some f =>
        have hpos := hfind _ f h
        refine hit (c :: cs) f (List.cons_ne_nil c cs) h (ih _ ?_ _ rfl)
        rw [List.length_drop, List.length_cons]
        omega

/-- Where nothing is found all is kept. -/
theorem replaceAll_append_of_none {p b : List Char}
    (h : ∀ x, x ≠ [] → x <:+ p → find (x ++ b) = none) :
    replaceAll find (p ++ b) = p ++ replaceAll find b := by
  induction p with
  | nil => rfl
  | cons c p ih =>
    have hc : find (c :: (p ++ b)) = none := h (c :: p) (List.cons_ne_nil c p) List.suffix_rfl
    rw [List.cons_append, replaceAll_cons_of_none hc,
      ih fun x hx hs => h x hx (hs.trans (List.suffix_cons c p)), List.cons_append]

/-- Nothing is put out but what was there or is put in the place of a finding. -/
theorem mem_replaceAll (hfind : Advances find) {added : List Char}
    (hadded : ∀ cs f, find cs = some f → f.added = added) {c : Char} {cs : List Char}
    (h : c ∈ replaceAll find cs) : c ∈ cs ∨ c ∈ added := by
  induction cs using scan_induction hfind with
  | nil => exact .inl h
  | keep d cs hd ih =>
    rw [replaceAll_cons_of_none hd, List.mem_cons] at h
    rcases h with rfl | h
    · exact .inl List.mem_cons_self
    · exact (ih h).imp_left (List.mem_cons_of_mem d)
  | hit cs f hcs hf ih =>
    rw [replaceAll_of_some hfind hcs hf, List.mem_append, List.mem_append, hadded cs f hf] at h
    rcases h with (h | h) | h
    · exact .inl (List.mem_of_mem_take h)
    · exact .inr h
    · exact (ih h).imp_left List.mem_of_mem_drop

/-! ## Borders -/

/-- No finding that begins in the first text reaches into the second, or is kept from it. -/
def Fence (find : List Char → Option Finding) (p b : List Char) : Prop :=
  ∀ x, x ≠ [] → x <:+ p → find (x ++ b) = find x

/-- A border that no finding crosses parts the search in two. -/
theorem replaceAll_append_of_fence (hfind : Advances find)
    (hle : ∀ cs f, find cs = some f → f.kept ≤ cs.length ∧ f.length ≤ cs.length) {p b : List Char}
    (h : Fence find p b) : replaceAll find (p ++ b) = replaceAll find p ++ replaceAll find b := by
  induction p using scan_induction hfind with
  | nil => rfl
  | keep c p hc ih =>
    have hcb : find (c :: (p ++ b)) = none :=
      (h (c :: p) (List.cons_ne_nil c p) List.suffix_rfl).trans hc
    rw [List.cons_append, replaceAll_cons_of_none hcb, replaceAll_cons_of_none hc,
      ih fun x hx hs => h x hx (hs.trans (List.suffix_cons c p)), List.cons_append]
  | hit p f hp hf ih =>
    have hfb : find (p ++ b) = some f := (h p hp List.suffix_rfl).trans hf
    obtain ⟨hkept, hlength⟩ := hle p f hf
    rw [replaceAll_of_some hfind (List.append_ne_nil_of_left_ne_nil hp b) hfb,
      replaceAll_of_some hfind hp hf, List.take_append_of_le_length hkept,
      List.drop_append_of_le_length hlength,
      ih fun x hx hs => h x hx (hs.trans (List.drop_suffix f.length p))]
    simp only [List.append_assoc]

/-! ## Values that run on -/

/-- What is found at the front of a text that goes on with a character that is not blank. -/
def secretBefore (cs : List Char) : Option Finding := secretAt (cs ++ ['*'])

/-- What is put out for a text that goes on with a character that is not blank. -/
def passed (cs : List Char) : List Char := replaceAll secretBefore cs

/-- Whether the last finding covers more than there is; `skip` characters are already covered. -/
def overruns (find : List Char → Option Finding) : (skip : Nat) → List Char → Bool
  | skip, [] => skip != 0
  | skip + 1, _ :: cs => overruns find skip cs
  | 0, c :: cs =>
    match find (c :: cs) with
    | some f => overruns find (f.length - 1) cs
    | none => overruns find 0 cs

/-- Whether a value begins in a text and does not end in it, if the text goes on with a character
that is not blank. -/
def runsOn (cs : List Char) : Bool := overruns secretBefore 0 cs

theorem advances_secretBefore : Advances secretBefore := fun cs f h =>
  advances_secretAt (cs ++ ['*']) f h

theorem overruns_of_le (find : List Char → Option Finding) {skip : Nat} {cs : List Char}
    (h : skip ≤ cs.length) : overruns find skip cs = overruns find 0 (cs.drop skip) := by
  induction cs generalizing skip with
  | nil =>
    obtain rfl : skip = 0 := Nat.le_zero.1 h
    rfl
  | cons c cs ih =>
    cases skip with
    | zero => rfl
    | succ skip => exact ih (Nat.le_of_succ_le_succ h)

theorem overruns_of_lt (find : List Char → Option Finding) {skip : Nat} {cs : List Char}
    (h : cs.length < skip) : overruns find skip cs = true := by
  induction cs generalizing skip with
  | nil => simpa [overruns] using Nat.pos_iff_ne_zero.1 h
  | cons c cs ih =>
    cases skip with
    | zero => cases h
    | succ skip => exact ih (Nat.lt_of_succ_lt_succ h)

theorem runsOn_cons_of_none {c : Char} {cs : List Char} (h : secretBefore (c :: cs) = none) :
    runsOn (c :: cs) = runsOn cs := by
  rw [runsOn, overruns, h]
  rfl

/-- A finding that ends in a text is left behind, and any other runs on. -/
theorem runsOn_of_some {cs : List Char} {f : Finding} (hcs : cs ≠ [])
    (h : secretBefore cs = some f) :
    runsOn cs = if f.length ≤ cs.length then runsOn (cs.drop f.length) else true := by
  obtain ⟨n, hn⟩ := Nat.exists_eq_succ_of_ne_zero (advances_secretBefore cs f h).ne'
  cases cs with
  | nil => exact absurd rfl hcs
  | cons c cs =>
    have hskip : f.length - 1 = n := by omega
    rw [runsOn, overruns, h, hn, List.drop_succ_cons, List.length_cons]
    dsimp only
    rw [hskip]
    split
    · next hle => exact overruns_of_le secretBefore (Nat.le_of_succ_le_succ hle)
    · next hlt => exact overruns_of_lt secretBefore (by omega)

/-- No name that begins in the first text has its separator in the second. -/
def Unentered (p b : List Char) : Prop :=
  ∀ x, x ≠ [] → x <:+ p → ∀ (m : Mention) rest, x ++ b = m.text ++ rest →
    m.name.length < x.length

/-- A value that ends before what follows is found whatever follows. -/
theorem secretAt_of_ended {m : Mention} {value rest : List Char} (hvalue : IsValue value)
    (hne : rest ≠ []) (hrest : Ends rest) (b : List Char) :
    secretAt (m.text ++ value ++ rest ++ b) = some (m.finding value) := by
  refine (secretAt_eq_some_iff _ _).2
    ⟨m, value, rest ++ b, List.append_assoc .., hvalue, ?_, rfl⟩
  rw [Ends, List.head?_append_of_ne_nil rest hne]
  exact hrest

/-- A value that has begun goes on with what follows, up to a blank. -/
theorem secretAt_of_running {m : Mention} {run value rest : List Char}
    (hrun : ∀ c ∈ run, Text.isBlank c = false) (hvalue : IsValue value) (hrest : Ends rest) :
    secretAt (m.text ++ run ++ (value ++ rest)) = some (m.finding (run ++ value)) := by
  refine (secretAt_eq_some_iff _ _).2 ⟨m, run ++ value, rest, ?_, ⟨?_, ?_⟩, hrest, rfl⟩
  · simp only [List.append_assoc]
  · exact List.append_ne_nil_of_right_ne_nil run hvalue.ne_nil
  · exact List.forall_mem_append.2 ⟨hrun, hvalue.solid⟩

/-- A secret that is found at the front of a text before something not blank either ends in the
text or has begun in it. -/
theorem ended_or_running {x value rest : List Char} {f : Finding} (hvalue : IsValue value)
    (hopen : ∀ (m : Mention) r, x ++ (value ++ rest) = m.text ++ r → m.name.length < x.length)
    (h : secretAt (x ++ (value ++ rest)) = some f) :
    (∃ (m : Mention) (v r : List Char), x = m.text ++ v ++ r ∧ IsValue v ∧ r ≠ [] ∧ Ends r) ∨
      ∃ (m : Mention) (run : List Char), x = m.text ++ run ∧
        ∀ c ∈ run, Text.isBlank c = false := by
  obtain ⟨m, v, r, heq, hv, hr, -⟩ := (secretAt_eq_some_iff _ _).1 h
  have hlt := hopen m (v ++ r) (heq.trans (List.append_assoc ..))
  have htext : m.text = m.name ++ [m.separator] ++ m.blanks := by simp [Mention.text]
  -- The separator stands in `x`.
  have hall : m.name ++ [m.separator] <+: x ++ (value ++ rest) := by
    rw [heq, htext]
    simp
  have hpre : m.name ++ [m.separator] <+: x :=
    List.prefix_of_prefix_length_le hall (List.prefix_append ..)
      (by simpa using Nat.succ_le_of_lt hlt)
  obtain ⟨after, rfl⟩ := hpre
  have hafter : after ++ (value ++ rest) = m.blanks ++ (v ++ r) := by
    rw [htext] at heq
    simpa using heq
  rcases List.append_eq_append_iff.1 hafter with ⟨d, hblanks, hd⟩ | ⟨begun, rfl, hbegun⟩
  · -- No blank comes from what follows.
    cases d with
    | nil =>
      refine .inr ⟨m, [], ?_, List.forall_mem_nil _⟩
      rw [htext, hblanks, List.append_nil, List.append_nil]
    | cons c d =>
      have hblank := m.areBlank c (by simp [hblanks])
      obtain ⟨c', value', rfl⟩ := List.exists_cons_of_ne_nil hvalue.ne_nil
      obtain ⟨rfl, -⟩ := List.cons.inj hd
      exact absurd (hvalue.solid c' List.mem_cons_self) (by simp [hblank])
  · rcases List.append_eq_append_iff.1 hbegun with ⟨d, rfl, hd⟩ | ⟨d, rfl, -⟩
    · cases d with
      | nil => exact .inr ⟨m, v, by simp [htext], hv.solid⟩
      | cons c d =>
        refine .inl ⟨m, v, c :: d, by simp [htext], hv, List.cons_ne_nil c d, ?_⟩
        rw [hd] at hr
        exact hr
    · exact .inr ⟨m, begun, by simp [htext], (List.forall_mem_append.1 hv.solid).1⟩

/-- A text that ends before the separator of a mention is the beginning of its name. -/
theorem Mention.exists_ending {x b rest : List Char} {m : Mention} (h : x ++ b = m.text ++ rest)
    (hle : ¬ m.name.length < x.length) :
    ∃ ending, x ++ ending = m.name ∧ b = ending ++ m.separator :: (m.blanks ++ rest) := by
  rw [m.text_append] at h
  obtain ⟨ending, hending⟩ := List.prefix_of_prefix_length_le (h ▸ List.prefix_append x b)
    (List.prefix_append ..) (Nat.le_of_not_lt hle)
  rw [← hending, List.append_assoc, List.append_cancel_left_eq] at h
  exact ⟨ending, hending, h⟩

/-- A character that is no separator and in no name parts what is before it from a mention. -/
theorem opens_of_foreign {c : Char} (hsep : c ≠ '=' ∧ c ≠ ':')
    (hword : ∀ w ∈ secretWords, letter c ∉ w) {x b r : List Char} {m : Mention}
    (h : x ++ c :: b = m.text ++ r) : m.name.length < x.length := by
  by_contra hle
  obtain ⟨ending, hname, heq⟩ := Mention.exists_ending h hle
  cases ending with
  | nil =>
    obtain ⟨rfl, -⟩ := List.cons.inj heq
    exact m.isSeparator.elim hsep.1 hsep.2
  | cons d ending =>
    obtain ⟨rfl, -⟩ := List.cons.inj heq
    refine hword _ m.isName (List.mem_map_of_mem ?_)
    exact hname ▸ List.mem_append_right x List.mem_cons_self

theorem isValue_singleton {c : Char} (h : Text.isBlank c = false) : IsValue [c] :=
  ⟨List.cons_ne_nil c [], by simpa using h⟩

/-- A secret that is found before something not blank either ends before it or has begun. -/
theorem ended_or_running_of_secretBefore {x : List Char} {f : Finding}
    (h : secretBefore x = some f) :
    (∃ (m : Mention) (v r : List Char), x = m.text ++ v ++ r ∧ IsValue v ∧ r ≠ [] ∧ Ends r) ∨
      ∃ (m : Mention) (run : List Char), x = m.text ++ run ∧
        ∀ c ∈ run, Text.isBlank c = false := by
  have hstar : secretAt (x ++ (['*'] ++ [])) = some f := h
  refine ended_or_running (isValue_singleton (by decide)) (fun m r heq => ?_) hstar
  exact opens_of_foreign (by decide) (by decide) heq

/-- A value that has begun is found before something not blank. -/
theorem secretBefore_of_running {m : Mention} {run : List Char}
    (hrun : ∀ c ∈ run, Text.isBlank c = false) :
    secretBefore (m.text ++ run) = some (m.finding (run ++ ['*'])) := by
  have hstar : secretAt (m.text ++ run ++ (['*'] ++ [])) = some (m.finding (run ++ ['*'])) :=
    secretAt_of_running hrun (isValue_singleton (by decide)) nofun
  exact hstar

theorem Mention.take_kept (m : Mention) (value after : List Char) :
    (m.text ++ after).take (m.finding value).kept = m.name := by
  simp [finding, text]

/-- A secret is replaced, and the search goes on after its value. -/
theorem secrets_mention {m : Mention} {value rest : List Char} (hvalue : IsValue value)
    (hrest : Ends rest) :
    replaceAll secretAt (m.text ++ value ++ rest) =
      m.name ++ "=***".toList ++ replaceAll secretAt rest := by
  have hfound : secretAt (m.text ++ value ++ rest) = some (m.finding value) :=
    (secretAt_eq_some_iff _ _).2 ⟨m, value, rest, rfl, hvalue, hrest, rfl⟩
  have hne : m.text ++ value ++ rest ≠ [] := by simp [Mention.text]
  have hdrop : (m.text ++ value ++ rest).drop (m.finding value).length = rest := List.drop_left
  rw [replaceAll_of_some advances_secretAt hne hfound, hdrop,
    List.append_assoc m.text, m.take_kept]
  rfl

/-- A value that ends in a text is passed, and the search goes on after it. -/
theorem passed_of_ended {m : Mention} {value rest : List Char} (hvalue : IsValue value)
    (hne : rest ≠ []) (hrest : Ends rest) :
    passed (m.text ++ value ++ rest) = m.name ++ "=***".toList ++ passed rest ∧
      runsOn (m.text ++ value ++ rest) = runsOn rest := by
  have hfound : secretBefore (m.text ++ value ++ rest) = some (m.finding value) :=
    secretAt_of_ended hvalue hne hrest ['*']
  have hcs : m.text ++ value ++ rest ≠ [] := by simp [Mention.text]
  have hdrop : (m.text ++ value ++ rest).drop (m.finding value).length = rest := List.drop_left
  constructor
  · rw [passed, replaceAll_of_some advances_secretBefore hcs hfound, hdrop,
      List.append_assoc m.text, m.take_kept]
    rfl
  · have hle : (m.finding value).length ≤ (m.text ++ value ++ rest).length := by
      simp [Mention.finding]
    rw [runsOn_of_some hcs hfound, if_pos hle, hdrop]

/-- A value that has begun in a text runs on. -/
theorem passed_of_running {m : Mention} {run : List Char}
    (hrun : ∀ c ∈ run, Text.isBlank c = false) :
    passed (m.text ++ run) = m.name ++ "=***".toList ∧ runsOn (m.text ++ run) = true := by
  have hfound := secretBefore_of_running (m := m) hrun
  have hcs : m.text ++ run ≠ [] := by simp [Mention.text]
  have hlt : ¬ (m.finding (run ++ ['*'])).length ≤ (m.text ++ run).length := by
    simp [Mention.finding]
  constructor
  · rw [passed, replaceAll_of_some advances_secretBefore hcs hfound, m.take_kept,
      List.drop_eq_nil_of_le (Nat.le_of_not_le hlt), replaceAll_nil, List.append_nil]
    rfl
  · rw [runsOn_of_some hcs hfound, if_neg hlt]

/-- What follows a text changes nothing of what is put out for it, and is itself searched from its
beginning or, if a value runs on, from the end of that. -/
theorem secrets_append {p value rest : List Char} (hvalue : IsValue value) (hrest : Ends rest)
    (hopen : Unentered p (value ++ rest)) :
    replaceAll secretAt (p ++ (value ++ rest)) =
      passed p ++ replaceAll secretAt (if runsOn p then rest else value ++ rest) := by
  induction p using scan_induction advances_secretBefore with
  | nil => rfl
  | keep c p hc ih =>
    have hnone : secretAt (c :: (p ++ (value ++ rest))) = none := by
      refine Option.eq_none_iff_forall_ne_some.2 fun f hf => ?_
      rcases ended_or_running hvalue (hopen (c :: p) (List.cons_ne_nil c p) List.suffix_rfl) hf with
        ⟨m, v, r, heq, hv, hne, hr⟩ | ⟨m, run, heq, hrun⟩
      · rw [heq] at hc
        exact absurd ((secretAt_of_ended hv hne hr ['*']).symm.trans hc) nofun
      · rw [heq] at hc
        exact absurd ((secretBefore_of_running hrun).symm.trans hc) nofun
    have hpassed : passed (c :: p) = c :: passed p := replaceAll_cons_of_none hc
    rw [List.cons_append, replaceAll_cons_of_none hnone, runsOn_cons_of_none hc, hpassed,
      ih fun x hx hs => hopen x hx (hs.trans (List.suffix_cons c p)), List.cons_append]
  | hit p f hp hf ih =>
    rcases ended_or_running_of_secretBefore hf with
      ⟨m, v, r, rfl, hv, hne, hr⟩ | ⟨m, run, rfl, hrun⟩
    · obtain ⟨hpassed, hruns⟩ := passed_of_ended (m := m) hv hne hr
      have hfound : f = m.finding v :=
        Option.some.inj (hf.symm.trans (secretAt_of_ended hv hne hr ['*']))
      have hdrop : (m.text ++ v ++ r).drop f.length = r := by
        rw [hfound]
        exact List.drop_left
      have hends : Ends (r ++ (value ++ rest)) := by
        rw [Ends, List.head?_append_of_ne_nil r hne]
        exact hr
      rw [hdrop] at ih
      rw [hpassed, hruns, List.append_assoc (m.text ++ v), secrets_mention hv hends,
        ih fun x hx hs => hopen x hx (hs.trans (List.suffix_append ..))]
      simp only [List.append_assoc]
    · obtain ⟨hpassed, hruns⟩ := passed_of_running (m := m) hrun
      have hshape : m.text ++ run ++ (value ++ rest) = m.text ++ (run ++ value) ++ rest := by
        simp only [List.append_assoc]
      rw [hpassed, hruns, if_pos rfl, hshape]
      exact secrets_mention ⟨List.append_ne_nil_of_right_ne_nil run hvalue.ne_nil,
        List.forall_mem_append.2 ⟨hrun, hvalue.solid⟩⟩ hrest

end MqttRelay.Redaction
