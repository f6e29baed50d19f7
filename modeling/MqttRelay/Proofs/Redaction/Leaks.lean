import MqttRelay.Proofs.Redaction.Borders

/-!
# What a redacted message shows of what was secret

A value ends at a blank and a password at its at sign, whatever the search for secrets makes of
what comes before. So a value is shown if the name before it was taken for the value of an earlier
secret: `password=token= hunter2` becomes `password=*** hunter2`. And a password in which a name
stands before an equals sign or a colon loses its at sign with what follows the name, so that the
address around it is no longer found: `mqtt://u:hunter2token=x@h` becomes
`mqtt://u:hunter2token=***`.

* `leaks` — what is shown of a password in an address.

Results:
* `redacted_mention`, `redacted_mention_of_shown`: what becomes of a value.
* `redacted_credentials`: what becomes of a password.
* `redacted_independent_iff`: exactly when a message does not depend on the value or the password.
-/

namespace MqttRelay.Redaction

/-! ## Values -/

namespace Mention

theorem isValue_name (m : Mention) : IsValue (m.name ++ [m.separator]) := by
  refine ⟨by simp, List.forall_mem_append.2 ⟨m.solid_name, ?_⟩⟩
  rcases m.isSeparator with he | he <;> simpa [he] using by decide

theorem ends_blanks (m : Mention) (h : m.blanks ≠ []) (after : List Char) :
    Ends (m.blanks ++ after) := by
  rw [Ends, List.head?_append_of_ne_nil _ h]
  exact fun c hc => m.areBlank c (List.mem_of_mem_head? hc)

end Mention

/-- What the search for secrets makes of a value behind blanks: the value of an earlier secret may
cover the name, and it ends at the blanks. -/
theorem secrets_append_of_blanks {p r v : List Char} {m : Mention} (hblanks : m.blanks ≠ []) :
    replaceAll secretAt (p ++ (m.text ++ v ++ r)) =
      passed p ++ (if runsOn p then m.blanks ++ replaceAll secretAt (v ++ r)
        else replaceAll secretAt (m.text ++ v ++ r)) := by
  have hopen : Unentered p (m.text ++ v ++ r) := by
    rw [List.append_assoc]
    exact unentered_of_mention m p (v ++ r)
  have hshape : m.text ++ v ++ r = m.name ++ [m.separator] ++ (m.blanks ++ (v ++ r)) := by
    simp [Mention.text]
  rw [hshape] at hopen ⊢
  rw [secrets_append m.isValue_name (m.ends_blanks hblanks (v ++ r)) hopen]
  cases runsOn p with
  | true => rw [if_pos rfl, if_pos rfl, secrets_blanks_append m.areBlank]
  | false => rfl

/-- What the search for secrets makes of a value, unless it is shown: it is covered with its name
by the value of an earlier secret, or replaced. -/
theorem secrets_append_mention {p r v : List Char} {m : Mention} (hv : IsValue v) (hr : Ends r)
    (h : m.blanks = [] ∨ runsOn p = false) :
    replaceAll secretAt (p ++ (m.text ++ v ++ r)) =
      passed p ++ (if runsOn p then replaceAll secretAt r
        else m.name ++ "=***".toList ++ replaceAll secretAt r) := by
  by_cases hblanks : m.blanks = []
  · have htext : m.text = m.name ++ [m.separator] := by rw [Mention.text, hblanks]
    have hvalue : IsValue (m.text ++ v) :=
      ⟨List.append_ne_nil_of_right_ne_nil _ hv.ne_nil,
        List.forall_mem_append.2 ⟨htext ▸ m.isValue_name.solid, hv.solid⟩⟩
    have hopen : Unentered p (m.text ++ v ++ r) := by
      rw [List.append_assoc]
      exact unentered_of_mention m p (v ++ r)
    rw [secrets_append hvalue hr hopen]
    split
    · rfl
    · rw [secrets_mention hv hr]
  · have hruns : runsOn p = false := h.resolve_left hblanks
    rw [secrets_append_of_blanks hblanks, if_neg (by simp [hruns]), if_neg (by simp [hruns]),
      secrets_mention hv hr]

/-- A redacted message does not depend on a value, unless that is shown. -/
theorem redacted_mention {p r v : List Char} {m : Mention} (hv : IsValue v) (hr : Ends r)
    (h : m.blanks = [] ∨ runsOn p = false) :
    redacted (p ++ (m.text ++ v ++ r)) =
      replaceAll credentialsAt (passed p ++ (if runsOn p then replaceAll secretAt r
        else m.name ++ "=***".toList ++ replaceAll secretAt r)) := by
  rw [redacted, secrets_append_mention hv hr h]

/-- A value of one character that is in no name is shown as it is. -/
theorem redacted_mention_of_shown {p r : List Char} {m : Mention} (hr : Ends r)
    (hblanks : m.blanks ≠ []) (hruns : runsOn p = true) {c : Char}
    (hc : ∀ n : Mention, c ∉ n.name) (hat : c ≠ '@') :
    redacted (p ++ (m.text ++ [c] ++ r)) =
      replaceAll credentialsAt (passed p) ++
        (m.blanks ++ ([c] ++ replaceAll credentialsAt (replaceAll secretAt r))) := by
  have hnone : replaceAll secretAt ([c] ++ r) = [c] ++ replaceAll secretAt r :=
    replaceAll_cons_of_none (secretAt_of_notMem hc r)
  have hkept : replaceAll credentialsAt (m.blanks ++ [c]) = m.blanks ++ [c] := by
    refine credentials_of_notMem_at fun hm => ?_
    rcases List.mem_append.1 hm with hm | hm
    · exact absurd (m.areBlank _ hm) (by decide)
    · exact hat (List.mem_singleton.1 hm).symm
  rw [redacted, secrets_append_of_blanks hblanks, if_pos hruns, hnone,
    credentials_append (fence_of_ends (m.ends_blanks hblanks _) _), ← List.append_assoc m.blanks,
    credentials_append (fence_of_ends (ends_secrets hr) _), hkept, List.append_assoc]

/-! ## Passwords -/

/-- What is shown of a password in an address: nothing, or what comes before the value that runs on
in it. -/
def leaks (password : List Char) : Option (List Char) :=
  if runsOn password then some (passed password) else none

theorem Credentials.at_notMem_leaks (k : Credentials) {shown : List Char}
    (h : leaks k.password = some shown) : '@' ∉ shown := by
  have hadded : ∀ cs f, secretBefore cs = some f → f.added = "=***".toList := by
    intro cs f hf
    obtain ⟨m, value, rest, -, -, -, rfl⟩ := (secretAt_eq_some_iff _ f).1 hf
    rfl
  intro hm
  rw [leaks] at h
  split at h
  · rw [← Option.some.inj h] at hm
    rcases mem_replaceAll advances_secretBefore hadded hm with hm | hm
    · exact k.at_notMem_password hm
    · exact absurd hm (by decide)
  · cases h

variable {solid rest : List Char} (hsolid : ∀ c ∈ solid, Text.isBlank c = false) (hrest : Ends rest)

include hsolid hrest

/-- What the search for secrets makes of a password before its at sign. -/
theorem secrets_append_password (k : Credentials) :
    replaceAll secretAt (k.password ++ ('@' :: solid ++ rest)) =
      match leaks k.password with
      | some shown => shown ++ replaceAll secretAt rest
      | none => k.password ++ ['@'] ++ replaceAll secretAt (solid ++ rest) := by
  have hvalue : IsValue ('@' :: solid) :=
    ⟨List.cons_ne_nil '@' solid, List.forall_mem_cons.2 ⟨by decide, hsolid⟩⟩
  have hopen : Unentered k.password ('@' :: solid ++ rest) :=
    unentered_of_foreign (by decide) (by decide) k.password (solid ++ rest)
  have hat : replaceAll secretAt ('@' :: solid ++ rest) =
      '@' :: replaceAll secretAt (solid ++ rest) :=
    replaceAll_cons_of_none (secretAt_of_notMem (fun m => m.notMem_name (by decide)) _)
  rw [secrets_append hvalue hrest hopen, leaks]
  cases hruns : runsOn k.password with
  | true => simp
  | false => simp [passed_of_solid k.solid_password hruns, ← hat]

/-- What the search for secrets makes of an address depends on the password only if no value runs
on before it, and then no further than to what is shown of it. -/
theorem secrets_append_credentials (p : List Char) (k : Credentials) :
    replaceAll secretAt (p ++ (k.text ++ (solid ++ rest))) =
      passed p ++
        if runsOn p then replaceAll secretAt rest
        else if runsOn k.front then passed k.front ++ replaceAll secretAt rest
        else
          match leaks k.password with
          | some shown => k.front ++ (shown ++ replaceAll secretAt rest)
          | none => k.text ++ replaceAll secretAt (solid ++ rest) := by
  have hvalue : IsValue (k.text ++ solid) := by
    refine ⟨?_, List.forall_mem_append.2 ⟨k.solid, hsolid⟩⟩
    simp [Credentials.text]
  have hopen : Unentered p (k.text ++ solid ++ rest) := by
    have hshape : k.text ++ solid ++ rest =
        k.scheme ++ (k.user ++ ':' :: (k.password ++ '@' :: (solid ++ rest))) := by
      simp [Credentials.text, Credentials.front]
    rw [hshape]
    exact unentered_of_scheme k.isScheme p _
  have hpassword : IsValue (k.password ++ '@' :: solid) := by
    refine ⟨by simp, List.forall_mem_append.2 ⟨k.solid_password, ?_⟩⟩
    exact List.forall_mem_cons.2 ⟨by decide, hsolid⟩
  have hcolon : Unentered k.front (k.password ++ '@' :: solid ++ rest) := by
    rw [Credentials.front, ← List.append_assoc k.scheme]
    exact unentered_of_colon (k.scheme ++ k.user) _
  have hshape : k.text ++ solid ++ rest = k.front ++ (k.password ++ '@' :: solid ++ rest) := by
    simp [Credentials.text]
  rw [← List.append_assoc k.text, secrets_append hvalue hrest hopen]
  congr 1
  split
  · rfl
  · rw [hshape, secrets_append hpassword hrest hcolon]
    split
    · rfl
    · next hfront =>
      rw [passed_of_solid k.solid_front (by simpa using hfront), List.append_assoc k.password,
        secrets_append_password hsolid hrest k]
      cases leaks k.password with
      | some shown => rfl
      | none => simp [Credentials.text]

/-- A redacted message depends on a password through what is shown of it, if no value runs on before
it. -/
theorem redacted_credentials {p : List Char} {k : Credentials} (hp : runsOn p = false)
    (hfront : runsOn k.front = false) :
    redacted (p ++ (k.text ++ (solid ++ rest))) =
      replaceAll credentialsAt (passed p) ++
        match leaks k.password with
        | some shown =>
          k.front ++ (shown ++ replaceAll credentialsAt (replaceAll secretAt rest))
        | none =>
          k.scheme ++ ("***@".toList ++
            replaceAll credentialsAt (replaceAll secretAt (solid ++ rest))) := by
  have hfence (b : List Char) : Fence credentialsAt (passed p) (k.front ++ b) := by
    rw [Credentials.front, List.append_assoc]
    exact fence_of_scheme k.isScheme (passed p) _
  rw [redacted, secrets_append_credentials hsolid hrest p k, if_neg (by simp [hp]),
    if_neg (by simp [hfront])]
  cases hleaks : leaks k.password with
  | some shown =>
    have hat : '@' ∉ k.front ++ shown := fun hm =>
      (List.mem_append.1 hm).elim k.at_notMem_front (k.at_notMem_leaks hleaks)
    dsimp only
    rw [credentials_append (hfence _), ← List.append_assoc k.front,
      credentials_append (fence_of_ends (ends_secrets hrest) _), credentials_of_notMem_at hat,
      List.append_assoc k.front]
  | none =>
    have htext (b : List Char) : k.text ++ b = k.front ++ (k.password ++ ['@'] ++ b) := by
      simp [Credentials.text]
    dsimp only
    rw [htext, credentials_append (hfence _), ← htext, credentials_text_append, List.append_assoc]

omit hsolid hrest

/-! ## Messages that do not depend on what is secret -/

/-- A user is not taken for what is put in the place of credentials. -/
theorem front_append_ne (k : Credentials) (a b : List Char) :
    k.front ++ a ≠ k.scheme ++ ("***@".toList ++ b) := by
  intro h
  have hfront : k.front ++ a = k.scheme ++ (k.user ++ ':' :: a) := by simp [Credentials.front]
  rw [hfront, List.append_cancel_left_eq] at h
  have huser : (k.user ++ ':' :: a).takeWhile isUserChar = k.user :=
    takeWhile_append_of_head k.isUser (by rintro c ⟨⟩; decide)
  have hsplit : "***@".toList ++ b = "***".toList ++ '@' :: b := rfl
  have hstars : ("***".toList ++ '@' :: b).takeWhile isUserChar = "***".toList :=
    takeWhile_append_of_head (by decide) (by rintro c ⟨⟩; decide)
  rw [h, hsplit, hstars] at huser
  rw [← huser, hsplit, List.append_cancel_left_eq] at h
  cases h

/-- Two values are redacted alike if none is shown. -/
theorem redacted_mention_congr {p r v w : List Char} {m : Mention} (hr : Ends r)
    (h : m.blanks = [] ∨ runsOn p = false) (hv : IsValue v) (hw : IsValue w) :
    redacted (p ++ (m.text ++ v ++ r)) = redacted (p ++ (m.text ++ w ++ r)) := by
  rw [redacted_mention hv hr h, redacted_mention hw hr h]

/-- Some two values are redacted in different ways if values are shown. -/
theorem exists_redacted_mention_ne {p r : List Char} {m : Mention} (hr : Ends r)
    (hblanks : m.blanks ≠ []) (hruns : runsOn p = true) :
    ∃ v w, IsValue v ∧ IsValue w ∧
      redacted (p ++ (m.text ++ v ++ r)) ≠ redacted (p ++ (m.text ++ w ++ r)) := by
  refine ⟨['1'], ['2'], isValue_singleton (by decide), isValue_singleton (by decide), ?_⟩
  rw [redacted_mention_of_shown hr hblanks hruns (fun n => n.notMem_name (by decide)) (by decide),
    redacted_mention_of_shown hr hblanks hruns (fun n => n.notMem_name (by decide)) (by decide)]
  simp

/-- Two passwords in the same address are redacted alike exactly if a value runs on before them or
as much is shown of the one as of the other. -/
theorem redacted_credentials_eq_iff (p r : List Char) {k k' : Credentials}
    (hscheme : k.scheme = k'.scheme) (huser : k.user = k'.user) :
    redacted (p ++ (k.text ++ r)) = redacted (p ++ (k'.text ++ r)) ↔
      runsOn p = true ∨ runsOn k.front = true ∨ leaks k.password = leaks k'.password := by
  obtain ⟨solid, rest, rfl, hsolid, hrest⟩ := exists_run (fun c => !Text.isBlank c) r
  have hsolid' : ∀ c ∈ solid, Text.isBlank c = false := by simpa using hsolid
  have hrest' : Ends rest := by simpa [Ends] using hrest
  have hfront : k.front = k'.front := by rw [Credentials.front, Credentials.front, hscheme, huser]
  cases hp : runsOn p with
  | true =>
    refine iff_of_true ?_ (.inl rfl)
    rw [redacted, redacted, secrets_append_credentials hsolid' hrest' p k,
      secrets_append_credentials hsolid' hrest' p k', if_pos hp, if_pos hp]
  | false =>
    cases hf : runsOn k.front with
    | true =>
      refine iff_of_true ?_ (.inr (.inl rfl))
      rw [redacted, redacted, secrets_append_credentials hsolid' hrest' p k,
        secrets_append_credentials hsolid' hrest' p k', ← hfront, hp, hf]
      rfl
    | false =>
      rw [redacted_credentials hsolid' hrest' hp hf,
        redacted_credentials hsolid' hrest' hp (hfront ▸ hf), List.append_cancel_left_eq]
      simp only [Bool.false_eq_true, false_or]
      cases hl : leaks k.password with
      | some shown =>
        cases hl' : leaks k'.password with
        | some shown' => simp [hfront]
        | none =>
          refine iff_of_false (fun h => ?_) (Option.some_ne_none shown)
          rw [← hscheme] at h
          exact front_append_ne k _ _ h
      | none =>
        cases hl' : leaks k'.password with
        | some shown' =>
          refine iff_of_false (fun h => ?_) (Option.some_ne_none shown').symm
          rw [hscheme] at h
          exact front_append_ne k' _ _ h.symm
        | none => simp [hscheme]

/-- Messages that are redacted alike leave the process alike. -/
theorem sanitize_congr {s t : List Char} (h : redacted s = redacted t) :
    sanitize (String.ofList s) = sanitize (String.ofList t) := by
  simp only [sanitize, String.toList_ofList, h]

/-- When a message does not depend on what is secret in it. The value after a name makes no
difference if it follows its separator at once, or if no value of an earlier secret runs on to
the name; otherwise some two values are told apart. The password of an address makes no difference
if a value runs on to it, or if as much is shown of one password as of the other, which is
nothing of those in which no value begins; otherwise the two are told apart. -/
theorem redacted_independent_iff (p r : List Char) :
    (∀ m : Mention, Ends r →
      (m.blanks = [] ∨ runsOn p = false → ∀ v w, IsValue v → IsValue w →
        sanitize (String.ofList (p ++ (m.text ++ v ++ r))) =
          sanitize (String.ofList (p ++ (m.text ++ w ++ r)))) ∧
      (¬ (m.blanks = [] ∨ runsOn p = false) → ∃ v w, IsValue v ∧ IsValue w ∧
        redacted (p ++ (m.text ++ v ++ r)) ≠ redacted (p ++ (m.text ++ w ++ r)))) ∧
    ∀ k k' : Credentials, k.scheme = k'.scheme → k.user = k'.user →
      (runsOn p = true ∨ runsOn k.front = true ∨ leaks k.password = leaks k'.password →
        sanitize (String.ofList (p ++ (k.text ++ r))) =
          sanitize (String.ofList (p ++ (k'.text ++ r)))) ∧
      (¬ (runsOn p = true ∨ runsOn k.front = true ∨ leaks k.password = leaks k'.password) →
        redacted (p ++ (k.text ++ r)) ≠ redacted (p ++ (k'.text ++ r))) := by
  constructor
  · intro m hr
    constructor
    · intro h v w hv hw
      exact sanitize_congr (redacted_mention_congr hr h hv hw)
    · intro h
      obtain ⟨hblanks, hruns⟩ := not_or.1 h
      exact exists_redacted_mention_ne hr hblanks (by simpa using hruns)
  · intro k k' hscheme huser
    have hiff := redacted_credentials_eq_iff p r hscheme huser
    exact ⟨fun h => sanitize_congr (hiff.2 h), fun h => mt hiff.1 h⟩

/-! ## A secret beside a secret -/

/-- A name in capitals, a colon and two blanks. -/
def spacedMention : Mention :=
  ⟨"PASSWORD".toList, ':', "  ".toList, by decide, by decide, by decide⟩

/-- A name, an equals sign and a blank. -/
def tokenMention : Mention :=
  { Mention.assigned "token".toList (by decide) with blanks := " ".toList, areBlank := by decide }

/-- The address of a user with a password without names in it. -/
def plainCredentials : Credentials :=
  ⟨"mqtt://".toList, "u".toList, "a".toList, by decide, by decide, by decide, by decide, by decide⟩

/-- The address of the same user with another password without names. -/
def otherCredentials : Credentials :=
  { plainCredentials with
    password := "s3cr:t".toList, password_ne_nil := by decide, isPassword := by decide }

/-- The address of the same user with a password in which a name stands before an equals sign. -/
def nestedCredentials : Credentials :=
  { plainCredentials with
    password := "token=b".toList, password_ne_nil := by decide, isPassword := by decide }

/-- After a secret that has ended neither values nor passwords make a difference. After one that has
not, values behind a blank do, and so does a password with a name in it. -/
theorem independent_after_ended_secret :
    runsOn "token=abc ".toList = false ∧ runsOn "password=".toList = true ∧
      leaks plainCredentials.password = none ∧ leaks otherCredentials.password = none ∧
      leaks nestedCredentials.password = some "token=***".toList ∧
      sanitize (String.ofList ("token=abc ".toList ++
          (spacedMention.text ++ "hunter2".toList ++ " at h".toList))) =
        sanitize (String.ofList ("token=abc ".toList ++
          (spacedMention.text ++ "letmein".toList ++ " at h".toList))) ∧
      sanitize (String.ofList ("token=abc ".toList ++ (plainCredentials.text ++ "h".toList))) =
        sanitize (String.ofList ("token=abc ".toList ++ (otherCredentials.text ++ "h".toList))) ∧
      (∃ v w, IsValue v ∧ IsValue w ∧
        redacted ("password=".toList ++ (tokenMention.text ++ v ++ [])) ≠
          redacted ("password=".toList ++ (tokenMention.text ++ w ++ []))) ∧
      redacted ([] ++ (plainCredentials.text ++ "h".toList)) ≠
        redacted ([] ++ (nestedCredentials.text ++ "h".toList)) := by
  have hended : runsOn "token=abc ".toList = false := by decide
  have hruns : runsOn "password=".toList = true := by decide
  have hplain : leaks plainCredentials.password = none := by decide
  have hother : leaks otherCredentials.password = none := by decide
  have hnested : leaks nestedCredentials.password = some "token=***".toList := by decide
  refine ⟨hended, hruns, hplain, hother, hnested, ?_, ?_, ?_, ?_⟩
  · have hends : Ends " at h".toList := by
      rintro c ⟨⟩
      decide
    exact ((redacted_independent_iff "token=abc ".toList " at h".toList).1 spacedMention
      hends).1 (.inr hended) "hunter2".toList "letmein".toList ⟨by decide, by decide⟩
      ⟨by decide, by decide⟩
  · exact ((redacted_independent_iff "token=abc ".toList "h".toList).2 plainCredentials
      otherCredentials rfl rfl).1 (.inr (.inr (hplain.trans hother.symm)))
  · have hblank : tokenMention.blanks ≠ [] := by decide
    refine ((redacted_independent_iff "password=".toList []).1 tokenMention nofun).2 ?_
    rw [hruns]
    exact not_or.2 ⟨hblank, nofun⟩
  · refine ((redacted_independent_iff [] "h".toList).2 plainCredentials nestedCredentials rfl
      rfl).2 ?_
    rw [hplain, hnested]
    decide

/-- A value is shown behind the name that an earlier secret took for its own value, and the
beginning of a password in which a name stands is shown as well. -/
theorem secrets_shown :
    sanitize "password=token= hunter2" = "password=*** hunter2" ∧
      sanitize "password=token= letmein" = "password=*** letmein" ∧
      sanitize "mqtt://u:hunter2token=x@h" = "mqtt://u:hunter2token=***" ∧
      sanitize "mqtt://u:a@h" = "mqtt://***@h" := by
  decide +kernel

end MqttRelay.Redaction
