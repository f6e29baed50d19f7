import Mathlib.Data.List.Find
import MqttRelay.Proofs.Assoc
import MqttRelay.Value.Decode

/-!
# What records are read from

An object is visited field by field, and its record is built from the values of the columns. Here
the two are put together, column by column: what an object must hold to be read as given data.

* `Fits` — the values of some keys are readable, sufficient, and those of given data.

Results:
* `readWith_obj_eq_ok_iff_fits`: an object is read as the data that its values fit.
* `fits_pure_iff`, `fits_required_iff`, `fits_withDefault_iff`: what a further column asks for.
* `readWith_insert`: a key that is no column changes nothing.
-/

namespace MqttRelay

variable {α β : Type}

/-- What is null is absent, and what is not null is read. -/
theorem Reader.optional_eq_ok_iff (read : Reader β) (v : Value) (o : Option β) :
    Reader.optional read v = .ok o ↔
      v = .null ∧ o = none ∨ v ≠ .null ∧ ∃ b, read v = .ok b ∧ o = some b := by
  cases v with
  | null => simp [Reader.optional, eq_comm]
  | _ => cases h : read _ <;> simp [Reader.optional, h, Except.map, eq_comm]

namespace Record

/-! ## Columns that are visited -/

/-- The check of a field is that of the first column with its key; a field without one passes. -/
theorem checkFields_eq_ok_iff (columns : List Column) (fields : Fields) :
    checkFields columns fields = .ok () ↔
      ∀ p ∈ fields, ∀ c, columns.find? (fun c => c.key == p.1) = some c → c.check p.2 = .ok () := by
  induction fields with
  | nil => simp [checkFields]
  | cons p fields ih =>
    obtain ⟨key, v⟩ := p
    rw [List.forall_mem_cons, ← ih, checkFields]
    cases hc : columns.find? fun c => c.key == key with
    | none => simp [bind, Except.bind]
    | some c =>
      cases hv : c.check v with
      | error e => simp [bind, Except.bind, hv]
      | ok u => simp [bind, Except.bind, hv]

/-- No column is missed that may not be. -/
theorem firstMissing_eq_none_iff (columns : List Column) (mayMiss : Absence → Bool)
    (values : String → Option Value) :
    firstMissing columns mayMiss values = none ↔
      ∀ c ∈ columns, mayMiss c.absence = false → (values c.key).isSome = true := by
  rw [firstMissing, Option.map_eq_none_iff, List.find?_eq_none]
  constructor
  · intro h c hc hmiss
    obtain ⟨i, hi, rfl⟩ := List.getElem_of_mem hc
    have hmem : (columns[i], i) ∈ columns.zipIdx := by
      rw [List.mem_zipIdx_iff_getElem?]
      simp [hi]
    simpa [hmiss, Option.isSome_iff_ne_none] using h _ hmem
  · intro h p hp
    have hmem : p.1 ∈ columns := List.fst_mem_of_mem_zipIdx hp
    have := h p.1 hmem
    cases hmiss : mayMiss p.1.absence <;> simp_all [Option.isSome_iff_ne_none]

/-! ## Values that fit -/

/-- The values of keys that a record is read from as given data: each value of a column is
readable, no column lacks one that needs one, and the record is built from them. -/
structure Fits (r : Record α) (values : String → Option Value) (a : α) : Prop where
  readable : ∀ c ∈ r.columns, ∀ v, values c.key = some v → c.check v = .ok ()
  sufficient : ∀ c ∈ r.columns, c.absence = .nowhere → (values c.key).isSome = true
  built : r.build values = .ok a

/-- An object with each key once is read as the data that its values fit. -/
theorem readWith_obj_eq_ok_iff_fits {r : Record α} (hr : (r.columns.map (·.key)).Nodup)
    {fields : Fields} (hf : Assoc.Ordered fields) (surplus : Surplus) (name : String) (a : α) :
    r.readWith surplus name (.obj fields) = .ok a ↔ r.Fits (Assoc.get? fields) a := by
  have hcheck : checkFields r.columns fields = .ok () ↔
      ∀ c ∈ r.columns, ∀ v, Assoc.get? fields c.key = some v → c.check v = .ok () := by
    rw [checkFields_eq_ok_iff]
    constructor
    · intro h c hc v hv
      -- No other column has the key, so that this one is found.
      refine h (c.key, v) (Assoc.mem_of_get? hv) c (List.find?_eq_some_iff_append.2 ⟨by simp, ?_⟩)
      obtain ⟨early, late, heq⟩ := List.append_of_mem hc
      refine ⟨early, late, heq, fun d hd => ?_⟩
      rw [heq, List.map_append, List.map_cons] at hr
      have hne := (List.nodup_append.1 hr).2.2 d.key (List.mem_map_of_mem hd) c.key (by simp)
      simpa using hne
    · intro h p hp c hc
      have hkey : c.key = p.1 := by simpa using List.find?_some hc
      exact h c (List.mem_of_find?_eq_some hc) p.2 (hkey ▸ hf.get?_of_mem hp)
  rw [readWith_obj_eq_ok_iff, hcheck, firstMissing_eq_none_iff]
  constructor
  · rintro ⟨hread, hsuff, hbuilt⟩
    exact ⟨hread, fun c hc hn => hsuff c hc (by simp [hn]), hbuilt⟩
  · rintro ⟨hread, hsuff, hbuilt⟩
    exact ⟨hread, fun c hc hn => hsuff c hc (by simpa using hn), hbuilt⟩

/-! ## Column by column -/

section Columns

variable {values : String → Option Value}

@[simp] theorem fits_pure_iff (a b : α) : (Record.pure a).Fits values b ↔ b = a := by
  constructor
  · rintro ⟨-, -, h⟩
    exact (Except.ok.inj h).symm
  · rintro rfl
    exact ⟨nofun, nofun, rfl⟩

/-- A column that must be present. -/
theorem fits_required_iff (r : Record (β → α)) (key : String) (read : Reader β) (a : α) :
    (r.required key read).Fits values a ↔
      ∃ f v b, r.Fits values f ∧ values key = some v ∧ read v = .ok b ∧ a = f b := by
  constructor
  · rintro ⟨hread, hsuff, hbuilt⟩
    simp only [required, List.forall_mem_append, List.forall_mem_singleton, forall_const] at *
    obtain ⟨v, hv⟩ := Option.isSome_iff_exists.1 hsuff.2
    obtain ⟨u, hu⟩ : ∃ b, read v = .ok b := by
      have := hread.2 v hv
      cases hb : read v with
      | ok b => exact ⟨b, rfl⟩
      | error e => simp [hb, Except.map] at this
    cases hf : r.build values with
    | error e => simp [hf, bind, Except.bind] at hbuilt
    | ok f =>
      rw [hf, hv] at hbuilt
      simp only [bind, Except.bind, hu, Except.map, Except.ok.injEq] at hbuilt
      exact ⟨f, v, u, ⟨hread.1, hsuff.1, hf⟩, hv, hu, hbuilt.symm⟩
  · rintro ⟨f, v, b, ⟨hread, hsuff, hbuilt⟩, hv, hb, rfl⟩
    constructor <;> simp only [required, List.forall_mem_append, List.forall_mem_singleton]
    · exact ⟨hread, by simp [hv, hb, Except.map]⟩
    · exact ⟨hsuff, by simp [hv]⟩
    · simp [hbuilt, hv, hb, bind, Except.bind, Except.map]

/-- A column that may be absent, at least from an object. -/
theorem fits_withDefault_iff (r : Record (β → α)) (key : String) (read : Reader β) (default : β)
    (absence : Absence) (habsence : absence ≠ .nowhere) (a : α) :
    (r.withDefault key read default absence).Fits values a ↔
      ∃ f b, r.Fits values f ∧ a = f b ∧
        (values key = none ∧ b = default ∨ ∃ v, values key = some v ∧ read v = .ok b) := by
  constructor
  · rintro ⟨hread, hsuff, hbuilt⟩
    simp only [withDefault, List.forall_mem_append, List.forall_mem_singleton] at *
    cases hf : r.build values with
    | error e => simp [hf, bind, Except.bind] at hbuilt
    | ok f =>
      rw [hf] at hbuilt
      have hfits : r.Fits values f := ⟨hread.1, hsuff.1, hf⟩
      cases hv : values key with
      | none =>
        simp only [hv, bind, Except.bind, Except.ok.injEq] at hbuilt
        exact ⟨f, default, hfits, hbuilt.symm, .inl ⟨rfl, rfl⟩⟩
      | some v =>
        cases hb : read v with
        | error e => simp [hv, hb, bind, Except.bind, Except.map] at hbuilt
        | ok b =>
          simp only [hv, hb, bind, Except.bind, Except.map, Except.ok.injEq] at hbuilt
          exact ⟨f, b, hfits, hbuilt.symm, .inr ⟨v, rfl, hb⟩⟩
  · rintro ⟨f, b, ⟨hread, hsuff, hbuilt⟩, rfl, hcase⟩
    constructor <;> simp only [withDefault, List.forall_mem_append, List.forall_mem_singleton]
    · refine ⟨hread, fun v hv => ?_⟩
      rcases hcase with ⟨hnone, -⟩ | ⟨w, hw, hb⟩
      · simp [hnone] at hv
      · obtain rfl : w = v := Option.some.inj (hw.symm.trans hv)
        simp [hb, Except.map]
    · exact ⟨hsuff, fun h => absurd h habsence⟩
    · rcases hcase with ⟨hnone, rfl⟩ | ⟨v, hv, hb⟩
      · simp [hbuilt, hnone, bind, Except.bind]
      · simp [hbuilt, hv, hb, bind, Except.bind, Except.map]

end Columns

/-! ## Keys that are no columns -/

/-- A record that is built from the values of its columns alone. -/
structure ReadsColumns (r : Record α) : Prop where
  build_congr : ∀ values others : String → Option Value,
    (∀ c ∈ r.columns, values c.key = others c.key) → r.build values = r.build others

namespace ReadsColumns

theorem pure (a : α) : (Record.pure a).ReadsColumns := ⟨fun _ _ _ => rfl⟩

theorem required {r : Record (β → α)} (h : r.ReadsColumns) (key : String) (read : Reader β) :
    (r.required key read).ReadsColumns := by
  constructor
  intro values others heq
  simp only [Record.required, List.forall_mem_append, List.forall_mem_singleton] at heq ⊢
  rw [h.build_congr values others heq.1, heq.2]

theorem withDefault {r : Record (β → α)} (h : r.ReadsColumns) (key : String) (read : Reader β)
    (default : β) (absence : Absence) :
    (r.withDefault key read default absence).ReadsColumns := by
  constructor
  intro values others heq
  simp only [Record.withDefault, List.forall_mem_append, List.forall_mem_singleton] at heq ⊢
  rw [h.build_congr values others heq.1, heq.2]

end ReadsColumns

/-- A field of a key that is no column is passed over. -/
theorem checkFields_insert {columns : List Column} {key : String}
    (h : key ∉ columns.map (·.key)) (v : Value) (fields : Fields) :
    checkFields columns (Assoc.insert key v fields) = checkFields columns fields := by
  have hfind : columns.find? (fun c => c.key == key) = none := by
    refine List.find?_eq_none.2 fun c hc => ?_
    simpa using fun heq : c.key = key => h (heq ▸ List.mem_map_of_mem hc)
  have hskip (rest : Fields) (w : Value) :
      checkFields columns ((key, w) :: rest) = checkFields columns rest := by
    rw [checkFields, hfind]
    rfl
  induction fields with
  | nil => exact hskip [] v
  | cons p fields ih =>
    obtain ⟨other, w⟩ := p
    unfold Assoc.insert
    split
    · exact hskip _ v
    · split
      · next heq =>
        obtain rfl : key = other := heq
        rw [hskip, hskip]
      · rw [checkFields, checkFields, ih]

/-- A key that is no column changes nothing, whether the object can be read or not. -/
theorem readWith_insert {r : Record α} (hr : r.ReadsColumns) {key : String}
    (h : key ∉ r.columns.map (·.key)) (surplus : Surplus) (name : String) (v : Value)
    (fields : Fields) :
    r.readWith surplus name (.obj (Assoc.insert key v fields)) =
      r.readWith surplus name (.obj fields) := by
  have hvalues : ∀ c ∈ r.columns,
      Assoc.get? (Assoc.insert key v fields) c.key = Assoc.get? fields c.key := by
    intro c hc
    rw [Assoc.get?_insert, if_neg]
    rintro rfl
    exact h (List.mem_map_of_mem hc)
  have hmissing (mayMiss : Absence → Bool) :
      firstMissing r.columns mayMiss (Assoc.get? (Assoc.insert key v fields)) =
        firstMissing r.columns mayMiss (Assoc.get? fields) := by
    unfold firstMissing
    refine congrArg (Option.map _) (List.find?_congr fun p hp => ?_)
    rw [hvalues p.1 (List.fst_mem_of_mem_zipIdx hp)]
  simp only [readWith, checkFields_insert h, hmissing, hr.build_congr _ _ hvalues]

/-! ## Data that are read back -/

/-- Values that fit given data, in a record that is built from its columns alone. -/
structure Reads (r : Record α) (values : String → Option Value) (a : α) : Prop
    extends ReadsColumns r, Fits r values a

namespace Reads

variable {values : String → Option Value}

theorem pure (a : α) : (Record.pure a).Reads values a :=
  ⟨.pure a, (fits_pure_iff a a).2 rfl⟩

variable {f : β → α} {key : String} {read : Reader β} {v : Value} {b : β}

theorem required {r : Record (β → α)} (h : r.Reads values f) (hv : values key = some v)
    (hb : read v = .ok b) : (r.required key read).Reads values (f b) where
  toReadsColumns := h.toReadsColumns.required key read
  toFits := (fits_required_iff r key read (f b)).2 ⟨f, v, b, h.toFits, hv, hb, rfl⟩

theorem withDefault {r : Record (β → α)} (h : r.Reads values f) (hv : values key = some v)
    (hb : read v = .ok b) (default : β) : (r.withDefault key read default).Reads values (f b) where
  toReadsColumns := h.toReadsColumns.withDefault key read default .anywhere
  toFits := (fits_withDefault_iff r key read default .anywhere nofun (f b)).2
    ⟨f, b, h.toFits, rfl, .inr ⟨v, hv, hb⟩⟩

/-- A column that may be absent holds what was written, or nothing. -/
theorem orNone {r : Record (Option β → α)} {f : Option β → α} (h : r.Reads values f)
    (absence : Absence) (habsence : absence ≠ .nowhere) {write : β → Value} {o : Option β}
    (hv : values key = o.map write) (hwrite : ∀ b, write b ≠ .null ∧ read (write b) = .ok b) :
    (r.withDefault key (Reader.optional read) none absence).Reads values (f o) where
  toReadsColumns := h.toReadsColumns.withDefault key (Reader.optional read) none absence
  toFits := by
    refine (fits_withDefault_iff r key _ none absence habsence (f o)).2 ⟨f, o, h.toFits, rfl, ?_⟩
    cases o with
    | none => exact .inl ⟨hv, rfl⟩
    | some b =>
      refine .inr ⟨write b, hv, (Reader.optional_eq_ok_iff read (write b) (some b)).2 (.inr ?_)⟩
      exact ⟨(hwrite b).1, b, (hwrite b).2, rfl⟩

theorem optional {r : Record (Option β → α)} {f : Option β → α} (h : r.Reads values f)
    {write : β → Value} {o : Option β} (hv : values key = o.map write)
    (hwrite : ∀ b, write b ≠ .null ∧ read (write b) = .ok b) :
    (r.optional key read).Reads values (f o) := h.orNone .anywhere nofun hv hwrite

theorem nullable {r : Record (Option β → α)} {f : Option β → α} (h : r.Reads values f)
    {write : β → Value} {o : Option β} (hv : values key = o.map write)
    (hwrite : ∀ b, write b ≠ .null ∧ read (write b) = .ok b) :
    (r.nullable key read).Reads values (f o) := h.orNone .inObjects nofun hv hwrite

end Reads

end Record

end MqttRelay
