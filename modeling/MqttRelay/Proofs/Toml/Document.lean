import Mathlib.Data.List.Forall2
import MqttRelay.Proofs.Assoc
import MqttRelay.Proofs.Toml.Values

/-!
# Tables written and read back

A file with tables that hold no others: headers with bare names, and below each of them its keys,
bare as well, with values that end on their lines. Its lines are read as statements one by one, and
the statements fill the tables one by one, so that only the last table grows.

* `Bare` — a name that may stand without quotes.
* `LineOf`, `TableOf` — what stands for a field, and for a table.
* `Says` — a text is read as statements, however long the reader may go on.

Results:
* `statement_line`, `statement_header`: what a line says.
* `add_assigns`, `add_tables`: what statements fill.
* `read?_write`: tables are read back from what is written for them.
-/

namespace MqttRelay.Toml

/-! ## Lines -/

/-- A name that may stand without quotes. -/
structure Bare (name : String) : Prop where
  nonempty : name.toList ≠ []
  chars : ∀ c ∈ name.toList, isKeyChar c = true

instance (name : String) : Decidable (Bare name) :=
  decidable_of_iff (name.toList ≠ [] ∧ name.toList.all isKeyChar = true)
    ⟨fun h => ⟨h.1, List.all_eq_true.1 h.2⟩, fun h => ⟨h.nonempty, List.all_eq_true.2 h.chars⟩⟩

namespace Bare

variable {name : String} (h : Bare name)

include h

theorem eq_cons : ∃ c late, name.toList = c :: late ∧ isKeyChar c = true := by
  obtain ⟨c, late, hname⟩ := List.exists_cons_of_ne_nil h.nonempty
  exact ⟨c, late, hname, h.chars c (hname ▸ List.mem_cons_self)⟩

/-- What begins with a bare name begins with no other mark. -/
theorem append_ne_cons {mark : Char} (hmark : isKeyChar mark = false) (rest late : List Char) :
    name.toList ++ rest ≠ mark :: late := by
  obtain ⟨c, more, hname, hc⟩ := h.eq_cons
  rw [hname]
  intro heq
  rw [(List.cons.inj heq).1, hmark] at hc
  cases hc

end Bare

theorem skipSpace_of_head? {cs : List Char} (h : ∀ c ∈ cs.head?, isSpace c = false) :
    skipSpace cs = cs := by
  cases cs with
  | nil => rfl
  | cons c cs => exact List.dropWhile_cons_of_neg (by simp [h c rfl])

theorem simpleKey_bare {name : String} (h : Bare name) {c : Char} (hc : isKeyChar c = false)
    (rest : List Char) : simpleKey (name.toList ++ c :: rest) = some (name, c :: rest) := by
  have htake : (name.toList ++ c :: rest).takeWhile isKeyChar = name.toList := by
    rw [List.takeWhile_append_of_pos h.chars, List.takeWhile_cons_of_neg (by simp [hc]),
      List.append_nil]
  have hdrop : (name.toList ++ c :: rest).dropWhile isKeyChar = c :: rest := by
    rw [List.dropWhile_append_of_pos h.chars, List.dropWhile_cons_of_neg (by simp [hc])]
  unfold simpleKey
  split
  · next heq => exact absurd heq (h.append_ne_cons rfl _ _)
  · next heq => exact absurd heq (h.append_ne_cons rfl _ _)
  · rw [htake, hdrop]
    split
    · next hnil => exact absurd hnil h.nonempty
    · rw [String.ofList_toList]

/-- A bare name is a key without dots, up to a blank or a bracket. -/
theorem key_bare {name : String} (h : Bare name) {c : Char} {rest : List Char}
    (hc : isKeyChar c = false) (hdot : (skipSpace (c :: rest)).head? ≠ some '.') :
    key (name.toList ++ c :: rest) = some ([name], skipSpace (c :: rest)) := by
  have hspace : skipSpace (name.toList ++ c :: rest) = name.toList ++ c :: rest := by
    refine skipSpace_of_head? fun d hd => ?_
    obtain ⟨late, hlate⟩ := List.head?_eq_some_iff.1 hd
    by_contra hblank
    simp only [isSpace, Bool.not_eq_false, Bool.or_eq_true, beq_iff_eq] at hblank
    rcases hblank with rfl | rfl <;> exact h.append_ne_cons rfl _ _ hlate
  rw [key, depthLimit, keyPath, hspace, simpleKey_bare h hc]
  simp only [Option.bind_eq_bind, Option.bind_some]
  split
  · next heq => exact absurd (by rw [heq]; rfl) hdot
  · rfl

/-- A line sets its key. -/
theorem statement_line {name written : String} {v : Value} (hname : Bare name)
    (hwritten : Writes written v) (rest : List Char) :
    statement ((line name written).toList ++ rest) = some (.assign [name] v, rest) := by
  have hline : (line name written).toList ++ rest =
      name.toList ++ ' ' :: '=' :: ' ' :: (written.toList ++ '\n' :: rest) := by
    simp [line]
  have hspace : skipSpace (' ' :: (written.toList ++ '\n' :: rest)) =
      written.toList ++ '\n' :: rest := by
    show skipSpace (written.toList ++ '\n' :: rest) = _
    refine skipSpace_of_head? fun c hc => ?_
    rw [List.head?_append] at hc
    cases hfirst : written.toList.head? with
    | none =>
      rw [hfirst] at hc
      exact Option.some.inj hc ▸ rfl
    | some d =>
      rw [hfirst] at hc
      exact hwritten.starts c (hfirst.trans hc)
  have hkey : key (name.toList ++ ' ' :: '=' :: ' ' :: (written.toList ++ '\n' :: rest)) =
      some ([name], '=' :: ' ' :: (written.toList ++ '\n' :: rest)) :=
    key_bare hname rfl (by simp [skipSpace, isSpace])
  rw [hline, statement]
  · rw [hkey]
    simp only [Option.bind_eq_bind, Option.bind_some, hspace, hwritten.reads]
    rfl
  · exact fun late h => hname.append_ne_cons rfl _ _ h
  · exact fun late h => hname.append_ne_cons rfl _ _ h

/-- A header opens its table. -/
theorem statement_header {name : String} (hname : Bare name) (rest : List Char) :
    statement ('[' :: (name.toList ++ ']' :: '\n' :: rest)) = some (.header [name], rest) := by
  have hkey : key (name.toList ++ ']' :: '\n' :: rest) = some ([name], ']' :: '\n' :: rest) :=
    key_bare hname rfl (by simp [skipSpace, isSpace])
  rw [statement]
  · rw [hkey]
    rfl
  · exact fun late h => hname.append_ne_cons rfl _ _ h

/-! ## Texts -/

/-- A text is read as statements, however long the reader may go on. -/
def Says (cs : List Char) (ss : List Statement) : Prop :=
  ∀ fuel, cs.length < fuel → statements fuel cs = some ss

namespace Says

theorem nil : Says [] [] := by
  intro fuel hfuel
  cases fuel with
  | zero => cases hfuel
  | succ fuel => rfl

theorem blank {cs : List Char} {ss : List Statement} (h : Says cs ss) : Says ('\n' :: cs) ss := by
  intro fuel hfuel
  cases fuel with
  | zero => cases hfuel
  | succ fuel =>
    rw [statements_blank_line]
    exact h fuel (Nat.lt_of_succ_lt_succ hfuel)

/-- A statement stands at the beginning, which is no layout. -/
theorem cons {c : Char} {late rest : List Char} {s : Statement} {ss : List Statement}
    (hc : c ∉ [' ', '\t', '#', '\n', '\r'])
    (hs : statement (c :: late ++ rest) = some (s, rest)) (h : Says rest ss) :
    Says (c :: late ++ rest) (s :: ss) := by
  intro fuel hfuel
  cases fuel with
  | zero => cases hfuel
  | succ fuel =>
    have hrest : statements fuel rest = some ss := h fuel (by simp at hfuel; omega)
    have hskip : skipSpace (c :: late ++ rest) = c :: late ++ rest := by
      refine skipSpace_of_head? fun d hd => ?_
      obtain rfl : c = d := Option.some.inj hd
      simp_all [isSpace]
    rw [statements, hskip]
    simp_all

/-- Blank lines say nothing. -/
theorem blanks {cs : List Char} (h : ∀ c ∈ cs, c = '\n') : Says cs [] := by
  induction cs with
  | nil => exact nil
  | cons c cs ih =>
    obtain ⟨rfl, hcs⟩ := List.forall_mem_cons.1 h
    exact (ih hcs).blank

/-- A mark for the order of bytes would be no statement. -/
theorem withoutMark {cs : List Char} {ss : List Statement} (h : Says cs ss) :
    Toml.withoutMark cs = cs := by
  cases cs with
  | nil => rfl
  | cons c cs =>
    refine if_neg ?_
    rintro rfl
    have hnone : statements (cs.length + 2) (byteOrderMark :: cs) = none := rfl
    exact absurd ((h _ (Nat.lt_succ_self _)).symm.trans hnone) nofun

end Says

/-! ## Tables -/

/-- What stands for a field: its key, which is bare, and what is read as its value. -/
structure LineOf (l : String × String) (f : String × Value) : Prop where
  key : l.1 = f.1
  bare : Bare f.1
  writes : Writes l.2 f.2

/-- What stands for a table: its name, which is bare, and lines for its fields, of which no two
have the same key. -/
structure TableOf (t : String × List (String × String)) (m : String × List (String × Value)) :
    Prop where
  name : t.1 = m.1
  bare : Bare m.1
  lines : List.Forall₂ LineOf t.2 m.2
  nodup : (m.2.map (·.1)).Nodup

/-- The statements that set fields. -/
def assigns (fields : List (String × Value)) : List Statement :=
  fields.map fun f => .assign [f.1] f.2

/-- The statements of a table. -/
def tableStatements (m : String × List (String × Value)) : List Statement :=
  .header [m.1] :: assigns m.2

section Says

variable {rest : List Char} {ss : List Statement}

/-- The line of a field sets its key. -/
theorem Says.line {l : String × String} {f : String × Value} (hl : LineOf l f)
    (h : Says rest ss) :
    Says ((Toml.line l.1 l.2).toList ++ rest) (.assign [f.1] f.2 :: ss) := by
  have hstatement := statement_line hl.bare hl.writes rest
  obtain ⟨c, late, hname, hc⟩ := hl.bare.eq_cons
  have hline : (Toml.line f.1 l.2).toList =
      c :: (late ++ " = ".toList ++ l.2.toList ++ ['\n']) := by
    simp [Toml.line, hname]
  have hlayout : c ∉ [' ', '\t', '#', '\n', '\r'] := by
    intro hmem
    simp only [List.mem_cons, List.not_mem_nil, or_false] at hmem
    rcases hmem with rfl | rfl | rfl | rfl | rfl <;> cases hc
  rw [hl.key]
  rw [hline] at hstatement ⊢
  exact .cons hlayout hstatement h

/-- The lines of fields set their keys. -/
theorem Says.lines {lines : List (String × String)} {fields : List (String × Value)}
    (hlines : List.Forall₂ LineOf lines fields) (h : Says rest ss) :
    Says ((String.join (lines.map fun l => Toml.line l.1 l.2)).toList ++ rest)
      (assigns fields ++ ss) := by
  induction hlines with
  | nil => simpa [assigns] using h
  | cons hl _ ih =>
    have := ih.line hl
    simpa [assigns] using this

/-- A table opens and sets the keys of its fields. -/
theorem Says.table {t : String × List (String × String)} {m : String × List (String × Value)}
    (ht : TableOf t m) (h : Says rest ss) :
    Says ((tableText t.1 t.2).toList ++ rest) (tableStatements m ++ ss) := by
  have hheader := statement_header ht.bare
    ((String.join (t.2.map fun l => Toml.line l.1 l.2)).toList ++ rest)
  have htext : (tableText t.1 t.2).toList ++ rest =
      '[' :: (m.1.toList ++ [']', '\n']) ++
        ((String.join (t.2.map fun l => Toml.line l.1 l.2)).toList ++ rest) := by
    simp [tableText, ht.name]
  rw [htext]
  refine .cons (by decide) ?_ (.lines ht.lines h)
  simpa using hheader

/-- Tables are opened and filled one after the other. -/
theorem Says.write {tables : List (String × List (String × String))}
    {meant : List (String × List (String × Value))} (htables : List.Forall₂ TableOf tables meant)
    (h : Says rest []) :
    Says ((Toml.write tables).toList ++ rest) (meant.flatMap tableStatements) := by
  induction htables with
  | nil => simpa [Toml.write] using h
  | cons ht hmore ih =>
    cases hmore with
    | nil => simpa [Toml.write] using h.table ht
    | cons _ _ =>
      have := ih.blank.table ht
      simpa [Toml.write] using this

end Says

/-! ## Filling -/

theorem place_of_notMem {key : String} {fields : Toml.Fields} (h : key ∉ fields.map (·.1))
    (node : Node) : place key node fields = fields ++ [(key, node)] := by
  induction fields with
  | nil => rfl
  | cons f fields ih =>
    simp only [List.map_cons, List.mem_cons, not_or] at h
    rw [place, if_neg (Ne.symm h.1), ih h.2, List.cons_append]

theorem place_last {key : String} {fields : Toml.Fields} (h : key ∉ fields.map (·.1))
    (old node : Node) : place key node (fields ++ [(key, old)]) = fields ++ [(key, node)] := by
  induction fields with
  | nil => exact if_pos rfl
  | cons f fields ih =>
    simp only [List.map_cons, List.mem_cons, not_or] at h
    rw [List.cons_append, place, if_neg (Ne.symm h.1), ih h.2, List.cons_append]

theorem lookup_of_notMem {key : String} {fields : Toml.Fields} (h : key ∉ fields.map (·.1)) :
    lookup fields key = none := Assoc.get?_eq_none_of_notMem h

theorem lookup_last {key : String} {fields : Toml.Fields} (h : key ∉ fields.map (·.1))
    (node : Node) : lookup (fields ++ [(key, node)]) key = some node := by
  have hnone : lookup fields key = none := lookup_of_notMem h
  rw [lookup, Option.map_eq_none_iff] at hnone
  rw [lookup, List.find?_append, hnone]
  simp

theorem notMem_of_nodup_keys {α : Type} {early late : List (String × α)} {p : String × α}
    (h : ((early ++ p :: late).map (·.1)).Nodup) : p.1 ∉ early.map (·.1) := by
  rw [List.map_append, List.map_cons] at h
  exact fun hmem => (List.nodup_append.1 h).2.2 _ hmem _ List.mem_cons_self rfl

/-- The fields of a table as they are filled in. -/
def leaves (fields : List (String × Value)) : Toml.Fields := fields.map fun f => (f.1, .leaf f.2)

/-- The tables of a file as they are filled in. -/
def nodes (meant : List (String × List (String × Value))) : Toml.Fields :=
  meant.map fun m => (m.1, .table .header (leaves m.2))

theorem leaves_concat (fields : List (String × Value)) (f : String × Value) :
    leaves (fields ++ [f]) = leaves fields ++ [(f.1, .leaf f.2)] := by
  simp [leaves]

theorem nodes_concat (meant : List (String × List (String × Value)))
    (m : String × List (String × Value)) :
    nodes (meant ++ [m]) = nodes meant ++ [(m.1, .table .header (leaves m.2))] := by
  simp [nodes]

theorem keys_leaves (fields : List (String × Value)) :
    (leaves fields).map (·.1) = fields.map (·.1) := by
  simp [leaves]

theorem keys_nodes (meant : List (String × List (String × Value))) :
    (nodes meant).map (·.1) = meant.map (·.1) := by
  simp [nodes]

/-- A new key is set in the last table. -/
theorem add_assign {early : Toml.Fields} {name : String} (hname : name ∉ early.map (·.1))
    {fields : List (String × Value)} {f : String × Value} (hf : f.1 ∉ fields.map (·.1)) :
    Filling.add ⟨early ++ [(name, .table .header (leaves fields))], [name]⟩ (.assign [f.1] f.2) =
      some ⟨early ++ [(name, .table .header (leaves (fields ++ [f])))], [name]⟩ := by
  have hkey : f.1 ∉ (leaves fields).map (·.1) := keys_leaves fields ▸ hf
  have hassign : assign [f.1] f.2 .header (leaves fields) = some (leaves (fields ++ [f])) := by
    simp [assign, splitLast, enter, lookup_of_notMem hkey, place_of_notMem hkey, leaves_concat]
  simp [Filling.add, enter, lookup_last hname, hassign, place_last hname]

/-- New keys are set in the last table one after the other. -/
theorem add_assigns {early : Toml.Fields} {name : String} (hname : name ∉ early.map (·.1))
    (fields : List (String × Value)) {more : List (String × Value)}
    (hnodup : ((fields ++ more).map (·.1)).Nodup) :
    (assigns more).foldlM Filling.add ⟨early ++ [(name, .table .header (leaves fields))], [name]⟩ =
      some ⟨early ++ [(name, .table .header (leaves (fields ++ more)))], [name]⟩ := by
  induction more generalizing fields with
  | nil => simp [assigns]
  | cons f more ih =>
    have hf : f.1 ∉ fields.map (·.1) := notMem_of_nodup_keys hnodup
    have hmore := ih (fields ++ [f]) (by simpa using hnodup)
    simp only [List.append_assoc, List.singleton_append] at hmore
    rw [assigns, List.map_cons, List.foldlM_cons, add_assign hname hf]
    exact hmore

/-- A new table is opened below the others and filled. -/
theorem add_table {early : Toml.Fields} (current : List String)
    {m : String × List (String × Value)} (hname : m.1 ∉ early.map (·.1))
    (hnodup : (m.2.map (·.1)).Nodup) :
    (tableStatements m).foldlM Filling.add ⟨early, current⟩ =
      some ⟨early ++ [(m.1, .table .header (leaves m.2))], [m.1]⟩ := by
  have hopen : Filling.add ⟨early, current⟩ (.header [m.1]) =
      some ⟨early ++ [(m.1, .table .header (leaves []))], [m.1]⟩ := by
    simp [Filling.add, openTable, splitLast, enter, lookup_of_notMem hname, place_of_notMem hname,
      leaves]
  rw [tableStatements, List.foldlM_cons, hopen]
  exact add_assigns hname [] hnodup

/-- Tables are filled in one below the other. -/
theorem add_tables (done : List (String × List (String × Value)))
    {more : List (String × List (String × Value))} (hnames : ((done ++ more).map (·.1)).Nodup)
    (hnodup : ∀ m ∈ more, (m.2.map (·.1)).Nodup) (current : List String) :
    ∃ last, (more.flatMap tableStatements).foldlM Filling.add ⟨nodes done, current⟩ =
      some ⟨nodes (done ++ more), last⟩ := by
  induction more generalizing done current with
  | nil => exact ⟨current, by simp⟩
  | cons m more ih =>
    obtain ⟨hm, hmore⟩ := List.forall_mem_cons.1 hnodup
    have hname : m.1 ∉ (nodes done).map (·.1) :=
      (keys_nodes done).symm ▸ notMem_of_nodup_keys hnames
    obtain ⟨last, hlast⟩ := ih (done ++ [m]) (by simpa using hnames) hmore [m.1]
    refine ⟨last, ?_⟩
    rw [List.flatMap_cons, List.foldlM_append, add_table current hname hm, ← nodes_concat]
    simpa using hlast

theorem dataOf_leaves (fields : List (String × Value)) : dataOf (leaves fields) = fields := by
  induction fields with
  | nil => rfl
  | cons f fields ih => exact congrArg (f :: ·) ih

theorem dataOf_nodes (meant : List (String × List (String × Value))) :
    dataOf (nodes meant) = meant.map fun m => (m.1, .object m.2) := by
  induction meant with
  | nil => rfl
  | cons m meant ih =>
    rw [nodes, List.map_cons, dataOf, Node.toValue, dataOf_leaves]
    exact congrArg ((m.1, Value.object m.2) :: ·) ih

/-! ## Files -/

/-- Tables are read back from what is written for them, with line feeds after it or without. -/
theorem read?_write {tables : List (String × List (String × String))}
    {meant : List (String × List (String × Value))} (htables : List.Forall₂ TableOf tables meant)
    (hnames : (meant.map (·.1)).Nodup) {tail : List Char} (htail : ∀ c ∈ tail, c = '\n') :
    read? (write tables ++ String.ofList tail) =
      some (.object (meant.map fun m => (m.1, .object m.2))) := by
  have hsays : Says (write tables ++ String.ofList tail).toList
      (meant.flatMap tableStatements) := by
    rw [String.toList_append, String.toList_ofList]
    exact .write htables (.blanks htail)
  have hnodup : ∀ m ∈ meant, (m.2.map (·.1)).Nodup :=
    ((List.forall₂_and_left _ _).1 (htables.flip.imp fun _ _ ht => ⟨ht.nodup, ht⟩)).1
  obtain ⟨last, hfilled⟩ : ∃ last, (meant.flatMap tableStatements).foldlM Filling.add {} =
      some ⟨nodes meant, last⟩ := add_tables [] hnames hnodup []
  simp only [read?, hsays.withoutMark, hsays _ (Nat.lt_succ_self _), hfilled,
    Option.bind_eq_bind, Option.bind_some]
  show some (Value.object (dataOf (nodes meant))) = _
  rw [dataOf_nodes]

end MqttRelay.Toml
