import Mathlib.Data.List.Forall2
import MqttRelay.Topic.Filter

/-!
# What a topic filter matches

The matching walks through both lists of levels at once and looks for a hidden topic in the raw
texts. Here it is told level by level.

Results:
* `levelsMatch_iff_forall₂`: without `#`, each level of the filter takes the level in its place.
* `levelsMatch_hash_iff`: a filter matches what begins with the levels before its first `#`.
* `levelsMatch_iff`: both cases.
* `firstLevel_of_levelsMatch`: what the first levels of a match have to do with each other.
* `filterMatches_iff`: the whole rule, for every filter and every topic.
-/

namespace MqttRelay.Topic

/-- Whether a level of a filter takes a level of a topic in its place. -/
def TakesLevel (f t : List Char) : Prop := f = ['+'] ∨ f = t

/-! ## Level by level -/

theorem levelsMatch_iff_forall₂ {fs : List (List Char)} (h : ['#'] ∉ fs) (ts : List (List Char)) :
    levelsMatch fs ts = true ↔ List.Forall₂ TakesLevel fs ts := by
  induction fs generalizing ts with
  | nil => simp [levelsMatch_nil_iff]
  | cons f fs ih =>
    obtain ⟨hf, hfs⟩ : f ≠ ['#'] ∧ ['#'] ∉ fs := by simpa [eq_comm] using h
    cases ts with
    | nil => simp [levelsMatch, hf]
    | cons t ts => simp [levelsMatch, hf, ih hfs, TakesLevel]

/-- A filter matches a topic that begins with levels which those before the first `#` take. The
topic may end there. -/
theorem levelsMatch_hash_iff {before : List (List Char)} (h : ['#'] ∉ before)
    (after ts : List (List Char)) :
    levelsMatch (before ++ ['#'] :: after) ts = true ↔
      before.length ≤ ts.length ∧ List.Forall₂ TakesLevel before (ts.take before.length) := by
  induction before generalizing ts with
  | nil => simp [levelsMatch_hash]
  | cons f before ih =>
    obtain ⟨hf, hbefore⟩ : f ≠ ['#'] ∧ ['#'] ∉ before := by simpa [eq_comm] using h
    cases ts with
    | nil => simp [levelsMatch, hf]
    | cons t ts => simp [levelsMatch, hf, ih hbefore, TakesLevel, and_left_comm]

/-- The levels match one by one, as far as the levels before the first `#` go. -/
theorem levelsMatch_iff (fs ts : List (List Char)) :
    levelsMatch fs ts = true ↔
      ['#'] ∉ fs ∧ List.Forall₂ TakesLevel fs ts ∨
        ∃ before after, fs = before ++ ['#'] :: after ∧ ['#'] ∉ before ∧
          before.length ≤ ts.length ∧
          List.Forall₂ TakesLevel before (ts.take before.length) := by
  constructor
  · intro h
    by_cases hash : ['#'] ∈ fs
    · obtain ⟨before, after, rfl, hbefore⟩ := List.eq_append_cons_of_mem hash
      exact .inr ⟨before, after, rfl, hbefore, (levelsMatch_hash_iff hbefore after ts).mp h⟩
    · exact .inl ⟨hash, (levelsMatch_iff_forall₂ hash ts).mp h⟩
  · rintro (⟨hash, h⟩ | ⟨before, after, rfl, hbefore, h⟩)
    · exact (levelsMatch_iff_forall₂ hash ts).mpr h
    · exact (levelsMatch_hash_iff hbefore after ts).mpr h

/-! ## The first level -/

theorem firstLevel_of_levelsMatch {f t : List Char} {fs ts : List (List Char)}
    (h : levelsMatch (f :: fs) (t :: ts) = true) : f = ['#'] ∨ f = ['+'] ∨ f = t := by
  simp only [levelsMatch, Bool.or_eq_true, Bool.and_eq_true, beq_iff_eq] at h
  exact h.imp_right And.left

theorem levels_eq_cons (s : String) :
    ∃ rest, levels s = s.toList.takeWhile (· ≠ '/') :: rest :=
  List.head?_eq_some_iff.mp (Text.head?_splitAt '/' s.toList)

/-- Where a topic begins with a dollar sign and its levels match, the filter begins with a
wildcard just when its first level is one: a longer level would have to be the topic's. -/
theorem wildcard_first_iff {filter topic : String} (hidden : topic.toList.head? = some '$')
    (h : levelsMatch (levels filter) (levels topic) = true) :
    filter.toList.head? = some '+' ∨ filter.toList.head? = some '#' ↔
      (levels filter).head? = some ['+'] ∨ (levels filter).head? = some ['#'] := by
  obtain ⟨fs, hf⟩ := levels_eq_cons filter
  obtain ⟨ts, ht⟩ := levels_eq_cons topic
  obtain ⟨rest, htopic⟩ := List.head?_eq_some_iff.mp hidden
  rw [hf, ht] at h
  have hfirst := firstLevel_of_levelsMatch h
  rw [hf]
  cases hc : filter.toList with
  | nil => simp
  | cons c cs =>
    rw [hc, htopic] at hfirst
    by_cases hslash : c = '/'
    · subst hslash
      simp
    · simp [hslash] at hfirst ⊢
      grind

/-! ## The whole rule -/

/-- A filter matches a topic unless the topic begins with a dollar sign and the filter's first
level is a wildcard, and provided that their levels agree: one by one and equally many if the
filter has no `#`, else as far as the levels before the first `#` go. -/
theorem filterMatches_iff (filter topic : String) :
    filterMatches filter topic = true ↔
      ¬(topic.toList.head? = some '$' ∧
        ((levels filter).head? = some ['+'] ∨ (levels filter).head? = some ['#'])) ∧
      (['#'] ∉ levels filter ∧ List.Forall₂ TakesLevel (levels filter) (levels topic) ∨
        ∃ before after, levels filter = before ++ ['#'] :: after ∧ ['#'] ∉ before ∧
          before.length ≤ (levels topic).length ∧
          List.Forall₂ TakesLevel before ((levels topic).take before.length)) := by
  rw [← levelsMatch_iff]
  by_cases h : levelsMatch (levels filter) (levels topic) = true
  · by_cases hidden : topic.toList.head? = some '$'
    · simp [filterMatches, h, hidden, ← wildcard_first_iff hidden h]
    · simp [filterMatches, h, hidden]
  · simp [filterMatches, h]

/-- A `#` takes the level before it too, and a hidden topic only from the second level on. -/
example : filterMatches "a/#" "a" = true ∧ filterMatches "$SYS/#" "$SYS/up" = true ∧
    filterMatches "#" "$SYS/up" = false := by decide +kernel

end MqttRelay.Topic
