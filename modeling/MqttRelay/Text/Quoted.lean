import MqttRelay.Text.EscapeTable
import MqttRelay.Text.Lower

/-!
# Quoted text

A text between double quotes, for diagnostics: quotes and backslashes are escaped, the usual
control characters have short escapes, and what has no glyph of its own is written by number.
The notations of optional values and of records are built from it.

Results:
* `quoteChars_ascii_letters`: letters and digits stand for themselves.
-/

namespace MqttRelay.Text

/-- The hexadecimal digits of a number, without leading zeros. -/
def hexDigits (n : Nat) : List Char :=
  Nat.toDigits 16 n

/-- A character as it stands inside a quoted text. -/
def quoteChar (c : Char) : List Char :=
  if c = '"' then ['\\', '"']
  else if c = '\\' then ['\\', '\\']
  else if c = '\n' then ['\\', 'n']
  else if c = '\r' then ['\\', 'r']
  else if c = '\t' then ['\\', 't']
  else if c.toNat = 0 then ['\\', '0']
  else if 0x20 ≤ c.toNat && c.toNat < 0x7F then [c]
  else if inRanges numberedRanges c.toNat then '\\' :: 'u' :: '{' :: (hexDigits c.toNat ++ ['}'])
  else [c]

/-- A text between double quotes, escaped. -/
def quoted (s : String) : String :=
  String.ofList ('"' :: (s.toList.flatMap quoteChar ++ ['"']))

/-- An optional value, given the notation of the value. -/
def optional (o : Option String) : String :=
  match o with
  | none => "None"
  | some s => "Some(" ++ s ++ ")"

/-- A truth value in lower case. -/
def truth (b : Bool) : String :=
  if b then "true" else "false"

/-- A record: its name, and its fields with their notations in order. -/
def record (name : String) (fields : List (String × String)) : String :=
  name ++ " \x7b " ++ String.intercalate ", " (fields.map fun f => f.1 ++ ": " ++ f.2) ++ " \x7d"

theorem quoteChar_alphanum (c : Char) (h : c.isAlphanum) : quoteChar c = [c] := by
  have h1 : c ≠ '"' := by rintro rfl; revert h; decide
  have h2 : c ≠ '\\' := by rintro rfl; revert h; decide
  have h3 : c ≠ '\n' := by rintro rfl; revert h; decide
  have h4 : c ≠ '\r' := by rintro rfl; revert h; decide
  have h5 : c ≠ '\t' := by rintro rfl; revert h; decide
  have hr : 0x30 ≤ c.toNat ∧ c.toNat < 0x7F := by
    have hn : c.toNat = c.val.toNat := rfl
    change (decide (65 ≤ c.val ∧ c.val ≤ 90) || decide (97 ≤ c.val) && decide (c.val ≤ 122) ||
      decide (48 ≤ c.val) && decide (c.val ≤ 57)) = true at h
    simp only [Bool.or_eq_true, Bool.and_eq_true, decide_eq_true_eq, UInt32.le_iff_toNat_le,
      UInt32.reduceToNat] at h
    omega
  have h6 : c.toNat ≠ 0 := by omega
  simp [quoteChar, h1, h2, h3, h4, h5, h6]
  omega

/-- Letters and digits stand for themselves inside quotes. -/
theorem quoteChars_ascii_letters (cs : List Char) (h : ∀ c ∈ cs, c.isAlphanum) :
    cs.flatMap quoteChar = cs := by
  induction cs with
  | nil => rfl
  | cons c cs ih =>
    rw [List.flatMap_cons, quoteChar_alphanum c (h c (by simp)),
      ih fun d hd => h d (by simp [hd])]
    rfl

end MqttRelay.Text
