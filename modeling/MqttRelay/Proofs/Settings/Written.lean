import MqttRelay.Command
import MqttRelay.Proofs.Toml.Document
import MqttRelay.Proofs.Value.Restored

/-!
# Settings written and read back

The settings of a bridge are shown as a file. What is unset is left out of it and comes back unset,
and texts come back whatever they hold, in whichever notation they are written.

* `Settings.sections` — the tables of settings with their data.
* `Settings.wideNumbers` — the numbers that a file may be unable to hold.

Results:
* `tables_write_sections`: the tables that are written stand for the sections.
* `read_sections`: settings are read from their sections.
* `ofText_write`: settings that are accepted are read back from a file with them.
* `shown_restored`: the file that is shown for settings gives them back.
-/

namespace MqttRelay

open Event (present)
open Toml (Bare LineOf TableOf Writes Spells)

/-! ## Sections -/

/-- The data of the client and its broker. -/
def ClientSection.pairs (c : ClientSection) : List (String × Option Value) :=
  [("client_id", some (.str c.clientId)), ("host", some (.str c.host)),
   ("port", some (.nat c.port.toNat))]

/-- The data of the options, of which those that are unset are left out. -/
def OptionsSection.pairs (o : OptionsSection) : List (String × Option Value) :=
  [("keep_alive", o.keepAlive.map fun n => .nat n.toNat),
   ("clean_session", o.cleanSession.map .bool), ("enable_ssl", o.tls.map .bool),
   ("auto_reconnect", o.autoReconnect.map .bool),
   ("retry_count", o.retryCount.map fun n => .nat n.toNat),
   ("backoff_time", o.backoffTime.map fun n => .nat n.toNat),
   ("max_backoff_time", o.maxBackoffTime.map fun n => .nat n.toNat),
   ("jitter", o.jitter.map fun n => .nat n.toNat), ("username_env", o.usernameEnv.map .str),
   ("password_env", o.passwordEnv.map .str)]

/-- The data of how a client is made. -/
def FactorySection.pairs (f : FactorySection) : List (String × Option Value) :=
  [("init_timeout_ms", some (.nat f.initTimeoutMs.toNat))]

theorem ClientSection.nodup_keys (c : ClientSection) : (c.pairs.map (·.1)).Nodup := by
  show ["client_id", "host", "port"].Nodup
  decide

theorem OptionsSection.nodup_keys (o : OptionsSection) : (o.pairs.map (·.1)).Nodup := by
  show ["keep_alive", "clean_session", "enable_ssl", "auto_reconnect", "retry_count",
    "backoff_time", "max_backoff_time", "jitter", "username_env", "password_env"].Nodup
  decide

theorem FactorySection.nodup_keys (f : FactorySection) : (f.pairs.map (·.1)).Nodup := by
  show ["init_timeout_ms"].Nodup
  decide

namespace Settings

/-- The tables of settings with their data. -/
def sections (s : Settings) : List (String × List (String × Value)) :=
  [("client", present s.client.pairs), ("options", present s.options.pairs),
   ("factory", present s.factory.pairs)]

theorem nodup_sections (s : Settings) : (s.sections.map (·.1)).Nodup := by
  show ["client", "options", "factory"].Nodup
  decide

section Reading

variable (surplus : Record.Surplus) (name : String)

theorem read_client (c : ClientSection) :
    clientRecord.readWith surplus name (.object (present c.pairs)) = .ok c := by
  refine Record.readWith_present c.nodup_keys rfl rfl ?_ surplus name
  exact Record.Reads.pure ClientSection.mk |>.required rfl rfl |>.required rfl rfl
    |>.withDefault rfl (Reader.uint16_undoes c.port).2 _

theorem read_options (o : OptionsSection) :
    optionsRecord.readWith surplus name (.object (present o.pairs)) = .ok o := by
  refine Record.readWith_present o.nodup_keys rfl rfl ?_ surplus name
  exact Record.Reads.pure OptionsSection.mk |>.nullable rfl Reader.uint16_undoes
    |>.nullable rfl Reader.bool_undoes |>.nullable rfl Reader.bool_undoes
    |>.nullable rfl Reader.bool_undoes |>.nullable rfl Reader.uint32_undoes
    |>.nullable rfl Reader.uint64_undoes |>.nullable rfl Reader.uint64_undoes
    |>.nullable rfl Reader.uint64_undoes |>.nullable rfl Reader.string_undoes
    |>.nullable rfl Reader.string_undoes

theorem read_factory (f : FactorySection) :
    factoryRecord.readWith surplus name (.object (present f.pairs)) = .ok f := by
  refine Record.readWith_present f.nodup_keys rfl rfl ?_ surplus name
  exact Record.Reads.pure FactorySection.mk
    |>.withDefault rfl (Reader.uint64_undoes f.initTimeoutMs).2 _

/-- Settings are read from their sections. -/
theorem read_sections (s : Settings) :
    read surplus (.object (s.sections.map fun m => (m.1, .object m.2))) = .ok s := by
  have hsections : s.sections.map (fun m => (m.1, Value.object m.2)) =
      present [("client", some (.object (present s.client.pairs))),
        ("options", some (.object (present s.options.pairs))),
        ("factory", some (.object (present s.factory.pairs)))] := rfl
  rw [hsections]
  refine Record.readWith_present s.nodup_sections rfl rfl ?_ surplus _
  exact Record.Reads.pure Settings.mk |>.required rfl (read_client surplus _ s.client)
    |>.withDefault rfl (read_options surplus _ s.options) _
    |>.withDefault rfl (read_factory surplus _ s.factory) _

end Reading

/-! ## Lines -/

/-- The numbers of 64 bits in settings; files hold all smaller ones. -/
def wideNumbers (s : Settings) : List UInt64 :=
  s.options.backoffTime.toList ++ s.options.maxBackoffTime.toList ++ s.options.jitter.toList ++
    [s.factory.initTimeoutMs]

theorem isWritable_iff (s : Settings) :
    s.isWritable = true ↔ ∀ n ∈ s.wideNumbers, n.toNat ≤ Toml.greatest := by
  simp only [isWritable, wideNumbers, fits, Bool.and_eq_true, Option.all_eq_true,
    decide_eq_true_eq, List.forall_mem_append, Option.mem_toList, List.forall_mem_singleton]

/-- A number of 32 bits can always be written. -/
theorem writes_narrow {n : Nat} (h : n < 2 ^ 32) : Writes (toString n) (.nat n) :=
  Toml.writes_nat (by rw [Toml.greatest]; omega)

theorem writes_uint16 (n : UInt16) : Writes (toString n.toNat) (.nat n.toNat) :=
  writes_narrow (Nat.lt_trans n.toNat_lt (by decide))

section Lines

variable {key : String} {pairs : List (String × Option Value)}

/-- A table stands for the data that are present, if each has its line. -/
theorem tableOf_present (hkey : Bare key) (hnodup : (pairs.map (·.1)).Nodup)
    {lines : List (String × String)} (hlines : List.Forall₂ LineOf lines (present pairs)) :
    TableOf (key, lines) (key, present pairs) where
  name := rfl
  bare := hkey
  lines := hlines
  nodup := hnodup.sublist (Event.keys_present_sublist pairs)

theorem lines_some {written : String} {v : Value} (hkey : Bare key) (h : Writes written v)
    {lines : List (String × String)} (hmore : List.Forall₂ LineOf lines (present pairs)) :
    List.Forall₂ LineOf ((key, written) :: lines) (present ((key, some v) :: pairs)) :=
  .cons ⟨rfl, hkey, h⟩ hmore

/-- An option that is set has a line for its value, and one that is unset has none. -/
theorem lines_option {α : Type} {text : α → String} {write : α → Value} {o : Option α}
    (hkey : Bare key) (h : ∀ a, o = some a → Writes (text a) (write a))
    {lines : List (List (String × String))}
    (hmore : List.Forall₂ LineOf lines.flatten (present pairs)) :
    List.Forall₂ LineOf (optionLine key text o :: lines).flatten
      (present ((key, o.map write) :: pairs)) := by
  cases o with
  | none => exact hmore
  | some a => exact lines_some hkey (h a rfl) hmore

end Lines

section Spelling

variable {s : Settings} (hwritable : s.isWritable = true) {spell : String → String}
  (hspell : ∀ t, Spells (spell t).toList t.toList)

include hwritable hspell

theorem lines_options :
    List.Forall₂ LineOf (optionLines spell s.options) (present s.options.pairs) := by
  have hwide (n : UInt64) (hn : n ∈ s.wideNumbers) : Writes (toString n.toNat) (.nat n.toNat) :=
    Toml.writes_nat ((isWritable_iff s).1 hwritable n hn)
  have htext (t : String) : Writes (spell t) (.str t) := Toml.writes_of_spells (hspell t)
  unfold optionLines OptionsSection.pairs
  refine lines_option (by decide) (fun n _ => writes_uint16 n) ?_
  refine lines_option (by decide) (fun b _ => Toml.writes_truth b) ?_
  refine lines_option (by decide) (fun b _ => Toml.writes_truth b) ?_
  refine lines_option (by decide) (fun b _ => Toml.writes_truth b) ?_
  refine lines_option (by decide) (fun n _ => writes_narrow n.toNat_lt) ?_
  refine lines_option (by decide) (fun n hn => hwide n (by simp [wideNumbers, hn])) ?_
  refine lines_option (by decide) (fun n hn => hwide n (by simp [wideNumbers, hn])) ?_
  refine lines_option (by decide) (fun n hn => hwide n (by simp [wideNumbers, hn])) ?_
  refine lines_option (by decide) (fun t _ => htext t) ?_
  exact lines_option (by decide) (fun t _ => htext t) .nil

/-- The tables that are written stand for the sections. -/
theorem tables_write_sections : List.Forall₂ TableOf (s.tables spell) s.sections := by
  have htext (t : String) : Writes (spell t) (.str t) := Toml.writes_of_spells (hspell t)
  have htimeout : Writes (toString s.factory.initTimeoutMs.toNat)
      (.nat s.factory.initTimeoutMs.toNat) :=
    Toml.writes_nat ((isWritable_iff s).1 hwritable _ (by simp [wideNumbers]))
  refine .cons (tableOf_present (by decide) s.client.nodup_keys ?_) (.cons
    (tableOf_present (by decide) s.options.nodup_keys (lines_options hwritable hspell)) (.cons
    (tableOf_present (by decide) s.factory.nodup_keys ?_) .nil))
  · exact lines_some (by decide) (htext _) (lines_some (by decide) (htext _)
      (lines_some (by decide) (writes_uint16 _) .nil))
  · exact lines_some (by decide) htimeout .nil

/-- Settings that are accepted are read back from a file with them, with line feeds after it or
without. -/
theorem ofText_write (haccepted : s.validated = .ok s) {tail : List Char}
    (htail : ∀ c ∈ tail, c = '\n') :
    ofText (Toml.write (s.tables spell) ++ String.ofList tail) = .ok s := by
  have hsections := tables_write_sections hwritable hspell
  have hread := Toml.read?_write hsections s.nodup_sections htail
  rw [ofText, hread]
  dsimp only
  rw [read_sections]
  exact haccepted

end Spelling

/-- What is shown for settings that are accepted gives them back, if their numbers fit into a file,
and so do they with their texts spelled in any other way. -/
theorem shown_restored {s : Settings} (haccepted : s.validated = .ok s)
    (hnumbers : ∀ n ∈ s.wideNumbers, n.toNat ≤ 2 ^ 63 - 1) :
    (∃ text,
      (∀ env, Command.perform env s (.config true) =
        .ok ([.main .info "Configuration is valid"], text ++ "\n", .succeeded)) ∧
      ofText (text ++ "\n") = .ok s ∧ ofText text = .ok s) ∧
    ∀ spell, (∀ t, Spells (spell t).toList t.toList) →
      ofText (Toml.write (s.tables spell)) = .ok s := by
  have hwritable : s.isWritable = true := (isWritable_iff s).2 hnumbers
  have htext : s.toText? = some (Toml.write (s.tables Toml.spell)) := by
    rw [toText?, if_pos hwritable]
  have hread (spell : String → String) (hspell : ∀ t, Spells (spell t).toList t.toList) :
      ofText (Toml.write (s.tables spell)) = .ok s := by
    simpa using ofText_write hwritable hspell haccepted (List.forall_mem_nil _)
  refine ⟨⟨Toml.write (s.tables Toml.spell), fun env => ?_, ?_, hread _ Toml.spells_spell⟩, hread⟩
  · simp only [Command.perform, htext, if_true]
  · exact ofText_write hwritable Toml.spells_spell haccepted (List.forall_mem_singleton.2 rfl)

/-- Settings with both marks of quotation, line feeds, control characters and the largest numbers,
and with some options unset. -/
def awkward : Settings where
  client := ⟨"relay-7", "\n\"\"\"quoted'''\\\x00\r\n", 65535⟩
  options :=
    { keepAlive := some 0, tls := some false, retryCount := some 4294967295,
      maxBackoffTime := some 9223372036854775807, usernameEnv := some "",
      passwordEnv := some "C:\\ü's" }
  factory := ⟨9223372036854775807⟩

theorem awkward_restored :
    awkward.validated = .ok awkward ∧ (∀ n ∈ awkward.wideNumbers, n.toNat ≤ 2 ^ 63 - 1) ∧
      ∃ text, (∀ env, Command.perform env awkward (.config true) =
        .ok ([.main .info "Configuration is valid"], text ++ "\n", .succeeded)) ∧
      ofText (text ++ "\n") = .ok awkward := by
  have haccepted : awkward.validated = .ok awkward := rfl
  have hnumbers : ∀ n ∈ awkward.wideNumbers, n.toNat ≤ 2 ^ 63 - 1 := by
    simp [awkward, wideNumbers]
  obtain ⟨⟨text, hshown, hread, -⟩, -⟩ := shown_restored haccepted hnumbers
  exact ⟨haccepted, hnumbers, text, hshown, hread⟩

example : awkward.toText? = some (
    "[client]\nclient_id = \"relay-7\"\n" ++
      "host = \"\"\"\n\n\"\"\\\"quoted'''\\\\\\u0000\\r\n\"\"\"\nport = 65535\n\n" ++
    "[options]\nkeep_alive = 0\nenable_ssl = false\nretry_count = 4294967295\n" ++
      "max_backoff_time = 9223372036854775807\nusername_env = \"\"\n" ++
      "password_env = '''C:\\ü's'''\n\n" ++
    "[factory]\ninit_timeout_ms = 9223372036854775807\n") := by
  decide +kernel

end Settings

end MqttRelay
