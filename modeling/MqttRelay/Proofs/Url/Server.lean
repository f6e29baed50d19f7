import Mathlib.Data.List.Basic
import Mathlib.Data.List.TakeWhile
import MqttRelay.Settings.Source

/-!
# The URL of a broker

A URL that names a server by scheme, host and port, and nothing else, is read as these three. The
schemes of brokers are none of the web, so that the host is taken as it stands and no port is left
out for being the usual one.

Results:
* `counted_eq_self`: nothing is dropped of a text without blanks and control characters.
* `parsePort_toDigits`: the digits of a port are read as the port.
* `parse_server`: scheme, host and port are read as they were written.
* `Settings.ofBrokerUrl_server`: the settings for the broker of a URL.
-/

namespace MqttRelay

namespace Url

/-- The characters of a plain host: letters, digits, points and hyphens. -/
def isHostChar (c : Char) : Bool := c.isAlphanum || c == '.' || c == '-'

/-! ## Characters -/

/-- A character that stands for itself in a URL and in an opaque host. -/
structure Plain (c : Char) : Prop where
  low : 0x20 < c.toNat
  high : c.toNat < 0x7F
  inHost : endsHost c = false
  inServer : endsAuthority .other c = false

theorem toNat_lt_of_isAlphanum {c : Char} (h : c.isAlphanum = true) : c.toNat < 0x80 := by
  delta Char.isAlphanum Char.isAlpha Char.isUpper Char.isLower Char.isDigit at h
  simp only [Bool.or_eq_true, Bool.and_eq_true, decide_eq_true_eq, ge_iff_le,
    UInt32.le_iff_toNat_le] at h
  have hn : c.toNat = c.val.toNat := rfl
  have hZ : 'Z'.val.toNat = 90 := rfl
  have hz : 'z'.val.toNat = 122 := rfl
  have h9 : '9'.val.toNat = 57 := rfl
  omega

theorem plain_of_isHostChar {c : Char} (h : isHostChar c = true) : Plain c := by
  have hlt : c.toNat < 0x80 := by
    simp only [isHostChar, Bool.or_eq_true, beq_iff_eq] at h
    rcases h with (h | rfl) | rfl
    · exact toNat_lt_of_isAlphanum h
    · decide
    · decide
  have hall : ∀ n < 0x80, isHostChar (Char.ofNat n) = true →
      0x20 < (Char.ofNat n).toNat ∧ (Char.ofNat n).toNat < 0x7F ∧
        endsHost (Char.ofNat n) = false ∧ endsAuthority .other (Char.ofNat n) = false := by
    decide +kernel
  rw [← Char.ofNat_toNat c] at h ⊢
  obtain ⟨low, high, inHost, inServer⟩ := hall c.toNat hlt h
  exact ⟨low, high, inHost, inServer⟩

namespace Plain

variable {c : Char}

theorem ne_of_endsHost (h : Plain c) {mark : Char} (hmark : endsHost mark = true) : c ≠ mark := by
  rintro rfl
  rw [h.inHost] at hmark
  cases hmark

theorem ne_at (h : Plain c) : c ≠ '@' := h.ne_of_endsHost (by decide)

theorem ne_colon (h : Plain c) : c ≠ ':' := h.ne_of_endsHost (by decide)

theorem ne_bracket (h : Plain c) : c ≠ '[' := h.ne_of_endsHost (by decide)

end Plain

/-! ## What counts -/

/-- Nothing is dropped of a text without blanks and control characters. -/
theorem counted_eq_self {cs : List Char} (h : ∀ c ∈ cs, 0x20 < c.toNat) : counted cs = cs := by
  have houter : ∀ c ∈ cs, isOuter c = false := fun c hc => by
    simpa [isOuter] using h c hc
  have hinner : ∀ c ∈ cs, (!isIgnored c) = true := fun c hc => by
    have hlow := h c hc
    have ht : c ≠ '\t' := by rintro rfl; revert hlow; decide
    have hn : c ≠ '\n' := by rintro rfl; revert hlow; decide
    have hr : c ≠ '\r' := by rintro rfl; revert hlow; decide
    simp [isIgnored, ht, hn, hr]
  have hdrop (l : List Char) (hl : ∀ c ∈ l, isOuter c = false) : l.dropWhile isOuter = l := by
    cases l with
    | nil => rfl
    | cons c l => rw [List.dropWhile_cons_of_neg (by simp [hl c List.mem_cons_self])]
  rw [counted, hdrop cs houter, hdrop cs.reverse (by simpa using houter), List.reverse_reverse,
    List.filter_eq_self.2 hinner]

/-! ## Host -/

theorem opaqueHost_eq_self {host : List Char} (h : ∀ c ∈ host, Plain c) :
    opaqueHost host = .ok host := by
  have hbracket : bracketed? host = none := by
    cases host with
    | nil => rfl
    | cons c host =>
      have hc : c ≠ '[' := (h c List.mem_cons_self).ne_bracket
      unfold bracketed?
      split
      · next heq => exact absurd (List.cons.inj heq).1 hc
      · rfl
  have hends : host.any endsHost = false := List.any_eq_false.2 fun c hc => by
    simp [(h c hc).inHost]
  have hself : host.flatMap opaqueChar = host := by
    rw [List.flatMap_congr fun c hc => ?_, List.flatMap_singleton']
    have := h c hc
    simp [opaqueChar, this.high, Nat.le_of_lt this.low]
  rw [opaqueHost, hbracket]
  dsimp only
  rw [hends, hself]
  rfl

/-- The host ends where a colon follows. -/
theorem takeHost_append {host : List Char} (h : ∀ c ∈ host, Plain c) {rest : List Char}
    (hrest : rest.head?.all (· = ':')) : takeHost false (host ++ rest) = (host, rest) := by
  induction host with
  | nil =>
    cases rest with
    | nil => rfl
    | cons c rest =>
      obtain rfl : c = ':' := by simpa using hrest
      rfl
  | cons c host ih =>
    obtain ⟨hc, hhost⟩ := List.forall_mem_cons.1 h
    rw [List.cons_append, takeHost, if_neg (by simp [hc.ne_colon])]
    simp [hc.ne_bracket, ih hhost]

/-! ## Port -/

/-- Digits are read as the number that they go on to, if it is a port. -/
theorem parsePort_digits {ds : List Char} (hds : ∀ c ∈ ds, c.isDigit = true) (n : Nat)
    (hlt : Nat.ofDigitChars 10 ds n < UInt16.size) :
    parsePort (some n) ds = .ok (some (.ofNat (Nat.ofDigitChars 10 ds n))) := by
  induction ds generalizing n with
  | nil => rfl
  | cons c ds ih =>
    obtain ⟨hc, hds⟩ := List.forall_mem_cons.1 hds
    rw [Nat.ofDigitChars_cons] at hlt ⊢
    have hnext : 10 * n + (c.toNat - '0'.toNat) < UInt16.size := by
      rw [Nat.ofDigitChars_eq_ofDigitChars_zero] at hlt
      have := Nat.le_mul_of_pos_left (10 * n + (c.toNat - '0'.toNat))
        (Nat.pow_pos (n := ds.length) (by decide : 0 < 10))
      omega
    rw [parsePort, if_pos hc]
    dsimp only [Option.getD_some]
    rw [if_pos hnext, ih hds _ hlt]

/-- The digits of a port are read as the port. -/
theorem parsePort_toDigits (port : UInt16) :
    parsePort none (Nat.toDigits 10 port.toNat) = .ok (some port) := by
  have hds : ∀ c ∈ Nat.toDigits 10 port.toNat, c.isDigit = true := fun c hc =>
    Nat.isDigit_of_mem_toDigits (by decide) (by decide) hc
  have hvalue : Nat.ofDigitChars 10 (Nat.toDigits 10 port.toNat) 0 = port.toNat :=
    Nat.ofDigitChars_ten_toDigits
  have hlt := port.toNat_lt
  have hzero : parsePort none (Nat.toDigits 10 port.toNat) =
      parsePort (some 0) (Nat.toDigits 10 port.toNat) := by
    obtain ⟨c, ds, hcons⟩ := List.exists_cons_of_ne_nil
      (Nat.toDigits_ne_nil : Nat.toDigits 10 port.toNat ≠ [])
    have hc : c.isDigit = true := hds c (hcons ▸ List.mem_cons_self)
    rw [hcons, parsePort, parsePort, if_pos hc, if_pos hc]
    rfl
  rw [hzero, parsePort_digits hds 0 (by rw [hvalue]; exact hlt), hvalue, UInt16.ofNat_toNat]

/-! ## Server -/

/-- The characters for the port of a server, if it has one. -/
def portChars : Option UInt16 → List Char
  | none => []
  | some port => ':' :: Nat.toDigits 10 port.toNat

theorem plain_or_colon_of_mem_portChars {port : Option UInt16} {c : Char}
    (h : c ∈ portChars port) : Plain c ∨ c = ':' := by
  cases port with
  | none => cases h
  | some port =>
    rcases List.mem_cons.1 h with rfl | h
    · exact .inr rfl
    · have hdigit := Nat.isDigit_of_mem_toDigits (by decide) (by decide) h
      exact .inl (plain_of_isHostChar (by simp [isHostChar, Char.isAlphanum, hdigit]))

/-- A server without a user, a path, a query and a fragment. -/
theorem authority_server (scheme : String) {host : List Char} (hne : host ≠ [])
    (h : ∀ c ∈ host, Plain c) (port : Option UInt16) :
    authority .other scheme (host ++ portChars port) =
      .ok { scheme, host := some (String.ofList host), port } := by
  have hinside : ∀ c ∈ host ++ portChars port, endsAuthority .other c = false ∧ c ≠ '@' := by
    intro c hc
    rcases List.mem_append.1 hc with hc | hc
    · exact ⟨(h c hc).inServer, (h c hc).ne_at⟩
    · rcases plain_or_colon_of_mem_portChars hc with hc | rfl
      · exact ⟨hc.inServer, hc.ne_at⟩
      · decide
  have htake : (host ++ portChars port).takeWhile (fun c => !endsAuthority .other c) =
      host ++ portChars port :=
    List.takeWhile_eq_self_iff.2 fun c hc => by simp [(hinside c hc).1]
  have hsplit : splitUser (host ++ portChars port) = (none, host ++ portChars port) := by
    have hdrop : (host ++ portChars port).reverse.dropWhile (· != '@') = [] :=
      List.dropWhile_eq_nil_iff.2 fun c hc => by
        simpa using (hinside c (List.mem_reverse.1 hc)).2
    rw [splitUser, hdrop]
  have hhead : (portChars port).head?.all (· = ':') := by cases port <;> rfl
  have hempty : host.isEmpty = false := by simpa using hne
  unfold authority
  simp only [htake, hsplit, takeHost_append h hhead, opaqueHost_eq_self h]
  cases port with
  | none => simp [portChars, hempty, bind, Except.bind, pure, Except.pure]
  | some port =>
    simp [portChars, parsePort_toDigits, hempty, bind, Except.bind, pure, Except.pure]

/-- The schemes of brokers. -/
def brokerSchemes : List String := ["mqtt", "tcp", "mqtts", "ssl"]

/-- Scheme, host and port of a broker are read as they were written. -/
theorem parse_server {scheme host : String} (hscheme : scheme ∈ brokerSchemes) (hne : host ≠ "")
    (hhost : ∀ c ∈ host.toList, isHostChar c = true) (port : Option UInt16) :
    parse (scheme ++ "://" ++ host ++ String.ofList (portChars port)) =
      .ok { scheme, host := some host, port } := by
  have hplain : ∀ c ∈ host.toList, Plain c := fun c hc => plain_of_isHostChar (hhost c hc)
  have hchars : (scheme ++ "://" ++ host ++ String.ofList (portChars port)).toList =
      scheme.toList ++ ':' :: '/' :: '/' :: (host.toList ++ portChars port) := by
    simp
  have hcounted : ∀ c ∈ scheme.toList ++ ':' :: '/' :: '/' :: (host.toList ++ portChars port),
      0x20 < c.toNat := by
    have hletters : ∀ s ∈ brokerSchemes, ∀ c ∈ s.toList, 0x20 < c.toNat := by decide
    intro c hc
    simp only [List.mem_append, List.mem_cons] at hc
    rcases hc with hc | rfl | rfl | rfl | hc | hc
    · exact hletters scheme hscheme c hc
    · decide
    · decide
    · decide
    · exact (hplain c hc).low
    · exact (plain_or_colon_of_mem_portChars hc).elim (·.low) fun h => h ▸ by decide
  have hread : scheme? (scheme.toList ++ ':' :: '/' :: '/' :: (host.toList ++ portChars port)) =
      some (scheme.toList, '/' :: '/' :: (host.toList ++ portChars port)) := by
    have hletters : ∀ s ∈ brokerSchemes, ∃ c name, s.toList = c :: name ∧ c.isAlpha = true ∧
        ∀ d ∈ c :: name, isSchemeChar d = true ∧ d.toLower = d := by
      simp [brokerSchemes]
      decide
    obtain ⟨c, name, heq, hc, hname⟩ := hletters scheme hscheme
    rw [heq]
    exact scheme?_eq_some c name _ hc hname
  have hkind : kindOf scheme = .other := by
    have : ∀ s ∈ brokerSchemes, kindOf s = .other := by decide
    exact this scheme hscheme
  have hchars_ne : host.toList ≠ [] := by simpa using hne
  rw [parse, hchars, counted_eq_self hcounted, parseChars, hread]
  dsimp only
  rw [String.ofList_toList, hkind]
  refine (authority_server scheme hchars_ne hplain port).trans ?_
  rw [String.ofList_toList]

end Url

namespace Settings

open Url (isHostChar brokerSchemes)

/-- A host of letters, digits, points and hyphens is not blank. -/
theorem isBlankText_of_isHostChar {host : String} (hne : host ≠ "")
    (hhost : ∀ c ∈ host.toList, isHostChar c = true) : Text.isBlankText host = false := by
  obtain ⟨c, cs, hcs⟩ := List.exists_cons_of_ne_nil (l := host.toList) (by simpa using hne)
  have hc := Url.plain_of_isHostChar (hhost c (hcs ▸ List.mem_cons_self))
  have hlow := hc.low
  have hhigh := hc.high
  have hblank : Text.isBlank c = false := by
    simp [Text.isBlank]
    omega
  simp [Text.isBlankText, hcs, hblank]

variable {clientId host : String}

theorem ofBrokerUrl_portChars (hid : isClientId clientId = true) (hne : host ≠ "")
    (hhost : ∀ c ∈ host.toList, isHostChar c = true) {scheme : String} {tls : Bool}
    (hscheme : brokerScheme? scheme = some tls) (port : Option UInt16)
    (hport : port.getD (standardPort tls) ≠ 0) :
    ofBrokerUrl clientId (scheme ++ "://" ++ host ++ String.ofList (Url.portChars port)) =
      .ok { forBroker clientId host (port.getD (standardPort tls)) with
        options := { tls := if tls then some true else none } } := by
  have hbroker : scheme ∈ brokerSchemes := by
    rcases (brokerScheme?_eq_some_iff scheme tls).1 hscheme with ⟨-, rfl | rfl⟩ | ⟨-, rfl | rfl⟩ <;>
      decide
  have haccepted : problem? { forBroker clientId host (port.getD (standardPort tls)) with
      options := { tls := if tls then some true else none } } = none :=
    (problem?_eq_none_iff _).2 ⟨hid, isBlankText_of_isHostChar hne hhost, hport, nofun⟩
  unfold ofBrokerUrl
  rw [Url.parse_server hbroker hne hhost]
  dsimp only
  rw [hscheme]
  dsimp only [forBroker] at haccepted ⊢
  rw [validated, haccepted]

/-- The settings for the broker of a URL with a scheme, a host and perhaps a port: those for the
broker, with TLS if the scheme means it and with the standard port if none is given. So the URL of
an identity leads back to the settings, and from there to the client, of that identity. -/
theorem ofBrokerUrl_server (hid : isClientId clientId = true) (hne : host ≠ "")
    (hhost : ∀ c ∈ host.toList, isHostChar c = true) :
    (∀ scheme tls standard, (scheme, tls, standard) ∈ [("mqtt", none, 1883), ("tcp", none, 1883),
        ("mqtts", some true, 8883), ("ssl", some true, 8883)] →
      (∀ port : UInt16, port ≠ 0 →
        ofBrokerUrl clientId (scheme ++ "://" ++ host ++ ":" ++ toString port.toNat) =
          .ok { forBroker clientId host port with options := { tls } }) ∧
      ofBrokerUrl clientId (scheme ++ "://" ++ host) =
        .ok { forBroker clientId host standard with options := { tls } }) ∧
    ∀ port : UInt16, port ≠ 0 →
      let i : Identity := ⟨clientId, host, port⟩
      ofBrokerUrl clientId i.brokerUrl = .ok (forBroker clientId host port) ∧
      ∀ env, ((forBroker clientId host port).clientConfig env).map (·.identity) = .ok i := by
  have hread (scheme : String) (tls : Bool) (hscheme : brokerScheme? scheme = some tls) :
      (∀ port : UInt16, port ≠ 0 →
        ofBrokerUrl clientId (scheme ++ "://" ++ host ++ ":" ++ toString port.toNat) =
          .ok { forBroker clientId host port with
            options := { tls := if tls then some true else none } }) ∧
      ofBrokerUrl clientId (scheme ++ "://" ++ host) =
        .ok { forBroker clientId host (standardPort tls) with
          options := { tls := if tls then some true else none } } := by
    constructor
    · intro port hport
      have htext : ":" ++ toString port.toNat = String.ofList (Url.portChars (some port)) := by
        apply String.toList_inj.1
        simp [Url.portChars]
      rw [String.append_assoc, htext]
      exact ofBrokerUrl_portChars hid hne hhost hscheme (some port) hport
    · have hstandard : standardPort tls ≠ 0 := by cases tls <;> decide
      simpa [Url.portChars] using ofBrokerUrl_portChars hid hne hhost hscheme none hstandard
  refine ⟨fun scheme tls standard hmem => ?_, fun port hport => ⟨?_, fun env => rfl⟩⟩
  · simp only [List.mem_cons, Prod.mk.injEq, List.not_mem_nil, or_false] at hmem
    rcases hmem with ⟨rfl, rfl, rfl⟩ | ⟨rfl, rfl, rfl⟩ | ⟨rfl, rfl, rfl⟩ | ⟨rfl, rfl, rfl⟩
    · exact hread "mqtt" false (by decide)
    · exact hread "tcp" false (by decide)
    · exact hread "mqtts" true (by decide)
    · exact hread "ssl" true (by decide)
  · exact (hread "mqtt" false (by decide)).1 port hport

/-- A host of digits and points, with the greatest port. -/
theorem ofBrokerUrl_server_address :
    isClientId "gate.way_1-a" = true ∧ (∀ c ∈ "10.0.0.5".toList, isHostChar c = true) ∧
    ofBrokerUrl "gate.way_1-a" "ssl://10.0.0.5:65535" =
      .ok { forBroker "gate.way_1-a" "10.0.0.5" 65535 with options := { tls := some true } } := by
  have hid : isClientId "gate.way_1-a" = true := by decide
  have hhost : ∀ c ∈ "10.0.0.5".toList, isHostChar c = true := by decide
  have hread := (ofBrokerUrl_server hid (by decide) hhost).1 "ssl" (some true) 8883 (by decide)
  exact ⟨hid, hhost, hread.1 65535 (by decide)⟩

end Settings

end MqttRelay
