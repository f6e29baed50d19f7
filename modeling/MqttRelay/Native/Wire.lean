import MqttRelay.Native.Connection

/-!
# Packets on the wire

The reading of packets from the bytes that a broker sends: a byte for the sort of the packet,
the length of what follows in groups of seven bits, and what follows.

Results:
* `read?_nil`: nothing is read from nothing.
* `length_of_read?`: what is left is shorter than what was read from.
-/

namespace MqttRelay.Native

namespace Wire

/-- A number in groups of seven bits, the lowest first; the upper bit of a byte says that
another one follows. At most `limit` bytes belong to it. The number, or none if it is too
long, with what follows; nothing if bytes are missing. -/
def varint : (limit : Nat) → List UInt8 → Option (Option Nat × List UInt8)
  | 0, bs => some (none, bs)
  | _ + 1, [] => none
  | limit + 1, b :: bs =>
    if b < 128 then some (some b.toNat, bs)
    else
      match varint limit bs with
      | none => none
      | some (n, rest) => some (n.map fun n => b.toNat - 128 + 128 * n, rest)

/-- A number of two bytes. -/
def word : List UInt8 → Option (Nat × List UInt8)
  | a :: b :: bs => some (a.toNat * 256 + b.toNat, bs)
  | _ => none

/-- Passes over properties, which say how long they are. -/
def skipProperties (bs : List UInt8) : Option (List UInt8) :=
  match varint 4 bs with
  | some (some n, rest) => if n ≤ rest.length then some (rest.drop n) else none
  | _ => none

/-- An id followed by properties and codes. -/
def answerBody (bs : List UInt8) : Option (Nat × List Nat) := do
  let (id, rest) ← word bs
  let codes ← skipProperties rest
  some (id, codes.map UInt8.toNat)

/-- The body of a published message; the lower half of the first byte holds its guarantee. -/
def publishBody (flags : Nat) (bs : List UInt8) : Option Packet := do
  let (size, rest) ← word bs
  if rest.length < size then none
  let topic := rest.take size
  let qos ← Qos.ofNat? (flags / 2 % 4)
  let (id, rest) ← if qos = .atMostOnce then some (0, rest.drop size) else word (rest.drop size)
  let payload ← skipProperties rest
  some (.publish topic payload qos id)

/-- The packet of a first byte and a body. -/
def body (first : UInt8) (bs : List UInt8) : Packet :=
  let flags := first.toNat % 16
  match first.toNat / 16 with
  | 2 =>
    match bs with
    | _ :: code :: _ => .connack code.toNat
    | _ => .malformed
  | 3 => (publishBody flags bs).getD .malformed
  | 4 => .unsolicited
  | 5 => .unsolicited
  | 6 => ((word bs).map fun p => Packet.pubrel p.1).getD .malformed
  | 7 => .unsolicited
  | 9 => ((answerBody bs).map fun p => Packet.suback p.1 p.2).getD .malformed
  | 11 => ((answerBody bs).map fun p => Packet.unsuback p.1 p.2).getD .malformed
  | 13 => .pingresp
  | 14 => .disconnect
  | _ => .malformed

end Wire

/-- Reads a packet from the front of bytes; nothing if bytes are missing. A packet that is too
long is none. -/
def Packet.read? : List UInt8 → Option (Packet × List UInt8)
  | [] => none
  | first :: bs =>
    match Wire.varint 4 bs with
    | none => none
    | some (none, rest) => some (.malformed, rest)
    | some (some size, rest) =>
      if packetLimit < size then some (.malformed, rest)
      else if rest.length < size then none
      else some (Wire.body first (rest.take size), rest.drop size)

theorem Packet.read?_nil : Packet.read? [] = none := rfl

theorem Wire.length_of_varint (limit : Nat) (bs : List UInt8) (n : Option Nat)
    (rest : List UInt8) (h : Wire.varint limit bs = some (n, rest)) :
    rest.length ≤ bs.length := by
  induction limit generalizing bs n with
  | zero =>
    simp only [Wire.varint, Option.some.injEq, Prod.mk.injEq] at h
    exact Nat.le_of_eq (congrArg List.length h.2.symm)
  | succ limit ih =>
    cases bs with
    | nil => simp [Wire.varint] at h
    | cons b bs =>
      simp only [Wire.varint] at h
      split at h
      · simp only [Option.some.injEq, Prod.mk.injEq] at h
        rw [h.2]
        exact Nat.le_succ _
      · split at h
        · simp at h
        · next m rest' hv =>
          simp only [Option.some.injEq, Prod.mk.injEq] at h
          have := ih bs m (by rw [hv, h.2])
          exact Nat.le_succ_of_le this

/-- What is left is shorter than what was read from. -/
theorem Packet.length_of_read? (bs rest : List UInt8) (p : Packet)
    (h : Packet.read? bs = some (p, rest)) : rest.length < bs.length := by
  cases bs with
  | nil => simp [Packet.read?] at h
  | cons b bs =>
    simp only [Packet.read?] at h
    split at h
    · simp at h
    · next rest' hv =>
      simp only [Option.some.injEq, Prod.mk.injEq] at h
      have := Wire.length_of_varint _ _ _ _ hv
      rw [← h.2]
      exact Nat.lt_succ_of_le this
    · next size rest' hv =>
      have hl := Wire.length_of_varint _ _ _ _ hv
      split at h
      · simp only [Option.some.injEq, Prod.mk.injEq] at h
        rw [← h.2]
        exact Nat.lt_succ_of_le hl
      · split at h
        · simp at h
        · simp only [Option.some.injEq, Prod.mk.injEq] at h
          rw [← h.2, List.length_drop]
          exact Nat.lt_of_le_of_lt (Nat.sub_le _ _) (Nat.lt_succ_of_le hl)

/-- All whole packets at the front of bytes, and what is left of them. -/
def Packet.readAll (bs : List UInt8) : List Packet × List UInt8 :=
  match h : Packet.read? bs with
  | none => ([], bs)
  | some (p, rest) =>
    have := Packet.length_of_read? bs rest p h
    let (ps, left) := Packet.readAll rest
    (p :: ps, left)
termination_by bs.length

end MqttRelay.Native
