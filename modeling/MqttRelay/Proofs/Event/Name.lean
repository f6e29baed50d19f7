import MqttRelay.Proofs.Router.Listeners
import MqttRelay.Settings

/-!
# Names of events

An event's name is the owner's id followed by the suffix of the kind, and nothing stands between
the two. One suffix of a client's events ends another: a disconnected client is told under
`connected` of the client whose id is longer by `dis`. No other two events of clients share a
name.

Results:
* `Key.name_client_eq_iff`: when two events of clients have one name.
* `Key.names_distinct_iff`: two clients keep out of each other's way unless one id is the other
  followed by `dis`.
* `Key.exists_colliding`: every client id has another with which it collides.
-/

namespace MqttRelay

namespace Event

namespace Kind

/-- The only suffix of a client's events that ends another is `connected`. -/
theorem suffix_of_ofClient : ∀ k ∈ ofClient, ∀ l ∈ ofClient,
    k.suffix.toList <:+ l.suffix.toList → k = l ∨ k = connected ∧ l = disconnected := by
  decide

end Kind

namespace Key

/-! ## Names of client events -/

/-- Two events of clients have one name if they are the same, or if one client is disconnected
and the other, whose id is longer by `dis`, is connected. -/
theorem name_client_eq_iff (a b : String) {k l : Kind} (hk : k ∈ Kind.ofClient)
    (hl : l ∈ Kind.ofClient) :
    (client a k).name = (client b l).name ↔
      a = b ∧ k = l ∨ a = b ++ "dis" ∧ k = .connected ∧ l = .disconnected ∨
        b = a ++ "dis" ∧ k = .disconnected ∧ l = .connected := by
  have hdis : "disconnected" = "dis" ++ "connected" := by decide
  constructor
  · intro h
    have hlist : a.toList ++ k.suffix.toList = b.toList ++ l.suffix.toList := by
      rw [← String.toList_append, ← String.toList_append]
      exact congrArg String.toList h
    have hk' : k.suffix.toList <:+ b.toList ++ l.suffix.toList := ⟨_, hlist⟩
    have hl' : l.suffix.toList <:+ b.toList ++ l.suffix.toList := ⟨_, rfl⟩
    -- The shorter of the two suffixes ends the other.
    rcases List.suffix_or_suffix_of_suffix hk' hl' with hs | hs
    · rcases Kind.suffix_of_ofClient k hk l hl hs with rfl | ⟨rfl, rfl⟩
      · exact Or.inl ⟨String.toList_injective (List.append_cancel_right hlist), rfl⟩
      · have hid : a.toList ++ "connected".toList = (b ++ "dis").toList ++ "connected".toList := by
          simpa [Kind.suffix, hdis] using hlist
        exact Or.inr (Or.inl ⟨String.toList_injective (List.append_cancel_right hid), rfl, rfl⟩)
    · rcases Kind.suffix_of_ofClient l hl k hk hs with rfl | ⟨rfl, rfl⟩
      · exact Or.inl ⟨String.toList_injective (List.append_cancel_right hlist), rfl⟩
      · have hid : b.toList ++ "connected".toList = (a ++ "dis").toList ++ "connected".toList := by
          simpa [Kind.suffix, hdis] using hlist.symm
        exact Or.inr (Or.inr ⟨String.toList_injective (List.append_cancel_right hid), rfl, rfl⟩)
  · rintro (⟨rfl, rfl⟩ | ⟨rfl, rfl, rfl⟩ | ⟨rfl, rfl, rfl⟩)
    · rfl
    · simp [name, client, Scope.text, Kind.suffix, hdis, String.append_assoc]
    · simp [name, client, Scope.text, Kind.suffix, hdis, String.append_assoc]

/-- The ids of two clients, neither of which is the other followed by `dis`. -/
def Apart (a b : String) : Prop := b ≠ a ++ "dis" ∧ a ≠ b ++ "dis"

theorem distinct_iff_apart (a b : String) :
    (∀ k ∈ Kind.ofClient, ∀ l ∈ Kind.ofClient,
      (client a k).name = (client b l).name → a = b ∧ k = l) ↔ Apart a b := by
  constructor
  · intro h
    constructor
    · intro hb
      have hn : (client a .disconnected).name = (client b .connected).name :=
        (name_client_eq_iff a b (by decide) (by decide)).2 (Or.inr (Or.inr ⟨hb, rfl, rfl⟩))
      exact absurd (h _ (by decide) _ (by decide) hn).2 (by decide)
    · intro ha
      have hn : (client a .connected).name = (client b .disconnected).name :=
        (name_client_eq_iff a b (by decide) (by decide)).2 (Or.inr (Or.inl ⟨ha, rfl, rfl⟩))
      exact absurd (h _ (by decide) _ (by decide) hn).2 (by decide)
  · rintro ⟨hb, ha⟩ k hk l hl hn
    rcases (name_client_eq_iff a b hk hl).1 hn with h | ⟨h, -⟩ | ⟨h, -⟩
    · exact h
    · exact absurd h ha
    · exact absurd h hb

theorem disjoint_iff_apart (a b : String) :
    (∀ k ∈ Kind.ofClient, ∀ l ∈ Kind.ofClient, (client a k).name ≠ (client b l).name) ↔
      a ≠ b ∧ Apart a b := by
  rw [← distinct_iff_apart]
  constructor
  · intro h
    refine ⟨?_, fun k hk l hl hn => absurd hn (h k hk l hl)⟩
    rintro rfl
    exact h .connected (by decide) .connected (by decide) rfl
  · rintro ⟨hab, h⟩ k hk l hl hn
    exact hab (h k hk l hl hn).1

/-! ## Listeners of other clients -/

variable {H : Type}

/-- A listener on one client's event is found under no event of the other exactly when no
events of the two share a name. -/
theorem listeners_addKey_iff (a b : String) (handler : H) :
    (∀ r : Router H, ∀ k ∈ Kind.ofClient, ∀ l ∈ Kind.ofClient,
      (r.addKey (client b l) handler).1.listeners (client a k).name =
        r.listeners (client a k).name) ↔
      ∀ k ∈ Kind.ofClient, ∀ l ∈ Kind.ofClient, (client a k).name ≠ (client b l).name := by
  simp only [Router.addKey, Router.listeners_add]
  constructor
  · intro h k hk l hl hn
    have hr := h .empty k hk l hl
    rw [if_pos hn.symm, hn] at hr
    exact absurd hr (by simp)
  · intro h r k hk l hl
    rw [if_neg (Ne.symm (h k hk l hl))]

/-- Removing the listeners of one client leaves those of the other exactly when no events of
the two share a name. -/
theorem listeners_removeAll_iff (a b : String) (handler : H) :
    (∀ r : Router H, ∀ l ∈ Kind.ofClient,
      (Kind.ofClient.foldl (fun r k => r.removeAll (client a k).name) r).listeners
          (client b l).name = r.listeners (client b l).name) ↔
      ∀ k ∈ Kind.ofClient, ∀ l ∈ Kind.ofClient, (client a k).name ≠ (client b l).name := by
  simp only [Router.listeners_foldl_removeAll]
  constructor
  · intro h k hk l hl hn
    have hr := h (Router.empty.addKey (client b l) handler).1 l hl
    rw [if_pos ⟨k, hk, hn⟩, Router.addKey, Router.listeners_add, if_pos rfl] at hr
    exact absurd hr (by simp)
  · intro h r l hl
    have hno : ¬ ∃ k ∈ Kind.ofClient, (client a k).name = (client b l).name := by
      rintro ⟨k, hk, hn⟩
      exact h k hk l hl hn
    rw [if_neg hno]

/-- The names of client events are distinct exactly for clients of which neither id is the
other followed by `dis`. For two different clients this is also exactly when no event of one
finds a listener of the other, and when the removal of one takes no listener from the other. -/
theorem names_distinct_iff (a b : String) (handler : H) :
    ((∀ k ∈ Kind.ofClient, ∀ l ∈ Kind.ofClient,
        (client a k).name = (client b l).name → a = b ∧ k = l) ↔
      b ≠ a ++ "dis" ∧ a ≠ b ++ "dis") ∧
    ((∀ r : Router H, ∀ k ∈ Kind.ofClient, ∀ l ∈ Kind.ofClient,
        (r.addKey (client b l) handler).1.listeners (client a k).name =
          r.listeners (client a k).name) ↔
      a ≠ b ∧ b ≠ a ++ "dis" ∧ a ≠ b ++ "dis") ∧
    ((∀ r : Router H, ∀ l ∈ Kind.ofClient,
        (Kind.ofClient.foldl (fun r k => r.removeAll (client a k).name) r).listeners
            (client b l).name = r.listeners (client b l).name) ↔
      a ≠ b ∧ b ≠ a ++ "dis" ∧ a ≠ b ++ "dis") :=
  ⟨distinct_iff_apart a b, (listeners_addKey_iff a b handler).trans (disjoint_iff_apart a b),
    (listeners_removeAll_iff a b handler).trans (disjoint_iff_apart a b)⟩

/-- Two clients whose ids are both accepted, and whose events share a name: an event of the one
reaches the listeners of the other, and its removal takes them away. -/
theorem x_collides_with_xdis :
    Settings.isClientId "x" = true ∧ Settings.isClientId "xdis" = true ∧
    (client "x" .disconnected).name = (client "xdis" .connected).name ∧
    let r := ((Router.empty : Router Unit).addKey (client "xdis" .connected) ()).1
    (r.listeners (client "x" .disconnected).name).length = 1 ∧
      ((Kind.ofClient.foldl (fun r k => r.removeAll (client "x" k).name) r).listeners
        (client "xdis" .connected).name).length = 0 := by
  decide

/-- Every client id has another with which it collides. -/
theorem exists_colliding (a : String) (h : Settings.isClientId a = true) :
    ∃ b, Settings.isClientId b = true ∧ b ≠ a ∧
      (client a .disconnected).name = (client b .connected).name := by
  simp only [Settings.isClientId, Bool.and_eq_true] at h
  have hdis : "dis".toList.all Settings.isIdChar = true := by decide
  refine ⟨a ++ "dis", ?_, ?_, ?_⟩
  · simp only [Settings.isClientId, String.toList_append, List.all_append, h.2, hdis, Bool.and_self,
      Bool.and_true]
    simp
  · intro he
    have hlength := congrArg String.length he
    rw [String.length_append] at hlength
    have : "dis".length = 3 := by decide
    omega
  · exact (name_client_eq_iff a _ (by decide) (by decide)).2 (Or.inr (Or.inr ⟨rfl, rfl, rfl⟩))

end Key

end Event

end MqttRelay
