import MqttRelay.Client.Clock
import MqttRelay.Proofs.Client.Accounts

/-!
# The accounts of a world

Whatever clients do changes their accounts in transactions, if it changes them at all. Nothing has
a turn in the midst of one: callbacks, and whatever the native layer delivers on the spot, come
before it or after it.

Results:
* `Transacts.request`, `Transacts.perform`: requests and operations come down to transactions, if
  callbacks do.
* `Transacts.nested`: callbacks that run programs of operations do, at every depth of nesting.
-/

namespace MqttRelay

/-- Whether an occurrence concerns the gauge of subscriptions. -/
def Metrics.Occurrence.isOfSubscriptions : Metrics.Occurrence → Bool
  | subscriptionAdded => true
  | subscriptionReleased => true
  | reset => true
  | _ => false

theorem Metrics.subscriptions_count (m : Metrics) {o : Metrics.Occurrence}
    (h : o.isOfSubscriptions = false) : (m.count o).subscriptions = m.subscriptions := by
  cases o <;> first | rfl | cases h

namespace Client

open Native

variable {N A : Type}

/-! ## What steps of clients count -/

/-- Whether an effect concerns the gauge of subscriptions. -/
def Effect.isOfSubscriptions : Effect → Bool
  | .count o => o.isOfSubscriptions
  | .schedule .. => false

namespace State

variable {I : Type}

theorem plan_effects (runtime : Bool) (s : State I) :
    ∀ e ∈ (s.plan runtime).2, e.isOfSubscriptions = false := by
  have hcases : (∃ generation delay,
      (s.plan runtime).2 = [.schedule generation delay, .count .retryScheduled]) ∨
      (s.plan runtime).2 = [.count .cycleAbandoned] ∨ (s.plan runtime).2 = [] := by
    cases h : Retry.decide s.retry.count (.ofOptions s.options) with
    | proceed attempt =>
      cases runtime with
      | true => exact .inl ⟨_, _, by rw [plan, h]; rfl⟩
      | false => exact .inr (.inl (by rw [plan, h]; rfl))
    | disabled => exact .inr (.inr (by rw [plan, h]))
    | exhausted => exact .inr (.inl (by rw [plan, h]))
  rcases hcases with ⟨generation, delay, h⟩ | h | h <;> rw [h]
  · exact List.forall_mem_cons.2 ⟨rfl, List.forall_mem_singleton.2 rfl⟩
  · exact List.forall_mem_singleton.2 rfl
  · exact List.forall_mem_nil _

theorem issue_effects (s : State I) (origin : Origin) :
    ∀ e ∈ (s.issue origin).effects, e.isOfSubscriptions = false := by
  unfold issue
  split <;> simp [Effect.isOfSubscriptions, Metrics.Occurrence.isOfSubscriptions]

theorem ended_effects (runtime : Bool) (reason : ReasonCode) (s : State I) :
    ∀ e ∈ (s.ended runtime reason).2, e.isOfSubscriptions = false := by
  have hplan {o : Metrics.Occurrence} (ho : o.isOfSubscriptions = false) (t : State I) :
      ∀ e ∈ .count o :: (t.plan runtime).2, e.isOfSubscriptions = false :=
    List.forall_mem_cons.2 ⟨ho, plan_effects runtime t⟩
  unfold ended
  split
  · simp
  · dsimp only
    split
    · split
      · exact hplan rfl _
      · simp [Effect.isOfSubscriptions, Metrics.Occurrence.isOfSubscriptions]
    · split
      · exact hplan rfl _
      · simp [Effect.isOfSubscriptions, Metrics.Occurrence.isOfSubscriptions]
    · simp

/-- Steps of clients count nothing about subscriptions. -/
theorem step_effects (runtime : Bool) (input : Input) (s : State I) :
    ∀ e ∈ (s.step runtime input).effects, e.isOfSubscriptions = false := by
  have hanswered (generation : Nat) (overrides : Option Options) (s : State I) :
      ∀ e ∈ (s.answered generation overrides).effects, e.isOfSubscriptions = false := by
    unfold answered
    split
    · simp
    · exact issue_effects _ _
  cases input with
  | connect overrides =>
    simp only [step, connect]
    split
    · simp
    · exact issue_effects _ _
  | disconnect =>
    simp only [step, disconnect]
    split <;> simp
  | remove => simp [step]
  | refused origin =>
    simp only [step, quiet, refused]
    split <;> simp [Effect.isOfSubscriptions, Metrics.Occurrence.isOfSubscriptions]
  | acknowledged =>
    simp only [step, quiet, acknowledged]
    split
    · simp
    · split <;> simp [Effect.isOfSubscriptions, Metrics.Occurrence.isOfSubscriptions]
  | ended reason => exact ended_effects runtime reason s
  | fired generation =>
    simp only [step, fired]
    split
    · simp
    · split
      · simp
      · split
        · simp
        · exact hanswered _ _ _
  | answered generation overrides => exact hanswered generation overrides s
  | failed generation panicked =>
    cases panicked <;>
      simp [step, quiet, failed, Effect.isOfSubscriptions, Metrics.Occurrence.isOfSubscriptions]

end State

namespace World

/-! ## The accounts of a world -/

/-- What is accounted for in a world. -/
def accounts (w : World N A) : Accounts where
  clients := w.store.clients.map fun m => ⟨m.identity.clientId, m.registry⟩
  subscriptions := w.store.subscriptions
  gauge := w.metrics.subscriptions

theorem clients_accounts (w : World N A) (client : Nat) :
    w.accounts.clients[client]? =
      (w.client? client).map fun m => ⟨m.identity.clientId, m.registry⟩ := List.getElem?_map

theorem account_of_client {w : World N A} {client : Nat} {m : Member}
    (hm : w.client? client = some m) :
    w.accounts.clients[client]? = some ⟨m.identity.clientId, m.registry⟩ := by
  rw [clients_accounts, hm, Option.map_some]

/-- A client changes as its account does. -/
theorem accounts_modifyClient (client : Nat) {f : Member → Member} {g : Registry → Registry}
    (w : World N A)
    (hf : ∀ m, w.client? client = some m →
      (f m).identity.clientId = m.identity.clientId ∧ (f m).registry = g m.registry) :
    (w.update (·.modifyClient client f)).accounts = w.accounts.modify client g := by
  have hclients : (w.store.clients.modify client f).map (fun m => Account.mk m.identity.clientId
      m.registry) = (w.accounts.modify client g).clients := by
    refine List.ext_getElem? fun other => ?_
    rw [List.getElem?_map, List.getElem?_modify, Accounts.clients_modify, clients_accounts]
    by_cases he : client = other
    · subst he
      cases hm : w.store.clients[client]? with
      | none => simp [hm, client?]
      | some m =>
        obtain ⟨hclientId, hregistry⟩ := hf m hm
        simp [hm, client?, hclientId, hregistry]
    · cases hm : w.store.clients[other]? <;> simp [he, hm, client?]
  exact congrArg (Accounts.mk · _ _) hclients

theorem accounts_modifyClient_of_same (client : Nat) {f : Member → Member} (w : World N A)
    (hf : ∀ m, (f m).identity.clientId = m.identity.clientId ∧ (f m).registry = m.registry) :
    (w.update (·.modifyClient client f)).accounts = w.accounts := by
  rw [accounts_modifyClient client (g := fun r => r) w fun m _ => hf m]
  exact congrArg (Accounts.mk · _ _) (List.modify_id client w.accounts.clients)

theorem accounts_tag {client : Nat} {m : Member} {w : World N A} (hm : w.client? client = some m)
    (number : Nat) :
    (w.tag client m).accounts = w.accounts.modify client (Registry.next number false) :=
  accounts_modifyClient client w fun m' hm' => by
    obtain rfl := Option.some.inj (hm.symm.trans hm')
    exact ⟨rfl, rfl⟩

/-- A subscription is made that never is active. -/
theorem accounts_rejected {m : Member} {w : World N A} {s : Subscription}
    (hm : w.client? s.client = some m) (hs : s.active = false) :
    ((w.tag s.client m).addSubscription s).accounts =
      (w.accounts.modify s.client (Registry.next w.store.subscriptions.length s.active)).add s := by
  rw [hs, ← accounts_tag hm, Accounts.add, hs]
  rfl

theorem accounts_establish {m : Member} {w : World N A} {s : Subscription}
    (hm : w.client? s.client = some m) (hs : s.active = true) (wish : Outside.Wish) :
    (w.establish m s wish).accounts =
      (w.accounts.modify s.client (Registry.next w.store.subscriptions.length true)).add
        { s with listeners := s.handles w.router.nextId } := by
  have henroll := accounts_modifyClient s.client
    (f := fun m => { m with registry :=
      { m.registry with entries := m.registry.entries ++ [w.store.subscriptions.length] } })
    (g := fun r => { r with entries := r.entries ++ [w.store.subscriptions.length] })
    (w.tag s.client m) fun _ _ => ⟨rfl, rfl⟩
  rw [accounts_tag hm w.store.subscriptions.length, Accounts.modify, Accounts.modify,
    List.modify_modify_eq] at henroll
  have hclients := congrArg Accounts.clients henroll
  refine Accounts.ext hclients rfl ?_
  show _ = w.metrics.subscriptions + if s.active = true then 1 else 0
  rw [if_pos hs]
  rfl

theorem accounts_unregister (client number : Nat) (w : World N A) :
    (w.unregister client number).accounts =
      w.accounts.modify client (Registry.without number) :=
  accounts_modifyClient client w fun _ _ => ⟨rfl, rfl⟩

theorem accounts_shut (client : Nat) (w : World N A) :
    (w.shut client).accounts = w.accounts.modify client Registry.shut :=
  accounts_modifyClient client w fun _ _ => ⟨rfl, rfl⟩

theorem accounts_detach (number : Nat) (w : World N A) :
    (w.detach number).accounts = w.accounts.detach number := by
  have hclients : (w.detach number).store.clients = w.store.clients := by
    obtain ⟨_, hstore⟩ := w.detach_store number
    rw [hstore]
  have hsubscriptions : (w.detach number).store.subscriptions =
      (w.accounts.detach number).subscriptions := by
    refine List.ext_getElem? fun other => ?_
    rw [subscriptions_detach, Accounts.subscriptions_detach]
    by_cases he : number = other
    · simp only [he, true_and, if_true]
      rfl
    · simp [he, accounts]
  have hgauge : (w.detach number).metrics.subscriptions = (w.accounts.detach number).gauge := by
    unfold World.detach Accounts.detach
    cases hs : w.store.subscriptions[number]? with
    | none => simp [accounts, hs]
    | some s =>
      cases ha : s.active <;>
        simp [accounts, hs, ha, Hub.count, Metrics.count, update, setRouter]
  exact Accounts.ext (congrArg (List.map _) hclients) hsubscriptions hgauge

theorem accounts_foldl_detach (numbers : List Nat) (w : World N A) :
    (numbers.foldl (fun w n => w.detach n) w).accounts =
      numbers.foldl Accounts.detach w.accounts := by
  induction numbers generalizing w with
  | nil => rfl
  | cons n numbers ih => rw [List.foldl_cons, ih, accounts_detach, List.foldl_cons]

/-- Transactions lead from the accounts of a world to those of another. -/
def Transacts (w after : World N A) : Prop :=
  Relation.ReflTransGen Accounts.Transaction w.accounts after.accounts

namespace Transacts

theorem of_eq {w after : World N A} (h : after.accounts = w.accounts) : Transacts w after := by
  rw [Transacts, h]

theorem refl (w : World N A) : Transacts w w := Relation.ReflTransGen.refl

theorem trans {a b c : World N A} (h₁ : Transacts a b) (h₂ : Transacts b c) : Transacts a c :=
  Relation.ReflTransGen.trans h₁ h₂

theorem single {w after : World N A} (h : Accounts.Transaction w.accounts after.accounts) :
    Transacts w after := Relation.ReflTransGen.single h

/-! ## Beside the accounts -/

theorem count {o : Metrics.Occurrence} (h : o.isOfSubscriptions = false) (w : World N A) :
    Transacts w (w.count o) :=
  of_eq (congrArg (Accounts.mk _ _) (w.metrics.subscriptions_count h))

theorem note (e : Entry) (w : World N A) : Transacts w (w.note e) := of_eq rfl

theorem pin (client : Nat) (w : World N A) : Transacts w (w.pin client) := of_eq rfl

theorem unpin (client : Nat) (w : World N A) : Transacts w (w.unpin client) := of_eq rfl

theorem listen (router : Router Handler) (w : World N A) : Transacts w (w.setRouter router) :=
  of_eq rfl

/-- A client changes beside its registry. -/
theorem change (client : Nat) {f : Member → Member} (w : World N A)
    (hf : ∀ m, (f m).identity.clientId = m.identity.clientId ∧ (f m).registry = m.registry) :
    Transacts w (w.update (·.modifyClient client f)) :=
  of_eq (accounts_modifyClient_of_same client w hf)

theorem setState (client : Nat) (state : State Nat) (w : World N A) :
    Transacts w (w.setState client state) := change client w fun _ => ⟨rfl, rfl⟩

/-! ## Steps of clients -/

theorem enact (client : Nat) {effects : List Effect}
    (h : ∀ e ∈ effects, e.isOfSubscriptions = false) (w : World N A) :
    Transacts w (w.enact client effects) :=
  enact_rel refl trans (fun o ho => count (h (.count o) ho)) (fun _ _ _ => of_eq rfl) w

theorem move (client : Nat) {f : State Nat → State Nat × List Effect}
    (hf : ∀ s, ∀ e ∈ (f s).2, e.isOfSubscriptions = false) (w : World N A) :
    Transacts w (w.move client f) := by
  unfold World.move
  split
  · exact refl w
  · next m _ =>
    exact (setState client (f m.state).1 w).trans (enact client (hf m.state) _)

theorem deliverAnswer (creation : Nat) (ready : Bool) (w : World N A) :
    Transacts w (w.deliverAnswer creation ready) := by
  unfold World.deliverAnswer
  split <;> exact of_eq rfl

theorem wake (w : World N A) : Transacts w w.wake := by
  obtain ⟨creations, h⟩ := w.wake_eq
  rw [h]
  exact of_eq rfl

/-! ## Subscriptions -/

/-- A subscription ends and leaves the registry, in whatever order. -/
theorem withdraw {client number : Nat} {w : World N A}
    (hown : ∀ s, w.store.subscriptions[number]? = some s → s.client = client) :
    Transacts w ((w.detach number).unregister client number) := by
  refine single ?_
  rw [accounts_unregister, accounts_detach]
  exact .withdraw w.accounts client number hown

theorem closeRegistry (client : Nat) (w : World N A) : Transacts w (w.closeRegistry client) := by
  unfold World.closeRegistry
  split
  · exact refl w
  · next m hm =>
    show Transacts w (m.registry.entries.foldl (fun w n => w.detach n) (w.shut client))
    refine single ?_
    rw [Leads.foldl_detach_shut, accounts_shut, accounts_foldl_detach]
    exact .close w.accounts client _ (account_of_client hm)

section Made

variable {m : Member} {s : Subscription} {w : World N A} (hm : w.client? s.client = some m)
  (hclientId : s.clientId = m.identity.clientId)
  (hid : s.id = .generate s.clientId s.topic s.qos (m.registry.tag + 1))

include hm hclientId hid

/-- A subscription for a client whose registry is closed never is active. -/
theorem reject (hs : s.active = false) :
    Transacts w ((w.tag s.client m).addSubscription s) := by
  refine single ?_
  rw [accounts_rejected hm hs]
  exact .add w.accounts _ s (account_of_client hm) hclientId hid

theorem establish (hs : s.active = true) (wish : Outside.Wish) :
    Transacts w (w.establish m s wish) := by
  refine single ?_
  rw [accounts_establish hm hs wish, ← hs]
  exact .add w.accounts _ { s with listeners := s.handles w.router.nextId } (account_of_client hm)
    hclientId hid

end Made

/-- A new subscription that was asked for in vain is taken back, whatever happened meanwhile. -/
theorem takeBack {m : Member} {s : Subscription} {wish : Outside.Wish} {w after : World N A}
    (h : Transacts (w.establish m s wish) after) :
    let number := w.store.subscriptions.length
    Transacts after ((after.unregister s.client number).detach number) := by
  intro number
  rw [Leads.detach_unregister]
  refine withdraw fun t ht => ?_
  obtain ⟨t', ht', hb⟩ := Accounts.subscription_of_transactions h
    (List.getElem?_concat_length (l := w.store.subscriptions))
  obtain rfl : t' = t := Option.some.inj (ht'.symm.trans ht)
  exact hb.client

/-! ## Events, requests and operations -/

theorem composable : Composable (Transacts : World N A → World N A → Prop) where
  refl := refl
  trans := trans
  panicked := count rfl
  delivered _ _ := count rfl
  held h := ((pin _ _).trans h).trans (unpin _ _)

section Operations

variable {outside : Outside N A}
  (htell : ∀ callback notice w, Transacts w (outside.tell callback notice w).1)

include htell

theorem act (handler : Handler) (payload : Event.Payload) (w : World N A) :
    Transacts w (outside.act handler payload w).1 :=
  composable.act (fun creation _ => deliverAnswer creation _ w)
    (fun client _ => move client (State.step_effects true .acknowledged) w)
    (fun client reason _ => move client (State.ended_effects _ reason) w)
    fun callback _ => htell callback

theorem call (l : Listener Handler) (payload : Event.Payload) (w : World N A) :
    Transacts w (Hub.call outside.act l payload w).1 := composable.call (act htell _ _ w)

theorem emit (event : String) (payload : Event.Payload) (w : World N A) :
    Transacts w (Hub.emit outside.act event payload w).1 :=
  composable.emit fun l _ => act htell l.handler payload

/-- Whoever has a turn in an event finds a world that transactions led to. -/
theorem turn (payload : Event.Payload) (ls : List (Listener Handler)) (w : World N A) :
    ∀ t ∈ Hub.turns outside.act payload ls w, Transacts w t.2 :=
  Hub.turn_rel refl trans ls (fun l _ => call htell l payload) w

/-- A request, with the events that the native layer delivers on the spot. -/
theorem request (r : Request) (w : World N A) : Transacts w (outside.request r w).1 := by
  have hasked : Transacts w (outside.asked r w) := of_eq rfl
  exact composable.request hasked (fun e _ => emit htell e.key.name e.payload)
    fun f => note (.fault f)

theorem comply (client : Nat) (ask : Ask Nat) (w : World N A) :
    Transacts w (outside.comply client ask w) :=
  composable.comply (fun _ => request htell _ w) (request htell _ w)
    (fun origin => move client (State.step_effects true (.refused origin)))
    fun _ _ _ _ => of_eq rfl

/-- A client has a turn with all that follows. -/
theorem drive (client : Nat) (input : Input) (w : World N A) :
    Transacts w (outside.drive client input w) :=
  composable.drive (fun m _ => (setState client _ _).trans
    (enact client (m.state.step_effects w.store.runtime input) _))
    fun _ ask _ _ => comply htell client ask _

theorem remove (client : Nat) (w : World N A) : Transacts w (outside.remove client w) := by
  refine composable.remove (fun m _ told htold => ?_) (count rfl) wake
  have hmarked : Transacts (w.pin client) (w.markRemoved client) :=
    change client _ fun _ => ⟨rfl, rfl⟩
  have hcleared (v : World N A) : Transacts v (v.clear client m) :=
    (listen _ v).trans (closeRegistry client _)
  rcases htold with rfl | rfl
  · exact hmarked.trans (hcleared _)
  · exact (hmarked.trans (request htell _ _)).trans (hcleared _)

theorem subscribe (client : Nat) (wish : Outside.Wish) (w : World N A) :
    Transacts w (outside.subscribe client wish w).1 := by
  refine composable.subscribe (fun m hm => ?_) (fun m hm _ => ⟨?_, ?_, ?_⟩)
    fun callback _ => htell callback
  · exact reject (s := { wish.subscription client m with active := false }) hm rfl rfl rfl
  · exact establish (s := wish.subscription client m) hm rfl rfl rfl wish
  · exact request htell _ _
  · exact takeBack (s := wish.subscription client m) (request htell _ _)

theorem unsubscribe (number : Nat) (w : World N A) :
    Transacts w (outside.unsubscribe number w) := by
  refine composable.unsubscribe fun s hs => ⟨withdraw fun t ht => ?_, request htell _ _⟩
  obtain rfl : s = t := Option.some.inj (hs.symm.trans ht)
  rfl

/-- An operation, with all that it makes happen. -/
theorem perform (o : Operation) (w : World N A) : Transacts w (outside.perform o w) := by
  cases o with
  | connect client overrides => exact drive htell client _ w
  | disconnect client => exact drive htell client _ w
  | remove client => exact remove htell client w
  | subscribe client wish => exact subscribe htell client wish w
  | unsubscribe number => exact unsubscribe htell number w
  | on client interest callback => exact listen _ w
  | off handle => exact listen _ w
  | removeAll event => exact listen _ w
  | install client interceptor => exact change client w fun _ => ⟨rfl, rfl⟩
  | uninstall client number => exact change client w fun _ => ⟨rfl, rfl⟩

theorem execute (program : Program N A) (w : World N A) :
    Transacts w (outside.execute program w).1 :=
  composable.execute (fun _ _ => of_eq rfl) (perform htell) program w

end Operations

/-- Callbacks that run programs of operations come down to transactions, however deep they
nest. -/
theorem nested (layer : Layer N) (program : Nat → Notice → Program N A) (depth : Nat) :
    ∀ callback notice w,
      Transacts w ((Outside.nested layer program depth).tell callback notice w).1 :=
  composable.nested (fun _ _ => of_eq rfl) (fun _ _ => perform) program depth

end Transacts

end World

end Client

end MqttRelay
