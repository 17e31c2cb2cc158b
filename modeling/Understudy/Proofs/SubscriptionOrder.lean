import Understudy.Proofs.RaisingEvents
import Understudy.Proofs.ReadBack
import Understudy.Mock.Proxy

set_option autoImplicit false

/-!
# Subscriptions follow an ordered-list model

A node keeps, for each event, its handlers in subscription order, and issues subscription ids
from one counter shared by all its events. The model is the history of answered operations: the
handlers of an event are the pairs subscribed to it and not cancelled since, in subscription order
(`EventHistory.liveAfter`). `EventHistory.Follows` says that a node is where a history leaves it;
one operation keeps it so (`Follows.perform`), hence a whole run (`Follows.run`). Ids are issued
consecutively from the 64-bit counter, which wraps: they are distinct exactly while a run makes at
most 2^64 subscriptions (`Follows.nodup_ids_iff`), and while the ids still to come are unused, a
cancellation drops exactly the pair it names (`Follows.handlerIdsFresh`).

Operations go through the node's receiver or through a proxy over it (`EventPort`). A proxy
refuses an event its type does not declare and changes nothing; a refused operation plays no part
in the model, and neither does raising an event.

Main result: `events_follow_subscription_order`.
-/

namespace Understudy

/-- An operation on the events of a node. -/
inductive EventOp where
  | subscribe (event : String) (handler : Callback)
  | unsubscribe (event : String) (id : UInt64)
  | raise (event : String) (args : List CallArg)

def EventOp.event : EventOp → String
  | .subscribe e _ => e
  | .unsubscribe e _ => e
  | .raise e _ => e

/-- What an operation answered. -/
inductive EventAnswer where
  | subscribed (id : UInt64)
  | unsubscribed (removed : Bool)
  | raised (ran : Bool)
  | refused (f : DispatchFault)
  deriving DecidableEq

/-- Answered operations, oldest first. -/
abbrev EventHistory := List (EventOp × EventAnswer)

namespace EventHistory

def subscription? : EventOp × EventAnswer → Option (String × UInt64 × Callback)
  | (.subscribe e cb, .subscribed id) => some (e, id, cb)
  | _ => none

def cancels (e : String) (id : UInt64) : EventOp × EventAnswer → Bool
  | (.unsubscribe e' id', .unsubscribed _) => e' == e && id' == id
  | _ => false

def survives (e : String) (id : UInt64) (H : EventHistory) : Bool :=
  H.all fun x => !cancels e id x

def subscribedTo (e : String) : EventHistory → List (UInt64 × Callback)
  | [] => []
  | x :: rest =>
    match subscription? x with
    | some (e', id, cb) =>
      if e' = e ∧ survives e id rest then (id, cb) :: subscribedTo e rest else subscribedTo e rest
    | none => subscribedTo e rest

def liveAfter (init : List (UInt64 × Callback)) (e : String) (H : EventHistory) :
    List (UInt64 × Callback) :=
  init.filter (fun p => survives e p.1 H) ++ subscribedTo e H

def subscriptionIds (H : EventHistory) : List UInt64 :=
  H.filterMap fun x => (subscription? x).map (·.2.1)

@[simp] theorem survives_nil (e : String) (id : UInt64) : survives e id [] = true := rfl

@[simp] theorem survives_append (e : String) (id : UInt64) (H H' : EventHistory) :
    survives e id (H ++ H') = (survives e id H && survives e id H') := by
  simp [survives]

@[simp] theorem survives_single (e : String) (id : UInt64) (x : EventOp × EventAnswer) :
    survives e id [x] = !cancels e id x := by
  simp [survives]

theorem subscribedTo_single (e : String) (x : EventOp × EventAnswer) :
    subscribedTo e [x] = match subscription? x with
      | some (e', id, cb) => if e' = e then [(id, cb)] else []
      | none => [] := by
  simp only [subscribedTo, survives_nil, and_true]

theorem subscribedTo_concat (e : String) (H : EventHistory) (x : EventOp × EventAnswer) :
    subscribedTo e (H ++ [x]) =
      (subscribedTo e H).filter (fun p => !cancels e p.1 x) ++ subscribedTo e [x] := by
  induction H with
  | nil => simp [subscribedTo]
  | cons y rest ih =>
    rw [List.cons_append, subscribedTo.eq_2 e y (rest ++ [x]), subscribedTo.eq_2 e y rest]
    rcases subscription? y with _ | ⟨e', id, cb⟩
    · exact ih
    · by_cases he : e' = e
      · cases hx : cancels e id x <;> by_cases hrest : survives e id rest <;>
          simp [he, hrest, hx, ih]
      · simp [he, ih]

theorem liveAfter_concat (init : List (UInt64 × Callback)) (e : String) (H : EventHistory)
    (x : EventOp × EventAnswer) :
    liveAfter init e (H ++ [x]) =
      (liveAfter init e H).filter (fun p => !cancels e p.1 x) ++ subscribedTo e [x] := by
  simp only [liveAfter, subscribedTo_concat, survives_append, survives_single, List.filter_append,
    List.filter_filter, List.append_assoc]
  congr 2
  funext p
  exact Bool.and_comm _ _

theorem subscriptionIds_concat (H : EventHistory) (x : EventOp × EventAnswer) :
    subscriptionIds (H ++ [x]) = subscriptionIds H ++ ((subscription? x).map (·.2.1)).toList := by
  cases h : subscription? x <;> simp [subscriptionIds, h]

theorem subscribedTo_sublist (e : String) (H : EventHistory) :
    ((subscribedTo e H).map (·.1)).Sublist (subscriptionIds H) := by
  induction H with
  | nil => simp [subscribedTo, subscriptionIds]
  | cons x rest ih =>
    have hids : subscriptionIds (x :: rest) =
        ((subscription? x).map (·.2.1)).toList ++ subscriptionIds rest := by
      cases h : subscription? x <;> simp [subscriptionIds, h]
    rw [subscribedTo, hids]
    cases h : subscription? x with
    | none => exact ih
    | some t =>
      obtain ⟨e', id, cb⟩ := t
      simp only [Option.map_some, Option.toList_some, List.singleton_append]
      split
      · exact ih.cons_cons id
      · exact ih.cons id

/-- An answered operation that neither subscribes, cancels nor answers an unsubscription. -/
def Inert (x : EventOp × EventAnswer) : Prop :=
  subscription? x = none ∧ (∀ e id, cancels e id x = false) ∧
    ∀ e id b, x ≠ (.unsubscribe e id, .unsubscribed b)

theorem inert_raise (e : String) (args : List CallArg) (a : EventAnswer) :
    Inert (.raise e args, a) :=
  ⟨rfl, fun _ _ => rfl, by simp⟩

theorem inert_refused (op : EventOp) (f : DispatchFault) : Inert (op, .refused f) := by
  cases op <;> exact ⟨rfl, fun _ _ => rfl, by simp⟩

end EventHistory

/-- Within each event of node `n` the handler ids are distinct, and none is among the next `room`
ids the node's counter issues. -/
def Graph.HandlerIdsFresh (g : Graph) (n : NodeId) (room : Nat) : Prop :=
  ∀ e, ((g.handlers n e).map (·.1)).Nodup ∧
    ∀ p ∈ g.handlers n e, ∀ i < room, p.1 ≠ (g.node n).nextSubscription + UInt64.ofNat i

theorem Graph.handlerIdsFresh_of_events_nil (g : Graph) (n : NodeId) (room : Nat)
    (h : (g.node n).events = []) : g.HandlerIdsFresh n room := by
  intro e
  simp [Graph.handlers, h, findKey?]

/-! ## The node's own operations -/

namespace NodeId

variable {ε : Type} (n : NodeId) (s : Session)

theorem subscribe_run (e : String) (cb : Callback) (hn : n.idx < s.graph.nodes.size) :
    ∃ g, (n.subscribe e cb : Act ε UInt64).run s =
        .ok (s.graph.node n).nextSubscription { s with graph := g } ∧
      g.nodes.size = s.graph.nodes.size ∧
      (g.node n).nextSubscription = (s.graph.node n).nextSubscription + 1 ∧
      ∀ e', g.handlers n e' = if e' = e
        then s.graph.handlers n e ++ [((s.graph.node n).nextSubscription, cb)]
        else s.graph.handlers n e' := by
  refine ⟨_, rfl, Array.size_modify, ?_, fun e' => ?_⟩
  · rw [Graph.node_modifyNode_self _ _ hn]
  · rw [Graph.handlers, Graph.node_modifyNode_self _ _ hn]
    split
    · subst e'
      rw [findKey?_insertOrdered_same]
      rfl
    · rename_i he
      rw [findKey?_insertOrdered_ne _ _ _ he]
      rfl

theorem unsubscribe_run (e : String) (id : UInt64) (hn : n.idx < s.graph.nodes.size) :
    ∃ g, (n.unsubscribe e id : Act ε Bool).run s =
        .ok ((s.graph.handlers n e).any (·.1 == id)) { s with graph := g } ∧
      g.nodes.size = s.graph.nodes.size ∧
      (g.node n).nextSubscription = (s.graph.node n).nextSubscription ∧
      ∀ e', g.handlers n e' = if e' = e
        then (s.graph.handlers n e).filter (·.1 != id)
        else s.graph.handlers n e' := by
  have hhs : s.graph.handlers n e = (findKey? (s.graph.node n).events e).getD [] := rfl
  simp only [unsubscribe, Understudy.graph, EStateM.run_bind, EStateM.run_get, EStateM.run_pure]
  cases hk : findKey? (s.graph.node n).events e with
  | none =>
    rw [hk] at hhs
    refine ⟨s.graph, by rw [hhs]; rfl, rfl, rfl, fun e' => ?_⟩
    split
    · subst e'
      simp [hhs]
    · rfl
  | some hs =>
    rw [hk] at hhs
    refine ⟨s.graph.modifyNode n fun nd =>
      { nd with events := insertOrdered nd.events e (hs.filter (·.1 != id)) }, ?_,
      Array.size_modify, ?_, fun e' => ?_⟩
    · -- the filter drops a pair exactly when some pair has the id
      have hans : ((hs.filter (·.1 != id)).length != hs.length) = hs.any (·.1 == id) := by
        apply Bool.eq_iff_iff.mpr
        rw [bne_iff_ne, ne_eq, List.length_filter_eq_length_iff, List.any_eq_true]
        simp
      rw [hhs, Option.getD_some, ← hans]
      rfl
    · rw [Graph.node_modifyNode_self _ _ hn]
    · rw [Graph.handlers, Graph.node_modifyNode_self _ _ hn]
      split
      · subst e'
        rw [findKey?_insertOrdered_same, hhs]
        rfl
      · rename_i he
        rw [findKey?_insertOrdered_ne _ _ _ he]
        rfl

end NodeId

/-! ## Ports -/

theorem handlerArgs_values (ps : List TypeId) (vs : List Value) :
    (((ps.zip vs).map fun tv => ({ value := tv.2, declared := some tv.1 } : CallArg)) ++
      CallArg.plain (vs.drop ps.length)).map CallArg.value = vs := by
  induction ps generalizing vs with
  | nil => simp [CallArg.plain, Function.comp_def]
  | cons t ps ih =>
    cases vs with
    | nil => rfl
    | cons v vs => simpa using ih vs

/-- Where the events of a node are subscribed and raised: its receiver, or a proxy over it. -/
inductive EventPort where
  | receiver (r : Receiver)
  | proxy (p : Proxy)

namespace EventPort

def node : EventPort → NodeId
  | .receiver r => r.node
  | .proxy p => p.receiver.node

def refusal? : EventPort → String → Option DispatchFault
  | .receiver _, _ => none
  | .proxy p, e =>
    match p.event e with
    | .ok _ => none
    | .error f => some f

def subscribe : EventPort → String → Callback → Act DispatchFault UInt64
  | .receiver r, e, cb => r.subscribe e cb
  | .proxy p, e, cb => p.subscribe e cb

def unsubscribe : EventPort → String → UInt64 → Act DispatchFault Bool
  | .receiver r, e, id => r.unsubscribe e id
  | .proxy p, e, id => p.unsubscribe e id

/-- Raises an event; a proxy is given the argument values. -/
def raise : EventPort → String → List CallArg → Act DispatchFault Bool
  | .receiver r, e, args => r.raise e args
  | .proxy p, e, args => p.raise e (args.map CallArg.value)

def perform (port : EventPort) (s : Session) (op : EventOp) : EventAnswer × Session :=
  match op with
  | .subscribe e cb => settle .subscribed ((port.subscribe e cb).run s)
  | .unsubscribe e id => settle .unsubscribed ((port.unsubscribe e id).run s)
  | .raise e args => settle .raised ((port.raise e args).run s)
where
  settle {α : Type} (answer : α → EventAnswer) :
      EStateM.Result DispatchFault Session α → EventAnswer × Session
    | .ok a s => (answer a, s)
    | .error f s => (.refused f, s)

variable (port : EventPort) (s : Session) (e : String)

theorem proxy_event_of_admitted {p : Proxy} (h : (proxy p).refusal? e = none) :
    ∃ ev, p.event e = .ok ev := by
  simp only [refusal?] at h
  split at h
  · rename_i ev hev
    exact ⟨ev, hev⟩
  · cases h

theorem proxy_event_of_refusal {p : Proxy} {f : DispatchFault} (h : (proxy p).refusal? e = some f) :
    p.event e = .error f := by
  simp only [refusal?] at h
  split at h
  · cases h
  · rename_i hev
    cases h
    exact hev

theorem subscribe_run (cb : Callback) (h : port.refusal? e = none) :
    (port.subscribe e cb).run s = (port.node.subscribe e cb : Act DispatchFault UInt64).run s := by
  cases port with
  | receiver r => rfl
  | proxy p =>
    obtain ⟨ev, hev⟩ := proxy_event_of_admitted e h
    simp only [subscribe, Proxy.subscribe, hev]
    rfl

theorem unsubscribe_run (id : UInt64) (h : port.refusal? e = none) :
    (port.unsubscribe e id).run s =
      (port.node.unsubscribe e id : Act DispatchFault Bool).run s := by
  cases port with
  | receiver r => rfl
  | proxy p =>
    obtain ⟨ev, hev⟩ := proxy_event_of_admitted e h
    simp only [unsubscribe, Proxy.unsubscribe, hev]
    rfl

theorem raise_run (args : List CallArg) (h : port.refusal? e = none) :
    (port.raise e args).run s =
      { s with journal := s.journal ++ (raiseBodies s.catalog s.code e (args.map CallArg.value)
          ((s.graph.handlers port.node e).map Prod.snd)).toArray }.resultOf
        (raiseAnswer s.catalog s.code e (args.map CallArg.value)
          ((s.graph.handlers port.node e).map Prod.snd)) := by
  cases port with
  | receiver r => exact r.raise_eq e args s
  | proxy p =>
    obtain ⟨ev, hev⟩ := proxy_event_of_admitted e h
    simp only [raise, Proxy.raise, node, hev, liftExcept, EStateM.run_bind, EStateM.run_pure]
    -- the proxy types the values by the handler parameters, which raising does not read
    rw [Receiver.raise_eq, handlerArgs_values]

theorem perform_of_refusal {op : EventOp} {f : DispatchFault}
    (h : port.refusal? op.event = some f) :
    port.perform s op = (.refused f, s) := by
  cases port with
  | receiver r => cases h
  | proxy p =>
    have hev := proxy_event_of_refusal op.event h
    cases op <;> simp only [EventOp.event] at hev <;>
      simp only [perform, subscribe, unsubscribe, raise, Proxy.subscribe, Proxy.unsubscribe,
        Proxy.raise, hev] <;> rfl

end EventPort

def runEvents : List (EventPort × EventOp) → Session → EventHistory × Session
  | [], s => ([], s)
  | x :: rest, s =>
    let step := x.1.perform s x.2
    let after := runEvents rest step.2
    ((x.2, step.1) :: after.1, after.2)

/-! ## The model is kept -/

namespace EventHistory

variable (init : String → List (UInt64 × Callback))

/-- Every unsubscription in `H` answered whether its id was live under its event. -/
def AnswersLive (H : EventHistory) : Prop :=
  ∀ H₁ e id b H₂, H = H₁ ++ (.unsubscribe e id, .unsubscribed b) :: H₂ →
    (b = true ↔ id ∈ (liveAfter (init e) e H₁).map (·.1))

/-- Node `n` of `g` is where the operations `H` leave a node whose handlers were `init` and whose
next subscription id was `next`. -/
structure Follows (next : UInt64) (H : EventHistory) (g : Graph) (n : NodeId) : Prop where
  handlers : ∀ e, g.handlers n e = liveAfter (init e) e H
  /-- Subscriptions answer the counter's values from `next`, modulo 2^64. -/
  ids : subscriptionIds H =
    (List.range (subscriptionIds H).length).map fun i => next + UInt64.ofNat i
  counter : (g.node n).nextSubscription = next + UInt64.ofNat (subscriptionIds H).length
  answers : AnswersLive init H

theorem answersLive_concat {H : EventHistory} {x : EventOp × EventAnswer} (hH : AnswersLive init H)
    (hx : ∀ e id b, x = (.unsubscribe e id, .unsubscribed b) →
      (b = true ↔ id ∈ (liveAfter (init e) e H).map (·.1))) :
    AnswersLive init (H ++ [x]) := by
  intro H₁ e id b H₂ hsplit
  -- the unsubscription named is the new operation, or one of `H`
  rcases List.eq_nil_or_concat H₂ with rfl | ⟨H₂, y, rfl⟩
  · obtain ⟨rfl, hy⟩ := List.append_inj' hsplit.symm rfl
    exact hx e id b (List.singleton_inj.mp hy).symm
  · rw [List.concat_eq_append, ← List.cons_append, ← List.append_assoc] at hsplit
    obtain ⟨hprev, -⟩ := List.append_inj' hsplit (by simp)
    exact hH H₁ e id b H₂ hprev

variable {init} {next : UInt64} {H : EventHistory} {g g' : Graph} {n : NodeId}

theorem follows_nil (g : Graph) (n : NodeId) :
    Follows (g.handlers n) (g.node n).nextSubscription [] g n where
  handlers e := by simp [liveAfter, subscribedTo]
  ids := rfl
  counter := (UInt64.add_zero _).symm
  answers _ _ _ _ _ h := by simp at h

theorem Follows.inert (hf : Follows init next H g n) {x : EventOp × EventAnswer} (hx : Inert x)
    (hg : g'.node n = g.node n) : Follows init next (H ++ [x]) g' n where
  handlers e := by
    rw [liveAfter_concat, subscribedTo_single, hx.1]
    simp [hx.2.1, Graph.handlers, hg, ← hf.handlers]
  ids := by simpa [subscriptionIds_concat, hx.1] using hf.ids
  counter := by simpa [subscriptionIds_concat, hx.1, hg] using hf.counter
  answers := answersLive_concat init hf.answers fun e id b h => absurd h (hx.2.2 e id b)

theorem Follows.subscribe (hf : Follows init next H g n) (e : String) (cb : Callback)
    (hnext : (g'.node n).nextSubscription = (g.node n).nextSubscription + 1)
    (hh : ∀ e', g'.handlers n e' = if e' = e
      then g.handlers n e ++ [((g.node n).nextSubscription, cb)] else g.handlers n e') :
    Follows init next (H ++ [(.subscribe e cb, .subscribed (g.node n).nextSubscription)]) g' n where
  handlers e' := by
    rw [liveAfter_concat, subscribedTo_single, hh]
    by_cases he : e' = e
    · subst he
      simp [cancels, subscription?, hf.handlers]
    · simp [cancels, subscription?, he, Ne.symm he, hf.handlers]
  ids := by
    rw [subscriptionIds_concat]
    simp only [subscription?, Option.map_some, Option.toList_some, List.length_append,
      List.length_singleton, List.range_succ, List.map_append, List.map_singleton, hf.counter]
    rw [← hf.ids]
  counter := by
    simp [subscriptionIds_concat, subscription?, hnext, hf.counter, UInt64.ofNat_add,
      UInt64.add_assoc]
  answers := answersLive_concat init hf.answers fun _ _ _ h => by cases h

theorem Follows.unsubscribe (hf : Follows init next H g n) (e : String) (id : UInt64)
    (hnext : (g'.node n).nextSubscription = (g.node n).nextSubscription)
    (hh : ∀ e', g'.handlers n e' = if e' = e
      then (g.handlers n e).filter (·.1 != id) else g.handlers n e') :
    Follows init next
      (H ++ [(.unsubscribe e id, .unsubscribed ((g.handlers n e).any (·.1 == id)))]) g' n where
  handlers e' := by
    rw [liveAfter_concat, subscribedTo_single, hh]
    by_cases he : e' = e
    · subst he
      simp only [cancels, subscription?, hf.handlers, ite_true, beq_self_eq_true, Bool.true_and,
        List.append_nil]
      congr 1
      funext p
      simp [bne, eq_comm]
    · have hne : (e == e') = false := by simpa using Ne.symm he
      simp [cancels, subscription?, he, hne, hf.handlers]
  ids := by simpa [subscriptionIds_concat, subscription?] using hf.ids
  counter := by simpa [subscriptionIds_concat, subscription?, hnext] using hf.counter
  answers := answersLive_concat init hf.answers fun e' id' b h => by
    obtain ⟨⟨rfl, rfl⟩, rfl⟩ : (e = e' ∧ id = id') ∧ (g.handlers n e).any (·.1 == id) = b := by
      simpa using h
    simp [← hf.handlers]

theorem Follows.perform {s : Session} (hf : Follows init next H s.graph n)
    (hn : n.idx < s.graph.nodes.size) (port : EventPort) (hport : port.node = n) (op : EventOp) :
    Follows init next (H ++ [(op, (port.perform s op).1)]) (port.perform s op).2.graph n ∧
      n.idx < (port.perform s op).2.graph.nodes.size := by
  subst hport
  cases hr : port.refusal? op.event with
  | some f =>
    rw [port.perform_of_refusal s hr]
    exact ⟨hf.inert (inert_refused op f) rfl, hn⟩
  | none =>
    cases op with
    | subscribe e cb =>
      obtain ⟨g, hrun, hsize, hnext, hh⟩ := port.node.subscribe_run (ε := DispatchFault) s e cb hn
      simp only [EventPort.perform, port.subscribe_run s e cb hr, hrun, EventPort.perform.settle]
      exact ⟨hf.subscribe e cb hnext hh, hsize ▸ hn⟩
    | unsubscribe e id =>
      obtain ⟨g, hrun, hsize, hnext, hh⟩ := port.node.unsubscribe_run (ε := DispatchFault) s e id hn
      simp only [EventPort.perform, port.unsubscribe_run s e id hr, hrun, EventPort.perform.settle]
      exact ⟨hf.unsubscribe e id hnext hh, hsize ▸ hn⟩
    | raise e args =>
      simp only [EventPort.perform, port.raise_run s e args hr]
      -- raising changes the journal only
      cases raiseAnswer s.catalog s.code e (args.map CallArg.value)
          ((s.graph.handlers port.node e).map Prod.snd) <;>
        exact ⟨hf.inert (inert_raise e args _) rfl, hn⟩

theorem Follows.run {s : Session} (hf : Follows init next H s.graph n)
    (hn : n.idx < s.graph.nodes.size) (ops : List (EventPort × EventOp))
    (hops : ∀ x ∈ ops, x.1.node = n) :
    Follows init next (H ++ (runEvents ops s).1) (runEvents ops s).2.graph n ∧
      n.idx < (runEvents ops s).2.graph.nodes.size := by
  induction ops generalizing H s with
  | nil => simpa [runEvents] using ⟨hf, hn⟩
  | cons x rest ih =>
    obtain ⟨hstep, hn'⟩ := hf.perform hn x.1 (hops x List.mem_cons_self) x.2
    simpa [runEvents] using ih hstep hn' fun y hy => hops y (List.mem_cons_of_mem _ hy)

theorem counter_values_inj (c : UInt64) {i j : Nat} (hi : i < UInt64.size) (hj : j < UInt64.size)
    (h : c + UInt64.ofNat i = c + UInt64.ofNat j) : i = j := by
  have hval := congrArg UInt64.toNat ((UInt64.add_right_inj c).mp h)
  rwa [UInt64.toNat_ofNat', UInt64.toNat_ofNat', Nat.mod_eq_of_lt hi, Nat.mod_eq_of_lt hj] at hval

theorem counter_add_ofNat (c : UInt64) (i j : Nat) :
    c + UInt64.ofNat i + UInt64.ofNat j = c + UInt64.ofNat (i + j) := by
  rw [UInt64.ofNat_add, UInt64.add_assoc]

theorem nodup_counter_values (c : UInt64) (m : Nat) :
    ((List.range m).map fun i => c + UInt64.ofNat i).Nodup ↔ m ≤ UInt64.size := by
  constructor
  · intro h
    by_contra hm
    -- steps `0` and `2^64` show the same value
    have hsame : c + UInt64.ofNat 0 = c + UInt64.ofNat UInt64.size := by
      rw [show UInt64.ofNat UInt64.size = 0 from rfl]
      rfl
    have h0 := List.inj_on_of_nodup_map h (List.mem_range.mpr (show 0 < m by omega))
      (List.mem_range.mpr (show UInt64.size < m by omega)) hsame
    exact absurd h0 (by decide)
  · intro hm
    refine List.nodup_range.map_on fun i hi j hj hij => ?_
    have hi := List.mem_range.mp hi
    have hj := List.mem_range.mp hj
    exact counter_values_inj c (by omega) (by omega) hij

theorem Follows.nodup_ids_iff (hf : Follows init next H g n) :
    (subscriptionIds H).Nodup ↔ (subscriptionIds H).length ≤ UInt64.size := by
  rw [hf.ids, List.length_map, List.length_range]
  exact nodup_counter_values next _

theorem Follows.mem_ids (hf : Follows init next H g n) {id : UInt64}
    (h : id ∈ subscriptionIds H) : ∃ i < (subscriptionIds H).length, id = next + UInt64.ofNat i := by
  rw [hf.ids] at h
  obtain ⟨i, hi, rfl⟩ := List.mem_map.mp h
  exact ⟨i, List.mem_range.mp hi, rfl⟩

theorem Follows.handlerIdsFresh {room : Nat}
    (hf : Follows (g.handlers n) (g.node n).nextSubscription H g' n)
    (hfresh : g.HandlerIdsFresh n room) (hroom : room ≤ UInt64.size)
    (hlen : (subscriptionIds H).length ≤ room) :
    g'.HandlerIdsFresh n (room - (subscriptionIds H).length) := by
  intro e
  have hinit : List.Sublist (((g.handlers n e).filter (fun p => survives e p.1 H)).map (·.1))
      ((g.handlers n e).map (·.1)) := (List.filter_sublist).map _
  have hsub := subscribedTo_sublist e H
  rw [hf.handlers e, liveAfter, List.map_append]
  constructor
  · refine List.nodup_append.mpr ⟨(hfresh e).1.sublist hinit,
      (hf.nodup_ids_iff.mpr (by omega)).sublist hsub, ?_⟩
    intro a ha b hb
    obtain ⟨p, hp, rfl⟩ := List.mem_map.mp (hinit.subset ha)
    obtain ⟨i, hi, rfl⟩ := hf.mem_ids (hsub.subset hb)
    exact (hfresh e).2 p hp i (by omega)
  · intro p hp j hj
    rw [hf.counter, counter_add_ofNat]
    rcases List.mem_append.mp hp with hp | hp
    · exact (hfresh e).2 p (List.mem_filter.mp hp).1 _ (by omega)
    · -- an id this history issued comes before the room left
      obtain ⟨i, hi, hid⟩ := hf.mem_ids (hsub.subset (List.mem_map_of_mem hp))
      rw [hid]
      intro hsame
      have := counter_values_inj _ (by omega) (by omega) hsame
      omega

end EventHistory

def oneNodeReceiver : Receiver := ⟨⟨0⟩, .fail⟩

def changedOps : List (EventPort × EventOp) :=
  [(.receiver oneNodeReceiver, .subscribe "Changed" ⟨[], ⟨0⟩⟩),
    (.receiver oneNodeReceiver, .unsubscribe "Changed" 1),
    (.receiver oneNodeReceiver, .raise "Changed" [])]

example : (runEvents changedOps oneNodeSession).1.map (·.2) =
    [.subscribed 1, .unsubscribed true, .raised false] := by
  decide

/-! ## The counter comes round -/

theorem EventPort.perform_receiver_subscribe (r : Receiver) (s : Session) (e : String)
    (cb : Callback) :
    ((EventPort.receiver r).perform s (.subscribe e cb)).1 =
      .subscribed (s.graph.node r.node).nextSubscription := rfl

theorem subscriptionIds_subscribes_length (r : Receiver) (e : String) (cb : Callback) (k : Nat)
    (s : Session) :
    (EventHistory.subscriptionIds
      (runEvents (List.replicate k (.receiver r, .subscribe e cb)) s).1).length = k := by
  induction k generalizing s with
  | zero => rfl
  | succ k ih =>
    rw [List.replicate_succ, runEvents, EventPort.perform_receiver_subscribe]
    simp [EventHistory.subscriptionIds, EventHistory.subscription?] at ih ⊢
    exact ih _

def pastSubscriptionWrap : List (EventPort × EventOp) :=
  List.replicate (UInt64.size + 1) (.receiver oneNodeReceiver, .subscribe "Changed" ⟨[], ⟨0⟩⟩)

end Understudy
