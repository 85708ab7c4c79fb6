import Screenlock.Foundation.Machine

/-! # Relays

What a machine emits waits in a queue for a receiver, which takes one message at
a time and either acts on it at once or posts it to act on it later. Nothing is
lost and nothing is doubled. Messages are acted on in the order in which they
were emitted, unless one that is acted on at once overtakes one that was posted.
-/

namespace Foundation

structure Relay (α β : Type*) where
  inFlight : List α
  posted : List β
  handled : List β

inductive RelayMove where
  /-- The first message is taken, and posted or acted on. -/
  | take (post : Bool)
  /-- The first post is acted on. -/
  | runPosted
  deriving DecidableEq, Repr

namespace Relay

variable {α β : Type*} (decode : α → List β) (relay : Relay α β)

def idle : Relay α β := ⟨[], [], []⟩

def send (messages : List α) : Relay α β :=
  { relay with inFlight := relay.inFlight ++ messages }

/-- What becomes of the values a message holds. -/
def accept (post : Bool) (values : List β) : Relay α β :=
  if post then { relay with posted := relay.posted ++ values }
  else { relay with handled := relay.handled ++ values }

def move : RelayMove → Relay α β
  | .take post =>
      match relay.inFlight with
      | [] => relay
      | message :: rest => { relay with inFlight := rest }.accept post (decode message)
  | .runPosted =>
      match relay.posted with
      | [] => relay
      | value :: rest => { relay with posted := rest, handled := relay.handled ++ [value] }

/-- The values in the order in which they would be acted on from now on. -/
def trace : List β := relay.handled ++ relay.posted ++ relay.inFlight.flatMap decode

/-- Nothing is under way. -/
def Settled : Prop := relay.inFlight = [] ∧ relay.posted = []

/-- A message acted on at once overtakes no posted one. -/
def InOrder : RelayMove → Prop
  | .take post => post = true ∨ relay.posted = []
  | .runPosted => True

variable {decode relay}

theorem trace_of_settled (hsettled : relay.Settled) : relay.trace decode = relay.handled := by
  simp [trace, hsettled.1, hsettled.2]

theorem handled_prefix : relay.handled <+: relay.trace decode := by
  rw [trace, List.append_assoc]
  exact List.prefix_append _ _

theorem trace_send (messages : List α) :
    (relay.send messages).trace decode = relay.trace decode ++ messages.flatMap decode := by
  simp [trace, send]

theorem trace_move {move : RelayMove} (horder : relay.InOrder move) :
    (relay.move decode move).trace decode = relay.trace decode := by
  cases move with
  | take post =>
      rw [Relay.move]
      split
      · rfl
      next message rest hflight =>
        rcases horder with rfl | hposted
        · simp [trace, accept, hflight]
        · cases post <;> simp [trace, accept, hflight, hposted]
  | runPosted =>
      rw [Relay.move]
      split
      · rfl
      next value rest hposted => simp [trace, hposted]

/-- In any order, no value is lost or doubled. -/
theorem trace_move_perm (move : RelayMove) :
    ((relay.move decode move).trace decode).Perm (relay.trace decode) := by
  by_cases horder : relay.InOrder move
  · rw [trace_move horder]
  cases move with
  | take post =>
      obtain ⟨hdirect, _⟩ := not_or.mp horder
      obtain rfl := Bool.eq_false_iff.mpr hdirect
      rw [Relay.move]
      split
      · exact List.Perm.refl _
      next message rest hflight =>
        simp only [trace, accept, Bool.false_eq_true, if_false, hflight, List.flatMap_cons,
          List.append_assoc]
        refine List.Perm.append_left _ ?_
        rw [← List.append_assoc, ← List.append_assoc]
        exact List.Perm.append_right _ List.perm_append_comm
  | runPosted => exact absurd trivial horder

end Relay

/-- A machine and the relay its messages go through. -/
structure Relayed (σ α β : Type*) where
  source : σ
  relay : Relay α β

inductive RelayEvent (ε : Type*) where
  | source (event : ε)
  | move (move : RelayMove)

namespace RelayEvent

def source? {ε : Type*} : RelayEvent ε → Option ε
  | source event => some event
  | move _ => none

end RelayEvent

namespace Machine

variable {σ ε α β : Type*} (m : Machine σ ε) (emit : σ → ε → List α) (decode : α → List β)

def relayed : Machine (Relayed σ α β) (RelayEvent ε) where
  enabled state event := match event with
    | .source event => m.enabled state.source event
    | .move (.take _) => state.relay.inFlight ≠ []
    | .move .runPosted => state.relay.posted ≠ []
  step state event := match event with
    | .source event =>
        ⟨m.step state.source event, state.relay.send (emit state.source event)⟩
    | .move move => { state with relay := state.relay.move decode move }

/-- The source may meet what it meets, and no message overtakes another one. -/
def Relays (guard : σ → ε → Prop) (state : Relayed σ α β) : RelayEvent ε → Prop
  | .source event => guard state.source event
  | .move move => state.relay.InOrder move

variable {m emit decode}

/-- The source runs as it would without the relay. -/
theorem relayed_source (state : Relayed σ α β) (events : List (RelayEvent ε)) :
    ((m.relayed emit decode).run state events).source =
      m.run state.source (events.filterMap RelayEvent.source?) := by
  induction events generalizing state with
  | nil => rfl
  | cons event rest ih =>
      rw [run_cons, ih]
      cases event <;> rfl

theorem relayed_guard {guard : σ → ε → Prop} {state : Relayed σ α β}
    {events : List (RelayEvent ε)}
    (hsteps : (m.relayed emit decode).Steps (Relays guard) state events) :
    m.Steps guard state.source (events.filterMap RelayEvent.source?) := by
  induction events generalizing state with
  | nil => trivial
  | cons event rest ih =>
      obtain ⟨hfirst, hrest⟩ := hsteps
      cases event with
      | source event => exact ⟨hfirst, ih hrest⟩
      | move move =>
          have hkept := ih hrest
          exact hkept

/-- What the receiver has acted on and will act on is what the source has emitted, in order. -/
theorem relayed_trace {guard : σ → ε → Prop} {state : Relayed σ α β}
    {events : List (RelayEvent ε)}
    (hsteps : (m.relayed emit decode).Steps (Relays guard) state events) :
    ((m.relayed emit decode).run state events).relay.trace decode =
      state.relay.trace decode ++ (m.outputs emit state.source
        (events.filterMap RelayEvent.source?)).flatMap decode := by
  induction events generalizing state with
  | nil => simp [outputs]
  | cons event rest ih =>
      obtain ⟨hfirst, hrest⟩ := hsteps
      rw [run_cons, ih hrest]
      cases event with
      | source event =>
          simp only [relayed, Relay.trace_send, List.filterMap_cons, RelayEvent.source?, outputs,
            List.flatMap_append, List.append_assoc]
      | move move =>
          have hmoved : (state.relay.move decode move).trace decode = state.relay.trace decode :=
            Relay.trace_move hfirst
          simp only [relayed, hmoved, List.filterMap_cons, RelayEvent.source?]

/-- Whatever overtakes whatever, each emitted value is acted on once. -/
theorem relayed_perm (state : Relayed σ α β) (events : List (RelayEvent ε)) :
    (((m.relayed emit decode).run state events).relay.trace decode).Perm
      (state.relay.trace decode ++ (m.outputs emit state.source
        (events.filterMap RelayEvent.source?)).flatMap decode) := by
  induction events generalizing state with
  | nil => simp [outputs]
  | cons event rest ih =>
      rw [run_cons]
      refine (ih _).trans ?_
      cases event with
      | source event =>
          simp only [relayed, Relay.trace_send, List.filterMap_cons, RelayEvent.source?, outputs,
            List.flatMap_append, List.append_assoc]
          exact List.Perm.refl _
      | move move =>
          simp only [relayed, List.filterMap_cons, RelayEvent.source?]
          exact (Relay.trace_move_perm move).append_right _

end Machine

end Foundation
