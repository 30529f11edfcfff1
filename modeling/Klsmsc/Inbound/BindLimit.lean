import Klsmsc.Inbound.Registry
import Klsmsc.Library.Counts

/-!
# The bind limit

A bind counts the sessions of its system id and evicts the oldest one as long as there are too many
of them. Then it leaves this loop and registers its own session, which is a step of its own: another
bind that counts in between finds the same room. The limit is kept in every run in which a bind
leaves its loop only while the registered sessions together with the binds that have left theirs and
have not registered yet leave room. That no session is registered twice, and that no receipt goes to
a session that only transmits, holds in every run.
-/

namespace Klsmsc

open Library

/-- Where `handleSession` stands in a connection that is authenticated. -/
inductive BindPhase
  | counting
  | evicting
  | closing (old : ℕ)
  | adding
  | bound
  | ended
  deriving DecidableEq, Repr

structure InboundConnection where
  session : InboundSession
  phase : BindPhase

/-- The settings of the limit: `account.SmppMaxBinds` for a system id, what
`getMaxBindsPerAccount` returns, and the room that `append` leaves in new arrays. -/
structure BindSettings where
  smppMaxBinds : GoString → ℤ
  maxBindsPerAccount : ℤ
  spare : ℕ → ℕ

/-- `maxBinds`. -/
def BindSettings.maxBinds (settings : BindSettings) (systemID : GoString) : ℤ :=
  if settings.smppMaxBinds systemID ≤ 0 then settings.maxBindsPerAccount
  else settings.smppMaxBinds systemID

/-- The connections that were authenticated, by their numbers, with the registry and the sessions
whose connection is closed. -/
structure Binds where
  registry : InboundRegistry
  accepted : ℕ
  connections : ℕ → InboundConnection
  closed : ℕ → Bool

/-- What happens: a connection is authenticated, counts, evicts, closes the session it has evicted,
registers its own, has its connection closed, or removes its session at its end. -/
inductive BindEvent
  | authenticate (session : InboundSession)
  | count (s : ℕ)
  | evict (s : ℕ)
  | close (s : ℕ)
  | add (s : ℕ)
  | shut (s : ℕ)
  | remove (s : ℕ)

namespace Binds

variable (settings : BindSettings) (state : Binds)

def initial : Binds :=
  ⟨newInboundRegistry, 0, fun _ => ⟨⟨0, [], [], .bindTX⟩, .ended⟩, fun _ => false⟩

/-- `s.systemID`. -/
def systemID (s : ℕ) : GoString :=
  (state.connections s).session.systemId

/-- `s.bindType`. -/
def bindType (s : ℕ) : BindType :=
  (state.connections s).session.bindType

def move (s : ℕ) (phase : BindPhase) : Binds :=
  { state with
    connections := Function.update state.connections s ⟨(state.connections s).session, phase⟩ }

def next : BindEvent → Option Binds
  | .authenticate session =>
      some
        { state with
          accepted := state.accepted + 1
          connections := Function.update state.connections state.accepted ⟨session, .counting⟩ }
  | .count s =>
      if (state.connections s).phase = .counting then
        if settings.maxBinds (state.systemID s) ≤ state.registry.countBySystem (state.systemID s) then
          some (state.move s .evicting)
        else some (state.move s .adding)
      else none
  | .evict s =>
      if (state.connections s).phase = .evicting then
        match state.registry.evictOldest (state.systemID s) with
        | (none, _) => some (state.move s .adding)
        | (some old, registry) => some { state.move s (.closing old) with registry := registry }
      else none
  | .close s =>
      match (state.connections s).phase with
      | .closing old =>
          some { state.move s .counting with closed := Function.update state.closed old true }
      | _ => none
  | .add s =>
      if (state.connections s).phase = .adding then
        some
          { state.move s .bound with
            registry := state.registry.add settings.spare (state.systemID s) s }
      else none
  | .shut s => some { state with closed := Function.update state.closed s true }
  | .remove s =>
      if (state.connections s).phase = .bound then
        some
          { state.move s .ended with
            registry := state.registry.remove settings.spare (state.systemID s) s }
      else none

def Step (before : Binds) (event : BindEvent) (after : Binds) : Prop :=
  before.next settings event = some after

/-- The session that `PickReceiver` picks. -/
def receiver (systemID : GoString) : Option ℕ :=
  state.registry.pickReceiver systemID state.bindType state.closed

/-- The limit is kept for each system id, no session is registered twice, and no session that only
transmits is picked. -/
structure WithinLimit : Prop where
  limit : ∀ systemID,
    ((state.registry.sessions systemID).length : ℤ) ≤ settings.maxBinds systemID
  once : ∀ systemID, (state.registry.sessions systemID).Nodup
  receives : ∀ systemID, ∀ s ∈ state.receiver systemID, state.bindType s ≠ .bindTX

/-! ### The condition -/

def claims (systemID : GoString) (connection : InboundConnection) : ℕ :=
  if connection.session.systemId = systemID ∧ connection.phase = .adding then 1 else 0

def pending (systemID : GoString) : ℕ :=
  weight state.accepted (claims systemID) state.connections

def leaving : BindEvent → Option ℕ
  | .count s =>
      if state.registry.countBySystem (state.systemID s) < settings.maxBinds (state.systemID s) then
        some s
      else none
  | .evict s => if state.registry.sessions (state.systemID s) = [] then some s else none
  | _ => none

def Heeds (event : BindEvent) : Prop :=
  ∀ s ∈ state.leaving settings event,
    ((state.registry.sessions (state.systemID s)).length + state.pending (state.systemID s) : ℤ) <
      settings.maxBinds (state.systemID s)

instance (event : BindEvent) : Decidable (state.Heeds settings event) :=
  inferInstanceAs (Decidable (∀ s ∈ state.leaving settings event, _))

/-! ### What a step does -/

inductive Performs : BindEvent → Binds → Prop where
  | authenticate (session : InboundSession) :
      Performs (.authenticate session)
        { state with
          accepted := state.accepted + 1
          connections := Function.update state.connections state.accepted ⟨session, .counting⟩ }
  | full {s : ℕ} (counting : (state.connections s).phase = .counting) :
      Performs (.count s) (state.move s .evicting)
  | leave {s : ℕ} {event : BindEvent}
      (waiting : (state.connections s).phase = .counting ∨
        (state.connections s).phase = .evicting)
      (leaves : state.leaving settings event = some s) :
      Performs event (state.move s .adding)
  | evict {s old : ℕ} (evicting : (state.connections s).phase = .evicting)
      (oldest : (state.registry.sessions (state.systemID s)).head? = some old) :
      Performs (.evict s)
        { state.move s (.closing old) with
          registry := (state.registry.evictOldest (state.systemID s)).2 }
  | close {s old : ℕ} (closing : (state.connections s).phase = .closing old) :
      Performs (.close s)
        { state.move s .counting with closed := Function.update state.closed old true }
  | add {s : ℕ} (adding : (state.connections s).phase = .adding) :
      Performs (.add s)
        { state.move s .bound with
          registry := state.registry.add settings.spare (state.systemID s) s }
  | shut (s : ℕ) :
      Performs (.shut s) { state with closed := Function.update state.closed s true }
  | remove {s : ℕ} (bound : (state.connections s).phase = .bound) :
      Performs (.remove s)
        { state.move s .ended with
          registry := state.registry.remove settings.spare (state.systemID s) s }

variable {settings state} {after : Binds}

theorem performs_of_step {event : BindEvent} (step : state.Step settings event after) :
    state.Performs settings event after := by
  unfold Step at step
  cases event with
  | authenticate session =>
      cases step
      exact .authenticate session
  | count s =>
      simp only [next] at step
      split at step
      · rename_i counting
        split at step
        · cases step
          exact .full counting
        · rename_i room
          cases step
          refine .leave (Or.inl counting) ?_
          rw [leaving, if_pos (Int.not_le.mp room)]
      · cases step
  | evict s =>
      simp only [next] at step
      split at step
      · rename_i evicting
        have first : (state.registry.evictOldest (state.systemID s)).1 =
            (state.registry.sessions (state.systemID s)).head? :=
          InboundRegistry.evictOldest_fst
        split at step
        · rename_i nothing
          cases step
          rw [nothing] at first
          refine .leave (Or.inr evicting) ?_
          rw [leaving, if_pos (List.head?_eq_none_iff.mp first.symm)]
        · rename_i old registry evicted
          cases step
          rw [evicted] at first
          have performed : state.Performs settings (.evict s) _ := .evict evicting first.symm
          rwa [evicted] at performed
      · cases step
  | close s =>
      simp only [next] at step
      split at step
      · rename_i old closing
        cases step
        exact .close closing
      · cases step
  | add s =>
      simp only [next] at step
      split at step
      · rename_i adding
        cases step
        exact .add adding
      · cases step
  | shut s =>
      cases step
      exact .shut s
  | remove s =>
      simp only [next] at step
      split at step
      · rename_i bound
        cases step
        exact .remove bound
      · cases step

/-! ### Registered sessions -/

structure Registered (state : Binds) : Prop where
  wellFormed : state.registry.WellFormed
  fresh : ∀ s, state.accepted ≤ s → (state.connections s).phase = .ended
  bound : ∀ systemID, ∀ s ∈ state.registry.sessions systemID,
    (state.connections s).phase = .bound ∧ state.systemID s = systemID
  once : ∀ systemID, (state.registry.sessions systemID).Nodup

namespace Registered

theorem inside (registered : state.Registered) {s : ℕ}
    (running : (state.connections s).phase ≠ .ended) : s < state.accepted := by
  by_contra beyond
  exact running (registered.fresh s (by omega))

theorem goesOn (registered : state.Registered) {s : ℕ} {phase : BindPhase}
    (running : (state.connections s).phase ≠ .ended)
    (connections : after.connections =
      Function.update state.connections s ⟨(state.connections s).session, phase⟩)
    (same : after.accepted = state.accepted) (wellFormed : after.registry.WellFormed)
    (fewer : ∀ systemID,
      (after.registry.sessions systemID).Sublist (state.registry.sessions systemID))
    (gone : ∀ systemID, s ∉ after.registry.sessions systemID) : after.Registered := by
  have inside := registered.inside running
  refine ⟨wellFormed, ?_, ?_, fun systemID => (registered.once systemID).sublist (fewer systemID)⟩
  · intro other beyond
    rw [same] at beyond
    rw [connections, Function.update_of_ne (by omega), registered.fresh other beyond]
  · intro systemID other member
    have differs : other ≠ s := by
      rintro rfl
      exact gone systemID member
    have before := registered.bound systemID other ((fewer systemID).subset member)
    rw [Binds.systemID, connections, Function.update_of_ne differs]
    exact before

theorem not_mem (registered : state.Registered) {s : ℕ} (systemID : GoString)
    (other : (state.connections s).phase ≠ .bound) : s ∉ state.registry.sessions systemID :=
  fun member => other (registered.bound systemID s member).1

theorem moves (registered : state.Registered) {s : ℕ} {phase : BindPhase}
    (running : (state.connections s).phase ≠ .ended)
    (other : (state.connections s).phase ≠ .bound)
    (connections : after.connections =
      Function.update state.connections s ⟨(state.connections s).session, phase⟩)
    (same : after.accepted = state.accepted) (registry : after.registry = state.registry) :
    after.Registered := by
  refine registered.goesOn running connections same ?_ ?_ ?_
  · rw [registry]
    exact registered.wellFormed
  · intro systemID
    rw [registry]
  · intro systemID
    rw [registry]
    exact registered.not_mem systemID other

theorem evict (registered : state.Registered) {s : ℕ} (old : ℕ)
    (evicting : (state.connections s).phase = .evicting) :
    Registered
      { state.move s (.closing old) with
        registry := (state.registry.evictOldest (state.systemID s)).2 } := by
  have fewer : ∀ systemID, ((state.registry.evictOldest (state.systemID s)).2.sessions
      systemID).Sublist (state.registry.sessions systemID) := by
    intro systemID
    rw [InboundRegistry.sessions_evictOldest]
    split
    · rename_i same
      rw [same]
      exact List.tail_sublist _
    · exact List.Sublist.refl _
  refine registered.goesOn (by rw [evicting]; exact nofun) rfl rfl
    registered.wellFormed.evictOldest fewer ?_
  intro systemID member
  exact registered.not_mem systemID (by rw [evicting]; exact nofun)
    ((fewer systemID).subset member)

theorem remove (registered : state.Registered) (settings : BindSettings) {s : ℕ}
    (bound : (state.connections s).phase = .bound) :
    Registered
      { state.move s .ended with
        registry := state.registry.remove settings.spare (state.systemID s) s } := by
  refine registered.goesOn (by rw [bound]; exact nofun) rfl rfl
    (registered.wellFormed.remove settings.spare s) ?_ ?_
  · intro systemID
    change (InboundRegistry.sessions (state.registry.remove _ _ _) systemID).Sublist _
    rw [registered.wellFormed.sessions_remove]
    split
    · rename_i same
      rw [same]
      exact List.filter_sublist
    · exact List.Sublist.refl _
  · intro systemID
    change s ∉ InboundRegistry.sessions (state.registry.remove _ _ _) systemID
    rw [registered.wellFormed.sessions_remove]
    split
    · simp
    · rename_i differs
      exact fun member => differs (registered.bound systemID s member).2.symm

theorem add (registered : state.Registered) (settings : BindSettings) {s : ℕ}
    (adding : (state.connections s).phase = .adding) :
    Registered
      { state.move s .bound with
        registry := state.registry.add settings.spare (state.systemID s) s } := by
  have inside := registered.inside (s := s) (by rw [adding]; exact nofun)
  have absent := registered.not_mem (s := s) (state.systemID s) (by rw [adding]; exact nofun)
  have sessions : ∀ other,
      (state.registry.add settings.spare (state.systemID s) s).sessions other = _ :=
    registered.wellFormed.sessions_add settings.spare s
  refine ⟨registered.wellFormed.add settings.spare s, ?_, ?_, ?_⟩
  · intro other beyond
    change (Function.update state.connections s _ other).phase = _
    change state.accepted ≤ other at beyond
    rw [Function.update_of_ne (by omega), registered.fresh other beyond]
  · intro systemID other member
    change other ∈ InboundRegistry.sessions (state.registry.add _ _ _) systemID at member
    change (Function.update state.connections s _ other).phase = _ ∧
      (Function.update state.connections s _ other).session.systemId = _
    by_cases same : other = s
    · subst other
      rw [Function.update_self]
      refine ⟨rfl, ?_⟩
      rw [sessions] at member
      split at member
      · rename_i own
        exact own.symm
      · exact absurd member (registered.not_mem systemID (by rw [adding]; exact nofun))
    · rw [Function.update_of_ne same]
      rw [sessions] at member
      split at member
      · rename_i own
        rw [List.mem_append, List.mem_singleton] at member
        rw [own]
        exact registered.bound _ other (member.resolve_right same)
      · exact registered.bound systemID other member
  · intro systemID
    change (InboundRegistry.sessions (state.registry.add _ _ _) systemID).Nodup
    rw [sessions]
    split
    · rw [List.nodup_append]
      refine ⟨registered.once _, List.nodup_singleton s, ?_⟩
      intro first isFirst second isSecond
      rw [List.mem_singleton] at isSecond
      rintro rfl
      exact absent (isSecond ▸ isFirst)
    · exact registered.once systemID

theorem authenticate (registered : state.Registered) (session : InboundSession) :
    Registered
      { state with
        accepted := state.accepted + 1
        connections := Function.update state.connections state.accepted ⟨session, .counting⟩ } := by
  have fresh := registered.fresh _ (Nat.le_refl _)
  refine ⟨registered.wellFormed, ?_, ?_, registered.once⟩
  · intro other beyond
    change (Function.update state.connections state.accepted _ other).phase = _
    change state.accepted + 1 ≤ other at beyond
    rw [Function.update_of_ne (by omega), registered.fresh other (by omega)]
  · intro systemID other member
    have differs : other ≠ state.accepted := by
      rintro rfl
      exact registered.not_mem systemID (by rw [fresh]; exact nofun) member
    change (Function.update state.connections state.accepted _ other).phase = _ ∧
      (Function.update state.connections state.accepted _ other).session.systemId = _
    rw [Function.update_of_ne differs]
    exact registered.bound systemID other member

theorem step (registered : state.Registered) {event : BindEvent}
    (step : state.Step settings event after) : after.Registered := by
  cases performs_of_step step with
  | authenticate session => exact registered.authenticate session
  | full counting =>
      exact registered.moves (by simp [counting]) (by simp [counting]) rfl rfl rfl
  | leave waiting =>
      rcases waiting with waiting | waiting <;>
        exact registered.moves (by simp [waiting]) (by simp [waiting]) rfl rfl rfl
  | evict evicting => exact registered.evict _ evicting
  | close closing =>
      exact registered.moves (by simp [closing]) (by simp [closing]) rfl rfl rfl
  | add adding => exact registered.add settings adding
  | shut s =>
      exact ⟨registered.wellFormed, registered.fresh, registered.bound, registered.once⟩
  | remove bound => exact registered.remove settings bound

end Registered

/-! ### The room that is left -/

def Room (settings : BindSettings) (state : Binds) : Prop :=
  ∀ systemID, ((state.registry.sessions systemID).length + state.pending systemID : ℤ) ≤
    settings.maxBinds systemID

namespace Room

variable {s : ℕ} {phase : BindPhase}

theorem claims_of_ne (systemID : GoString) {connection : InboundConnection}
    (stays : connection.phase ≠ .adding) : claims systemID connection = 0 :=
  if_neg fun both => stays both.2

theorem claims_adding (systemID : GoString) {connection : InboundConnection}
    (adding : connection.phase = .adding) :
    claims systemID connection = if connection.session.systemId = systemID then 1 else 0 := by
  simp [claims, adding]

theorem goesOn (room : state.Room settings) (inside : s < state.accepted)
    (connections : after.connections =
      Function.update state.connections s ⟨(state.connections s).session, phase⟩)
    (same : after.accepted = state.accepted)
    (balanced : ∀ systemID,
      (after.registry.sessions systemID).length +
          claims systemID ⟨(state.connections s).session, phase⟩ ≤
        (state.registry.sessions systemID).length + claims systemID (state.connections s)) :
    after.Room settings := by
  intro systemID
  have before := room systemID
  have balance := balanced systemID
  have exchanged := weight_update (claims systemID) state.connections inside
    ⟨(state.connections s).session, phase⟩
  unfold pending at before ⊢
  rw [connections, same]
  omega

theorem leave (room : state.Room settings) (inside : s < state.accepted) {event : BindEvent}
    (waiting : (state.connections s).phase ≠ .adding)
    (leaves : state.leaving settings event = some s) (heeds : state.Heeds settings event) :
    (state.move s .adding).Room settings := by
  intro systemID
  have before := room systemID
  have exchanged := weight_update (claims systemID) state.connections inside
    ⟨(state.connections s).session, .adding⟩
  have claimed : claims systemID ⟨(state.connections s).session, .adding⟩ =
      if state.systemID s = systemID then 1 else 0 := claims_adding systemID rfl
  rw [claims_of_ne systemID waiting, claimed] at exchanged
  unfold pending at before ⊢
  change ((state.registry.sessions systemID).length + (weight state.accepted _
    (Function.update state.connections s ⟨(state.connections s).session, .adding⟩) : ℕ) : ℤ) ≤ _
  by_cases own : state.systemID s = systemID
  · have left := heeds s leaves
    rw [own] at left
    rw [if_pos own] at exchanged
    unfold pending at left
    omega
  · rw [if_neg own] at exchanged
    omega

theorem add (room : state.Room settings) (registered : state.Registered)
    (adding : (state.connections s).phase = .adding) :
    Room settings
      { state.move s .bound with
        registry := state.registry.add settings.spare (state.systemID s) s } := by
  refine room.goesOn (registered.inside (by rw [adding]; exact nofun)) rfl rfl ?_
  intro systemID
  have claimed : claims systemID (state.connections s) =
      if state.systemID s = systemID then 1 else 0 := claims_adding systemID adding
  change (InboundRegistry.sessions (state.registry.add _ _ _) systemID).length + _ ≤ _
  rw [registered.wellFormed.sessions_add,
    claims_of_ne _ (show BindPhase.bound ≠ .adding from nofun), claimed]
  split
  · rename_i own
    rw [own, if_pos rfl, List.length_append, List.length_singleton]
  · exact Nat.le_add_right _ _

theorem moves (room : state.Room settings) (s : ℕ) (phase : BindPhase)
    (inside : s < state.accepted) (stays : phase ≠ .adding)
    (connections : after.connections =
      Function.update state.connections s ⟨(state.connections s).session, phase⟩)
    (same : after.accepted = state.accepted)
    (fewer : ∀ systemID,
      (after.registry.sessions systemID).length ≤ (state.registry.sessions systemID).length) :
    after.Room settings := by
  refine room.goesOn inside connections same ?_
  intro systemID
  rw [claims_of_ne systemID stays]
  exact Nat.le_trans (fewer systemID) (Nat.le_add_right _ _)

theorem authenticate (room : state.Room settings) (session : InboundSession) :
    Room settings
      { state with
        accepted := state.accepted + 1
        connections := Function.update state.connections state.accepted ⟨session, .counting⟩ } := by
  intro systemID
  have before := room systemID
  unfold pending at before ⊢
  change ((state.registry.sessions systemID).length + (weight (state.accepted + 1) _
    (Function.update state.connections state.accepted ⟨session, .counting⟩) : ℕ) : ℤ) ≤ _
  rw [weight_succ, weight_update_of_le _ _ (Nat.le_refl _), Function.update_self,
    claims_of_ne systemID (show BindPhase.counting ≠ .adding from nofun)]
  exact before

theorem step (room : state.Room settings) (registered : state.Registered) {event : BindEvent}
    (step : state.Step settings event after) (heeds : state.Heeds settings event) :
    after.Room settings := by
  cases performs_of_step step with
  | authenticate session => exact room.authenticate session
  | @full s counting =>
      have inside := registered.inside (s := s) (by simp [counting])
      exact room.moves s .evicting inside nofun rfl rfl fun _ => Nat.le_refl _
  | leave waiting leaves =>
      rcases waiting with waiting | waiting <;>
        exact room.leave (registered.inside (by simp [waiting])) (by simp [waiting]) leaves heeds
  | @evict s old evicting =>
      have inside := registered.inside (s := s) (by simp [evicting])
      refine room.moves s (.closing old) inside nofun rfl rfl ?_
      intro systemID
      rw [InboundRegistry.sessions_evictOldest]
      split
      · rename_i same
        rw [same, List.length_tail]
        exact Nat.sub_le _ _
      · exact Nat.le_refl _
  | @close s old closing =>
      have inside := registered.inside (s := s) (by simp [closing])
      exact room.moves s .counting inside nofun rfl rfl fun _ => Nat.le_refl _
  | add adding => exact room.add registered adding
  | shut s => exact room
  | @remove s bound =>
      have inside := registered.inside (s := s) (by simp [bound])
      refine room.moves s .ended inside nofun rfl rfl ?_
      intro systemID
      change (InboundRegistry.sessions (state.registry.remove _ _ _) systemID).length ≤ _
      rw [registered.wellFormed.sessions_remove]
      split
      · rename_i same
        rw [same]
        exact List.length_filter_le _ _
      · exact Nat.le_refl _

end Room

/-! ### Runs -/

theorem registered_initial : initial.Registered :=
  ⟨InboundRegistry.wellFormed_newInboundRegistry, fun _ _ => rfl,
    fun _ _ member => absurd member List.not_mem_nil, fun _ => List.nodup_nil⟩

theorem room_initial (positive : ∀ systemID, 1 ≤ settings.maxBinds systemID) :
    initial.Room settings := by
  intro systemID
  have one := positive systemID
  change (0 : ℤ) + (weight 0 _ _ : ℕ) ≤ _
  rw [weight_zero]
  omega

theorem receiver_receives (state : Binds) (systemID : GoString) :
    ∀ s ∈ state.receiver systemID, state.bindType s ≠ .bindTX :=
  fun _ picked => (InboundRegistry.pickReceiver_eq_some picked).2.1

/-- In every run in which a connection leaves its loop only while there is room for those that have
left theirs before, the limit is kept. -/
theorem within_limit (positive : ∀ systemID, 1 ≤ settings.maxBinds systemID)
    {transitions : List (Transition Binds BindEvent)} {last : Binds}
    (run : Run (Step settings) initial transitions last)
    (heeds : ∀ transition ∈ transitions, transition.before.Heeds settings transition.label) :
    last.WithinLimit settings ∧ ∀ transition ∈ transitions,
      transition.before.WithinLimit settings ∧ transition.after.WithinLimit settings := by
  have preserved : ∀ before label after,
      Guarded (Step settings) (Heeds settings) before label after →
      before.Registered ∧ before.Room settings → after.Registered ∧ after.Room settings :=
    fun _ _ _ step sound => ⟨sound.1.step step.1, sound.2.step sound.1 step.1 step.2⟩
  have within : ∀ state : Binds, state.Registered ∧ state.Room settings →
      state.WithinLimit settings := by
    rintro state ⟨registered, room⟩
    refine ⟨?_, registered.once, state.receiver_receives⟩
    intro systemID
    have left := room systemID
    omega
  have sound := (run.guarded heeds).invariant preserved
    ⟨registered_initial, room_initial positive⟩
  exact ⟨within _ sound.1, fun transition member =>
    ⟨within _ (sound.2 transition member).1, within _ (sound.2 transition member).2⟩⟩

def oneBind : BindSettings := ⟨fun _ => 1, 5, fun _ => 0⟩

def transceiver : InboundSession := ⟨7, [0x61], [], .bindTRX⟩

/-- The second of two binds evicts the session of the first one. -/
theorem within_limit_evicting :
    ∃ transitions last, Run (Step oneBind) initial transitions last ∧
      last.registry.sessions [0x61] = [1] ∧ last.WithinLimit oneBind := by
  have passed : ((execute (next oneBind) initial
      [.authenticate transceiver, .count 0, .add 0, .authenticate transceiver, .count 1, .evict 1,
        .close 1, .count 1, .add 1, .remove 0]).any fun outcome =>
        decide (outcome.2.registry.sessions [0x61] = [1] ∧ ∀ transition ∈ outcome.1,
          transition.before.Heeds oneBind transition.label)) = true := by
    decide
  rcases Run.exists_of_execute _ passed with ⟨transitions, last, run, checked⟩
  rcases of_decide_eq_true checked with ⟨sessions, heeds⟩
  have positive : ∀ systemID, 1 ≤ oneBind.maxBinds systemID := fun _ => Int.le_refl 1
  exact ⟨transitions, last, run, sessions, (within_limit positive run heeds).1⟩

/-- Two binds that count before one of them registers are both registered. -/
theorem limit_exceeded :
    ∃ transitions last, Run (Step oneBind) initial transitions last ∧
      last.registry.sessions [0x61] = [0, 1] ∧ ¬last.WithinLimit oneBind := by
  have passed : ((execute (next oneBind) initial
      [.authenticate transceiver, .authenticate transceiver, .count 0, .count 1, .add 0,
        .add 1]).any fun outcome =>
        decide (outcome.2.registry.sessions [0x61] = [0, 1])) = true := by
    decide
  rcases Run.exists_of_execute _ passed with ⟨transitions, last, run, checked⟩
  have both := of_decide_eq_true checked
  refine ⟨transitions, last, run, both, ?_⟩
  intro within
  have limit := within.limit [0x61]
  rw [both] at limit
  exact absurd limit (by decide)

end Binds

end Klsmsc
