import Klsmsc.Chunk.HandedOver

/-!
# Messages and the routes of their channels

Every protocol has its own way out: the payload queue of the SMPP gateway, the task
`sms_send` for HTTP channels, the task of the node for its RCS channels, and the virtual
simulation. The worker collects rows and hands several over at once, so whether a row goes
the way of its own channel is a matter of what it was collected with. What becomes of the
rows of an execution is written down as a list of dispatches, one for each row that is
stored to be sent.
-/

namespace Klsmsc

def Channel.route (channel : Channel) : Route :=
  match channel.protocol with
  | .virtual => .simulation
  | .smpp => .smppQueue
  | .http => if channel.isNodeRcs then .nodeTask else .smsSend

/-- Each row that is stored to be sent is handed over on the route of its own channel, and
on no other. -/
def OwnRoutes (channels : ℕ → Option Channel) (isSent : MessageId → Prop) (rows : List LogCore)
    (handed : List (MessageId × Route)) : Prop :=
  ∀ row ∈ rows, isSent row.messageId → ∃ channelId channel, row.channelId = some channelId ∧
    channels channelId = some channel ∧
      ∀ route, (row.messageId, route) ∈ handed ↔ route = channel.route

structure Dispatch where
  messageId : MessageId
  channel : Channel
  route : Option Route
  deriving DecidableEq, Repr

def Dispatch.IsOwn (dispatch : Dispatch) : Prop :=
  dispatch.route = some dispatch.channel.route

instance (dispatch : Dispatch) : Decidable dispatch.IsOwn :=
  inferInstanceAs (Decidable (_ = _))

def Delivers (dispatches : List Dispatch) (handed : List (MessageId × Route)) : Prop :=
  ∀ messageId route, (messageId, route) ∈ handed ↔
    ∃ dispatch ∈ dispatches, dispatch.messageId = messageId ∧ dispatch.route = some route

/-- The dispatches account for the rows of an execution that are stored to be sent, and for
everything that it hands over. -/
structure Accounts (isSent : MessageId → Prop) (rows : List LogCore)
    (handed : List (MessageId × Route)) (dispatches : List Dispatch) : Prop where
  delivers : Delivers dispatches handed
  sent : ∀ row ∈ rows, isSent row.messageId → ∃ dispatch ∈ dispatches,
    dispatch.messageId = row.messageId ∧ row.channelId = some dispatch.channel.id
  stored : ∀ dispatch ∈ dispatches, isSent dispatch.messageId ∧ ∃ row ∈ rows,
    row.messageId = dispatch.messageId ∧ row.channelId = some dispatch.channel.id
  distinct : ∀ one ∈ dispatches, ∀ two ∈ dispatches, one.messageId = two.messageId → one = two

theorem Delivers.nil : Delivers [] [] := by
  simp [Delivers]

theorem Delivers.append {first second : List Dispatch} {left right : List (MessageId × Route)}
    (one : Delivers first left) (two : Delivers second right) :
    Delivers (first ++ second) (left ++ right) := by
  intro messageId route
  rw [List.mem_append, one messageId route, two messageId route]
  constructor
  · rintro (⟨dispatch, member, same⟩ | ⟨dispatch, member, same⟩)
    · exact ⟨dispatch, List.mem_append_left _ member, same⟩
    · exact ⟨dispatch, List.mem_append_right _ member, same⟩
  · rintro ⟨dispatch, member, same⟩
    rcases List.mem_append.mp member with inFirst | inSecond
    · exact Or.inl ⟨dispatch, inFirst, same⟩
    · exact Or.inr ⟨dispatch, inSecond, same⟩

theorem Delivers.flatMap {Part : Type} {parts : List Part} {dispatches : Part → List Dispatch}
    {handed : Part → List (MessageId × Route)}
    (each : ∀ part ∈ parts, Delivers (dispatches part) (handed part)) :
    Delivers (parts.flatMap dispatches) (parts.flatMap handed) := by
  induction parts with
  | nil => exact .nil
  | cons part parts ih =>
      rw [List.forall_mem_cons] at each
      exact each.1.append (ih each.2)

theorem Delivers.of_mem {dispatches : List Dispatch} {left right : List (MessageId × Route)}
    (delivers : Delivers dispatches left) (same : ∀ entry, entry ∈ right ↔ entry ∈ left) :
    Delivers dispatches right := by
  intro messageId route
  rw [same]
  exact delivers messageId route

theorem Delivers.flatMap_kept {Part : Type} {parts : List Part}
    {dispatches : Part → List Dispatch} {handed : Part → List (MessageId × Route)} {route : Route}
    {kept : Part → List MessageId}
    (each : ∀ part ∈ parts, Delivers (dispatches part) (handed part ++ route.entries (kept part))) :
    Delivers (parts.flatMap dispatches)
      (parts.flatMap handed ++ route.entries (parts.flatMap kept)) := by
  refine (Delivers.flatMap each).of_mem fun entry => ?_
  simp only [List.mem_append, List.mem_flatMap, Route.entries, List.mem_map]
  constructor
  · rintro (⟨part, isPart, handed⟩ | ⟨messageId, ⟨part, isPart, kept⟩, isEntry⟩)
    · exact ⟨part, isPart, Or.inl handed⟩
    · exact ⟨part, isPart, Or.inr ⟨messageId, kept, isEntry⟩⟩
  · rintro ⟨part, isPart, handed | ⟨messageId, kept, isEntry⟩⟩
    · exact Or.inl ⟨part, isPart, handed⟩
    · exact Or.inr ⟨messageId, ⟨part, isPart, kept⟩, isEntry⟩

theorem Accounts.ownRoutes_iff {isSent : MessageId → Prop} {rows : List LogCore}
    {handed : List (MessageId × Route)} {dispatches : List Dispatch}
    {channels : ℕ → Option Channel} (accounts : Accounts isSent rows handed dispatches)
    (known : ∀ dispatch ∈ dispatches, channels dispatch.channel.id = some dispatch.channel) :
    OwnRoutes channels isSent rows handed ↔ ∀ dispatch ∈ dispatches, dispatch.IsOwn := by
  constructor
  · intro own dispatch member
    rcases accounts.stored dispatch member with ⟨isSent, row, rowMem, sameId, onChannel⟩
    rcases own row rowMem (sameId ▸ isSent) with ⟨channelId, channel, onOwn, isChannel, routes⟩
    have sameChannel : channelId = dispatch.channel.id := by
      rw [onOwn, Option.some.injEq] at onChannel
      exact onChannel
    rw [sameChannel, known dispatch member, Option.some.injEq] at isChannel
    rcases (accounts.delivers _ _).mp ((routes _).mpr rfl) with ⟨other, otherMem, isOther, route⟩
    have same := accounts.distinct other otherMem dispatch member (isOther.trans sameId)
    rw [Dispatch.IsOwn, isChannel, ← same]
    exact route
  · intro own row rowMem isSent
    rcases accounts.sent row rowMem isSent with ⟨dispatch, member, sameId, onChannel⟩
    refine ⟨_, dispatch.channel, onChannel, known dispatch member, fun route => ?_⟩
    have isOwn : dispatch.route = some dispatch.channel.route := own dispatch member
    rw [accounts.delivers]
    constructor
    · rintro ⟨other, otherMem, isOther, toRoute⟩
      have same := accounts.distinct other otherMem dispatch member (isOther.trans sameId.symm)
      rw [same, isOwn, Option.some.injEq] at toRoute
      exact toRoute.symm
    · rintro rfl
      exact ⟨dispatch, member, sameId, isOwn⟩

end Klsmsc
