/-
# The sessions that a manager holds

What happens on one channel leaves the sessions of all others as they are. Only opening and
discarding decide whether a channel has a session; neither messages nor losses, neither
subscriptions nor sent payloads take it away.
-/

import ClassroomClient.Proofs.Session.Run
import ClassroomClient.Session.Manager

namespace ClassroomClient

open Stomp

namespace Manager

variable {Handler : Type}

theorem session?_set (manager : Manager Handler) (channel other : Channel)
    (session : Option (Session Handler)) :
    (manager.set channel session).session? other =
      if other = channel then session else manager.session? other := rfl

theorem session?_set_of_ne (manager : Manager Handler) {channel other : Channel}
    (session : Option (Session Handler)) (hother : other ≠ channel) :
    (manager.set channel session).session? other = manager.session? other := by
  rw [session?_set, if_neg hother]

/-! ## Channels beside the one that is worked on -/

theorem session?_discard_of_ne (manager : Manager Handler) {channel other : Channel}
    (hother : other ≠ channel) :
    (manager.discard channel).1.session? other = manager.session? other := by
  unfold discard
  split
  · rfl
  · exact manager.session?_set_of_ne none hother

theorem session?_openChannel_of_ne (manager : Manager Handler) (config : Config)
    {channel other : Channel} (attempt : Attempt) (hother : other ≠ channel) :
    (manager.openChannel config channel attempt).1.session? other = manager.session? other := by
  have hdiscard := manager.session?_discard_of_ne hother
  unfold openChannel
  split
  · rfl
  · dsimp only
    split
    · exact hdiscard
    · rw [session?_set_of_ne _ _ hother]
      exact hdiscard

theorem session?_subscribe_of_ne (manager : Manager Handler) {channel other : Channel}
    (topic : String) (handler : Handler) (hother : other ≠ channel) :
    (manager.subscribe channel topic handler).1.session? other = manager.session? other := by
  unfold subscribe
  split
  · rfl
  · exact manager.session?_set_of_ne _ hother

/-! ## Channels that have a session -/

/-- The attempt that a server grants without sending anything else. -/
def grantedAttempt : Attempt := .accepted [.text (Frame.bare .connected []).encode]

/-- A channel that could be opened has a session. -/
theorem isSome_of_openChannel {manager : Manager Handler} {config : Config} {channel : Channel}
    {attempt : Attempt} (hopened : (manager.openChannel config channel attempt).2.1 = .ok ()) :
    ((manager.openChannel config channel attempt).1.session? channel).isSome := by
  unfold openChannel at hopened ⊢
  split
  · next hconnected =>
    cases hsession : manager.session? channel with
    | none => simp [isConnected, hsession] at hconnected
    | some session => rfl
  · next hconnected =>
    rw [if_neg hconnected] at hopened
    dsimp only at hopened ⊢
    split
    · next hfailed =>
      rw [hfailed] at hopened
      cases hopened
    · rw [session?_set, if_pos rfl]
      rfl

/-! ## Sessions that stay -/

/-- A session that takes the place of another one is held like that. -/
theorem isSome_set {manager : Manager Handler} {channel : Channel} {session : Session Handler}
    (hsession : manager.session? channel = some session) (next : Session Handler)
    (other : Channel) :
    ((manager.set channel (some next)).session? other).isSome =
      (manager.session? other).isSome := by
  rw [session?_set]
  by_cases hother : other = channel
  · rw [if_pos hother, hother, hsession]
    rfl
  · rw [if_neg hother]

/-- What comes in on a channel takes no session away. -/
theorem isSome_receive (manager : Manager Handler) (channel other : Channel)
    (event : SocketEvent) :
    ((manager.receive channel event).1.session? other).isSome =
      (manager.session? other).isSome := by
  unfold receive
  split
  · rfl
  · next session hsession => exact isSome_set hsession _ other

/-- Subscribing takes no session away, whether it succeeds or not. -/
theorem isSome_subscribe (manager : Manager Handler) (channel other : Channel) (topic : String)
    (handler : Handler) :
    ((manager.subscribe channel topic handler).1.session? other).isSome =
      (manager.session? other).isSome := by
  unfold subscribe
  split
  · rfl
  · next session hsession => exact isSome_set hsession _ other

/-- Sending takes no session away, whether it succeeds or not. -/
theorem isSome_send (manager : Manager Handler) (channel other : Channel)
    (destination payload : String) :
    ((manager.send channel destination payload).1.session? other).isSome =
      (manager.session? other).isSome := by
  unfold send
  split
  · rfl
  · next session hsession => exact isSome_set hsession _ other

/-- What is sent on a channel is one frame there, or nothing at all. -/
theorem send_cases (manager : Manager Handler) (channel : Channel) (destination payload : String) :
    (manager.send channel destination payload).2 =
        (.ok (), [(channel, .text (sendFrame destination payload).encode)]) ∨
      ∃ error, (manager.send channel destination payload).2 = (.error error, []) := by
  unfold send
  cases manager.session? channel with
  | none => exact .inr ⟨_, rfl⟩
  | some session =>
      have hmarked {result : Except SendError Unit × List WireEvent}
          (hresult : (session.send destination payload).2 = result) :
          _ = (result.1, onChannel channel result.2) :=
        congrArg (fun result => (result.1, onChannel channel result.2)) hresult
      rcases session.send_cases destination payload with hsent | ⟨error, hfailed⟩
      · exact .inl (hmarked hsent)
      · exact .inr ⟨error, hmarked hfailed⟩

/-- A session whose connection is lost is still held. -/
theorem isSome_lose (manager : Manager Handler) (channel other : Channel) (reason : String) :
    ((manager.lose channel reason).session? other).isSome =
      (manager.session? other).isSome := by
  rw [lose, session?_set]
  by_cases hother : other = channel
  · rw [if_pos hother, hother, Option.isSome_map]
  · rw [if_neg hother]

end Manager

end ClassroomClient
