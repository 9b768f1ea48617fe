/-
# The topics of notifications

Every notification comes on one topic, and a message on another topic is never taken for it. The
signals are recognized by their topic alone: whatever the body holds, readable or not, the message
is that signal.
-/

import ClassroomClient.Exchange.Notification

namespace ClassroomClient.Exchange.Notification

theorem decode_roundStart (body : String) : decode Route.roundStart body = .ok .roundStart := rfl

/-- A stop without a readable body is a stop of no particular task. -/
theorem decode_roundStop (body : String) :
    ∃ notice, decode Route.roundStop body = .ok (.roundStop notice) := by
  rw [decode, if_neg (by decide), if_neg (by decide), if_neg (by decide), if_neg (by decide),
    if_pos rfl]
  cases StopNotice.shape.decode body with
  | ok notice => exact ⟨notice, rfl⟩
  | error fault => exact ⟨StopNotice.empty, rfl⟩

/-- What is made of a body that must be readable is made of some record. -/
theorem exists_of_readBody {σ : Type} {shape : Json.Shape σ} {topic body : String}
    {make : σ → Notification} {notification : Notification}
    (hread : (readBody shape topic body >>= fun record => pure (make record)) =
      .ok notification) : ∃ record, make record = notification := by
  cases hbody : readBody shape topic body with
  | error error =>
      rw [hbody] at hread
      cases hread
  | ok record =>
      rw [hbody] at hread
      exact ⟨record, Except.ok.inj hread⟩

/-- The topic on which a notification comes. -/
def topic : Notification → String
  | testResult _ | submitResult _ => Route.feedback
  | compileResult _ => Route.compileResults
  | broadcast _ => Route.broadcasts
  | roundStart => Route.roundStart
  | roundStop _ => Route.roundStop
  | rankingsChange => Route.rankingsChange

/-- A notification is made of no message but one on its topic. -/
theorem topic_eq_of_decode {address body : String} {notification : Notification}
    (hdecode : decode address body = .ok notification) : notification.topic = address := by
  unfold decode at hdecode
  split at hdecode
  · next haddress =>
    obtain ⟨feedback, rfl⟩ := exists_of_readBody hdecode
    split <;> exact haddress.symm
  · split at hdecode
    · next haddress =>
      obtain ⟨result, rfl⟩ := exists_of_readBody hdecode
      exact haddress.symm
    · split at hdecode
      · next haddress =>
        obtain ⟨feedback, rfl⟩ := exists_of_readBody hdecode
        exact haddress.symm
      · split at hdecode
        · next haddress =>
          cases hdecode
          exact haddress.symm
        · split at hdecode
          · next haddress =>
            split at hdecode <;> cases hdecode <;> exact haddress.symm
          · split at hdecode
            · next haddress =>
              cases hdecode
              exact haddress.symm
            · cases hdecode

/-- A notification of either signal came on the topic of the signal. -/
theorem topic_of_decode {topic body : String} {notification : Notification}
    (hdecode : decode topic body = .ok notification) :
    (notification = .roundStart → topic = Route.roundStart) ∧
      ∀ notice, notification = .roundStop notice → topic = Route.roundStop := by
  have haddress := topic_eq_of_decode hdecode
  constructor
  · rintro rfl
    exact haddress.symm
  · rintro notice rfl
    exact haddress.symm

end ClassroomClient.Exchange.Notification
