/-
# What reaches the server of a submission

An action that the page allows is sent as one frame. The server reads from it the request of the
page as it was before the action: its editable files with their contents, the team, and for a test
the tests that are selected. No part of the way changes a character: the JSON text of the request
is read back as the request, and the frame around it as the frame.
-/

import ClassroomClient.Proofs.Exchange.Request
import ClassroomClient.Proofs.Session.Call
import ClassroomClient.Proofs.Session.Run

namespace ClassroomClient

open Exchange Stomp

/-! ## The frame of a payload -/

/-- A payload that is not empty is read back with its length. -/
theorem sized_sendFrame (destination : String) {payload : String} (hpayload : payload ≠ "") :
    (sendFrame destination payload).sized =
      { command := .send
        headers :=
          [{ name := "destination", value := destination },
           { name := "content-type", value := "application/json" },
           { name := "content-length", value := toString payload.utf8ByteSize }]
        body := payload } := by
  have hnone : (sendFrame destination payload).header? Frame.contentLength = none := by
    simp [sendFrame, Frame.bare, Frame.header?, lookup?, Frame.contentLength]
  have hsized : ¬ ((sendFrame destination payload).body = "" ∨
      ((sendFrame destination payload).header? Frame.contentLength).isSome) := by
    simp only [hnone, Option.isSome_none, Bool.false_eq_true, or_false]
    exact hpayload
  rw [Frame.sized, if_neg hsized]
  rfl

/-! ## Actions through a session -/

namespace Submission

theorem request_text_ne_empty (request : Request) : String.ofList request.text ≠ "" := by
  simp [Request.text, Json.objectText]

/-- An allowed action writes its request as one frame and succeeds. -/
theorem dispatch_sink {Handler : Type} {session : Session Handler} (hlive : session.IsLive)
    (team : String) (log : List WireEvent) {page : Page} {action : Action}
    (henabled : page.isDisabled action = false) :
    dispatch team Session.sink (session, log) page action =
      ((session, log ++ [.text (sendFrame action.destination
          (String.ofList (request team page action).text)).encode]),
        pageAfter page action, .ok (request team page action)) := by
  simp [dispatch, prepare, henabled, Session.sink, hlive.send]

/-- An allowed action that goes through a live session writes one message. The frame in it carries
the request of the page as it was before: its payload is free of control characters and is decoded
as the team, the files that can be edited, in their order, and the selected tests of a test. The
bound on the payload is that of every text in memory. -/
theorem dispatch_writes_request {Handler : Type} (team : String) (session : Session Handler)
    (log : List WireEvent) (page : Page) (action : Action) (hlive : session.IsLive)
    (henabled : page.isDisabled action = false)
    (hsize : (String.ofList (request team page action).text).utf8ByteSize < 2 ^ 63) :
    ∃ (text : String) (frame : Frame),
      (dispatch team Session.sink (session, log) page action).1.2 = log ++ [.text text] ∧
      Frame.parse text = .ok (some frame) ∧
      frame.command = .send ∧
      frame.headers =
        [{ name := "destination", value := action.destination },
         { name := "content-type", value := "application/json" },
         { name := "content-length", value := toString frame.body.utf8ByteSize }] ∧
      (∀ c ∈ frame.body.toList, 0x20 ≤ c.toNat) ∧
      Request.shape.decode frame.body = .ok
        { team
          source := (page.editors.filter fun editor => editor.kind == .edit && !editor.readOnly).map
            fun editor => { filename := editor.filename, content := editor.content }
          tests := if action = .test then some page.selectedTests else none } := by
  have hparse := parse_sendFrame action.destination hsize
  rw [sized_sendFrame action.destination (request_text_ne_empty _)] at hparse
  refine ⟨_, _, by rw [dispatch_sink hlive team log henabled], hparse, rfl, rfl, ?_, ?_⟩
  · rw [String.toList_ofList]
    exact Request.isControlFree_text (request team page action)
  · rw [Request.decode_text]
    cases action <;> rfl

/-- A test of a file whose text needs escapes, beside a file that is not sent. -/
theorem dispatch_writes_request_of_escapes :
    let page : Page :=
      { Page.empty with
        editors := [.fresh "A.java" .edit "\"\\\x00é\n", .fresh "T.java" .test "secret"]
        selectedTests := ["t1", ""] }
    let session : Session Unit := { channel := .control }
    ∃ (text : String) (frame : Frame),
      (dispatch "team1" Session.sink (session, []) page .test).1.2 = [.text text] ∧
      Frame.parse text = .ok (some frame) ∧
      frame.command = .send ∧
      frame.headers =
        [{ name := "destination", value := "/app/submit/test" },
         { name := "content-type", value := "application/json" },
         { name := "content-length", value := toString frame.body.utf8ByteSize }] ∧
      (∀ c ∈ frame.body.toList, 0x20 ≤ c.toNat) ∧
      Request.shape.decode frame.body = .ok
        { team := "team1"
          source := [{ filename := "A.java", content := "\"\\\x00é\n" }]
          tests := some ["t1", ""] } := by
  intro page session
  have hlive : session.IsLive := ⟨rfl, rfl, rfl⟩
  have hbytes : (String.ofList (request "team1" page .test).text).utf8ByteSize = 94 := by decide
  exact dispatch_writes_request "team1" session [] page .test hlive (by decide) (by omega)

end Submission

end ClassroomClient
