/-
# Rendering notifications

What each notification changes on the page, and what has to be fetched afterwards because the
page cannot know it by itself.
-/

import ClassroomClient.Exchange.Notification
import ClassroomClient.Page.Basic

namespace ClassroomClient

open Exchange

/-- What has to be fetched after a notification. -/
inductive FollowUp
  | none
  /-- The page is fresh, so everything on it is fetched again. -/
  | reloaded
  /-- The rankings are fetched again. -/
  | refreshRankings
  deriving DecidableEq, Repr, Inhabited

namespace Page

/-- Shows the result of a test under its name. A result without a name changes nothing. -/
def showTestResult (page : Page) (feedback : Feedback) : Page :=
  match feedback.test with
  | some test =>
    (page.setTestOutput test feedback.text).setTabColor test (.ofSuccess feedback.success)
  | none => page

/-- Shows the result of a compilation. -/
def showCompileResult (page : Page) (result : CompileResult) : Page :=
  (page.setRegion Region.output result.text).setTabColor Region.output
    (.ofSuccess result.success)

/-- Adds a broadcast to the responses: team, text and time on lines of their own. -/
def showBroadcast (page : Page) (feedback : Feedback) : Page :=
  ((page.appendRegion Region.response s!"{feedback.team}: ").appendRegion Region.response
    feedback.text).appendRegion Region.response feedback.timeText

/-- Renders a notification at a point in time. -/
def render (page : Page) (now : Int) (notification : Notification) : Page × FollowUp :=
  let page := page.touch now
  match notification with
  | .testResult feedback => (page.showTestResult feedback, .none)
  | .submitResult _ => (page, .none)
  | .compileResult result => (page.showCompileResult result, .none)
  | .broadcast feedback => (page.showBroadcast feedback, .none)
  | .roundStart => (page.reload, .reloaded)
  | .roundStop _ => (page.disable, .none)
  | .rankingsChange => (page, .refreshRankings)

end Page

end ClassroomClient
