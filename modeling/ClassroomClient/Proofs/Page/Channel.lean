/-
# What the notifications of each channel do to the page

Every notification is published on one channel. Those of the submit channel show results and leave
everything else on the page alone, those of the control channel reload the page or lock it, and
that of the feedback channel does nothing to the page but ask for the rankings. The notifications
of the last two carry no text that could be shown.
-/

import ClassroomClient.Proofs.Exchange.Notification
import ClassroomClient.Proofs.Page.Lock
import ClassroomClient.Proofs.Page.Panel
import ClassroomClient.Proofs.Page.Run
import ClassroomClient.Proofs.Session.Confinement

namespace ClassroomClient

open Exchange

namespace Exchange.Notification

/-- The channel on which a notification is published. -/
def channel : Notification → Channel
  | testResult _ | submitResult _ | compileResult _ | broadcast _ => .submit
  | roundStart | roundStop _ => .control
  | rankingsChange => .feedback

/-- A notification on a topic of a channel is one of those that are published there. -/
theorem channel_eq_of_publishes {notification : Notification} {channel : Channel}
    (hpublishes : channel.Publishes notification.topic) : notification.channel = channel := by
  generalize htopic : notification.topic = topic at hpublishes
  cases hpublishes <;> cases notification <;> first
    | rfl
    | simp [topic, Route.feedback, Route.compileResults, Route.broadcasts, Route.roundStart,
        Route.roundStop, Route.rankingsChange] at htopic

/-- On a topic of the control or feedback channel every message has a meaning, and its body makes
no difference to it but in the notice of a stop. -/
theorem decode_of_publishes {channel : Channel} {topic : String}
    (hpublishes : channel.Publishes topic) (hother : channel ≠ .submit) :
    (∀ body, decode topic body = .ok .roundStart) ∨
      (∀ body, ∃ notice, decode topic body = .ok (.roundStop notice)) ∨
      ∀ body, decode topic body = .ok .rankingsChange := by
  cases hpublishes with
  | broadcasts => exact absurd rfl hother
  | feedback => exact absurd rfl hother
  | compileResults => exact absurd rfl hother
  | roundStart => exact .inl decode_roundStart
  | roundStop => exact .inr (.inl decode_roundStop)
  | rankingsChange => exact .inr (.inr fun _ => rfl)

end Exchange.Notification

namespace Page

/-- The other page differs in nothing but its results: the regions, the colors of the tabs and the
time of the last update. -/
structure SameButResults (page other : Page) : Prop where
  editors : other.editors = page.editors
  greyedTabs : other.greyedTabs = page.greyedTabs
  disabled : other.disabled = page.disabled
  selectedTests : other.selectedTests = page.selectedTests
  reloadCount : other.reloadCount = page.reloadCount

theorem SameButResults.refl (page : Page) : page.SameButResults page := ⟨rfl, rfl, rfl, rfl, rfl⟩

theorem SameButResults.symm {page other : Page} (hsame : page.SameButResults other) :
    other.SameButResults page :=
  ⟨hsame.editors.symm, hsame.greyedTabs.symm, hsame.disabled.symm, hsame.selectedTests.symm,
    hsame.reloadCount.symm⟩

theorem SameButResults.trans {page other last : Page} (hfirst : page.SameButResults other)
    (hnext : other.SameButResults last) : page.SameButResults last :=
  ⟨hnext.editors.trans hfirst.editors, hnext.greyedTabs.trans hfirst.greyedTabs,
    hnext.disabled.trans hfirst.disabled, hnext.selectedTests.trans hfirst.selectedTests,
    hnext.reloadCount.trans hfirst.reloadCount⟩

theorem SameButResults.isDisabled {page other : Page} (hsame : page.SameButResults other)
    (action : Action) : other.isDisabled action = page.isDisabled action := by
  rw [Page.isDisabled, Page.isDisabled, hsame.disabled]

theorem SameButResults.lockState {page other : Page} (hsame : page.SameButResults other) :
    other.lockState = page.lockState := by
  rw [Page.lockState, Page.lockState, hsame.disabled, hsame.greyedTabs, hsame.editors]

/-- Each page may get a text of its own. -/
theorem SameButResults.setRegion {page other : Page} (hsame : page.SameButResults other)
    (name text shown : String) :
    (page.setRegion name text).SameButResults (other.setRegion name shown) :=
  ⟨hsame.editors, hsame.greyedTabs, hsame.disabled, hsame.selectedTests, hsame.reloadCount⟩

theorem SameButResults.setContent {page other : Page} (hsame : page.SameButResults other)
    (filename content : String) :
    (page.setContent filename content).SameButResults (other.setContent filename content) where
  editors := by
    rw [Page.setContent, Page.setContent, hsame.editors]
  greyedTabs := hsame.greyedTabs
  disabled := hsame.disabled
  selectedTests := hsame.selectedTests
  reloadCount := hsame.reloadCount

theorem SameButResults.selectTests {page other : Page} (hsame : page.SameButResults other)
    (names : List String) : (page.selectTests names).SameButResults (other.selectTests names) :=
  ⟨hsame.editors, hsame.greyedTabs, hsame.disabled, rfl, hsame.reloadCount⟩

theorem SameButResults.disable {page other : Page} (hsame : page.SameButResults other) :
    page.disable.SameButResults other.disable where
  editors := by
    rw [Page.disable, Page.disable, hsame.editors]
  greyedTabs := by
    rw [Page.disable, Page.disable, hsame.editors, hsame.greyedTabs]
  disabled := rfl
  selectedTests := hsame.selectedTests
  reloadCount := hsame.reloadCount

theorem SameButResults.reload {page other : Page} (hsame : page.SameButResults other) :
    page.reload.SameButResults other.reload where
  editors := by
    rw [Page.reload, Page.reload, hsame.editors]
  greyedTabs := rfl
  disabled := rfl
  selectedTests := rfl
  reloadCount := by
    rw [Page.reload, Page.reload, hsame.reloadCount]

theorem SameButResults.pageAfter {page other : Page} (hsame : page.SameButResults other)
    (action : Action) :
    (Submission.pageAfter page action).SameButResults (Submission.pageAfter other action) := by
  cases action with
  | compile => exact hsame
  | test =>
      exact ⟨hsame.editors, hsame.greyedTabs, hsame.disabled, hsame.selectedTests,
        hsame.reloadCount⟩
  | submit => exact hsame.disable

/-- The page may be touched at other times. -/
theorem SameButResults.touch {page other : Page} (hsame : page.SameButResults other)
    (now later : Int) : (page.touch now).SameButResults (other.touch later) :=
  ⟨hsame.editors, hsame.greyedTabs, hsame.disabled, hsame.selectedTests, hsame.reloadCount⟩

variable {notification : Notification}

/-- What is published on the submit channel changes nothing but the results that are shown. -/
theorem render_of_submit (hchannel : notification.channel = .submit) (page : Page) (now : Int) :
    (page.render now notification).2 = .none ∧
      page.SameButResults (page.render now notification).1 := by
  cases notification with
  | testResult feedback =>
      refine ⟨rfl, ?_⟩
      unfold render showTestResult
      dsimp only
      split <;> exact ⟨rfl, rfl, rfl, rfl, rfl⟩
  | submitResult feedback => exact ⟨rfl, rfl, rfl, rfl, rfl, rfl⟩
  | compileResult result => exact ⟨rfl, rfl, rfl, rfl, rfl, rfl⟩
  | broadcast feedback => exact ⟨rfl, rfl, rfl, rfl, rfl, rfl⟩
  | roundStart => cases hchannel
  | roundStop notice => cases hchannel
  | rankingsChange => cases hchannel

/-- What is published on the control channel reloads the page or locks it. -/
theorem render_of_control (hchannel : notification.channel = .control) (page : Page) (now : Int) :
    (page.render now notification).1 = (page.touch now).reload ∨
      (page.render now notification).1 = (page.touch now).disable := by
  cases notification with
  | roundStart => exact .inl rfl
  | roundStop notice => exact .inr rfl
  | _ => cases hchannel

/-- What is published on the feedback channel does nothing but note the time. -/
theorem render_of_feedback (hchannel : notification.channel = .feedback) (page : Page)
    (now : Int) : (page.render now notification).1 = page.touch now := by
  cases notification with
  | rankingsChange => rfl
  | _ => cases hchannel

/-- A notification keeps pages alike, and what it lets the client fetch is the same for both. -/
theorem SameButResults.render {page other : Page} (hsame : page.SameButResults other) (now : Int)
    (notification : Notification) :
    (page.render now notification).1.SameButResults (other.render now notification).1 ∧
      (other.render now notification).2 = (page.render now notification).2 := by
  cases hchannel : notification.channel with
  | submit =>
      obtain ⟨hnext, hpage⟩ := render_of_submit hchannel page now
      obtain ⟨hnextOther, hother⟩ := render_of_submit hchannel other now
      exact ⟨hpage.symm.trans (hsame.trans hother), hnextOther.trans hnext.symm⟩
  | control =>
      have htouched := hsame.touch now now
      cases notification with
      | roundStart => exact ⟨htouched.reload, rfl⟩
      | roundStop notice => exact ⟨htouched.disable, rfl⟩
      | _ => cases hchannel
  | feedback =>
      cases notification with
      | rankingsChange => exact ⟨hsame.touch now now, rfl⟩
      | _ => cases hchannel

/-- Whatever happens to both pages keeps them alike. -/
theorem SameButResults.perform {page other : Page} (hsame : page.SameButResults other)
    (happening : Happening) :
    (page.perform happening).SameButResults (other.perform happening) := by
  cases happening with
  | rendered now notification => exact (hsame.render now notification).1
  | acted team action =>
      cases hcase : page.isDisabled action with
      | true =>
          rw [(acted_of_disabled hcase team).1,
            (acted_of_disabled ((hsame.isDisabled action).trans hcase) team).1]
          exact hsame
      | false =>
          rw [(acted_of_enabled hcase team).1,
            (acted_of_enabled ((hsame.isDisabled action).trans hcase) team).1]
          exact hsame.pageAfter action
  | edited filename content => exact hsame.setContent filename content
  | selected tests => exact hsame.selectTests tests
  | written name text => exact hsame.setRegion name text text

/-- Only the signal for a new round counts a reload. -/
theorem reloadCount_render (page : Page) (now : Int) {notification : Notification}
    (hother : notification ≠ .roundStart) :
    (page.render now notification).1.reloadCount = page.reloadCount := by
  cases hchannel : notification.channel with
  | submit => exact (render_of_submit hchannel page now).2.reloadCount
  | control =>
      cases notification with
      | roundStart => exact absurd rfl hother
      | roundStop notice => rfl
      | _ => cases hchannel
  | feedback =>
      rw [render_of_feedback hchannel]
      rfl

/-- What is not published on the submit channel leaves every panel as it is or empties it. -/
theorem panel_render_of_ne_submit (page : Page) (now : Int) {notification : Notification}
    (hother : notification.channel ≠ .submit) (name : String) :
    (page.render now notification).1.panel name = page.panel name ∨
      (page.render now notification).1.panel name = (none, .neutral) := by
  cases hchannel : notification.channel with
  | submit => exact absurd hchannel hother
  | control =>
      rcases render_of_control hchannel page now with hreload | hdisable
      · rw [hreload, panel_reload]
        exact .inr rfl
      · rw [hdisable, panel_disable, panel_touch]
        exact .inl rfl
  | feedback =>
      rw [render_of_feedback hchannel, panel_touch]
      exact .inl rfl

theorem reloadCount_pageAfter (page : Page) (action : Action) :
    (Submission.pageAfter page action).reloadCount = page.reloadCount := by
  cases action <;> rfl

/-- An action leaves every panel as it is or takes away its color and its text. -/
theorem panel_pageAfter (page : Page) (action : Action) (name : String) :
    (Submission.pageAfter page action).panel name = page.panel name ∨
      (Submission.pageAfter page action).tabColor name = .neutral ∧
        ∀ text, (Submission.pageAfter page action).region? name = some text →
          page.region? name = some text ∨ text = "" := by
  cases action with
  | compile => exact .inl rfl
  | submit => exact .inl (page.panel_disable name)
  | test =>
      right
      have hpanel := page.panel_clearTestOutputs name
      refine ⟨congrArg (·.2) hpanel, fun text htext => ?_⟩
      have hregion := congrArg (·.1) hpanel
      change page.clearTestOutputs.region? name = _ at hregion
      change page.clearTestOutputs.region? name = _ at htext
      rw [hregion] at htext
      split at htext
      · exact .inr (Option.some.inj htext).symm
      · split at htext
        · cases htext
        · exact .inl htext

end Page

end ClassroomClient
