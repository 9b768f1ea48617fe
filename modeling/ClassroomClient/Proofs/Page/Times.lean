/-
# Times that are integers

The time of feedback is kept as the server wrote it. An integer within 64 bits, signed or unsigned,
stays exact on its way from the body to the page, be it the time itself or a part of it at any
depth: it is decoded to this very number, and the digits of the body are the digits that are shown,
at the end of the last line of a broadcast. Larger integers become reals.
-/

import ClassroomClient.Proofs.Exchange.Members
import ClassroomClient.Proofs.Json.Places
import ClassroomClient.Proofs.Page.Responses

namespace ClassroomClient

open Json Exchange

/-! ## What is decoded -/

namespace Exchange

/-- Whether a body of feedback gives its time by this text. Every other member gives a field a value
of its type, or it has a name that belongs to no field, and no field is given twice. -/
structure GivesTime (body : Body) (text : List Char) : Prop where
  given : ∃ member ∈ body.members, member.key = "time" ∧ member.value.inner = text
  typed : IsWellTyped Feedback.slots (body.members.filter fun member => member.key ≠ "time")
  unrepeated : IsUnrepeated Feedback.slots body.members

/-- The field of the time. -/
def timeSlot : Slot Feedback := valueSlot "time" (·.time)

theorem timeSlot_mem : timeSlot ∈ Feedback.slots := by
  simp [timeSlot, Feedback.slots]

/-- A time is given by one member only. -/
theorem GivesTime.inner_eq {body : Body} {text : List Char} (hgives : GivesTime body text)
    {member : Member} (hmem : member ∈ body.members) (hkey : member.key = "time") :
    member.value.inner = text := by
  obtain ⟨given, hgiven, hgivenKey, rfl⟩ := hgives.given
  -- two members with this name would give one field twice
  have hsymm : Std.Symm fun member other : Member =>
      ∀ slot ∈ Feedback.slots, ¬ (slot.IsNamed member.key ∧ slot.IsNamed other.key) :=
    ⟨fun _ _ hapart slot hslot hboth => hapart slot hslot hboth.symm⟩
  have hnamed {other : Member} (hother : other.key = "time") : timeSlot.IsNamed other.key :=
    hother ▸ List.mem_cons_self
  by_contra hne
  have hapart := hgives.unrepeated.forall hmem hgiven fun heq => hne (heq ▸ rfl)
  exact hapart timeSlot timeSlot_mem ⟨hnamed hkey, hnamed hgivenKey⟩

/-- Feedback holds the time that its body spells. -/
theorem GivesTime.exists_decode {body : Body} {text : List Char} (hgives : GivesTime body text)
    {time : Value} (hspells : Spells 127 text time) :
    ∃ feedback, Feedback.shape.decode body.text = .ok feedback ∧ feedback.time = time := by
  have htyped : IsWellTyped Feedback.slots body.members := by
    intro member hmem
    by_cases hkey : member.key = "time"
    · refine .inl ⟨timeSlot, timeSlot_mem, hkey ▸ List.mem_cons_self, time, ?_⟩
      rw [hgives.inner_eq hmem hkey]
      exact hspells
    · exact hgives.typed member (List.mem_filter.2 ⟨hmem, by simpa using hkey⟩)
  obtain ⟨feedback, hdecode, hunique⟩ :=
    Feedback.matches_slots.decodesMembers.decode_unrepeated body htyped hgives.unrepeated
  refine ⟨feedback, hdecode, ?_⟩
  obtain ⟨member, hmem, hkey, rfl⟩ := hgives.given
  have hreflected := ((hunique feedback).2 rfl timeSlot timeSlot_mem).1 member hmem
    (hkey ▸ List.mem_cons_self)
  exact Feedback.matches_slots.content_unique timeSlot_mem hreflected hspells

theorem decode_feedback_of_ok {body : String} {feedback : Feedback}
    (hdecode : Feedback.shape.decode body = .ok feedback) :
    Notification.decode Route.feedback body =
      .ok (if feedback.submit then .submitResult feedback else .testResult feedback) := by
  rw [Notification.decode, if_pos rfl, Notification.readBody, hdecode]
  rfl

theorem decode_broadcasts_of_ok {body : String} {feedback : Feedback}
    (hdecode : Feedback.shape.decode body = .ok feedback) :
    Notification.decode Route.broadcasts body = .ok (.broadcast feedback) := by
  rw [Notification.decode, if_neg (by decide), if_neg (by decide), if_pos rfl,
    Notification.readBody, hdecode]
  rfl

/-- A value with a number in a gap is shown by its text. -/
theorem timeText_of_place {depth : Nat} (place : Place depth) {number : Number}
    {feedback : Feedback} (htime : feedback.time = place.value (.number number)) :
    feedback.timeText = String.ofList feedback.time.text := by
  cases place <;> simp [Feedback.timeText, htime, Place.value]

end Exchange

/-! ## What is shown -/

namespace Page

/-- What stands in the region for responses in front of the time of a broadcast: what it held
before, the team and the text, each on a line of its own. -/
def broadcastHead (page : Page) (feedback : Feedback) : String :=
  let old := (page.region? Region.response).getD ""
  let first := feedback.team ++ ": "
  (if old.isEmpty then first else old ++ "\n" ++ first) ++ "\n" ++ feedback.text

/-- Behind a text that is not empty, what is appended is a new line. -/
theorem region?_appendRegion_of_ne {page : Page} {name old : String}
    (hold : page.region? name = some old) (hne : old ≠ "") (text : String) :
    (page.appendRegion name text).region? name = some (old ++ "\n" ++ text) := by
  rw [region?_appendRegion, hold, Option.getD_some, if_neg (by simpa using hne)]

/-- The time of a broadcast is shown behind all else. -/
theorem region_response_render (page : Page) (now : Int) (feedback : Feedback) :
    (page.render now (.broadcast feedback)).1.region? Region.response =
      some (page.broadcastHead feedback ++ "\n" ++ feedback.timeText) := by
  have hteam := region?_appendRegion (page.touch now) Region.response (feedback.team ++ ": ")
  have htext := region?_appendRegion_of_ne hteam (by split <;> simp) feedback.text
  exact region?_appendRegion_of_ne htext (by simp) feedback.timeText

end Page

/-! ## Exact integers -/

/-- What becomes of a body on the topics of feedback and of broadcasts: it is decoded to feedback
with this time, which is shown by this text, a single line, and on any page at the end of the region
for responses. -/
structure ShowsTime (body : Body) (time : Value) (text : String) (feedback : Feedback) : Prop where
  decode_feedback : Notification.decode Route.feedback body.text =
    .ok (if feedback.submit then .submitResult feedback else .testResult feedback)
  decode_broadcasts : Notification.decode Route.broadcasts body.text = .ok (.broadcast feedback)
  time_eq : feedback.time = time
  timeText_eq : feedback.timeText = text
  single_line : '\n' ∉ text.toList
  rendered : ∀ (page : Page) (now : Int),
    (page.render now (.broadcast feedback)).1.region? Region.response =
      some (page.broadcastHead feedback ++ "\n" ++ text)

theorem showsTime_of_place (place : Place 127) {n : Int} (hrange : (Number.integer n).InRange)
    {body : Body} (hgives : GivesTime body (place.text (Text.signedDecimal n))) :
    ∃ feedback, ShowsTime body (place.value (.number (.integer n)))
      (String.ofList (place.value (.number (.integer n))).text) feedback := by
  obtain ⟨feedback, hdecode, htime⟩ :=
    hgives.exists_decode (place.spells fun _ => Spells.integer hrange)
  have htext : feedback.timeText = String.ofList (place.value (.number (.integer n))).text := by
    rw [timeText_of_place place htime, htime]
  refine ⟨feedback, ?_⟩
  constructor
  case decode_feedback => exact decode_feedback_of_ok hdecode
  case decode_broadcasts => exact decode_broadcasts_of_ok hdecode
  case time_eq => exact htime
  case timeText_eq => exact htext
  case single_line =>
    rw [String.toList_ofList]
    exact fun hmem => absurd (isControlFree_text _ '\n' hmem) (by decide)
  case rendered =>
    intro page now
    rw [← htext]
    exact page.region_response_render now feedback

/-- An integer within 64 bits, signed or unsigned, is an exact time: a body that gives it by its
digits is decoded on both topics to this integer, and these digits are shown as the last line of the
broadcast. At any place of a time that is an array or an object it is just as exact: it is decoded
there, and its digits are shown between two texts that are the same for all integers. -/
theorem showsTime_of_integer :
    (∀ n : Int, -(2 ^ 63 : Nat) ≤ n → n ≤ (2 ^ 64 - 1 : Nat) → ∀ body,
      GivesTime body (Text.signedDecimal n) →
        ∃ feedback, ShowsTime body (.number (.integer n))
          (String.ofList (Text.signedDecimal n)) feedback) ∧
    ∀ place : Place 127, ∃ before after,
      ∀ n : Int, -(2 ^ 63 : Nat) ≤ n → n ≤ (2 ^ 64 - 1 : Nat) → ∀ body,
      GivesTime body (place.text (Text.signedDecimal n)) →
        ∃ feedback, ShowsTime body (place.value (.number (.integer n)))
          (String.ofList (before ++ (Text.signedDecimal n ++ after))) feedback := by
  have hinRange {n : Int} (hlow : -(2 ^ 63 : Nat) ≤ n) (hhigh : n ≤ (2 ^ 64 - 1 : Nat)) :
      (Number.integer n).InRange :=
    ⟨hlow, by omega⟩
  constructor
  · intro n hlow hhigh body hgives
    exact showsTime_of_place .here (hinRange hlow hhigh) hgives
  · intro place
    obtain ⟨before, after, htext⟩ := place.exists_text_value
    refine ⟨before, after, fun n hlow hhigh body hgives => ?_⟩
    have hshows := showsTime_of_place place (hinRange hlow hhigh) hgives
    rwa [htext] at hshows

/-- A gap in the list that is the second value for one name. -/
def nestedPlace : Place 127 :=
  .member .none [(.bare "a" ['t', 'r', 'u', 'e'], .boolean true)] (.bare "a" [])
    (.item .none [(.bare ['n', 'u', 'l', 'l'], .null)] (.bare []) .here []
      (List.forall_mem_singleton.2 .null) nofun)
    [] (List.forall_mem_singleton.2 (.boolean true)) nofun nofun

/-- The least integer as the whole time, and the greatest one in a list in an object. -/
theorem showsTime_of_integer_nested :
    let body (time : List Char) : Body := ⟨.none, .none, [.bare "time" time], .none⟩
    let least := body (Text.signedDecimal (-9223372036854775808))
    let nested := body (nestedPlace.text (Text.signedDecimal 18446744073709551615))
    least.text = "\x7b\"time\":-9223372036854775808\x7d" ∧
      nested.text = "\x7b\"time\":\x7b\"a\":true,\"a\":[null,18446744073709551615]\x7d\x7d" ∧
      (∃ feedback, Notification.decode Route.broadcasts least.text = .ok (.broadcast feedback) ∧
        feedback.timeText = "-9223372036854775808") ∧
      ∃ feedback, Notification.decode Route.broadcasts nested.text = .ok (.broadcast feedback) ∧
        feedback.time =
          .object [("a", .array [.null, .number (.integer 18446744073709551615)])] ∧
        feedback.timeText = "\x7b\"a\":[null,18446744073709551615]\x7d" := by
  intro body least nested
  obtain ⟨hplain, hplaces⟩ := showsTime_of_integer
  have hgives (time : List Char) : GivesTime (body time) time :=
    ⟨⟨_, List.mem_singleton_self _, rfl, rfl⟩, by simp [body, Member.bare, IsWellTyped],
      List.pairwise_singleton _ _⟩
  obtain ⟨before, after, hnested⟩ := hplaces nestedPlace
  obtain ⟨first, hfirst⟩ := hplain (-9223372036854775808) (by decide) (by decide) least (hgives _)
  obtain ⟨second, hsecond⟩ :=
    hnested 18446744073709551615 (by decide) (by decide) nested (hgives _)
  refine ⟨by decide +kernel, by decide +kernel, ⟨first, hfirst.decode_broadcasts, ?_⟩,
    second, hsecond.decode_broadcasts, hsecond.time_eq, ?_⟩
  · rw [hfirst.timeText_eq]
    decide +kernel
  · rw [Feedback.timeText, hsecond.time_eq]
    decide +kernel

end ClassroomClient
