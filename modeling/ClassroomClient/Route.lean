/-
# Addresses of the server

The destinations that requests are sent to, the topics that the server publishes on, and the
page that lists the assignment files.
-/

namespace ClassroomClient.Route

/-- Where compile requests go. -/
def compile : String := "/app/submit/compile"

/-- Where test requests go. -/
def test : String := "/app/submit/test"

/-- Where final submissions go. -/
def submit : String := "/app/submit/submit"

/-- Feedback that goes to everyone. -/
def broadcasts : String := "/topic/messages"

/-- Test and submission feedback for the user. -/
def feedback : String := "/user/queue/feedback"

/-- Compile results for the user. -/
def compileResults : String := "/user/queue/compilefeedback"

/-- A new round has started. -/
def roundStart : String := "/queue/start"

/-- The round has stopped. -/
def roundStop : String := "/queue/stop"

/-- The rankings have changed. -/
def rankingsChange : String := "/queue/testfeedback"

/-- The page that lists the assignment files. -/
def files : String := "/files"

end ClassroomClient.Route
