/-
# Fragments of a page

Parts of a page are fetched by the `id` of the element around them. The id is written into a
selector as it is.
-/

import ClassroomClient.Html.Builder.Run
import ClassroomClient.Html.Render
import ClassroomClient.Selector.Match

namespace ClassroomClient

/-- The selector for an id. -/
def idSelector (elementId : String) : String := "[id=\"" ++ elementId ++ "\"]"

/-- What stands inside the first element of a page that the selector for the id describes. -/
def extractFragment (page elementId : String) : Option String := do
  let selector ← Selector.ofText? (idSelector elementId)
  let document := Html.Document.ofText page
  let found ← (Selector.select document selector).head?
  return document.innerText found

end ClassroomClient
