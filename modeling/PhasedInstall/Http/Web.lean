import PhasedInstall.Fault
import PhasedInstall.Http.Message

/-!
# Pages of the web

A page is fetched by its address. What a status means is a rule of this library; how an address is
asked, how bytes become a text, and what is said about failures is up to whoever fetches, so all of
that is given with the web.
-/

set_option autoImplicit false

namespace PhasedInstall

/-- The answer to a request for an address, wherever it came from in the end. -/
structure Page where
  status : Nat
  /-- What the page says that its bytes are. -/
  contentType : Option String := none
  bytes : ByteArray

namespace Page

/-- Whether the page tells of a failure. -/
def isFailure (page : Page) : Bool := Http.isFailure page.status

end Page

/-- The web, as it is seen by whoever fetches from it. -/
structure Web where
  /-- What an address is answered with, or why there is no answer. -/
  reply : (address : String) → Except String Page
  /-- What is said about a page that tells of a failure. -/
  complaint : (address : String) → Page → String
  /-- The text of a page, read as its content type asks. -/
  decode : Page → String

namespace Web

/-- A web none of whose origins can be reached. -/
def unreachable : Web where
  reply _ := .error "error sending request"
  complaint _ _ := ""
  decode _ := ""

/-- The text at an address. A page that tells of a failure has none. -/
def read (web : Web) (address : String) : Except Fault String :=
  match web.reply address with
  | .ok page =>
    if page.isFailure then .error (.fetch (web.complaint address page)) else .ok (web.decode page)
  | .error problem => .error (.fetch problem)

end Web

end PhasedInstall
