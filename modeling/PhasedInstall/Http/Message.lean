import PhasedInstall.Json.Basic

/-!
# Messages to the cluster

A request has a method, a target and perhaps a body; a response has a status and a text. The
target is given as a text and cut into path and query. Not every text is a target: of the
characters that stand for themselves only some may occur.
-/

set_option autoImplicit false

namespace PhasedInstall.Http

/-- What is to be done with the target of a request. -/
inductive Method where
  | get
  | post
  | put
  | patch
  | delete
deriving DecidableEq, Repr

/-- How a method is written. -/
def Method.name : Method → String
  | get => "GET"
  | post => "POST"
  | put => "PUT"
  | patch => "PATCH"
  | delete => "DELETE"

/-- Where a request goes. -/
structure Target where
  path : String
  query : String
deriving DecidableEq, Repr

namespace Target

/-- Whether a character may stand in a path. -/
def isPathChar (c : Char) : Bool :=
  let n := c.toNat
  n = 0x21 || n = 0x22 || (0x24 ≤ n && n ≤ 0x3B) || n = 0x3D || (0x40 ≤ n && n ≤ 0x5F)
    || (0x61 ≤ n && n ≤ 0x7E)

/-- Whether a character may stand in a query. -/
def isQueryChar (c : Char) : Bool :=
  let n := c.toNat
  n = 0x21 || (0x24 ≤ n && n ≤ 0x3B) || n = 0x3D || (0x3F ≤ n && n ≤ 0x7E)

/-- Cuts a text into path and query. What follows a number sign is no part of the target. An
ampersand in front of the first parameter separates nothing and is dropped. -/
def ofText? (text : String) : Option Target :=
  let cs := text.toList.takeWhile (· ≠ '#')
  let path := cs.takeWhile (· ≠ '?')
  let query := match (cs.drop path.length).drop 1 with
    | '&' :: rest => rest
    | rest => rest
  if path.all isPathChar && query.all isQueryChar then
    some ⟨String.ofList path, String.ofList query⟩
  else none

/-- What is said about a text that is no target. -/
def complaint : String := "invalid uri character"

end Target

/-- A message to the cluster. -/
structure Request where
  method : Method
  target : Target
  body : Option Json

/-- The answer to a message. -/
structure Response where
  status : Nat
  text : String

/-- The reasons that go with the statuses of failures. -/
def failureReasons : List (Nat × String) :=
  [(400, "Bad Request"), (401, "Unauthorized"), (402, "Payment Required"), (403, "Forbidden"),
    (404, "Not Found"), (405, "Method Not Allowed"), (406, "Not Acceptable"),
    (407, "Proxy Authentication Required"), (408, "Request Timeout"), (409, "Conflict"),
    (410, "Gone"), (411, "Length Required"), (412, "Precondition Failed"),
    (413, "Payload Too Large"), (414, "URI Too Long"), (415, "Unsupported Media Type"),
    (416, "Range Not Satisfiable"), (417, "Expectation Failed"), (418, "I'm a teapot"),
    (421, "Misdirected Request"), (422, "Unprocessable Entity"), (423, "Locked"),
    (424, "Failed Dependency"), (426, "Upgrade Required"), (428, "Precondition Required"),
    (429, "Too Many Requests"), (431, "Request Header Fields Too Large"),
    (451, "Unavailable For Legal Reasons"), (500, "Internal Server Error"),
    (501, "Not Implemented"), (502, "Bad Gateway"), (503, "Service Unavailable"),
    (504, "Gateway Timeout"), (505, "HTTP Version Not Supported"),
    (506, "Variant Also Negotiates"), (507, "Insufficient Storage"), (508, "Loop Detected"),
    (510, "Not Extended"), (511, "Network Authentication Required")]

/-- A status with its reason. -/
def statusText (status : Nat) : String :=
  toString status ++ " " ++ (failureReasons.lookup status).getD "<unknown status code>"

/-- Whether a status reports a failure. -/
def isFailure (status : Nat) : Bool := 400 ≤ status && status < 600

end PhasedInstall.Http
