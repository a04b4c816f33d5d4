/-
# Requests and replies

What is sent to a server and what comes back. A reply has a status, headers whose names are read
without regard to case, and a text.
-/
import TenantFleet.Json.Basic

namespace TenantFleet.Http

/-! ## Requests -/

/-- What a request does with its target. -/
inductive Method
  | get
  | put
  | post
  | patch
  | delete
  deriving DecidableEq, Inhabited

/-- The name of a method. -/
def Method.name : Method → String
  | get => "GET"
  | put => "PUT"
  | post => "POST"
  | patch => "PATCH"
  | delete => "DELETE"

/-- What a request carries. -/
inductive Body
  /-- A document. -/
  | json (document : Json)
  /-- A document that says what to change in another one. -/
  | mergePatch (document : Json)
  /-- Named texts. -/
  | form (fields : List (String × String))
  deriving DecidableEq, Inhabited

/-- The type of what a request carries. -/
def Body.contentType : Body → String
  | json _ => "application/json"
  | mergePatch _ => "application/merge-patch+json"
  | form _ => "application/x-www-form-urlencoded"

/-- A request. -/
structure Request where
  /-- What it does. -/
  method : Method
  /-- The address, up to the query. -/
  url : String
  /-- The names and values of the query. -/
  query : List (String × String) := []
  /-- What it carries. -/
  body : Option Body := none
  /-- The proof that the sender may do this. -/
  authorization : Option String := none
  /-- The type of reply that is asked for. -/
  accept : Option String := none
  deriving DecidableEq, Inhabited

namespace Request

/-- A request that asks for what is at an address. -/
def get (url : String) : Request := { method := .get, url := url }

/-- A request that stores a document at an address. -/
def put (url : String) (document : Json) : Request :=
  { method := .put, url := url, body := some (.json document) }

/-- A request that hands something to an address. -/
def post (url : String) (body : Option Body) : Request :=
  { method := .post, url := url, body := body }

/-- A request that removes what is at an address. -/
def delete (url : String) : Request := { method := .delete, url := url }

/-- The request with a token that shows who sends it. -/
def signed (r : Request) (token : String) : Request :=
  { r with authorization := some ("Bearer " ++ token) }

/-- The request that asks for a document in reply. -/
def acceptingJson (r : Request) : Request := { r with accept := some "application/json" }

end Request

/-- An address without the slashes at its end. -/
def withoutSlashes (url : String) : String :=
  String.ofList (url.toList.reverse.dropWhile (· = '/')).reverse

/-! ## Replies -/

/-- A reply. -/
structure Reply where
  /-- What became of the request. -/
  status : Nat
  /-- The names and values of the headers. -/
  headers : List (String × String) := []
  /-- The text. -/
  text : String := ""
  deriving DecidableEq, Inhabited

namespace Reply

/-- Whether the request was fulfilled. -/
def success (r : Reply) : Bool := 200 ≤ r.status && r.status < 300

/-- Whether the request was refused or failed. -/
def failure (r : Reply) : Bool := 400 ≤ r.status && r.status < 600

/-- Whether a header's value has printing characters, blanks and tabs of ASCII alone. -/
def plain (value : String) : Bool :=
  value.toList.all fun c => c = '\t' || (32 ≤ c.toNat && c.toNat < 127)

/-- The value of the first header of a name, if it is plain. -/
def header? (r : Reply) (name : String) : Option String :=
  ((r.headers.find? fun h => h.1.toLower = name.toLower).map Prod.snd).filter plain

end Reply

/-! ## Statuses -/

/-- The statuses and their phrases. -/
def phrases : List (Nat × String) := [
  (100, "Continue"), (101, "Switching Protocols"), (102, "Processing"), (103, "Early Hints"),
  (200, "OK"), (201, "Created"), (202, "Accepted"), (203, "Non Authoritative Information"),
  (204, "No Content"), (205, "Reset Content"), (206, "Partial Content"), (207, "Multi-Status"),
  (208, "Already Reported"), (226, "IM Used"), (300, "Multiple Choices"),
  (301, "Moved Permanently"), (302, "Found"), (303, "See Other"), (304, "Not Modified"),
  (305, "Use Proxy"), (307, "Temporary Redirect"), (308, "Permanent Redirect"),
  (400, "Bad Request"), (401, "Unauthorized"), (402, "Payment Required"), (403, "Forbidden"),
  (404, "Not Found"), (405, "Method Not Allowed"), (406, "Not Acceptable"),
  (407, "Proxy Authentication Required"), (408, "Request Timeout"), (409, "Conflict"),
  (410, "Gone"), (411, "Length Required"), (412, "Precondition Failed"),
  (413, "Payload Too Large"), (414, "URI Too Long"), (415, "Unsupported Media Type"),
  (416, "Range Not Satisfiable"), (417, "Expectation Failed"), (418, "I\x27m a teapot"),
  (421, "Misdirected Request"), (422, "Unprocessable Entity"), (423, "Locked"),
  (424, "Failed Dependency"), (425, "Too Early"), (426, "Upgrade Required"),
  (428, "Precondition Required"), (429, "Too Many Requests"),
  (431, "Request Header Fields Too Large"), (451, "Unavailable For Legal Reasons"),
  (500, "Internal Server Error"), (501, "Not Implemented"), (502, "Bad Gateway"),
  (503, "Service Unavailable"), (504, "Gateway Timeout"), (505, "HTTP Version Not Supported"),
  (506, "Variant Also Negotiates"), (507, "Insufficient Storage"), (508, "Loop Detected"),
  (510, "Not Extended"), (511, "Network Authentication Required")]

/-- A status with its phrase. -/
def statusLine (status : Nat) : String :=
  toString status ++ " " ++ (phrases.lookup status).getD "<unknown status code>"

end TenantFleet.Http
