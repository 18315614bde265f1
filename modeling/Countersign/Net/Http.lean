import Countersign.Net.Address

/-!
# Requests and responses

What a client sends to a service and what comes back.
-/

namespace Countersign

/-- A request that carries a document. -/
structure HttpRequest where
  /-- Where it is sent. -/
  target : Address
  /-- The name of the client. -/
  userAgent : String
  /-- The type of the document. -/
  contentType : String
  /-- The document. -/
  body : String
  deriving DecidableEq, Repr

/-- A response. -/
structure HttpResponse where
  /-- The status. -/
  status : Nat
  /-- The headers in order. -/
  headers : List (String × Bytes)
  /-- The content. -/
  body : Bytes
  deriving DecidableEq, Repr

namespace HttpStatus

/-- The usual phrases of the statuses. -/
def phrases : List (Nat × String) := [
  (100, "Continue"), (101, "Switching Protocols"), (102, "Processing"), (200, "OK"),
  (201, "Created"), (202, "Accepted"), (203, "Non Authoritative Information"), (204, "No Content"),
  (205, "Reset Content"), (206, "Partial Content"), (207, "Multi-Status"),
  (208, "Already Reported"), (226, "IM Used"), (300, "Multiple Choices"),
  (301, "Moved Permanently"), (302, "Found"), (303, "See Other"), (304, "Not Modified"),
  (305, "Use Proxy"), (307, "Temporary Redirect"), (308, "Permanent Redirect"),
  (400, "Bad Request"), (401, "Unauthorized"), (402, "Payment Required"), (403, "Forbidden"),
  (404, "Not Found"), (405, "Method Not Allowed"), (406, "Not Acceptable"),
  (407, "Proxy Authentication Required"), (408, "Request Timeout"), (409, "Conflict"),
  (410, "Gone"), (411, "Length Required"), (412, "Precondition Failed"),
  (413, "Payload Too Large"), (414, "URI Too Long"), (415, "Unsupported Media Type"),
  (416, "Range Not Satisfiable"), (417, "Expectation Failed"), (418, "I'm a teapot"),
  (421, "Misdirected Request"), (422, "Unprocessable Entity"), (423, "Locked"),
  (424, "Failed Dependency"), (426, "Upgrade Required"), (428, "Precondition Required"),
  (429, "Too Many Requests"), (431, "Request Header Fields Too Large"),
  (451, "Unavailable For Legal Reasons"), (500, "Internal Server Error"), (501, "Not Implemented"),
  (502, "Bad Gateway"), (503, "Service Unavailable"), (504, "Gateway Timeout"),
  (505, "HTTP Version Not Supported"), (506, "Variant Also Negotiates"),
  (507, "Insufficient Storage"), (508, "Loop Detected"), (510, "Not Extended"),
  (511, "Network Authentication Required")]

/-- A status with its usual phrase. -/
def text (status : Nat) : String :=
  let phrase := (phrases.lookup status).getD "<unknown status code>"
  s!"{status} {phrase}"

/-- Whether a request with this status has succeeded. -/
def isSuccess (status : Nat) : Bool :=
  200 ≤ status && status < 300

/-- Whether a request with this status may succeed when it is sent again: there were too many
requests, or the server is at fault. -/
def isTransient (status : Nat) : Bool :=
  status = 429 || (500 ≤ status && status < 600)

end HttpStatus

namespace HttpResponse

/-- Whether a byte is a printable ASCII character or a tab. -/
def isVisible (byte : UInt8) : Bool :=
  (0x20 ≤ byte && byte < 0x7F) || byte = 0x09

/-- The text of the first header with a name, in whatever case; a text with other than visible
characters counts as none. -/
def header? (response : HttpResponse) (name : String) : Option String := do
  let (_, value) ← response.headers.find? fun header => header.1.toLower = name.toLower
  if value.all isVisible then Utf8.decode? value else none

end HttpResponse
end Countersign
