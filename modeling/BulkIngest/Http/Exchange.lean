import BulkIngest.Http.Url
import BulkIngest.Trouble

/-!
One request to a server and what comes back.
-/

namespace BulkIngest

inductive HttpMethod
  | get
  | post
deriving DecidableEq

structure HttpRequest where
  method : HttpMethod
  url : Url
  contentType : Option String
  /-- Whether the body travels compressed. -/
  compressed : Bool
  body : Bytes
deriving DecidableEq

inductive HttpReply
  | response (status : Nat) (body : Bytes)
  /-- The body ended before its announced length. -/
  | truncated (status : Nat)
  /-- No answer arrived, because of `causes`. -/
  | lost (causes : List String)
  | timedOut
deriving DecidableEq

/-- Whatever answers requests. -/
abbrev Network := HttpRequest → HttpReply

/-- Nothing can be reached. -/
def Network.absent : Network := fun _ =>
  .lost ["client error (Connect)", "tcp connect error", "Network is unreachable (os error 101)"]

namespace Http

def isSuccess (status : Nat) : Bool := 200 ≤ status && status < 300

/-- The standard phrases for statuses. -/
def phrases : List (Nat × String) :=
  [(100, "Continue"), (101, "Switching Protocols"), (102, "Processing"), (200, "OK"),
    (201, "Created"), (202, "Accepted"), (203, "Non Authoritative Information"),
    (204, "No Content"), (205, "Reset Content"), (206, "Partial Content"), (207, "Multi-Status"),
    (208, "Already Reported"), (226, "IM Used"), (300, "Multiple Choices"),
    (301, "Moved Permanently"), (302, "Found"), (303, "See Other"), (304, "Not Modified"),
    (305, "Use Proxy"), (307, "Temporary Redirect"), (308, "Permanent Redirect"),
    (400, "Bad Request"), (401, "Unauthorized"), (402, "Payment Required"), (403, "Forbidden"),
    (404, "Not Found"), (405, "Method Not Allowed"), (406, "Not Acceptable"),
    (407, "Proxy Authentication Required"), (408, "Request Timeout"), (409, "Conflict"),
    (410, "Gone"), (411, "Length Required"), (412, "Precondition Failed"),
    (413, "Payload Too Large"), (414, "URI Too Long"), (415, "Unsupported Media Type"),
    (416, "Range Not Satisfiable"), (417, "Expectation Failed"), (418, "I'm a teapot"),
    (421, "Misdirected Request"), (422, "Unprocessable Entity"), (423, "Locked"),
    (424, "Failed Dependency"), (425, "Too Early"), (426, "Upgrade Required"),
    (428, "Precondition Required"), (429, "Too Many Requests"),
    (431, "Request Header Fields Too Large"), (451, "Unavailable For Legal Reasons"),
    (500, "Internal Server Error"), (501, "Not Implemented"), (502, "Bad Gateway"),
    (503, "Service Unavailable"), (504, "Gateway Timeout"), (505, "HTTP Version Not Supported"),
    (506, "Variant Also Negotiates"), (507, "Insufficient Storage"), (508, "Loop Detected"),
    (510, "Not Extended"), (511, "Network Authentication Required")]

def statusText (status : Nat) : String :=
  s!"{status} " ++ (phrases.lookup status).getD "<unknown status code>"

/-- Characters of a host that cannot go over the wire. -/
def isUnspeakable (c : Char) : Bool := "\"\x60\x7b\x7d".contains c

def maxAddressLength : Nat := 65534

/-- Whether a request can be sent to an address. -/
def isRequestable (url : Url) : Bool :=
  let host := (url.authority.map (·.host.text)).getD ""
  !host.toList.any isUnspeakable && url.text.utf8ByteSize ≤ maxAddressLength

/-- What is wrong with an address, or the address. -/
def address (text : String) : Except Trouble Url :=
  match Url.parse text with
  | .error problem => .error ((Trouble.of problem.message).within "builder error")
  | .ok written =>
    let url := if written.hasHost then written.withoutCredentials else written
    let refused (reason : String) : Except Trouble Url :=
      .error ((Trouble.of reason).within s!"builder error for url ({url.text})")
    if !url.hasHost || (url.scheme ≠ "http" && url.scheme ≠ "https") then
      refused "URL scheme is not allowed"
    else if !isRequestable url then refused "Parsed Url is not a valid Uri"
    else .ok url

/-- The failure of a request that brought no response. -/
def sendTrouble (url : Url) (causes : List String) : Trouble :=
  ⟨s!"error sending request for url ({url.text})", causes⟩

/-- The failure of a response that ended early. -/
def bodyTrouble (url : Url) : Trouble :=
  .of s!"error decoding response body for url ({url.text})"

end Http

end BulkIngest
