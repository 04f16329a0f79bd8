import ArticleTree.Url.Parse

/-! # Asking servers

A request goes to a server, which answers or does not. Some answers send the asker on to
another URL, which is done a few times at most. How a request travels is left open.
-/

namespace ArticleTree.Http

inductive Method where
  | get
  | post
  deriving DecidableEq, Repr

structure Request where
  method : Method
  url : Url
  /-- The fields of a form. -/
  body : Option String
  deriving DecidableEq, Repr

structure Response where
  status : Nat
  /-- Where the answer sends the asker on to. -/
  location : Option String
  body : ByteArray
  /-- The body did not end early. -/
  complete : Bool

def reasons : List (Nat × String) :=
  [(100, "Continue"), (101, "Switching Protocols"), (102, "Processing"), (103, "Early Hints"),
    (200, "OK"), (201, "Created"), (202, "Accepted"), (203, "Non Authoritative Information"),
    (204, "No Content"), (205, "Reset Content"), (206, "Partial Content"), (207, "Multi-Status"),
    (208, "Already Reported"), (226, "IM Used"), (300, "Multiple Choices"),
    (301, "Moved Permanently"), (302, "Found"), (303, "See Other"), (304, "Not Modified"),
    (305, "Use Proxy"), (307, "Temporary Redirect"), (308, "Permanent Redirect"),
    (400, "Bad Request"), (401, "Unauthorized"), (402, "Payment Required"), (403, "Forbidden"),
    (404, "Not Found"), (405, "Method Not Allowed"), (406, "Not Acceptable"),
    (407, "Proxy Authentication Required"), (408, "Request Timeout"), (409, "Conflict"),
    (410, "Gone"), (411, "Length Required"), (412, "Precondition Failed"),
    (413, "Payload Too Large"), (414, "URI Too Long"), (415, "Unsupported Media Type"),
    (416, "Range Not Satisfiable"), (417, "Expectation Failed"), (418, "I'm a teapot"),
    (421, "Misdirected Request"), (422, "Unprocessable Entity"), (423, "Locked"),
    (424, "Failed Dependency"), (425, "Too Early"), (426, "Upgrade Required"),
    (428, "Precondition Required"), (429, "Too Many Requests"),
    (431, "Request Header Fields Too Large"), (451, "Unavailable For Legal Reasons"),
    (500, "Internal Server Error"), (501, "Not Implemented"), (502, "Bad Gateway"),
    (503, "Service Unavailable"), (504, "Gateway Timeout"),
    (505, "HTTP Version Not Supported"), (506, "Variant Also Negotiates"),
    (507, "Insufficient Storage"), (508, "Loop Detected"), (510, "Not Extended"),
    (511, "Network Authentication Required")]

namespace Response

/-- The server did what it was asked for. -/
def isSuccess (response : Response) : Bool :=
  200 ≤ response.status && response.status < 300

def statusLine (response : Response) : String :=
  toString response.status ++ " " ++
    ((reasons.lookup response.status).getD "<unknown status code>")

end Response

inductive Trouble where
  /-- The URL is none that a server can be asked for. -/
  | unusable (url : Url)
  /-- No server answered. -/
  | unanswered (url : Url)
  /-- The asker was sent on too often. -/
  | redirects (url : Url)
  deriving DecidableEq, Repr

def Trouble.message : Trouble → String
  | unusable url => "builder error for url (" ++ url.print ++ ")"
  | unanswered url => "error sending request for url (" ++ url.print ++ ")"
  | redirects url => "error following redirect for url (" ++ url.print ++ ")"

/-- The request that an answer sends the asker on with. After some statuses the form is
    sent again, after others the new URL is just asked for. -/
def followUp? (request : Request) (response : Response) : Option Request := do
  let url ← (request.url.join (← response.location)).toOption
  if response.status ∈ [301, 302, 303] then some ⟨.get, url, none⟩
  else if response.status ∈ [307, 308] then some { request with url }
  else none

/-- Send a request, and follow where it is sent on to at most `most` times. -/
def exchange {m : Type → Type} [Monad m] (send : Request → m (Option Response)) :
    (most : Nat) → Request → m (Except Trouble Response)
  | most, request =>
      if request.url.hasHost && ["http", "https"].contains request.url.scheme then do
        match ← send request with
        | none => return .error (.unanswered request.url)
        | some response =>
            match followUp? request response with
            | none => return .ok response
            | some next =>
                match most with
                | 0 => return .error (.redirects request.url)
                | most + 1 => exchange send most next
      else return .error (.unusable request.url)

end ArticleTree.Http
