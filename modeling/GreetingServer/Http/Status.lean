import GreetingServer.Text.Basic

/-! Status codes of responses. -/
namespace GreetingServer
namespace Http.Status

def phrases : List (Int × String) :=
  [(100, "Continue"),
   (101, "Switching Protocols"),
   (102, "Processing"),
   (103, "Early Hints"),
   (200, "OK"),
   (201, "Created"),
   (202, "Accepted"),
   (203, "Non-Authoritative Information"),
   (204, "No Content"),
   (205, "Reset Content"),
   (206, "Partial Content"),
   (207, "Multi-Status"),
   (208, "Already Reported"),
   (226, "IM Used"),
   (300, "Multiple Choices"),
   (301, "Moved Permanently"),
   (302, "Found"),
   (303, "See Other"),
   (304, "Not Modified"),
   (305, "Use Proxy"),
   (307, "Temporary Redirect"),
   (308, "Permanent Redirect"),
   (400, "Bad Request"),
   (401, "Unauthorized"),
   (402, "Payment Required"),
   (403, "Forbidden"),
   (404, "Not Found"),
   (405, "Method Not Allowed"),
   (406, "Not Acceptable"),
   (407, "Proxy Authentication Required"),
   (408, "Request Timeout"),
   (409, "Conflict"),
   (410, "Gone"),
   (411, "Length Required"),
   (412, "Precondition Failed"),
   (413, "Request Entity Too Large"),
   (414, "Request-URI Too Long"),
   (415, "Unsupported Media Type"),
   (416, "Requested Range Not Satisfiable"),
   (417, "Expectation Failed"),
   (418, "I'm a Teapot"),
   (421, "Misdirected Request"),
   (422, "Unprocessable Entity"),
   (423, "Locked"),
   (424, "Failed Dependency"),
   (425, "Too Early"),
   (426, "Upgrade Required"),
   (428, "Precondition Required"),
   (429, "Too Many Requests"),
   (431, "Request Header Fields Too Large"),
   (451, "Unavailable For Legal Reasons"),
   (500, "Internal Server Error"),
   (501, "Not Implemented"),
   (502, "Bad Gateway"),
   (503, "Service Unavailable"),
   (504, "Gateway Timeout"),
   (505, "HTTP Version Not Supported"),
   (506, "Variant Also Negotiates"),
   (507, "Insufficient Storage"),
   (508, "Loop Detected"),
   (510, "Not Extended"),
   (511, "Network Authentication Required")]

/-- What a status code means, in a sentence, for those that have one. -/
def meanings : List (Int × String) :=
  [(100, "Request received, please continue"),
   (101, "Switching to new protocol; obey Upgrade header"),
   (200, "Request fulfilled, document follows"),
   (201, "Document created, URL follows"),
   (202, "Request accepted, processing continues off-line"),
   (203, "Request fulfilled from cache"),
   (204, "Request fulfilled, nothing follows"),
   (205, "Clear input form for further input"),
   (206, "Partial content follows"),
   (300, "Object has several resources -- see URI list"),
   (301, "Object moved permanently -- see URI list"),
   (302, "Object moved temporarily -- see URI list"),
   (303, "Object moved -- see Method and URL list"),
   (304, "Document has not changed since given time"),
   (305, "You must use proxy specified in Location to access this resource"),
   (307, "Object moved temporarily -- see URI list"),
   (308, "Object moved permanently -- see URI list"),
   (400, "Bad request syntax or unsupported method"),
   (401, "No permission -- see authorization schemes"),
   (402, "No payment -- see charging schemes"),
   (403, "Request forbidden -- authorization will not help"),
   (404, "Nothing matches the given URI"),
   (405, "Specified method is invalid for this resource"),
   (406, "URI not available in preferred format"),
   (407, "You must authenticate with this proxy before proceeding"),
   (408, "Request timed out; try again later"),
   (409, "Request conflict"),
   (410, "URI no longer exists and has been permanently removed"),
   (411, "Client must specify Content-Length"),
   (412, "Precondition in headers is false"),
   (413, "Entity is too large"),
   (414, "URI is too long"),
   (415, "Entity body in unsupported format"),
   (416, "Cannot satisfy request range"),
   (417, "Expect condition could not be satisfied"),
   (418, "Server refuses to brew coffee because it is a teapot."),
   (421, "Server is not able to produce a response"),
   (428, "The origin server requires the request to be conditional"),
   (429, "The user has sent too many requests in a given amount of time (\"rate limiting\")"),
   (431, "The server is unwilling to process the request because its header fields are too large"),
   (451, "The server is denying access to the resource as a consequence of a legal demand"),
   (500, "Server got itself in trouble"),
   (501, "Server does not support this operation"),
   (502, "Invalid responses from another server/proxy"),
   (503, "The server cannot process the request due to a high load"),
   (504, "The gateway server did not receive a timely response"),
   (505, "Cannot fulfill request"),
   (511, "The client needs to authenticate to gain network access")]

def phrase (code : Int) : Text := ((phrases.lookup code).getD "").toList

def meaning (code : Int) : Text := ((meanings.lookup code).getD "").toList

end Http.Status
end GreetingServer
