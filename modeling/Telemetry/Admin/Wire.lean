import Telemetry.Admin.Routes

/-!
The admin endpoint on the wire: a request by its first line, and an answer that ends its connection.
-/

namespace Telemetry.Admin

/-- The method and the target on the first line of a request. -/
def requestLine? (text : String) : Option (String × String) :=
  match ((text.splitOn "\r\n").headD "").splitOn " " with
  | [method, target, _] => some (method, target)
  | _ => none

/-- Whether the head of a request is complete. -/
def isComplete (text : String) : Bool := 1 < (text.splitOn "\r\n\r\n").length

def badRequest : Response := ⟨400, none, ""⟩

def statusWords (status : Nat) : String :=
  if status = 200 then "OK"
  else if status = 404 then "Not Found"
  else if status = 405 then "Method Not Allowed"
  else "Bad Request"

def Response.head (response : Response) : List String :=
  ["HTTP/1.1 " ++ toString response.status ++ " " ++ statusWords response.status,
    "content-length: " ++ toString response.body.utf8ByteSize,
    "connection: close"] ++ response.contentType.toList.map ("content-type: " ++ ·)

def Response.wire (response : Response) : String :=
  String.intercalate "\r\n" response.head ++ "\r\n\r\n" ++ response.body

end Telemetry.Admin
