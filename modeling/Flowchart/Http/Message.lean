/-!
# Messages of the hypertext transfer protocol

Requests and responses as they are sent, and a server that answers requests one after another from
a list. Time does not pass while a server answers.
-/

namespace Flowchart.Http

/-- Header fields in sending order, with lower-case names. -/
abbrev Headers := List (String × String)

/-- A request as it is sent. -/
structure Request where
  method : String
  url : String
  headers : Headers
  body : String
  deriving DecidableEq, Inhabited

/-- A response. The announced length may differ from that of the body. -/
structure Response where
  status : Nat
  headers : Headers
  body : List UInt8
  announcedLength : Option Nat
  deriving DecidableEq, Inhabited

/-- What a server does with a request. -/
inductive Answer where
  /-- Sends a response. -/
  | response (r : Response)
  /-- Closes the connection without a response. -/
  | close
  /-- Never answers. -/
  | hang
  deriving DecidableEq, Inhabited

/-- The other end of all connections: nothing at all, or a server with a list of answers that keeps
the requests it has received. -/
inductive Server where
  | unreachable
  | scripted (answers : List Answer) (received : List Request)
  deriving Inhabited

/-- What becomes of a request. -/
inductive Delivery where
  | answered (r : Response)
  | failed
  | hanging

namespace Server

/-- The requests that a server has received. A request left hanging is not among them. -/
def requests : Server → List Request
  | unreachable => []
  | scripted _ received => received

/-- Sends a request. A server without answers left closes the connection. -/
def deliver (request : Request) : Server → Delivery × Server
  | unreachable => (.failed, unreachable)
  | scripted [] received => (.failed, scripted [] (received ++ [request]))
  | scripted (.hang :: rest) received => (.hanging, scripted rest received)
  | scripted (.close :: rest) received => (.failed, scripted rest (received ++ [request]))
  | scripted (.response r :: rest) received =>
      (.answered r, scripted rest (received ++ [request]))

end Server
end Flowchart.Http
