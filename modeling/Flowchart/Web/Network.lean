import Flowchart.Web.Request

/-!
# The outside

A run reaches the outside through a client, which is given requests. What the client makes of one is
its own affair: it may refuse the address, find nobody there, wait in vain for the answer, or follow
the answer to another address. So a client is any way to make an exchange of a request, and the
outside is a client with the exchanges so far.
-/

namespace Flowchart

namespace Web

/-- An answer as it is sent. -/
structure Reply where
  /-- Its status. -/
  status : Nat
  /-- Where it says to ask instead, if it does. -/
  location : Option String := none
  /-- Its body. -/
  body : ByteArray
deriving Inhabited

/-- An answer as it is read. -/
structure Response where
  /-- Its status. -/
  status : Nat
  /-- The text of its body. -/
  text : String
deriving DecidableEq, Inhabited

/-- The request was granted. -/
def Response.isSuccess (r : Response) : Bool :=
  200 ≤ r.status && r.status < 300

/-- A request that went out. -/
structure Hop where
  /-- The request, but for what the client itself adds to its headers. -/
  request : Request
  /-- The answer to it, if one came. -/
  answer : Option Reply
deriving Inhabited

/-- What a client makes of a request. -/
structure Exchange where
  /-- What went out, in order. -/
  hops : List Hop := []
  /-- The answer that is given back. -/
  answer : Option Reply := none
deriving Inhabited

/-- The requests of an exchange. -/
def Exchange.sent (e : Exchange) : List Request :=
  e.hops.map (·.request)

/-- Sends requests. -/
structure Client where
  /-- The addresses that requests can be sent to. -/
  accepts : String → Bool
  /-- What it makes of a request, after some exchanges. -/
  exchange : List Exchange → Request → Exchange
  /-- The text of a body. -/
  text : ByteArray → String

namespace Client

/-- The answer as the client reads it. -/
def read (c : Client) (r : Reply) : Response where
  status := r.status
  text := c.text r.body

/-- A client that sends nothing. -/
def offline : Client where
  accepts := fun _ => false
  exchange := fun _ _ => {}
  text := fun body => (String.fromUTF8? body).getD ""

instance : Inhabited Client := ⟨offline⟩

end Client

/-- The outside of a run. -/
structure Network where
  /-- What requests are given to. -/
  client : Client := .offline
  /-- The exchanges so far, in order. -/
  exchanges : List Exchange := []
deriving Inhabited

namespace Network

/-- The requests that went out, in order. -/
def sent (n : Network) : List Request :=
  n.exchanges.flatMap Exchange.sent

/-- Gives a request to the client. -/
def send (n : Network) (r : Request) : Option Response × Network :=
  let e := n.client.exchange n.exchanges r
  (e.answer.map n.client.read, { n with exchanges := n.exchanges ++ [e] })

end Network

end Web

end Flowchart
