import VoxelStream.FourBit
import VoxelStream.Url.Basic

/-!
# The HTTP client

Requests travel through an HTTP client.  What the network does with a request is an input here, and
`Network.delivery` gives what the client makes of it: a fault, or a reply whose body may still fail
to arrive.

A `ClientError` tells of a fault in words that name the URL of the request as it stands, if they
name it at all.  Whoever shows such an error has to take the secrets out.
-/

namespace VoxelStream

/-! ## The network -/

/-- What a server sends. -/
structure HttpReply where
  status : Nat
  /-- Names and values of the headers, in order.  Characters stand for bytes. -/
  headers : List (String × String)
  /-- The bytes of the body that are sent. -/
  body : Payload
  /-- Bytes of the body that are announced beyond those and never come. -/
  withheld : Nat := 0
deriving DecidableEq

/-- What the network does with a request. -/
inductive Network where
  /-- Nobody listens. -/
  | refuses
  /-- The server reads the request and closes the connection. -/
  | closes
  /-- The server reads the request and does nothing. -/
  | stalls
  /-- The server replies and closes the connection. -/
  | replies (reply : HttpReply)
  /-- The server replies and keeps the connection open. -/
  | keepsOpen (reply : HttpReply)
deriving DecidableEq

/-! ## Errors -/

/-- What can go wrong at the client. -/
structure ClientFault where
  /-- The client's own words for it. -/
  words : String
  /-- Whether an error of this fault names the URL of the request. -/
  namesUrl : Bool
  /-- Whether it took too long. -/
  isTimeout : Bool := false
  /-- The client's own words hold no URL. -/
  colonless : ':' ∉ words.toList := by decide
deriving DecidableEq

namespace ClientFault

/-- The address is no URL. -/
def noUrl : ClientFault := { words := "builder error", namesUrl := false }

/-- The address is no URL that requests can be sent to. -/
def unusable : ClientFault := { words := "builder error", namesUrl := true }

/-- The connection was refused or lost. -/
def disconnected : ClientFault := { words := "error sending request", namesUrl := true }

/-- No reply came in time. -/
def noReply : ClientFault :=
  { words := "error sending request", namesUrl := true, isTimeout := true }

/-- The body ended early. -/
def truncated : ClientFault := { words := "error decoding response body", namesUrl := false }

/-- The body did not come in time. -/
def lateBody : ClientFault :=
  { words := "error decoding response body", namesUrl := false, isTimeout := true }

end ClientFault

/-- An error of the client: a fault, and the URL that it names. -/
structure ClientError where
  fault : ClientFault
  url : Option Url

/-- The error of a fault in a request to a URL. -/
def ClientFault.on (url : Url) (fault : ClientFault) : ClientError :=
  ⟨fault, if fault.namesUrl then some url else none⟩

/-- What an error says: the words of the fault, and the URL as it stands. -/
def ClientError.text (error : ClientError) : List Char :=
  match error.url with
  | none => error.fault.words.toList
  | some url => error.fault.words.toList ++ " for url (".toList ++ url.text ++ [')']

/-! ## Deliveries -/

/-- What the client makes of a request. -/
inductive Delivery where
  | fails (fault : ClientFault)
  /-- A reply came.  Its body may still fail to. -/
  | replies (status : Nat) (headers : List (String × String)) (body : Except ClientFault Payload)

namespace Url

/-- Bytes that the text of a URL may have. -/
def lengthLimit : Nat := 65534

/-- What hosts of sent requests are made of. -/
def isHostChar (c : Char) : Bool := c.isAlphanum || "!$&'()*+,-.:;=[]_~".toList.contains c

/-- Whether a URL is short enough for the client. -/
def isShort (url : Url) : Bool := url.text.length ≤ lengthLimit

/-- Whether a request can be sent to a URL: one of the web, of bounded length. -/
def isUsable (url : Url) : Bool :=
  (url.scheme = "http".toList || url.scheme = "https".toList)
    && (url.host.getD []).all isHostChar && url.isShort

end Url

namespace HttpReply

/-- Some statuses have no body. -/
def hasBody (reply : HttpReply) : Bool := reply.status != 204 && reply.status != 304

/-- Whether a reply announces another one. -/
def isInterim (reply : HttpReply) : Bool :=
  100 ≤ reply.status && reply.status < 200 && reply.status != 101

/-- What a header value is made of. -/
def isHeaderChar (c : Char) : Bool := c = '\t' || 32 ≤ c.toNat && c.toNat != 127

/-- Whether a reply can be understood. -/
def isWellFormed (reply : HttpReply) : Bool :=
  reply.headers.all fun header => header.2.toList.all isHeaderChar

/-- A reply as the client hands it over.  If a part of its body is withheld, there is a fault in
place of the body. -/
def delivery (withheld : ClientFault) (reply : HttpReply) : Delivery :=
  .replies reply.status reply.headers
    (if !reply.hasBody then .ok []
     else if reply.withheld = 0 then .ok reply.body
     else .error withheld)

end HttpReply

namespace Network

/-- What the client makes of a request to a usable URL. -/
def usableDelivery : Network → Delivery
  | .refuses | .closes => .fails .disconnected
  | .stalls => .fails .noReply
  | .replies reply =>
    if reply.isInterim || !reply.isWellFormed then .fails .disconnected
    else reply.delivery .truncated
  | .keepsOpen reply =>
    if !reply.isWellFormed then .fails .disconnected
    else if reply.isInterim then .fails .noReply
    else reply.delivery .lateBody

/-- What the client makes of a request to a URL. -/
def delivery (network : Network) (url : Url) : Delivery :=
  if url.isUsable then network.usableDelivery else .fails .unusable

end Network

end VoxelStream
