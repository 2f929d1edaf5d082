import VoxelStream.HttpClient
import VoxelStream.MissingList
import VoxelStream.Store
import VoxelStream.Wire

/-!
# Stores over HTTP

A request to a store is a POST of the batch to the layer's address with `/data` behind it.  The
token travels in the query.  The store names missing buckets in a header and sends the others as
the body.

`HttpStore.requestBuckets` is one request through a client.  An error of the client may name the URL
with the token in it.  So wherever the text of an error has this URL, it is replaced by one without
user, password, query and fragment, and the token is in no error and in no notice.
-/

namespace VoxelStream

/-- A request as it reaches the server. -/
structure SentRequest where
  method : String
  /-- Path and query. -/
  target : String
  /-- The type of the body. -/
  contentType : String
  body : String
deriving DecidableEq

/-- What comes of a request. -/
structure HttpExchange where
  /-- What reached the server. -/
  sent : Option SentRequest
  result : Except FetchError StoreAnswer
  /-- Notices, oldest first. -/
  notices : List Notice

namespace HttpStore

/-- The URL that a request goes to, without the secrets that travel elsewhere. -/
def requestUrl (request : StoreRequest) : Option Url :=
  (Url.parse? (request.url ++ "/data").toList).map fun url =>
    { url with username := [], password := [] }.addPair "token" request.token

/-! ## Errors -/

/-- The text with every occurrence of a pattern replaced, after some characters that are skipped.
Occurrences are taken from the left and do not overlap.  The pattern is not empty. -/
def replaceAfter (pattern replacement : List Char) : Nat → List Char → List Char
  | _, [] => []
  | skipped + 1, _ :: rest => replaceAfter pattern replacement skipped rest
  | 0, c :: rest =>
    if pattern.isPrefixOf (c :: rest) then
      replacement ++ replaceAfter pattern replacement (pattern.length - 1) rest
    else c :: replaceAfter pattern replacement 0 rest

/-- The text with every occurrence of a pattern replaced. -/
def replaceAll (pattern replacement text : List Char) : List Char :=
  replaceAfter pattern replacement 0 text

/-- What an error says, with the secrets taken out of the URL that it names. -/
def failureText (error : ClientError) : String :=
  match error.url with
  | none => String.ofList error.text
  | some url => String.ofList (replaceAll url.text url.redacted.text error.text)

/-- An error of the client as a fetch error. -/
def failure (timeoutMs : Nat) (error : ClientError) : FetchError :=
  if error.fault.isTimeout then .timeout timeoutMs else .http (failureText error)

/-! ## Replies -/

/-- A header value without the blanks around it. -/
def trimValue (value : String) : List Char :=
  let isBlank (c : Char) : Bool := c = ' ' || c = '\t'
  ((value.toList.dropWhile isBlank).reverse.dropWhile isBlank).reverse

/-- The first value of a header, if it is ASCII.  Case does not matter in names. -/
def headerText? (name : String) (headers : List (String × String)) : Option String :=
  match headers.find? (fun header => header.1.toList.map Char.toLower == name.toList) with
  | none => none
  | some header =>
    let value := trimValue header.2
    if value.all fun c => c = '\t' || 32 ≤ c.toNat && c.toNat < 127 then
      some (String.ofList value)
    else none

/-- The error of a status that is none of success. -/
def statusError? (status : Nat) : Option FetchError :=
  if status = 401 ∨ status = 403 then some (.unauthorized status)
  else if 200 ≤ status ∧ status < 300 then none
  else some (.httpStatus status)

/-- The answer in a reply, and its notices. -/
def answerOf (request : StoreRequest) (url : Url) (status : Nat)
    (headers : List (String × String)) (body : Except ClientFault Payload) :
    Except FetchError StoreAnswer × List Notice :=
  match statusError? status with
  | some e => (.error e, [])
  | none =>
    let header := headerText? MissingList.headerName headers
    let missing := MissingList.ofHeader header
    match body with
    | .error fault =>
      (.error (failure request.timeoutMs (fault.on url)), MissingList.notices header)
    | .ok body =>
      (.ok ⟨body, missing⟩,
        MissingList.notices header
          ++ [.answerReceived body.length request.batch.length missing.length])

/-! ## Exchanges -/

/-- A request for buckets through a client, and its notices. -/
def requestBuckets (client : Url → Delivery) (request : StoreRequest) :
    Except FetchError StoreAnswer × List Notice :=
  match requestUrl request with
  | none => (.error (failure request.timeoutMs ⟨.noUrl, none⟩), [])
  | some url =>
    match client url with
    | .fails fault => (.error (failure request.timeoutMs (fault.on url)), [])
    | .replies status headers body => answerOf request url status headers body

/-- The request as it reaches a server. -/
def sentTo (url : Url) (request : StoreRequest) : SentRequest :=
  { method := "POST"
    target := String.ofList url.requestTarget
    contentType := "application/json"
    body := BucketRequest.batchText request.batch }

/-- What reaches the server: nothing, if there is no server or no usable URL. -/
def sentOver (network : Network) (request : StoreRequest) : Option SentRequest :=
  match requestUrl request with
  | none => none
  | some url => if url.isUsable && network != .refuses then some (sentTo url request) else none

/-- A request and what the network makes of it. -/
def exchange (network : Network) (request : StoreRequest) : HttpExchange :=
  let answered := requestBuckets network.delivery request
  ⟨sentOver network request, answered.1, answered.2⟩

end HttpStore

end VoxelStream
