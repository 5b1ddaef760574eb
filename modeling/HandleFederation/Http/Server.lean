/-
This file answers requests over HTTP. It finds the endpoint of a path, counts the
requests that reach an endpoint, and adds what every answer carries: that pages of any
origin may read it, on which headers it depends, and whether it is compressed.
-/

import HandleFederation.Http.Answer
import HandleFederation.Http.Encoding
import HandleFederation.Http.Request

namespace HandleFederation

open Program

/-- A response over HTTP. -/
structure HttpResponse where
  status : Nat
  headers : List (String × String)
  body : String
  /-- Whether the body is sent in compressed form. -/
  isCompressed : Bool
deriving DecidableEq, Repr

namespace HttpResponse

/-! ### What every answer carries -/

/-- The methods that an endpoint answers. -/
def allowedMethods : String := "GET,HEAD"

/-- The headers on which every answer depends. -/
def dependencies : String :=
  "origin, access-control-request-method, access-control-request-headers"

/-- The fewest bytes that a body is compressed from. -/
def minCompressedBytes : Nat := 32

/-- An answer with all that it carries. A body that is large enough to be compressed depends on the
encodings that are accepted as well. -/
def ofAnswer (request : HttpRequest) (answer : Answer) (extra : List (String × String)) :
    HttpResponse :=
  let isLarge := minCompressedBytes ≤ (Text.Utf8.bytes answer.body).length
  let accepted := (request.headers.filter fun header => header.1 == "accept-encoding").map Prod.snd
  let isCompressed := isLarge && ContentEncoding.wantsGzip accepted
  { status := answer.status
    headers :=
      (match answer.contentType with
        | some contentType => [("content-type", contentType)]
        | none => [])
      ++ (if isCompressed then [("content-encoding", "gzip")] else [])
      ++ extra
      ++ [("vary", if isLarge then dependencies ++ ", accept-encoding" else dependencies),
        ("access-control-allow-origin", "*")]
    body := answer.body
    isCompressed := isCompressed }

/-- The answer to the question which requests a page of another origin may send. -/
def preflight (request : HttpRequest) (extra : List (String × String)) : HttpResponse :=
  ofAnswer request (.empty 200)
    (extra ++ [("access-control-allow-methods", "GET"),
      ("access-control-allow-headers", "content-type,accept")])

/-- A response without its body, as a request for the headers alone is answered. -/
def withoutBody (response : HttpResponse) : HttpResponse :=
  { response with body := "" }

end HttpResponse

/-! ### Requests -/

/-- The answer of an endpoint and the headers that belong to it: an endpoint is for reading only, and
refuses any other method with the ones that it has. -/
def Endpoint.answerMethod (service : Service) (request : HttpRequest) (endpoint : Endpoint) :
    Program (Answer × List (String × String)) :=
  if request.method = "GET" ∨ request.method = "HEAD" then do
    return (← endpoint.answer service request.query.toList, [])
  else return (.empty 405, [("allow", HttpResponse.allowedMethods)])

/-- Answers a request by an endpoint and counts it. -/
def Endpoint.serve (service : Service) (request : HttpRequest) (endpoint : Endpoint) :
    Program HttpResponse := do
  let ((answer, extra), seconds) ← timed (endpoint.answerMethod service request)
  perform (.count (.requestServed request.method endpoint.path answer.status seconds))
  let response := HttpResponse.ofAnswer request answer extra
  return if request.method = "HEAD" then response.withoutBody else response

/-- Answers a request. What another origin may send is answered before anything is counted. -/
def Service.answer (service : Service) (request : HttpRequest) : Program HttpResponse :=
  match Endpoint.ofPath? request.path with
  | none =>
    if request.method = "OPTIONS" then return .preflight request []
    else return .ofAnswer request .notFound []
  | some endpoint =>
    if request.method = "OPTIONS" then
      return .preflight request [("allow", HttpResponse.allowedMethods)]
    else endpoint.serve service request

end HandleFederation
