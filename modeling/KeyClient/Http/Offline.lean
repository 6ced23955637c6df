import KeyClient.Http.DataUrl
import KeyClient.Http.Message
import KeyClient.Url.Basic

/-!
# Replies without a network

What becomes of a request when no server can be reached: addresses that hold their data are
answered, addresses with a user name or password are refused, all others fail.
-/

namespace KeyClient.Http

/-- The scheme of addresses that hold their data. -/
def dataScheme : List Char := "data".toList

/-- The response to a request for data of some type; the body of a success is never read. -/
def dataResponse (type : MediaType) : Response :=
  ⟨200, "OK", [("Content-Type", String.ofList type.text)], .ok []⟩

/-- The reply to a request when no server can be reached. -/
def offline : Transport := fun request =>
  match Url.parse? request.url.toList with
  | none => .rejected (.error s!"Failed to parse URL from {request.url}")
  | some url =>
    if !(url.username.isEmpty && url.password.isEmpty) then
      .rejected (.error
        s!"Request cannot be constructed from a URL that includes credentials: {request.url}")
    else if url.scheme = dataScheme then
      match DataUrl.mediaType? ({ url with fragment := none }.text.drop 5) with
      | some type => .response (dataResponse type)
      | none => .rejected (.error "fetch failed")
    else .rejected (.error "fetch failed")

end KeyClient.Http
