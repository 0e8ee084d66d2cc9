import TableStore.Text.Ascii
import TableStore.Text.Utf8

/-!
# Requests and responses
-/

namespace TableStore.Http

/-- A request as the service sees it. -/
structure Request where
  method : String
  /-- The path and the query string, as they are written. -/
  target : String
  headers : List (String × String)
  body : Bytes
deriving Repr

/-- A response, with the two headers that depend on it. -/
structure Response where
  status : Nat
  contentType : Option String
  allow : Option String
  body : Bytes
deriving DecidableEq, Repr

/-- Whether two names differ in letter case at most. -/
def sameName (a b : String) : Bool :=
  a.toList.map Char.toLower = b.toList.map Char.toLower

def Request.header? (request : Request) (name : String) : Option String :=
  (request.headers.find? fun header => sameName header.1 name).map (·.2)

namespace Response

def ofStatus (status : Nat) : Response := ⟨status, none, none, []⟩

def json (status : Nat) (body : Bytes) : Response :=
  ⟨status, some "application/json", none, body⟩

def plain (status : Nat) (message : String) : Response :=
  ⟨status, some "text/plain; charset=utf-8", none, Utf8.encode message⟩

def notAllowed (allowed : String) : Response := ⟨405, none, some allowed, []⟩

def withoutBody (response : Response) : Response := { response with body := [] }

end Response

end TableStore.Http
