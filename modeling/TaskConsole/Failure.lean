import TaskConsole.Text.Blank

/-!
# Failures and notices

A `Failure` is what went wrong with a request, and a `Notice` is what the user is
told about it.  `Failure.category` sorts a failure by its code, then by its status,
then by signatures in its text, and `Failure.notice` words it with hints for its
category.
-/

namespace TaskConsole

/-- What went wrong with a request. -/
inductive Failure where
  /-- No answer came. -/
  | transport (message : String)
  /-- The service answered with a status that is no success. -/
  | status (status : Nat) (code : Option String) (message : String)
  /-- The answer is not what it should be. -/
  | decode (detail : String)
  /-- The request was given up. -/
  | cancelled
  /-- The system refused. -/
  | io (message : String)
deriving DecidableEq, Inhabited

/-- The kinds of failure that the user can tell apart. -/
inductive Category where
  | transientUnavailable | notFound | addressConflict | permissionDenied
  | operationNotPermitted | cancelled | generic
deriving DecidableEq, Inhabited

/-- What the user is told about a failure. -/
structure Notice where
  category : Category
  message : String
  hints : List String
deriving DecidableEq, Inhabited

/-- Whether a notice is kept from the user. -/
def Notice.isSilent (n : Notice) : Bool := n.category = .cancelled

namespace Failure

/-- A failure in words. -/
def text : Failure → String
  | .transport message => message
  | .status number _ message => s!"server responded with {number}: {message}"
  | .decode detail => "failed to decode server response: " ++ detail
  | .cancelled => "request cancelled"
  | .io message => message

/-- The code that the service gave. -/
def code? : Failure → Option String
  | .status _ code _ => code
  | _ => none

/-- The status that the service gave. -/
def status? : Failure → Option Nat
  | .status number _ _ => some number
  | _ => none

/-- The failure in words without the status. -/
def detail : Failure → String
  | .status _ _ message => message
  | other => other.text

end Failure

namespace Category

/-- The text with its ASCII letters in lower case. -/
def lowered (text : String) : String := String.ofList (text.toList.map Char.toLower)

/-- Whether characters occur one after another among others. -/
def occursIn (part : List Char) : List Char → Bool
  | [] => part.isEmpty
  | c :: cs => part.isPrefixOf (c :: cs) || occursIn part cs

/-- Whether one text occurs in another. -/
def occurs (part text : String) : Bool := occursIn part.toList text.toList

/-- Whether one text begins another. -/
def begins (part text : String) : Bool := part.toList.isPrefixOf text.toList

/-- The category that a code stands for. -/
def ofCode? (code : String) : Option Category :=
  let word := lowered (Text.trim code)
  if word ∈ ["unavailable", "warming_up", "not_ready"] then some transientUnavailable
  else if word ∈ ["not_found", "enoent"] then some notFound
  else if word ∈ ["address_in_use", "eaddrinuse"] then some addressConflict
  else if word ∈ ["permission_denied", "eacces"] then some permissionDenied
  else if word ∈ ["operation_not_permitted", "eperm"] then some operationNotPermitted
  else if word ∈ ["cancelled", "canceled"] then some cancelled
  else none

/-- The category that a status stands for. -/
def ofStatus? (status : Nat) : Option Category :=
  if 502 ≤ status ∧ status ≤ 504 then some transientUnavailable
  else if status = 404 then some notFound
  else if status = 403 then some permissionDenied
  else none

/-- The category of a failure by what its text holds. -/
def ofText (text : String) : Category :=
  let text := lowered text
  if occurs "connection refused" text || occurs "service unavailable" text
      || occurs "warming up" text || begins "unavailable" text then transientUnavailable
  else if occurs "address already in use" text then addressConflict
  else if occurs "no such file or directory" text || occurs "not found" text then notFound
  else if occurs "permission denied" text then permissionDenied
  else if occurs "operation not permitted" text then operationNotPermitted
  else if occurs "context canceled" text || begins "cancelled" text then cancelled
  else generic

/-- What the user is told about a failure of a category, given the failure in words
with and without its status. -/
def wording (detail text : String) : Category → String
  | transientUnavailable => "The task service is not ready yet."
  | notFound => "Not found: " ++ detail
  | addressConflict => "The service address is already in use."
  | permissionDenied => "Permission denied: " ++ detail
  | operationNotPermitted => "Operation not permitted: " ++ detail
  | cancelled => "Request cancelled."
  | generic => text

/-- What the user can do about a failure of a category. -/
def hints : Category → List String
  | transientUnavailable => ["Wait a few seconds, then send your message again."]
  | notFound => ["Check that the file, path or task still exists."]
  | addressConflict =>
    ["Stop the other process bound to that address.",
     "Or point the client at a different server with --server."]
  | permissionDenied => ["Check the permissions of the workspace and its files."]
  | operationNotPermitted => ["The current user is not allowed to perform this action."]
  | cancelled => []
  | generic => []

end Category

namespace Failure

/-- The category of a failure. -/
def category (f : Failure) : Category :=
  if f = .cancelled then .cancelled
  else ((f.code?.bind Category.ofCode?) <|> (f.status?.bind Category.ofStatus?)).getD
    (Category.ofText f.text)

/-- What the user is told about a failure; never nothing. -/
def notice (f : Failure) : Notice :=
  let message := f.category.wording f.detail f.text
  { category := f.category
    message := if Text.isBlankText message then "Request failed." else message
    hints := f.category.hints }

end Failure

end TaskConsole
