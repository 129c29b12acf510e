/-!
# HTTP vocabulary

The operations of a route and the places a parameter comes from. A method is written
lower-case as the key of a path item and upper-case in messages; `post`, `put` and `patch`
change state and so take a request body.
-/

namespace ApiSpec

/-- The HTTP methods an operation can be bound to, in the order of a path item. -/
inductive HttpMethod where
  | get
  | post
  | put
  | patch
  | delete
  | options
  | head
  deriving DecidableEq, Repr, Inhabited

namespace HttpMethod

/-- All methods, in path item order. -/
def all : List HttpMethod := [.get, .post, .put, .patch, .delete, .options, .head]

/-- The lower-case name. -/
def name : HttpMethod → String
  | .get => "get"
  | .post => "post"
  | .put => "put"
  | .patch => "patch"
  | .delete => "delete"
  | .options => "options"
  | .head => "head"

/-- The upper-case name. -/
def upperName : HttpMethod → String
  | .get => "GET"
  | .post => "POST"
  | .put => "PUT"
  | .patch => "PATCH"
  | .delete => "DELETE"
  | .options => "OPTIONS"
  | .head => "HEAD"

/-- The method of a lower-case name. -/
def ofName? (s : String) : Option HttpMethod := all.find? (·.name == s)

/-- Whether the method creates, replaces or updates. -/
def isMutating : HttpMethod → Bool
  | .post | .put | .patch => true
  | _ => false

end HttpMethod

/-- Where a parameter's value comes from. -/
inductive ParamLocation where
  | path
  | query
  | header
  deriving DecidableEq, Repr, Inhabited

/-- The name of a location. -/
def ParamLocation.name : ParamLocation → String
  | .path => "path"
  | .query => "query"
  | .header => "header"

end ApiSpec
