/-
# Exchanges

What a client makes of a request: a response, or a reason why there is none.  A
client is any function from the number of a request and its URL to an exchange,
so that what is said of fetching holds for every behaviour of the network.
-/
import ClientGen.Failure

namespace ClientGen

/-- A response: its status, the URL that it answers for, the place that it
refers to, if any, and its body as text. -/
structure Response where
  status : Int
  url : Text
  location : Option Text
  body : Text
  deriving DecidableEq, Repr

/-- What came of a request. -/
inductive Outcome
  | response (response : Response)
  /-- There was no response, for the given reason. -/
  | failed (reason : Text)
  /-- The client broke down. -/
  | broke (breakdown : Breakdown)
  deriving DecidableEq, Repr

/-- A request with its outcome; `sent` is the URL as it went out, if it did. -/
structure Exchange where
  sent : Option Text
  outcome : Outcome
  deriving DecidableEq, Repr

/-- A client: what it makes of the `n`-th request, counted from zero, to a URL. -/
abbrev HttpClient := Nat → Text → Exchange

end ClientGen
