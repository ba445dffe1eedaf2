import CommandVerbs.Json.Basic

/-!
# Responses

What a service answers to a call: a status, perhaps with a text, and results.
-/

namespace CommandVerbs.Service

structure Response where
  status : Int
  statusText : Option String := none
  results : List Json := []
  deriving Inhabited

namespace Response

/-- The status of a call that succeeded. -/
def successStatus : Int := 1

def succeeded (r : Response) : Bool :=
  r.status == successStatus

/-- A success with the given results. -/
def success (results : List Json) : Response :=
  { status := successStatus, results }

end Response

end CommandVerbs.Service
