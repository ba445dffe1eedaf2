import CommandVerbs.Json.Basic

/-!
# Connection targets

Where to connect and as whom.
-/

namespace CommandVerbs.Service

structure Target where
  host : String
  port : UInt16
  username : Option String := none
  password : Option String := none
  deriving DecidableEq, Repr, Inhabited

namespace Target

/-- The target with credentials; an empty text is no credential. -/
def withCredentials (target : Target) (username password : Option String) : Target :=
  { target with username := username.filter (· != ""), password := password.filter (· != "") }

/-- The host, in brackets if it holds a colon, and the port. -/
def address (target : Target) : String :=
  if target.host.toList.contains ':' then s!"[{target.host}]:{target.port}"
  else s!"{target.host}:{target.port}"

/-- The target as a JSON value, with its address. -/
def toJson (target : Target) : Json :=
  .object
    [("host", .text target.host), ("port", .number target.port.toNat),
      ("username", .optionalText target.username), ("password", .optionalText target.password),
      ("address", .text target.address)]

end Target

end CommandVerbs.Service
