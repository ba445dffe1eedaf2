import CommandVerbs.Fault
import CommandVerbs.Text.Blank
import CommandVerbs.Text.Decimal
import CommandVerbs.Text.Split

/-!
# Host addresses

An address is a host and perhaps a port, written `host`, `host:port` or `[host]:port`. Brackets set a
host with colons apart from its port; a text with two or more colons and no brackets is a host.
Several addresses are separated by commas.
-/

namespace CommandVerbs

structure HostAddress where
  host : String
  port : Option UInt16
  deriving DecidableEq, Repr, Inhabited

namespace HostAddress

/-- The written form. A host that holds a colon stands in brackets. -/
def display (address : HostAddress) : String :=
  let host := if address.host.toList.contains ':' then s!"[{address.host}]" else address.host
  match address.port with
  | none => host
  | some port => s!"{host}:{port}"

/-- The host of a trimmed text and the text of its port. -/
def parts (text : List Char) : Except String (List Char × Option (List Char)) :=
  match text with
  | '[' :: rest =>
    match Text.cut ']' rest with
    | none => .error "unclosed '['"
    | some (host, []) => .ok (host, none)
    | some (host, ':' :: port) => .ok (host, some port)
    | some _ => .error "unexpected text after ']'"
  | _ =>
    if text.count ':' = 1 then
      match Text.cut ':' text with
      | some (host, port) => .ok (host, some port)
      | none => .ok (text, none)
    else .ok (text, none)

/-- A port number. -/
def port? (text : List Char) : Option UInt16 :=
  (Text.natural? 0xFFFF text).map Nat.toUInt16

/-- The address in a trimmed text, or why there is none. -/
def ofTrimmed (defaultPort : Option UInt16) (text : List Char) : Except String HostAddress :=
  match parts text with
  | .error reason => .error reason
  | .ok ([], _) => .error "empty host name"
  | .ok (host, none) => .ok ⟨String.ofList host, defaultPort⟩
  | .ok (host, some port) =>
    match port? port with
    | none => .error "bad port number"
    | some port => .ok ⟨String.ofList host, some port⟩

/-- Reads an address; one without a port gets the default port. -/
def parse (text : String) (defaultPort : Option UInt16) : Except OptionFault HostAddress :=
  let trimmed := Text.trimChars text.toList
  match ofTrimmed defaultPort trimmed with
  | .error reason => .error (.invalidHost (String.ofList trimmed) reason)
  | .ok address => .ok address

/-- The pieces of an address list that are not blank, trimmed. -/
def listed (text : String) : List String :=
  ((Text.splitAt ',' text).map Text.trim).filter (· != "")

/-- Reads a list of between `min` and `max` addresses for the option `dest`. -/
def parseList (dest text : String) (min max : Nat) (defaultPort : Option UInt16) :
    Except OptionFault (List HostAddress) := do
  let hosts ← (listed text).mapM (parse · defaultPort)
  if hosts.length < min ∨ max < hosts.length then
    throw (.hostCount dest min max hosts.length)
  return hosts

end HostAddress

end CommandVerbs
