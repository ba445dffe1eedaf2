import CommandVerbs.Service.Response

/-!
# Codecs

The library that turns requests into JSON text and JSON text into responses is a parameter of a client.
Both can fail, with a reason.
-/

namespace CommandVerbs.Service

/-- What is asked for with a call. Calls are numbered. -/
structure CallRequest where
  id : UInt64
  procedure : String
  parameters : List Json

structure Codec where
  writeRequest : CallRequest → Except String String
  readResponse : String → Except String Response

end CommandVerbs.Service
