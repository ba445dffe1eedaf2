/-!
# Sinks

A sink is where text is written to. It keeps what is written, or refuses every text for one reason.
-/

namespace CommandVerbs

/-- Where text is written to, unless writing is refused. -/
structure Sink where
  text : String := ""
  refusal : Option String := none
  deriving DecidableEq, Repr, Inhabited

def Sink.write (s : Sink) (text : String) : Except String Unit × Sink :=
  match s.refusal with
  | some reason => (.error reason, s)
  | none => (.ok (), { s with text := s.text ++ text })

end CommandVerbs
