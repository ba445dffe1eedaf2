import CommandVerbs.Launch.Launcher
import CommandVerbs.Session.Request
import CommandVerbs.Sink

/-!
# Launching

What a launch comes to: a dry run leaves a line where dry runs are shown, any other launch starts the
program and is reported.
-/

namespace CommandVerbs.Launcher

/-- Launches a program beside the given files, or shows how it would be launched. -/
def launch (l : Launcher) (files : FileTree) (echo : Sink) (r : LaunchRequest) :
    Except ProcessFault Unit × Sink × List Diagnostic :=
  if r.dryRun then
    let (shown, echo) := echo.write (l.commandLine r ++ "\n")
    (shown.mapError (.startFailed l.program), echo, [])
  else
    (judge l.program (l.start files l.program (l.arguments r)), echo, [.launching])

end CommandVerbs.Launcher
