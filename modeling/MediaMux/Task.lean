/-!
# How a background task ends

A task ends well or with a failure that was given contexts on its way. The failure is told with the
outermost context first. Either end leaves one line in the log.
-/

namespace MediaMux

/-- The levels of log lines that the end of a task has. -/
inductive LogLevel
  | trace
  | debug
deriving DecidableEq

/-- Messages from the outermost context to the cause, told as one. -/
def chainMessage (chain : List String) : String := ": ".intercalate chain

/-- The log line of a task that ended. `causes` is empty if it ended well; else it starts with the
failure, and each later text is a context given to all before it. -/
def endOfTask (causes : List String) : LogLevel × String :=
  if causes.isEmpty then (.trace, "finished")
  else (.debug, "finished with error: " ++ chainMessage causes.reverse)

end MediaMux
