/-!
# Log — lines about what is going on

A line says how much it matters, **where it was written** (a span: the activity and what it is
about), and what there is to say.
-/

namespace Airdrop.Log

/-- An activity and what it is about, in front of a message. -/
def span (activity : String) (about : List (String × String)) : String :=
  activity ++ "\x7b" ++ " ".intercalate (about.map fun (name, value) => name ++ "=" ++ value) ++
    "\x7d: "

/-- A line for whoever looks for a fault. -/
def debug (message : String) : String := "DEBUG " ++ message

/-- A line about how things go. -/
def info (message : String) : String := "INFO " ++ message

/-- A line about something that went wrong. -/
def warn (message : String) : String := "WARN " ++ message

end Airdrop.Log
