import Scratchpad.Script.Snippet

/-!
# Two ways to run a snippet

A snippet is run on the thread of the caller, or on a thread of a pool for which the caller waits.
An evaluation that panics takes the thread of the caller with it, and a thread of the pool ends
alone, so that the caller shows how it ended.
-/
namespace Scratchpad.Script.Engine

variable (engine : Engine)

/-- `JavaScriptRunner::run_blocking` — run a snippet on the thread of the caller, who meets the
panic if there is one. -/
def runBlocking (start : Start) (settings : ScriptSettings) (code : String) :
    Except String String :=
  (engine.evaluate start settings code).text?

/-- `JavaScriptRunner::run` — run a snippet on a thread of the pool with a number. -/
def runPooled (start : Start) (thread : Nat) (settings : ScriptSettings) (code : String) : String :=
  (engine.evaluate start settings code).render thread

end Scratchpad.Script.Engine
