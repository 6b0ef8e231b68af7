import Scratchpad.Proofs.Script.Evaluations
import Scratchpad.Script.Evaluation

/-!
# What the console captures of a snippet

A script calls a method of the console like any function. The lines of a snippet are those of the
calls that it made until its function came to an end; they are what comes of it if the function
returned, and they are passed over if building or calling it was cut short.
-/
namespace Scratchpad.Script

variable {engine : Engine}

end Scratchpad.Script
