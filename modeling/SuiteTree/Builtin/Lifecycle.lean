import SuiteTree.Check
import SuiteTree.Suite

/-!
# An example of a lifecycle

A case builds a queue in its setup, drains it in its run and looks at it in its teardown; another
one draws from the stream that was rewound for it.
-/

namespace SuiteTree.Builtin.Lifecycle

/-- A place in the source of this suite. -/
def site (line : Nat) (actual limit : String) : Site :=
  ⟨actual, limit, "src/suites/lifecycle.rs", line⟩

/-- The items of a remembered list. -/
def items : Option Value → List Value
  | some (.list vs) => vs
  | _ => []

def queue : Hooks where
  setup := .request (.remember "queue" (.list ([1, 2, 3, 4, 5].map .int)))
  run :=
    .ask (.remembered "queue") fun queued => .ask (.remembered "drained") fun before =>
      let drained := items before ++ (items queued).reverse
      .ask (.remember "queue" (.list [])) fun _ =>
        .ask (.remember "drained" (.list drained)) fun _ => .steps [
          ((site 21 "self.drained" "vec![5, 4, 3, 2, 1]").expectEqual (.list drained)
            (.list ([5, 4, 3, 2, 1].map .int)) "items come out in LIFO order").conduct]
  teardown :=
    .ask (.remembered "queue") fun left => .steps [
      ((site 25 "self.queue.len()" "0").expectEqual (.int (items left).length) (.int 0)
        "queue drained").conduct,
      (Program.request (.remember "drained" (.list []))).andGoOn]

def substream : Hooks where
  run := .ask .drawStream fun index => .steps [
    ((site 36 "index" "0").expectEqual (.int index) (.int 0) "fresh substream").conduct]

def plan : Plan where
  name := "lifecycle-example"
  category := .examples
  steps := [
    .add Tree.root "group" .quick .idle,
    .add 1 "queue" .quick queue,
    .add 1 "substream" .quick substream]

end SuiteTree.Builtin.Lifecycle
