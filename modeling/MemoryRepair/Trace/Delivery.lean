import MemoryRepair.Journal
import MemoryRepair.Trace.Source

/-!
Handing the events of the trace to a handler. The handler is told of one event
after the other, in the order of the records, and carries its own state along. An
overflow among the items ends the computation after the events before it.
-/
namespace MemoryRepair.Trace

/-- Log the notes and hand the events to a handler, in order. -/
def deliver (handle : β → Event → Act σ β) (acc : β) : List Item → Act σ β
  | [] => pure acc
  | .note line :: rest => do
    Act.write (.log line)
    deliver handle acc rest
  | .event event :: rest => do
    Act.write (.event event)
    deliver handle (← handle acc event) rest
  | .overflow overflow :: _ => Act.checked (.error overflow)

/-- Handle the events of one page and count them. -/
def Source.handlePage (source : Source) (handle : β → Event → Act σ β) (acc : β) (page : Bytes) :
    Act σ (Nat × β) := do
  let items := source.readPage page
  let acc ← deliver handle acc items
  pure ((items.filterMap Item.event?).length, acc)

/-- Hand over all that opened streams yield. A read that fails is the answer. -/
def Source.serve (source : Source) (signals : List Nat) (streams : List Stream)
    (handle : β → Event → Act σ β) (acc : β) : Act σ (Except IoError Source.Stop × β) := do
  let (items, stop) := source.listen signals streams
  let acc ← deliver handle acc items
  match stop with
  | .failed err => pure (.error err, acc)
  | stop => pure (.ok stop, acc)

end MemoryRepair.Trace
