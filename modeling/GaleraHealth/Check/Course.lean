import GaleraHealth.Cluster.Failure
import GaleraHealth.Duration

/-!
# The course of a check

Time is counted in ticks of a millisecond. A timer that is set for a span with a broken millisecond
fires at the tick after it. What a check does when nothing interrupts it is its course: it goes on
for ever, or it ends after some ticks, with a result or in a crash.
-/

namespace GaleraHealth

/-- The ticks until a timer of this span fires. -/
def Duration.ticks (d : Duration) : Nat := (d.nanos + 999999) / 1000000

/-- How something goes that is left alone. -/
inductive Course (α : Type) where
  | never
  | after (ticks : Nat) (ending : α)

/-- The course of something whose ending is looked at differently. -/
def Course.map {α β : Type} (f : α → β) : Course α → Course β
  | .never => .never
  | .after n a => .after n (f a)

/-- How a worker ends by itself. -/
inductive Ending (α : Type) where
  | answered (result : Except Failure α)
  | crashed (message : String)

/-- The ending whose answer goes through a further test. -/
def Ending.bind {α β : Type} (f : α → Except Failure β) : Ending α → Ending β
  | .answered r => .answered (r.bind f)
  | .crashed m => .crashed m

end GaleraHealth
