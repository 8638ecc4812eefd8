/-!
# WorkflowEditor.Feed

A feed shows its subscribers the latest of a sequence of values.  Values in
between may be missed; a receiver can tell whether there is one that it has not
looked at.
-/

namespace WorkflowEditor

/-- The latest value, and how many were published before it. -/
structure Feed (α : Type) where
  latest : α
  version : Nat := 0
deriving Repr

namespace Feed

def publish (feed : Feed α) (value : α) : Feed α := ⟨value, feed.version + 1⟩

/-- What a subscriber remembers: the version it looked at last. -/
structure Receiver where
  seen : Nat
deriving DecidableEq, Repr

/-- A new subscriber has seen the latest value. -/
def subscribe (feed : Feed α) : Receiver := ⟨feed.version⟩

/-- Is there a value that the receiver has not looked at? -/
def hasChanged (feed : Feed α) (receiver : Receiver) : Bool := receiver.seen != feed.version

/-- Looks at the latest value. -/
def receive (feed : Feed α) (_ : Receiver) : α × Receiver := (feed.latest, ⟨feed.version⟩)

end Feed

end WorkflowEditor
