/-! # Failures

What can go wrong while a storyboard is built, by kind, and the texts shown for it.
-/

namespace Storyboard

/-- A reason why a build, or a part of it, fails. -/
inductive Failure where
  /-- Settings or project data are invalid. -/
  | validation (detail : String)
  /-- An element was driven into a state that its operations do not allow. -/
  | invalidState (detail : String)
  /-- A script failed while it produced its groups. -/
  | scriptFault (script detail : String)
  /-- A resource that an asset needs is not there. -/
  | missingResource (detail : String)
  /-- A command breaks the rules of timelines. -/
  | formatViolation (detail : String)
  /-- Data cannot be read or written as structured text. -/
  | serialization (detail : String)
  /-- Any other cause, as messages of which the outermost comes first. -/
  | other (outermost : String) (causes : List String)
  deriving DecidableEq, Repr

namespace Failure

/-- The message of a failure; of a chain, the outermost one. -/
def message : Failure → String
  | validation detail => "validation error: " ++ detail
  | invalidState detail => "invalid state: " ++ detail
  | scriptFault script detail => s!"script '{script}' faulted: {detail}"
  | missingResource detail => "missing resource: " ++ detail
  | formatViolation detail => "format violation: " ++ detail
  | serialization detail => "serialization error: " ++ detail
  | other outermost _ => outermost

/-- The messages from the outermost to the innermost. -/
def chain : Failure → List String
  | other outermost causes => outermost :: causes
  | failure => [failure.message]

def fullMessage (failure : Failure) : String := ": ".intercalate failure.chain

/-- A cause wrapped into contexts, of which the last one becomes the outermost message. -/
def ofContexts (cause : String) (contexts : List String) : Failure :=
  match contexts.reverse ++ [cause] with
  | outermost :: causes => other outermost causes
  | [] => other cause []

/-- Only chains take a further context. -/
def inContext (context : String) : Failure → Failure
  | other outermost causes => other context (outermost :: causes)
  | failure => failure

@[simp] theorem chain_ne_nil (failure : Failure) : failure.chain ≠ [] := by
  cases failure <;> simp [chain]

end Failure

end Storyboard
