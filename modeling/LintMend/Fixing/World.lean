/-
LintMend.Fixing.World — what a run works on, and the service that it asks.

A service answers one prompt at a time from a state of its own; while it is busy, the tree may
change and it may leave events. Others may change the tree before each of the run's accesses to
it, too: `World.others` holds what they do, one change for each access. What is drawn at random for
the names of temporary files is in `World.draws`, one text for each write.

  `Answer`, `Service`         — the service
  `Service.ofScript`          — a service that gives prepared replies
  `Service.ofPrompt`          — a service whose reply depends on the prompt alone
  `World`                     — tree, service, log
-/
import LintMend.FileTree.Change
import LintMend.Log.Event

namespace LintMend

/-- The answer of a service to one prompt. -/
structure Answer (σ : Type) where
  result : Except Failure Json
  /-- The service's state afterwards. -/
  next : σ
  /-- What happens to the tree while the service is busy. -/
  change : FileTree → FileTree := id
  events : List Log.Event := []
  /-- A failure that the next write meets instead of being made. -/
  writeFault : Option Failure := none

/-- A text-generation service with states of type `σ`. -/
structure Service (σ : Type) where
  model : Text
  answer : σ → Text → Answer σ

/-- A prepared reply. -/
structure Reply where
  result : Except Failure Json
  change : FileTree → FileTree := id
  writeFault : Option Failure := none

namespace Service

/-- A service that gives prepared replies in order and fails when there are no more. -/
def ofScript (model : Text) : Service (List Reply) where
  model := model
  answer replies _ :=
    match replies with
    | [] => { result := .error (.other "no more replies"), next := [] }
    | r :: rest =>
      { result := r.result, next := rest, change := r.change, writeFault := r.writeFault }

/-- A service whose reply is a function of the prompt. -/
def ofPrompt (model : Text) (reply : Text → Except Failure Json) : Service Unit where
  model := model
  answer _ prompt := { result := reply prompt, next := () }

end Service

/-- What a run works on. -/
structure World (σ : Type) where
  tree : FileTree
  service : σ
  /-- What others do to the tree, one change before each access of the run. -/
  others : List (FileTree → FileTree) := []
  writeFault : Option Failure := none
  /-- The random part in the name of the temporary file of the next write, and of those after it. -/
  draws : Nat → Text := Text.ofNatBase 10 8
  /-- The prompts sent so far. -/
  prompts : List Text := []
  /-- The bound log context. -/
  context : Log.Fields := []
  log : List Log.Record := []

namespace World

variable {σ : Type}

/-- Log an event. -/
def emit (w : World σ) (e : Log.Event) : World σ :=
  { w with log := w.log ++ [⟨e, w.context⟩] }

/-- Log events in order. -/
def emitAll (w : World σ) (es : List Log.Event) : World σ :=
  { w with log := w.log ++ es.map fun e => ⟨e, w.context⟩ }

/-- Let others do what they do before the next access to the tree. -/
def othersAct (w : World σ) : World σ :=
  match w.others with
  | [] => w
  | change :: rest => { w with tree := change w.tree, others := rest }

/-- The world after a write that left a tree. The next write draws another random part. -/
def afterWrite (w : World σ) (tree : FileTree) : World σ :=
  { w with tree := tree, draws := fun n => w.draws (n + 1) }

/-- Bind a value in the log context. -/
def bind (w : World σ) (name : Text) (value : Log.Value) : World σ :=
  { w with context := w.context.set name value }

/-- Unbind a name in the log context. -/
def unbind (w : World σ) (name : Text) : World σ :=
  { w with context := w.context.erase name }

/-- Send a prompt to the service. -/
def ask (svc : Service σ) (w : World σ) (prompt : Text) : World σ × Except Failure Json :=
  let a := svc.answer w.service prompt
  let asked := { w with
    service := a.next
    tree := a.change w.tree
    prompts := w.prompts ++ [prompt]
    writeFault := a.writeFault.or w.writeFault }
  (asked.emitAll a.events, a.result)

end World

end LintMend
