import DocMarkup.Text.Basic

/-!
# Recorded computations

Rendering asks its surroundings for symbols, sources and keywords and leaves notices behind. Both
are data here: a computation is its trace together with its outcome. A computation that fails keeps
the trace up to the failure.

Main definitions:

- {lit}`Question`: what is asked of a resolver.
- {lit}`Notice`: what is reported beside the result.
- {lit}`Trace`: questions and notices, each in order.
- {lit}`Recorded`: a trace and an outcome, with the operations of a monad.
-/

namespace DocMarkup

/-- A question to one of the resolvers. -/
inductive Question where
  | reference (id : Text)
  | source (id : Text)
  | keyword (word : Text)
  deriving DecidableEq

/-- A report about something that did not stop the work. -/
inductive Notice where
  | configurationLoaded (path : Text)
  | unexpectedMime (path mime expected : Text)
  | regionMissing (region source : Text)
  | sourceOutside (root source : Text)
  | sourceMissing (source : Text)
  | sourceUnreadable (source : Text)
  | commentSkipped (key : Text)
  deriving DecidableEq

/-- How urgent a notice is. -/
inductive Level where
  | info
  | warning
  deriving DecidableEq

namespace Notice

/-- The level of a notice. -/
def level : Notice → Level
  | configurationLoaded _ => .info
  | _ => .warning

/-- The wording of a notice, with a place for each argument. -/
def template : Notice → String
  | configurationLoaded _ => "Loaded configuration from %s"
  | unexpectedMime _ _ _ => "%s declares YamlMime:%s, expected %s"
  | regionMissing _ _ => "Region %r not found in %s"
  | sourceOutside _ _ => "Code source outside %s: %s"
  | sourceMissing _ => "Code source not found: %s"
  | sourceUnreadable _ => "Could not read code source %s: %s"
  | commentSkipped _ => "Skipping documentation of %s: %s"

/-- The texts that a notice fills in; the cause that ends two of the wordings is not among them. -/
def arguments : Notice → List Text
  | configurationLoaded path => [path]
  | unexpectedMime path mime expected => [path, mime, expected]
  | regionMissing region source => [region, source]
  | sourceOutside root source => [root, source]
  | sourceMissing source => [source]
  | sourceUnreadable source => [source]
  | commentSkipped key => [key]

end Notice

/-- What a computation leaves behind beside its outcome. -/
structure Trace where
  questions : List Question
  notices : List Notice
  deriving DecidableEq

/-- Nothing is left behind. -/
def Trace.nil : Trace := ⟨[], []⟩

/-- One trace after another. -/
def Trace.append (s t : Trace) : Trace := ⟨s.questions ++ t.questions, s.notices ++ t.notices⟩

instance : Append Trace := ⟨Trace.append⟩

/-- A trace and an outcome. -/
structure Recorded (ε α : Type) where
  trace : Trace
  outcome : Except ε α

namespace Recorded

variable {ε α β : Type}

/-- A value without a trace. -/
def pure (a : α) : Recorded ε α := ⟨.nil, .ok a⟩

/-- A failure without a trace. -/
def fail (e : ε) : Recorded ε α := ⟨.nil, .error e⟩

/-- One computation after another; a failure ends the work. -/
def bind (x : Recorded ε α) (f : α → Recorded ε β) : Recorded ε β :=
  match x.outcome with
  | .ok a => ⟨x.trace ++ (f a).trace, (f a).outcome⟩
  | .error e => ⟨x.trace, .error e⟩

instance : Monad (Recorded ε) where
  pure := pure
  bind := bind

/-- A question put on record. -/
def ask (q : Question) : Recorded ε Unit := ⟨⟨[q], []⟩, .ok ()⟩

/-- A notice put on record. -/
def report (n : Notice) : Recorded ε Unit := ⟨⟨[], [n]⟩, .ok ()⟩

/-- The value of an option, or a failure. -/
def ofOption (e : ε) : Option α → Recorded ε α
  | some a => pure a
  | none => fail e

/-- The value or the failure of an outcome. -/
def ofExcept (outcome : Except ε α) : Recorded ε α := ⟨.nil, outcome⟩

/-- A computation on each member of a list, from left to right. -/
def each (f : α → Recorded ε β) : List α → Recorded ε (List β)
  | [] => pure []
  | a :: rest => bind (f a) fun b => bind (each f rest) fun bs => pure (b :: bs)

end Recorded
end DocMarkup
