/-!
# The log

What happens on the way to an answer is noted in a log, which is part of the answer: a computation that
logs returns its value together with its entries, in order. `Attempt` is a logged computation that may
fail; what it has noted before it fails is kept.
-/

namespace ChainLint

namespace Log

/-- How much an entry matters. -/
inductive Level where
  | debug
  | warning
  deriving Repr, DecidableEq

def Level.name : Level → String
  | .debug => "DEBUG"
  | .warning => "WARNING"

/-- Who writes an entry. -/
inductive Writer where
  | root
  | configurationSearch
  | parsing
  | dispatch
  | linting
  deriving Repr, DecidableEq

def Writer.name : Writer → String
  | .root => "root"
  | .configurationSearch => "jqlint.infrastructure.config_file_loader"
  | .parsing => "jqlint.infrastructure.gateways.tree_sitter_gateway"
  | .dispatch => "jqlint.infrastructure.dispatcher"
  | .linting => "jqlint.use_cases.lint_source"

structure Entry where
  level : Level
  writer : Writer
  message : String
  deriving Repr, DecidableEq

/-- An entry as one line of text. -/
def Entry.line (e : Entry) : String := e.level.name ++ " " ++ e.writer.name ++ ": " ++ e.message

end Log

/-- A value with the log entries that were noted on the way to it. -/
structure Logged (α : Type) where
  value : α
  log : List Log.Entry
  deriving Repr

namespace Logged

instance : Monad Logged where
  pure a := ⟨a, []⟩
  bind x f := ⟨(f x.value).value, x.log ++ (f x.value).log⟩

instance : LawfulMonad Logged :=
  LawfulMonad.mk' Logged
    (fun x => by cases x; simp [Functor.map])
    (fun a f => by simp [bind, pure])
    (fun x f g => by simp [bind, List.append_assoc])

def note (level : Log.Level) (writer : Log.Writer) (message : String) : Logged Unit :=
  ⟨(), [⟨level, writer, message⟩]⟩

@[simp] theorem value_bind {α β : Type} (x : Logged α) (f : α → Logged β) :
    (x >>= f).value = (f x.value).value := rfl

@[simp] theorem log_bind {α β : Type} (x : Logged α) (f : α → Logged β) :
    (x >>= f).log = x.log ++ (f x.value).log := rfl

@[simp] theorem value_pure {α : Type} (a : α) : (pure a : Logged α).value = a := rfl

@[simp] theorem log_pure {α : Type} (a : α) : (pure a : Logged α).log = [] := rfl

end Logged

/-- A logged computation that may fail. -/
abbrev Attempt (ε α : Type) := ExceptT ε Logged α

namespace Attempt

/-- The result of an attempt. -/
def result {ε α : Type} (x : Attempt ε α) : Except ε α := Logged.value x

/-- What an attempt has noted. -/
def log {ε α : Type} (x : Attempt ε α) : List Log.Entry := Logged.log x

def note {ε : Type} (level : Log.Level) (writer : Log.Writer) (message : String) : Attempt ε Unit :=
  ExceptT.lift (Logged.note level writer message)

/-- The result of an attempt as a value, so that a failure can be looked at. -/
def outcome {ε δ α : Type} (x : Attempt ε α) : Attempt δ (Except ε α) := ExceptT.lift x.run

/-- Turn the failures of an attempt into other failures. -/
def mapError {ε δ α : Type} (f : ε → δ) (x : Attempt ε α) : Attempt δ α := ExceptT.adapt f x

/-! What remains of an attempt when its notes are left out. -/

variable {ε δ α β : Type}

@[simp] theorem result_pure (a : α) : (pure a : Attempt ε α).result = .ok a := rfl

@[simp] theorem result_throw (e : ε) : (throw e : Attempt ε α).result = .error e := rfl

@[simp] theorem result_bind (x : Attempt ε α) (f : α → Attempt ε β) :
    (x >>= f).result = x.result >>= fun a => (f a).result := by
  show (ExceptT.bindCont f x.result).value = _
  cases x.result <;> rfl

@[simp] theorem result_map (f : α → β) (x : Attempt ε α) : (f <$> x).result = x.result.map f := by
  show (ExceptT.map f x).value = _
  simp only [ExceptT.map, ExceptT.mk, Logged.value_bind, result]
  cases Logged.value x <;> rfl

@[simp] theorem result_note (level : Log.Level) (writer : Log.Writer) (message : String) :
    (note level writer message : Attempt ε Unit).result = .ok () := rfl

@[simp] theorem result_lift (x : Except ε α) : (liftM x : Attempt ε α).result = x := rfl

@[simp] theorem result_outcome (x : Attempt ε α) :
    (x.outcome : Attempt δ (Except ε α)).result = .ok x.result := rfl

@[simp] theorem result_mapError (f : ε → δ) (x : Attempt ε α) :
    (x.mapError f).result = x.result.mapError f := rfl

end Attempt

end ChainLint
