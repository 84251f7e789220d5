/-!
# Log records

What a computation wants to tell its user is a list of records beside its value. A record has a
level, the part of the program that it comes from, and a message.

## Main definitions

* `Log.Level`: how important a record is.
* `Log.Source`: the part of the program that a record comes from.
* `Log.Record`: one record.
* `Logged`: a value together with the records made on the way to it.

## Main results

* `Logged` is a lawful monad: the records of a sequence are those of its steps, in order.
-/

namespace ProjectLint

namespace Log

/-- How important a record is. -/
inductive Level
  | debug
  | info
  | warning
  | error
  | critical
  deriving DecidableEq, Repr

namespace Level

/-- The name of a level. -/
def name : Level → String
  | debug => "DEBUG"
  | info => "INFO"
  | warning => "WARNING"
  | error => "ERROR"
  | critical => "CRITICAL"

/-- The rank of a level: a more important one has a greater rank. -/
def rank : Level → Nat
  | debug => 10
  | info => 20
  | warning => 30
  | error => 40
  | critical => 50

end Level

/-- The part of the program that a record comes from. -/
inductive Source
  /-- The binding of projects. -/
  | binder
  /-- The runs of child processes. -/
  | process
  /-- The calls of a session. -/
  | session
  /-- The loading of settings. -/
  | loading
  /-- The checking of settings. -/
  | checking
  /-- The command line. -/
  | commandLine
  deriving DecidableEq, Repr

/-- The name of a source. -/
def Source.name : Source → String
  | .binder => "lintbridge.core.context"
  | .process => "lintbridge.core.subprocess_runner"
  | .session => "lintbridge.orchestrator"
  | .loading => "lintbridge.config.loader"
  | .checking => "lintbridge.config.validation"
  | .commandLine => "lintbridge.cli.runner"

/-- One record. A record about a failure that was caught names the kind of failure. -/
structure Record where
  level : Level
  source : Source
  message : String
  caught : Option String
  deriving DecidableEq, Repr

end Log

/-- A value together with the records made on the way to it. -/
structure Logged (α : Type) where
  value : α
  log : List Log.Record
  deriving Repr

namespace Logged

variable {α β : Type}

@[ext] theorem ext {x y : Logged α} (hv : x.value = y.value) (hl : x.log = y.log) : x = y := by
  cases x
  cases y
  simp_all

instance : Monad Logged where
  pure a := ⟨a, []⟩
  bind x f := ⟨(f x.value).value, x.log ++ (f x.value).log⟩

@[simp] theorem value_pure (a : α) : (pure a : Logged α).value = a := rfl

@[simp] theorem log_pure (a : α) : (pure a : Logged α).log = [] := rfl

@[simp] theorem value_bind (x : Logged α) (f : α → Logged β) :
    (x >>= f).value = (f x.value).value := rfl

@[simp] theorem log_bind (x : Logged α) (f : α → Logged β) :
    (x >>= f).log = x.log ++ (f x.value).log := rfl

@[simp] theorem value_map (f : α → β) (x : Logged α) : (f <$> x).value = f x.value := rfl

@[simp] theorem log_map (f : α → β) (x : Logged α) : (f <$> x).log = x.log := by
  change x.log ++ [] = x.log
  simp

instance : LawfulMonad Logged :=
  LawfulMonad.mk' Logged
    (fun x => by ext <;> simp)
    (fun x f => by ext <;> simp)
    (fun x f g => by ext <;> simp [List.append_assoc])

/-- One record, and no value of interest. -/
def note (level : Log.Level) (source : Log.Source) (message : String) : Logged Unit :=
  ⟨(), [⟨level, source, message, none⟩]⟩

@[simp] theorem log_note (level : Log.Level) (source : Log.Source) (message : String) :
    (note level source message).log = [⟨level, source, message, none⟩] := rfl

end Logged

end ProjectLint
