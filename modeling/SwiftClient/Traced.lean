import SwiftClient.Failure

/-!
# Notices

Generation leaves notices for its user, also when it fails later on. They come with its result, in
the order in which they were left.
-/
namespace SwiftClient

inductive Notice where
  | literalDropped (classification : Classification) (value : Json)
  | packageInferred (name : String)
  | resolved (schemas groups : Nat)

inductive Level where
  | warning | information
  deriving DecidableEq

def Level.name : Level → String
  | warning => "WARN"
  | information => "INFO"

namespace Notice

def level : Notice → Level
  | literalDropped _ _ => .warning
  | packageInferred _ => .information
  | resolved _ _ => .information

def message : Notice → String
  | literalDropped c value =>
    "Literal value is unsupported for schema type " ++ c.name ++ ": " ++ value.text
  | packageInferred name => "Inferred package name '" ++ name ++ "' from document title"
  | resolved schemas groups =>
    "Resolved " ++ toString schemas ++ " schemas and " ++ toString groups ++ " operation groups"

end Notice

/-- A result with the notices left on the way to it. -/
structure Traced (α : Type) where
  notices : List Notice
  result : Except Failure α

namespace Traced

def bind (x : Traced α) (f : α → Traced β) : Traced β :=
  match x.result with
  | .error e => ⟨x.notices, .error e⟩
  | .ok a => ⟨x.notices ++ (f a).notices, (f a).result⟩

instance : Monad Traced where
  pure a := ⟨[], .ok a⟩
  bind := Traced.bind

def fail (e : Failure) : Traced α := ⟨[], .error e⟩

def ofExcept (x : Except Failure α) : Traced α := ⟨[], x⟩

instance : MonadLift (Except Failure) Traced := ⟨ofExcept⟩

def note (n : Notice) : Traced Unit := ⟨[n], .ok ()⟩

@[simp] theorem result_pure (a : α) : (pure a : Traced α).result = .ok a := rfl

/-- Notices have no bearing on results. -/
@[simp] theorem result_bind (x : Traced α) (f : α → Traced β) :
    (x >>= f).result = x.result >>= fun a => (f a).result := by
  cases h : x.result with
  | error e => simp only [Bind.bind, Traced.bind, h]; rfl
  | ok a => simp only [Bind.bind, Traced.bind, h]; rfl

@[simp] theorem result_ofExcept (x : Except Failure α) : (ofExcept x).result = x := rfl

end Traced

end SwiftClient
