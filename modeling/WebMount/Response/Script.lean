import WebMount.Response.Op

/-!
# Programs that write a response

A program performs operations one after the other, each chosen by how those before it ended, and
comes to a result. It runs on any sink (`run`); where no operation fails it always performs the same
operations and comes to the same result (`play`). The bodies of resources are such programs, and
so is all that a resource does to its response.
-/

namespace WebMount.Response

/-- A program that writes a response and comes to a result. -/
inductive Script (ρ : Type) where
  /-- The program is done. -/
  | done (result : ρ)
  /-- The program performs an operation and goes on with how it ended. -/
  | op (op : Op) (next : Except IoError Unit → Script ρ)

namespace Script

variable {ρ τ ε : Type}

/-- A program on a sink: the result, and the sink after it. -/
def run {σ : Type} [Sink σ] (s : σ) : Script ρ → ρ × σ
  | done result => (result, s)
  | op o next => run (Sink.step s o).2 (next (Sink.step s o).1)

/-- The operations and the result of a program none of whose operations fails. -/
def play : Script ρ → List Op × ρ
  | done result => ([], result)
  | op o next => (o :: (next (.ok ())).play.1, (next (.ok ())).play.2)

/-- The greatest number of operations that a program performs if they succeed or fail because the
receiver is gone. -/
def size : Script ρ → Nat
  | done _ => 0
  | op _ next => max (next (.ok ())).size (next (.error .receiverGone)).size + 1

/-- A program that goes on with the result of another one. -/
def bind : Script ρ → (ρ → Script τ) → Script τ
  | done result, k => k result
  | op o next, k => op o fun outcome => (next outcome).bind k

/-- A program with another form of result. -/
def map (f : ρ → τ) (p : Script ρ) : Script τ :=
  p.bind fun result => done (f result)

/-- A program that is followed by another one unless it fails. -/
def andThen (p q : Script (Except ε Unit)) : Script (Except ε Unit) :=
  p.bind fun
    | .ok () => q
    | .error e => done (.error e)

/-- Operations up to the first one that fails. -/
def ofOps : List Op → Script (Except IoError Unit)
  | [] => done (.ok ())
  | o :: ops =>
    op o fun
      | .ok () => ofOps ops
      | .error e => done (.error e)

end Script

end WebMount.Response
