import Mathlib.Logic.Relation
import Mathlib.Data.List.Basic

/-! Programs that act on a shared state through typed calls.

A program is a finite tree: at each node it issues one call and resumes with
the reply. An environment says which replies and next states a call may have,
so failures, races and arbitrary answers are choices of the environment and
never of the program.
-/

set_option autoImplicit false

namespace Interaction

/-- The calls a program may issue, each with the type of its reply. -/
structure Interface where
  Call : Type
  Reply : Call → Type

inductive Program (I : Interface) (A : Type) where
  | done (value : A)
  | call (request : I.Call) (resume : I.Reply request → Program I A)

/-- Which reply and next state a call issued in a given state may have. -/
abbrev Environment (I : Interface) (S : Type) :=
  (request : I.Call) → S → I.Reply request → S → Prop

/-- One answered call together with the states around it. -/
structure Event (I : Interface) (S : Type) where
  before : S
  request : I.Call
  reply : I.Reply request
  after : S

/-- A call-by-call translation of one interface into another. -/
structure Interface.Embedding (I J : Interface) where
  call : I.Call → J.Call
  reply : (request : I.Call) → J.Reply (call request) → I.Reply request

namespace Program

variable {I J : Interface} {A B C S : Type}

def bind (program : Program I A) (next : A → Program I B) : Program I B :=
  match program with
  | .done value => next value
  | .call request resume => .call request fun reply => (resume reply).bind next

/-- The program that issues one call and returns its reply. -/
def perform (request : I.Call) : Program I (I.Reply request) :=
  .call request .done

instance : Monad (Program I) where
  pure := .done
  bind := bind

@[simp] theorem pure_eq (value : A) : (pure value : Program I A) = .done value := rfl

@[simp] theorem bind_eq (program : Program I A) (next : A → Program I B) :
    program >>= next = program.bind next := rfl

@[simp] theorem done_bind (value : A) (next : A → Program I B) :
    (done value).bind next = next value := rfl

@[simp] theorem call_bind (request : I.Call) (resume : I.Reply request → Program I A)
    (next : A → Program I B) :
    (call request resume).bind next = .call request fun reply => (resume reply).bind next := rfl

theorem bind_done (program : Program I A) : program.bind .done = program := by
  induction program with
  | done value => rfl
  | call request resume ih => simp only [call_bind, ih]

theorem bind_assoc (program : Program I A) (first : A → Program I B) (second : B → Program I C) :
    (program.bind first).bind second = program.bind fun value => (first value).bind second := by
  induction program with
  | done value => rfl
  | call request resume ih => simp only [call_bind, ih]

instance : LawfulMonad (Program I) :=
  LawfulMonad.mk' _ bind_done (fun _ _ => rfl) bind_assoc

/-- Reissue every call of a program through another interface. -/
def embed (embedding : I.Embedding J) : Program I A → Program J A
  | .done value => .done value
  | .call request resume =>
    .call (embedding.call request) fun reply => (resume (embedding.reply request reply)).embed embedding

theorem embed_bind (embedding : I.Embedding J) (program : Program I A) (next : A → Program I B) :
    (program.bind next).embed embedding =
      (program.embed embedding).bind fun value => (next value).embed embedding := by
  induction program with
  | done value => rfl
  | call request resume ih => simp only [call_bind, embed, ih]

/-- A complete execution of a program that nothing else interrupts. -/
def Runs (env : Environment I S) : Program I A → S → A → S → Prop
  | .done value, before, result, after => value = result ∧ before = after
  | .call request resume, before, result, after =>
    ∃ reply middle, env request before reply middle ∧ (resume reply).Runs env middle result after

@[simp] theorem runs_done (env : Environment I S) (value result : A) (before after : S) :
    (done value).Runs env before result after ↔ value = result ∧ before = after := Iff.rfl

@[simp] theorem runs_call (env : Environment I S) (request : I.Call)
    (resume : I.Reply request → Program I A) (before : S) (result : A) (after : S) :
    (call request resume).Runs env before result after ↔
      ∃ reply middle, env request before reply middle ∧
        (resume reply).Runs env middle result after := Iff.rfl

theorem runs_bind (env : Environment I S) (program : Program I A) (next : A → Program I B)
    (before : S) (result : B) (after : S) :
    (program.bind next).Runs env before result after ↔
      ∃ value middle, program.Runs env before value middle ∧
        (next value).Runs env middle result after := by
  induction program generalizing before with
  | done value => simp
  | call request resume ih =>
    simp only [call_bind, runs_call, ih]
    constructor
    · rintro ⟨reply, first, answered, value, middle, rest, last⟩
      exact ⟨value, middle, ⟨reply, first, answered, rest⟩, last⟩
    · rintro ⟨value, middle, ⟨reply, first, answered, rest⟩, last⟩
      exact ⟨reply, first, answered, value, middle, rest, last⟩

theorem Runs.mono {env wider : Environment I S} {program : Program I A} {before after : S}
    {result : A} (covers : ∀ request s reply t, env request s reply t → wider request s reply t)
    (runs : program.Runs env before result after) : program.Runs wider before result after := by
  induction program generalizing before with
  | done value => exact runs
  | call request resume ih =>
    obtain ⟨reply, middle, answered, rest⟩ := runs
    exact ⟨reply, middle, covers request before reply middle answered, ih reply rest⟩

/-- Every call the program can issue, whatever it is answered, is allowed. -/
def Uses (allowed : I.Call → Prop) : Program I A → Prop
  | .done _ => True
  | .call request resume => allowed request ∧ ∀ reply, (resume reply).Uses allowed

@[simp] theorem uses_done (allowed : I.Call → Prop) (value : A) :
    (done value : Program I A).Uses allowed := trivial

theorem Uses.bind {allowed : I.Call → Prop} {program : Program I A} {next : A → Program I B}
    (uses : program.Uses allowed) (rest : ∀ value, (next value).Uses allowed) :
    (program.bind next).Uses allowed := by
  induction program with
  | done value => exact rest value
  | call request resume ih =>
    obtain ⟨permitted, later⟩ := uses
    exact ⟨permitted, fun reply => ih reply (later reply)⟩

theorem Uses.mono {allowed wider : I.Call → Prop} {program : Program I A}
    (uses : program.Uses allowed) (covers : ∀ request, allowed request → wider request) :
    program.Uses wider := by
  induction program with
  | done value => trivial
  | call request resume ih => exact ⟨covers request uses.1, fun reply => ih reply (uses.2 reply)⟩

theorem Uses.embed {embedding : I.Embedding J} {allowed : J.Call → Prop} {program : Program I A}
    (uses : program.Uses fun request => allowed (embedding.call request)) :
    (program.embed embedding).Uses allowed := by
  induction program with
  | done value => trivial
  | call request resume ih => exact ⟨uses.1, fun reply => ih _ (uses.2 _)⟩

/-- What every allowed call does to the state, a whole run does. -/
theorem Runs.relates {related : S → S → Prop} {env : Environment I S} {allowed : I.Call → Prop}
    (refl : ∀ s, related s s) (trans : ∀ {s t u}, related s t → related t u → related s u)
    (steps : ∀ request s reply t, allowed request → env request s reply t → related s t)
    {program : Program I A} (uses : program.Uses allowed) {s t : S} {value : A}
    (runs : program.Runs env s value t) : related s t := by
  induction program generalizing s with
  | done result =>
    obtain ⟨-, rfl⟩ := runs
    exact refl s
  | call request resume ih =>
    obtain ⟨reply, middle, answered, rest⟩ := runs
    exact trans (steps request s reply middle uses.1 answered) (ih reply (uses.2 reply) rest)

/-- Every value the program can return, whatever it is answered, satisfies this. -/
def Returns (holds : A → Prop) : Program I A → Prop
  | .done value => holds value
  | .call _ resume => ∀ reply, (resume reply).Returns holds

theorem Returns.bind {holds : A → Prop} {ends : B → Prop} {program : Program I A}
    {next : A → Program I B} (returns : program.Returns holds)
    (rest : ∀ value, holds value → (next value).Returns ends) :
    (program.bind next).Returns ends := by
  induction program with
  | done value => exact rest value returns
  | call request resume ih => exact fun reply => ih reply (returns reply)

/-- The program issues at most the given number of calls. -/
def Bounded : Program I A → Nat → Prop
  | .done _, _ => True
  | .call _ resume, limit => ∃ rest, limit = rest + 1 ∧ ∀ reply, (resume reply).Bounded rest

@[simp] theorem bounded_done (value : A) (limit : Nat) : (done value : Program I A).Bounded limit :=
  trivial

theorem Bounded.mono {program : Program I A} {limit larger : Nat} (bounded : program.Bounded limit)
    (le : limit ≤ larger) : program.Bounded larger := by
  induction program generalizing limit larger with
  | done value => trivial
  | call request resume ih =>
    obtain ⟨rest, rfl, bounded⟩ := bounded
    exact ⟨larger - 1, by omega, fun reply => ih reply (bounded reply) (by omega)⟩

theorem Bounded.bind {program : Program I A} {next : A → Program I B} {limit more : Nat}
    (bounded : program.Bounded limit) (rest : ∀ value, (next value).Bounded more) :
    (program.bind next).Bounded (limit + more) := by
  induction program generalizing limit with
  | done value => exact (rest value).mono (by omega)
  | call request resume ih =>
    obtain ⟨fewer, rfl, bounded⟩ := bounded
    exact ⟨fewer + more, by omega, fun reply => ih reply (bounded reply)⟩

theorem Bounded.embed {embedding : I.Embedding J} {program : Program I A} {limit : Nat}
    (bounded : program.Bounded limit) : (program.embed embedding).Bounded limit := by
  induction program generalizing limit with
  | done value => trivial
  | call request resume ih =>
    obtain ⟨rest, rfl, bounded⟩ := bounded
    exact ⟨rest, rfl, fun reply => ih _ (bounded _)⟩

/-- What a program returns after these replies, if they are as many as it waits for. -/
def replay {Call Reply : Type} : Program ⟨Call, fun _ => Reply⟩ A → List Reply → Option A
  | .done value, _ => some value
  | .call _ _, [] => none
  | .call _ resume, reply :: rest => (resume reply).replay rest

end Program

end Interaction
