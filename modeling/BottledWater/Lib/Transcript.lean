import Mathlib.Data.List.Basic

set_option autoImplicit false

/-! # Transcripts of requests

A computation that talks to another party makes requests, each answered by the party, and ends
with a value or an error. `Transcript ρ ε α` is what such a computation leaves: the requests it
made, in order, and its outcome. `bind` runs the second part only on a value, and then appends its
requests, so a composite makes the requests of its parts up to the first error and none after it.
A request and its answer are `ask`; the party answers each request by a function of it.
-/

/-- The requests a computation made, in order, and its outcome. -/
structure Transcript (ρ ε α : Type) where
  sent : List ρ
  result : Except ε α

namespace Transcript

variable {ρ ε α β : Type}

/-- A value, without a request. -/
def ret (a : α) : Transcript ρ ε α := ⟨[], .ok a⟩

/-- An error, without a request. -/
def fail (e : ε) : Transcript ρ ε α := ⟨[], .error e⟩

/-- A request, answered. -/
def ask (request : ρ) (answer : α) : Transcript ρ ε α := ⟨[request], .ok answer⟩

/-- The first part, then the second on its value: the requests of both. -/
def bind (t : Transcript ρ ε α) (f : α → Transcript ρ ε β) : Transcript ρ ε β :=
  match t.result with
  | .ok a => ⟨t.sent ++ (f a).sent, (f a).result⟩
  | .error e => ⟨t.sent, .error e⟩

@[simp] theorem ret_bind (a : α) (f : α → Transcript ρ ε β) : (ret a).bind f = f a := by
  simp [ret, bind]

@[simp] theorem fail_bind (e : ε) (f : α → Transcript ρ ε β) : (fail e).bind f = fail e := rfl

@[simp] theorem ask_bind (request : ρ) (answer : α) (f : α → Transcript ρ ε β) :
    (ask request answer).bind f = ⟨request :: (f answer).sent, (f answer).result⟩ := rfl

@[simp] theorem sent_ret (a : α) : (ret a : Transcript ρ ε α).sent = [] := rfl

@[simp] theorem result_ret (a : α) : (ret a : Transcript ρ ε α).result = .ok a := rfl

@[simp] theorem sent_fail (e : ε) : (fail e : Transcript ρ ε α).sent = [] := rfl

@[simp] theorem result_fail (e : ε) : (fail e : Transcript ρ ε α).result = .error e := rfl

/-- **A composite that ends with a value** ran its first part to a value and its second part from
it to the end; its requests are theirs, in order. -/
theorem bind_eq_ok {t : Transcript ρ ε α} {f : α → Transcript ρ ε β} {b : β}
    (h : (t.bind f).result = .ok b) :
    ∃ a, t.result = .ok a ∧ (f a).result = .ok b ∧ (t.bind f).sent = t.sent ++ (f a).sent := by
  unfold bind at h ⊢
  cases ht : t.result with
  | ok a =>
    rw [ht] at h
    exact ⟨a, rfl, h, rfl⟩
  | error e =>
    rw [ht] at h
    cases h

end Transcript
