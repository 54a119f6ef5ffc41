import CuckooFilter.Key
import CuckooFilter.Snapshot
import Mathlib.Control.Monad.Basic

/-!
# Requests and runs

A caller adds, queries and deletes keys and clears a filter, and sees an answer to each request. The
same requests are put to a filter, by keys, and to what a filter is proven to behave as, by the
classes of keys. Where the filter may refuse a key for want of room, the other is told whether it
does, and what it may be told depends on the filter's state (`Along`, `trace_simulates`). A caller may
also restore images and snapshots, of whatever origin
(`Command`).
-/

namespace CuckooFilter

/-- A request to a filter, where keys are given as `κ` and the times they are seen at as `τ`. -/
inductive Request (κ τ : Type)
  | add (key : κ) (time : τ)
  | query (key : κ)
  | delete (key : κ)
  | clear

/-- The request with its key and time seen another way. -/
def Request.map {κ κ' τ τ' : Type} (f : κ → κ') (g : τ → τ') : Request κ τ → Request κ' τ'
  | .add key time => .add (f key) (g time)
  | .query key => .query (f key)
  | .delete key => .delete (f key)
  | .clear => .clear

/-- The time that the key of a request was seen at, if it was. -/
def Request.time? {κ τ : Type} : Request κ τ → Option τ
  | .add _ time => some time
  | .query _ | .delete _ | .clear => none

/-- The answer to a request, where adding a key has an outcome in `α` and querying one in `β`. -/
inductive Answer (α β : Type)
  | added (outcome : Except Full α)
  | found (result : β)
  | deleted (removed : Bool)
  | cleared
  deriving DecidableEq

/-- Whether a key was refused for want of room. -/
def Answer.isFull {α β : Type} : Answer α β → Bool
  | .added (.error _) => true
  | .added (.ok _) | .found _ | .deleted _ | .cleared => false

/-- All that a caller may do to a filter. -/
inductive Command (τ : Type)
  | request (request : Request Key τ)
  | restore (claimed : Nat) (image : Bytes) (version : Option Nat)
  | restoreSnapshot (snapshot : Snapshot)

section Runs

variable {σ σ' ι ι' κ ο : Type}

/-- The outputs for each of the inputs. -/
def trace (step : σ → ι → σ × ο) (s : σ) : List ι → List ο
  | [] => []
  | i :: inputs => (step s i).2 :: trace step (step s i).1 inputs

/-- What is known beside the inputs of a run is allowed, each in the state that its input finds. -/
inductive Along (step : σ → ι → σ × ο) (Allows : σ → ι → κ → Prop) : σ → List ι → List κ → Prop
  | nil (s : σ) : Along step Allows s [] []
  | cons {s : σ} {i : ι} {k : κ} {inputs : List ι} {ks : List κ} (h : Allows s i k)
    (rest : Along step Allows (step s i).1 inputs ks) : Along step Allows s (i :: inputs) (k :: ks)

/-- If each step from related states gives the same output and related states, once something of `κ`
that is allowed is known beside the input, then so do runs. -/
theorem trace_simulates {step : σ → ι → σ × ο} {spec : σ' → ι' × κ → σ' × ο} (input : ι → ι')
    (Rel : σ → σ' → Prop) (Allows : σ → ι → κ → Prop)
    (hstep : ∀ s m i, Rel s m → ∃ k, Allows s i k ∧
      (step s i).2 = (spec m (input i, k)).2 ∧ Rel (step s i).1 (spec m (input i, k)).1)
    {s : σ} {m : σ'} (h : Rel s m) (inputs : List ι) :
    ∃ ks : List κ, ks.length = inputs.length ∧ Along step Allows s inputs ks ∧
      trace step s inputs = trace spec m ((inputs.map input).zip ks) := by
  induction inputs generalizing s m with
  | nil => exact ⟨[], rfl, .nil s, rfl⟩
  | cons i inputs ih =>
    obtain ⟨k, hallows, hout, hrel⟩ := hstep s m i h
    obtain ⟨ks, hlen, halong, htrace⟩ := ih hrel
    refine ⟨k :: ks, by rw [List.length_cons, hlen, List.length_cons], .cons hallows halong, ?_⟩
    rw [List.map_cons, List.zip_cons_cons, trace, trace, hout, htrace]

/-- Two runs that simulate the same give the same outputs, as long as these leave no choice of what is
not known of the input. -/
theorem trace_eq_trace {σ'' : Type} {step : σ → ι → σ × ο} {step' : σ'' → ι → σ'' × ο}
    {spec : σ' → ι' × κ → σ' × ο} (input : ι → ι') (Rel : σ → σ' → Prop) (Rel' : σ'' → σ' → Prop)
    (refused : ο → Prop)
    (hstep : ∀ s m i, Rel s m →
      ∃ k, (step s i).2 = (spec m (input i, k)).2 ∧ Rel (step s i).1 (spec m (input i, k)).1)
    (hstep' : ∀ s m i, Rel' s m →
      ∃ k, (step' s i).2 = (spec m (input i, k)).2 ∧ Rel' (step' s i).1 (spec m (input i, k)).1)
    (hspec : ∀ m i k k', ¬ refused (spec m (i, k)).2 → ¬ refused (spec m (i, k')).2 →
      spec m (i, k) = spec m (i, k'))
    {s : σ} {s' : σ''} {m : σ'} (h : Rel s m) (h' : Rel' s' m) (inputs : List ι)
    (hout : ∀ o ∈ trace step s inputs, ¬ refused o)
    (hout' : ∀ o ∈ trace step' s' inputs, ¬ refused o) :
    trace step s inputs = trace step' s' inputs := by
  induction inputs generalizing s s' m with
  | nil => rfl
  | cons i inputs ih =>
    rw [trace, List.forall_mem_cons] at hout hout'
    obtain ⟨k, he, hrel⟩ := hstep s m i h
    obtain ⟨k', he', hrel'⟩ := hstep' s' m i h'
    have hsame := hspec m (input i) k k' (he ▸ hout.1) (he' ▸ hout'.1)
    rw [hsame] at he hrel
    rw [trace, trace, he, he', ih hrel hrel' hout.2 hout'.2]

end Runs

end CuckooFilter
