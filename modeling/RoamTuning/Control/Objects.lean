import RoamTuning.Control.Serve
import RoamTuning.Store.Objects

/-!
# Serving a store of objects

Requests are answered as for any store, but the sets decide by their members what
a request comes to: one that needs what a set cannot do ends in an internal
error.

Results:

* `serve_ofStore`: without more members a store is served as any other.
-/

namespace RoamTuning.Control

open RoamTuning

variable {α ρ : Type} [Quantity α] [Row ρ α]

/-- The reply with the parameters of the active set. -/
def activeReply (s : ObjectStore α ρ) : Except String Reply := do
  s.others.listing.mapError Value.Misfit.message
  paramsReply s.store.active.params

/-- The reply with the thresholds of a frequency. -/
def bandReply (s : ObjectStore α ρ) (frequency : Int) : Logged ReplyError Reply :=
  match s.others.thresholds with
  | .ok () => thresholdsReply s.store frequency
  | .error m => do
    let _ ← Band.forFrequency frequency
    Logged.fail (.absent m)

/-- Carries out a call on a store of objects. -/
def performOn (setup : Setup) (s : ObjectStore α ρ) : Call → Exchange (ObjectStore α ρ)
  | .params => conclude setup s (Logged.ofExcept (activeReply s))
  | .override text =>
    let (s', answer) := s.write (.update (some text))
    conclude setup s' (writeReply answer (activeReply s') (overrideRefusal text))
  | .thresholds frequency =>
    conclude setup s ((bandReply s frequency).mapError ReplyError.message)
  | .setThresholds b ns =>
    let (s', answer) := s.write (.bandThresholds b (.list (ns.map .int)))
    conclude setup s' (writeReply answer (activeReply s') (thresholdsRefusal b ns))
  | call => (perform setup s.store call).map fun left => { s with store := left }

/-- Answers a request to a store of objects. -/
def serveOn (setup : Setup) (s : ObjectStore α ρ) (r : Request) : Exchange (ObjectStore α ρ) :=
  match r.decode with
  | .ok call => performOn setup s call
  | .error e => refuse setup s e

/-! ## Laws -/

theorem map_conclude {σ τ : Type} (f : σ → τ) (setup : Setup) (s : σ) (x : Logged String Reply) :
    (conclude setup s x).map f = conclude setup (f s) x := by
  simp only [conclude]
  cases x.outcome <;> rfl

theorem map_refuse {σ τ : Type} (f : σ → τ) (setup : Setup) (s : σ) (e : Refusal) :
    (refuse setup s e).map f = refuse setup (f s) e := by
  cases e with
  | invalid findings => simp only [refuse]; cases failure? findings <;> rfl
  | _ => rfl

theorem activeReply_ofStore (s : Store α ρ) :
    activeReply (.ofStore s) = paramsReply s.active.params := rfl

theorem bandReply_ofStore (s : Store α ρ) (frequency : Int) :
    bandReply (.ofStore s) frequency = thresholdsReply s frequency := rfl

theorem performOn_ofStore (setup : Setup) (s : Store α ρ) (call : Call) :
    performOn setup (.ofStore s) call = (perform setup s call).map .ofStore := by
  cases call <;>
    simp only [performOn, perform, map_conclude, activeReply_ofStore, bandReply_ofStore,
      ObjectStore.write_ofStore, Store.update, Store.setBandThresholds]
  all_goals rfl

theorem serve_ofStore (setup : Setup) (s : Store α ρ) (r : Request) :
    serveOn setup (.ofStore s) r = (serve setup s r).map .ofStore := by
  simp only [serveOn, serve]
  cases r.decode with
  | ok call => exact performOn_ofStore setup s call
  | error e => exact (map_refuse _ setup s e).symm

end RoamTuning.Control
