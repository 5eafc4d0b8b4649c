import TrustZoneSdk.Foundation.Fallible

/-!
# How a computation ends

A fallible computation returns, fails or is killed, and each of the three has
its postcondition.  The rules follow the way the computation is put together.
-/

namespace TrustZoneSdk.Foundation

variable {ε σ α β : Type}

def Ends (x : Fallible ε σ α) (state : σ) (Done : α → σ → Prop)
    (Failed : ε → σ → Prop) (Killed : σ → Prop) : Prop :=
  match x.run state with
  | .ok value next => Done value next
  | .error (.failed error) next => Failed error next
  | .error .killed next => Killed next

namespace Ends

variable {x : Fallible ε σ α} {state : σ} {Done Done' : α → σ → Prop}
  {Failed Failed' : ε → σ → Prop} {Killed Killed' : σ → Prop}

theorem pure {value : α} (h : Done value state) :
    Ends (Pure.pure value : Fallible ε σ α) state Done Failed Killed := h

theorem fail {error : ε} (h : Failed error state) :
    Ends (Fallible.fail error : Fallible ε σ α) state Done Failed Killed := h

theorem kill (h : Killed state) :
    Ends (Fallible.kill : Fallible ε σ α) state Done Failed Killed := h

theorem get_bind {f : σ → Fallible ε σ α}
    (h : Ends (f state) state Done Failed Killed) :
    Ends (get >>= f) state Done Failed Killed := h

theorem modified {f : σ → σ} {Done : Unit → σ → Prop}
    (h : Done () (f state)) :
    Ends (modify f : Fallible ε σ Unit) state Done Failed Killed := h

theorem modify_bind {f : σ → σ} {g : Unit → Fallible ε σ α}
    (h : Ends (g ()) (f state) Done Failed Killed) :
    Ends (modify f >>= g) state Done Failed Killed := h

theorem ofExcept {result : Except ε α}
    (hok : ∀ value, result = .ok value → Done value state)
    (herror : ∀ error, result = .error error → Failed error state) :
    Ends (Fallible.ofExcept result) state Done Failed Killed := by
  cases result with
  | ok value => exact hok value rfl
  | error error => exact herror error rfl

theorem bind {f : α → Fallible ε σ β} {Final : β → σ → Prop}
    (h : Ends x state Done Failed Killed)
    (hnext : ∀ value next, Done value next →
      Ends (f value) next Final Failed Killed) :
    Ends (x >>= f) state Final Failed Killed := by
  unfold Ends at h ⊢
  rw [EStateM.run_bind]
  cases hrun : x.run state with
  | ok value next =>
      rw [hrun] at h
      exact hnext value next h
  | error halt next =>
      rw [hrun] at h
      cases halt with
      | failed error => exact h
      | killed => exact h

theorem mono (h : Ends x state Done Failed Killed)
    (hdone : ∀ value next, Done value next → Done' value next)
    (hfailed : ∀ error next, Failed error next → Failed' error next)
    (hkilled : ∀ next, Killed next → Killed' next) :
    Ends x state Done' Failed' Killed' := by
  unfold Ends at h ⊢
  cases hrun : x.run state with
  | ok value next =>
      rw [hrun] at h
      exact hdone value next h
  | error halt next =>
      rw [hrun] at h
      cases halt with
      | failed error => exact hfailed error next h
      | killed => exact hkilled next h

end Ends

end TrustZoneSdk.Foundation
