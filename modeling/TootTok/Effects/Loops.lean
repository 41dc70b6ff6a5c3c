import Mathlib.Data.Nat.Notation

/-!
# Loops

Loops whose bodies may fail, run with fuel. The rules say after how many rounds a loop
ends and with what, whatever the fuel beyond that.
-/

namespace TootTok
namespace Effects

/-- A computation that may fail, and that may not end within its fuel. -/
abbrev Timed (ε α : Type) : Type := ExceptT ε Option α

/-- A computation without a loop. -/
def Timed.once (outcome : Except ε α) : Timed ε α := ExceptT.mk (some outcome)

@[simp] theorem Timed.once_ok_bind (value : α) (next : α → Timed ε β) :
    (Timed.once (.ok value) >>= next) = next value := rfl

/-- Repeat the body until it leaves the loop, which it does by giving no next state. -/
def loop (body : σ → Timed ε (Option σ)) : Nat → σ → Timed ε σ
  | 0, _ => ExceptT.mk none
  | fuel + 1, state => do
      match ← body state with
      | none => pure state
      | some next => loop body fuel next

/-- With more fuel than so many rounds, the loop ends with this outcome. -/
def Ends (body : σ → Timed ε (Option σ)) (rounds : Nat) (state : σ) (outcome : Except ε σ) :
    Prop :=
  ∀ fuel, rounds < fuel → loop body fuel state = Timed.once outcome

namespace Ends

variable {ε σ : Type} {body : σ → Timed ε (Option σ)} {rounds : Nat} {state next : σ}
  {outcome : Except ε σ}

theorem leave (left : body state = Timed.once (.ok none)) :
    Ends body rounds state (.ok state) := by
  intro fuel enough
  cases fuel with
  | zero => omega
  | succ fuel =>
      rw [loop, left]
      rfl

theorem step (stepped : body state = Timed.once (.ok (some next)))
    (ends : Ends body rounds next outcome) : Ends body (rounds + 1) state outcome := by
  intro fuel enough
  cases fuel with
  | zero => omega
  | succ fuel =>
      rw [loop, stepped]
      exact ends fuel (by omega)

theorem mono {more : Nat} (ends : Ends body rounds state outcome) (fewer : rounds ≤ more) :
    Ends body more state outcome :=
  fun fuel enough => ends fuel (by omega)

end Ends

end Effects
end TootTok
