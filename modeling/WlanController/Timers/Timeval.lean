import Mathlib.Order.Basic

/-!
# Times of seconds and microseconds

The timer library computes with `struct timeval`.  `micros` is the number of microseconds that
such a value stands for; the comparison and the sums of the library agree with it, and so does
the difference `TV_MINUS` as long as it need not borrow.  When it borrows, it adds `MAX_USEC`,
which is one microsecond less than a second.
-/

namespace WlanController.Timers

def microPerSec : Nat := 1000000

/-- The most microseconds in a `struct timeval`. -/
def maxUsec : Nat := 999999

/-- In microseconds. -/
def almostNow : Nat := 1000

@[ext] structure Timeval where
  tv_sec : Nat
  tv_usec : Nat
  normal : tv_usec < microPerSec
  deriving DecidableEq

namespace Timeval

def micros (t : Timeval) : Nat := t.tv_sec * microPerSec + t.tv_usec

/-- `TV_LESS_THAN`. -/
def Less (t₁ t₂ : Timeval) : Prop :=
  t₁.tv_sec < t₂.tv_sec ∨ t₁.tv_sec = t₂.tv_sec ∧ t₁.tv_usec < t₂.tv_usec

instance (t₁ t₂ : Timeval) : Decidable (t₁.Less t₂) := inferInstanceAs (Decidable (_ ∨ _))

/-- `TV_MINUS`. -/
def minus (t₁ t₂ : Timeval) : Timeval :=
  if enough : t₂.tv_usec ≤ t₁.tv_usec then
    { tv_sec := t₁.tv_sec - t₂.tv_sec
      tv_usec := t₁.tv_usec - t₂.tv_usec
      normal := Nat.lt_of_le_of_lt (Nat.sub_le _ _) t₁.normal }
  else
    { tv_sec := t₁.tv_sec - t₂.tv_sec - 1
      tv_usec := t₁.tv_usec + (maxUsec - t₂.tv_usec)
      normal := by
        have normal := t₁.normal
        simp only [maxUsec, microPerSec] at *
        omega }

/-- The difference has to borrow a second. -/
def Borrows (t₁ t₂ : Timeval) : Prop := t₁.tv_usec < t₂.tv_usec

instance (t₁ t₂ : Timeval) : Decidable (t₁.Borrows t₂) := inferInstanceAs (Decidable (_ < _))

/-- The time so many seconds and microseconds later. -/
def after (t : Timeval) (sec usec : Nat) : Timeval where
  tv_sec := t.tv_sec + (sec + (t.tv_usec + usec) / microPerSec)
  tv_usec := (t.tv_usec + usec) % microPerSec
  normal := Nat.mod_lt _ (by simp [microPerSec])

theorem less_iff (t₁ t₂ : Timeval) : t₁.Less t₂ ↔ t₁.micros < t₂.micros := by
  have normal := t₁.normal
  have normal' := t₂.normal
  simp only [Less, micros, microPerSec] at *
  omega

theorem micros_after (t : Timeval) (sec usec : Nat) :
    (t.after sec usec).micros = t.micros + (sec * microPerSec + usec) := by
  simp only [after, micros, microPerSec]
  omega

theorem micros_minus {t₁ t₂ : Timeval} (later : t₂.Less t₁) (exact : ¬ t₁.Borrows t₂) :
    (t₁.minus t₂).micros = t₁.micros - t₂.micros := by
  have kept : t₂.tv_usec ≤ t₁.tv_usec := Nat.le_of_not_lt exact
  simp only [minus, dif_pos kept, Less, micros, microPerSec] at *
  omega

/-- A borrowed second is one microsecond short. -/
theorem micros_minus_of_borrows {t₁ t₂ : Timeval} (later : t₂.Less t₁) (borrows : t₁.Borrows t₂) :
    (t₁.minus t₂).micros = t₁.micros - t₂.micros - 1 := by
  have normal := t₁.normal
  have normal' := t₂.normal
  have short : ¬ t₂.tv_usec ≤ t₁.tv_usec := Nat.not_le_of_lt borrows
  simp only [minus, dif_neg short, Less, Borrows, micros, microPerSec, maxUsec] at *
  omega

end Timeval

def gettimeofday (now : Nat) : Timeval where
  tv_sec := now / microPerSec
  tv_usec := now % microPerSec
  normal := Nat.mod_lt _ (by simp [microPerSec])

@[simp] theorem micros_gettimeofday (now : Nat) : (gettimeofday now).micros = now := by
  simp only [gettimeofday, Timeval.micros, microPerSec]
  omega

/-! ## Starting the interval timer -/

/-- What `timer_start` passes to `setitimer`: the time left, or almost none if the time is past. -/
def relative (now : Nat) (abs_to : Timeval) : Timeval :=
  if (gettimeofday now).Less abs_to then abs_to.minus (gettimeofday now)
  else ⟨0, almostNow, by simp [almostNow, microPerSec]⟩

/-- `timer_start`: when `SIGALRM` is due.  No time at all switches the interval timer off. -/
def timerStart (now : Nat) (abs_to : Timeval) : Option Nat :=
  if (relative now abs_to).micros = 0 then none else some (now + (relative now abs_to).micros)

/-- The time left is computed without borrowing, or there is none. -/
def StartsExactly (now : Nat) (abs_to : Timeval) : Prop :=
  (gettimeofday now).Less abs_to → ¬ abs_to.Borrows (gettimeofday now)

instance (now : Nat) (abs_to : Timeval) : Decidable (StartsExactly now abs_to) :=
  inferInstanceAs (Decidable (_ → _))

/-- Started exactly, the signal is due at the time that was asked for, or in a moment if that
    has passed. -/
theorem timerStart_exact {now : Nat} {abs_to : Timeval} (exact : StartsExactly now abs_to) :
    timerStart now abs_to =
      some (if now < abs_to.micros then abs_to.micros else now + almostNow) := by
  by_cases later : (gettimeofday now).Less abs_to
  · have ahead := later
    rw [Timeval.less_iff, micros_gettimeofday] at ahead
    have left := Timeval.micros_minus later (exact later)
    rw [micros_gettimeofday] at left
    have some_left : ¬ (abs_to.micros - now = 0) := by omega
    have sum : now + (abs_to.micros - now) = abs_to.micros := by omega
    rw [timerStart, relative, if_pos later, left, if_neg some_left, if_pos ahead, sum]
  · have past := later
    rw [Timeval.less_iff, micros_gettimeofday] at past
    rw [timerStart, relative, if_neg later, if_neg past]
    simp [Timeval.micros, almostNow]

end WlanController.Timers
