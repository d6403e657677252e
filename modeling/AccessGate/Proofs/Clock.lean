import AccessGate.Environment

/-!
Points in time and lengths of time, counted in nanoseconds.
-/

namespace AccessGate

namespace Duration

def total (d : Duration) : Nat := d.seconds * 1000000000 + d.nanos.val

theorem total_ofSeconds (n : Nat) : (ofSeconds n).total = n * 1000000000 := Nat.add_zero _

theorem isShorter_iff (a b : Duration) : a.isShorter b = true ↔ a.total < b.total := by
  have small := a.nanos.isLt
  have other := b.nanos.isLt
  simp only [isShorter, total, Bool.or_eq_true, Bool.and_eq_true, decide_eq_true_eq, beq_iff_eq,
    Fin.lt_def]
  omega

theorem total_shorter (a b : Duration) : (a.shorter b).total = min a.total b.total := by
  by_cases less : b.isShorter a = true
  · rw [shorter, if_pos less, Nat.min_eq_right (Nat.le_of_lt ((isShorter_iff b a).mp less))]
  · rw [shorter, if_neg less, Nat.min_eq_left (Nat.le_of_not_lt (mt (isShorter_iff b a).mpr less))]

end Duration

namespace Instant

/-- Nanoseconds since the epoch. -/
def total (t : Instant) : Nat := t.seconds * 1000000000 + t.nanos.val

/-- The clock can hold the instant that lies so much later. -/
def Room (t : Instant) (d : Duration) : Prop := t.total + d.total < (lastSecond + 1) * 1000000000

theorem room_iff (t : Instant) (d : Duration) :
    t.Room d ↔ t.seconds + d.seconds + (t.nanos.val + d.nanos.val) / 1000000000 ≤ lastSecond := by
  unfold Room total Duration.total
  generalize lastSecond = last
  omega

theorem after_room (t : Instant) (d : Duration) (room : t.Room d) :
    ∃ later : Instant, t.after d = .ok later ∧ later.total = t.total + d.total := by
  refine ⟨_, if_pos ((room_iff t d).mp room), ?_⟩
  have sum := Nat.div_add_mod (t.nanos.val + d.nanos.val) 1000000000
  simp only [total, Duration.total, Fin.val_add]
  omega

end Instant

end AccessGate
