import LightPilot.Proofs.Link.SampleBuffers

set_option autoImplicit false

/-! # The backlog of the double buffer

How far the buffers may fall behind is a matter of one number: the samples stored and not yet taken.
Pushing adds one and taking a window takes a window's worth away, so the backlog is what was stored less
what was taken. A sample is dropped only at a backlog of two windows (`push_eq_dropped_iff_backlog`), and
with no window waiting the backlog is less than one. -/

namespace LightPilot.SampleBuffers

variable {size : Nat} {b : SampleBuffers size}

/-- The number of samples stored and not yet taken. -/
def backlog (b : SampleBuffers size) : Nat :=
  b.waiting.length * size + b.begun.length

theorem ordered_empty (size : Nat) : (empty : SampleBuffers size).Ordered := by
  refine ⟨Nat.zero_le size, .inl rfl, ?_⟩
  have hempty : (empty : SampleBuffers size).here = #[] := rfl
  rw [hempty]
  exact id

theorem backlog_empty (hsize : 0 < size) : (empty : SampleBuffers size).backlog = 0 := by
  have hhere : (empty : SampleBuffers size).here = #[] := rfl
  have hthere : (empty : SampleBuffers size).there = #[] := rfl
  rw [backlog, waiting_eq, begun_of_lt hsize _ (by rw [hhere]; exact hsize), hhere, hthere,
    windowOf?_of_ne #[] (Nat.ne_of_lt hsize)]
  simp

theorem length_windowOf?_le (buffer : Array Float32) :
    (windowOf? buffer : Option (Window size)).toList.length ≤ 1 := by
  cases (windowOf? buffer : Option (Window size)) <;> simp

theorem length_waiting_le (b : SampleBuffers size) : b.waiting.length ≤ 2 := by
  rw [waiting_eq, List.length_append]
  exact Nat.add_le_add (length_windowOf?_le b.here) (length_windowOf?_le b.there)

/-- Both buffers are full, or less than two windows are stored. -/
theorem Ordered.cases (hsize : 0 < size) (h : b.Ordered) :
    (size ≤ b.here.size ∧ b.waiting.length = 2 ∧ b.begun = []) ∨
      (b.here.size < size ∧ b.waiting.length ≤ 1 ∧ b.begun.length < size) := by
  rcases Nat.lt_or_ge b.here.size size with hlt | hge
  · refine .inr ⟨hlt, ?_, ?_⟩
    · rw [waiting_eq, windowOf?_of_ne b.here (Nat.ne_of_lt hlt)]
      exact length_windowOf?_le b.there
    · rw [begun_of_lt hsize b hlt, Array.length_toList]
      exact hlt
  · have hhere : b.here.size = size := Nat.le_antisymm h.here_le hge
    refine .inl ⟨hge, ?_, begun_of_le hsize b hge⟩
    rw [waiting_eq, windowOf?_of_eq hsize _ hhere, windowOf?_of_eq hsize _ (h.there_full hhere)]
    rfl

theorem Ordered.length_begun_lt (hsize : 0 < size) (h : b.Ordered) : b.begun.length < size := by
  rcases h.cases hsize with ⟨-, -, hbegun⟩ | ⟨-, -, hlt⟩
  · rw [hbegun]
    exact hsize
  · exact hlt

theorem Ordered.backlog_le (hsize : 0 < size) (h : b.Ordered) : b.backlog ≤ 2 * size := by
  rw [backlog]
  rcases h.cases hsize with ⟨-, hwaiting, hbegun⟩ | ⟨-, hwaiting, hlt⟩
  · rw [hwaiting, hbegun]
    exact Nat.le_refl _
  · have hone := Nat.mul_le_mul_right size hwaiting
    omega

theorem push_eq_dropped_iff_backlog (hsize : 0 < size) (h : b.Ordered) (value : Float32) :
    (b.push value).1 = .dropped ↔ b.backlog = 2 * size := by
  have hfull : (b.push value).1 = .dropped ↔ size ≤ b.here.size := by
    rcases push_cases hsize b value with ⟨hfull, hpush⟩ | ⟨hroom, houtcome, -⟩ |
      ⟨hlt, -, houtcome, -⟩
    · simp [hpush, hfull]
    · simp only [houtcome, reduceCtorEq, false_iff]
      omega
    · simp only [houtcome, reduceCtorEq, false_iff]
      omega
  rw [hfull, backlog]
  rcases h.cases hsize with ⟨hge, hwaiting, hbegun⟩ | ⟨hlt, hwaiting, hshort⟩
  · simp [hge, hwaiting, hbegun]
  · have hone := Nat.mul_le_mul_right size hwaiting
    omega

theorem backlog_push (hsize : 0 < size) (h : b.Ordered) {value : Float32}
    (hkept : (b.push value).1 ≠ .dropped) : (b.push value).2.backlog = b.backlog + 1 := by
  rw [backlog, backlog]
  rcases (queue_push hsize b h value).2 with ⟨hdropped, -⟩ | ⟨-, hwaiting, hbegun⟩ |
    ⟨-, hbegun, window, hwindow, hwaiting⟩
  · exact absurd hdropped hkept
  · rw [hwaiting, hbegun, List.length_append, List.length_singleton, Nat.add_assoc]
  · -- the window that is begun becomes whole
    have hlength := congrArg List.length hwindow
    rw [Vector.length_toList, List.length_append, List.length_singleton] at hlength
    rw [hwaiting, hbegun, List.length_append, List.length_singleton, Nat.succ_mul, List.length_nil]
    omega

theorem backlog_of_waiting {b' : SampleBuffers size} {window : Window size}
    (hwaiting : b.waiting = window :: b'.waiting) (hbegun : b'.begun = b.begun) :
    b.backlog = b'.backlog + size := by
  rw [backlog, backlog, hwaiting, hbegun, List.length_cons, Nat.succ_mul]
  omega

theorem backlog_of_waiting_nil (hwaiting : b.waiting = []) : b.backlog = b.begun.length := by
  rw [backlog, hwaiting]
  simp

/-- With no window waiting no buffer is full. -/
theorem status_ne_full_of_waiting (hsize : 0 < size) (h : b.Ordered) (hwaiting : b.waiting = [])
    (buffer : Fin 2) : b.status buffer ≠ .full := by
  rw [waiting_eq, List.append_eq_nil_iff] at hwaiting
  have hhere : b.here.size ≠ size := by
    intro hfull
    simp [windowOf?_of_eq hsize _ hfull] at hwaiting
  have hthere : b.there.size ≠ size := by
    intro hfull
    simp [windowOf?_of_eq hsize _ hfull] at hwaiting
  have hplace : buffer = b.current ∨ buffer = b.other := by
    have hall : ∀ buffer current : Fin 2, buffer = current ∨ buffer = 1 - current := by decide
    exact hall buffer b.current
  rw [Ne, status_eq_full_iff hsize, Nat.not_le]
  rcases hplace with rfl | rfl
  · exact Nat.lt_of_le_of_ne h.here_le hhere
  · rcases h.there_whole with hempty | hfull
    · exact hempty.trans_lt hsize
    · exact absurd hfull hthere

end LightPilot.SampleBuffers
