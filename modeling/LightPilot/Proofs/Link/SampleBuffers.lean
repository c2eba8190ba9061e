import LightPilot.Link.SampleBuffers
import LightPilot.Proofs.Run

set_option autoImplicit false

/-! # The double buffer keeps the samples in order

A run of `push`, `skip` and `take` calls is recorded as a list of events. The two buffers are read as a
queue: the full windows that wait to be taken, older first, and the window that is begun. The order
rests on an invariant that the operations never mention (`Ordered`): the buffer that is not written is
empty or full, and if both are full the current one is the older.

Each call acts on the queue alone (`queue_push`, `queue_take`), so by induction over the run the samples
kept are those of the windows taken, then those waiting, then those begun, and no dropped sample falls
inside a window (`conserves_run`). -/

namespace LightPilot.SampleBuffers

variable {size : Nat}

/-! ## Calls and what is recorded of them -/

/-- A call on the buffers. -/
inductive Call
  | push (value : Float32)
  | skip
  | take

/-- A call and its result. -/
inductive Event (size : Nat)
  | pushed (value : Float32) (outcome : PushOutcome)
  | skipped
  | took (window? : Option (Window size))

/-- Makes one call. A call that takes nothing leaves the buffers as they are. -/
def perform (b : SampleBuffers size) : Call → Event size × SampleBuffers size
  | .push value => (.pushed value (b.push value).1, (b.push value).2)
  | .skip => (.skipped, b.skip)
  | .take =>
    match b.take with
    | some (window, b) => (.took (some window), b)
    | none => (.took none, b)

/-- The values pushed, in order, and whether each was kept. -/
def pushes (events : List (Event size)) : List (Float32 × Bool) :=
  events.filterMap fun
    | .pushed value outcome => some (value, decide (outcome ≠ .dropped))
    | _ => none

/-- The windows taken, in order. -/
def taken (events : List (Event size)) : List (Window size) :=
  events.filterMap fun
    | .took window? => window?
    | _ => none

/-- The number of calls that count as ticks. -/
def tickCount (events : List (Event size)) : Nat :=
  events.countP fun
    | .pushed _ _ | .skipped => true
    | .took _ => false

/-- The samples of windows, in order. -/
def samples (windows : List (Window size)) : List Float32 :=
  windows.flatMap Vector.toList

/-! ## The two buffers as a queue -/

/-- The full windows that wait to be taken, older first. -/
def waiting (b : SampleBuffers size) : List (Window size) :=
  (b.window? b.current).toList ++ (b.window? b.other).toList

/-- The samples of the window that is begun. -/
def begun (b : SampleBuffers size) : List Float32 :=
  if b.status b.current = .full then [] else b.buffers[b.current].toList

/-- The content of the current buffer. -/
def here (b : SampleBuffers size) : Array Float32 := b.buffers[b.current]

/-- The content of the other buffer. -/
def there (b : SampleBuffers size) : Array Float32 := b.buffers[b.other]

/-- The invariant behind the order of the samples. -/
structure Ordered (b : SampleBuffers size) : Prop where
  here_le : b.here.size ≤ size
  /-- The buffer that is not written is empty or full. -/
  there_whole : b.there.size = 0 ∨ b.there.size = size
  /-- The current buffer is full only if both are, and then it is the older. -/
  there_full : b.here.size = size → b.there.size = size

theorem other_ne (b : SampleBuffers size) : b.other ≠ b.current := by
  have hall : ∀ buffer : Fin 2, 1 - buffer ≠ buffer := by decide
  exact hall b.current

theorem sub_other (b : SampleBuffers size) : 1 - b.other = b.current := by
  have hall : ∀ buffer : Fin 2, 1 - (1 - buffer) = buffer := by decide
  exact hall b.current

theorem there_eq (b : SampleBuffers size) (buffer : Fin 2) (h : 1 - b.current = buffer) :
    b.there = b.buffers.get buffer := by
  subst h
  rfl

theorem status_eq_full_iff (hsize : 0 < size) (b : SampleBuffers size) (buffer : Fin 2) :
    b.status buffer = .full ↔ size ≤ b.buffers[buffer].size := by
  rw [status, entries]
  split
  · next hempty =>
      simp only [reduceCtorEq, false_iff]
      omega
  · split
    · next hlt =>
        simp only [reduceCtorEq, false_iff]
        omega
    · next hge =>
        simp only [true_iff]
        omega

theorem begun_of_lt (hsize : 0 < size) (b : SampleBuffers size) (h : b.here.size < size) :
    b.begun = b.here.toList := by
  have hfull : ¬ b.status b.current = .full := by
    rw [status_eq_full_iff hsize]
    exact Nat.not_le.2 h
  rw [begun, if_neg hfull, here]

theorem begun_of_le (hsize : 0 < size) (b : SampleBuffers size) (h : size ≤ b.here.size) :
    b.begun = [] := by
  rw [begun, if_pos ((status_eq_full_iff hsize b b.current).2 h)]

/-- The window that a buffer holds, if it is full. -/
def windowOf? (buffer : Array Float32) : Option (Window size) :=
  if h : buffer.size = size ∧ 0 < size then some ⟨buffer, h.1⟩ else none

theorem windowOf?_of_ne (buffer : Array Float32) (h : buffer.size ≠ size) :
    (windowOf? buffer : Option (Window size)) = none := by
  rw [windowOf?, dif_neg fun hfull => h hfull.1]

theorem windowOf?_of_eq (hsize : 0 < size) (buffer : Array Float32) (h : buffer.size = size) :
    windowOf? buffer = some (⟨buffer, h⟩ : Window size) := by
  rw [windowOf?, dif_pos ⟨h, hsize⟩]

theorem waiting_eq (b : SampleBuffers size) :
    b.waiting = (windowOf? b.here).toList ++ (windowOf? b.there).toList := rfl

/-! ## What each call does to the queue -/

/-- Everything a push can do: drop the sample, store it, or complete a window and turn to the other
buffer. -/
theorem push_cases (hsize : 0 < size) (b : SampleBuffers size) (value : Float32) :
    (size ≤ b.here.size ∧
      b.push value = (.dropped, { b with ticks := b.ticks + 1, dropped := b.dropped + 1 })) ∨
    (b.here.size + 1 < size ∧ (b.push value).1 = .stored ∧
      (b.push value).2 = { b with
        ticks := b.ticks + 1
        buffers := b.buffers.set b.current (b.here.push value) }) ∨
    (b.here.size < size ∧ size ≤ b.here.size + 1 ∧ (b.push value).1 = .filled b.current ∧
      (b.push value).2 = { b with
        ticks := b.ticks + 1
        buffers := b.buffers.set b.current (b.here.push value)
        current := b.other }) := by
  have hstatus : b.skip.status b.skip.current = .full ↔ size ≤ b.here.size :=
    status_eq_full_iff hsize b.skip b.skip.current
  by_cases hfull : size ≤ b.here.size
  · left
    refine ⟨hfull, ?_⟩
    rw [push, if_pos (hstatus.2 hfull)]
    rfl
  · right
    by_cases hroom : (b.here.push value).size < size
    · left
      have hstored : b.push value = (.stored, { b with
          ticks := b.ticks + 1
          buffers := b.buffers.set b.current (b.here.push value) }) := by
        rw [push, if_neg (mt hstatus.1 hfull)]
        exact if_pos hroom
      rw [Array.size_push] at hroom
      exact ⟨hroom, by rw [hstored], by rw [hstored]⟩
    · right
      have hfilled : b.push value = (.filled b.current, { b with
          ticks := b.ticks + 1
          buffers := b.buffers.set b.current (b.here.push value)
          current := b.other }) := by
        rw [push, if_neg (mt hstatus.1 hfull)]
        exact if_neg hroom
      rw [Array.size_push] at hroom
      exact ⟨by omega, by omega, by rw [hfilled], by rw [hfilled]⟩

theorem here_set (b : SampleBuffers size) (buffer : Array Float32) (ticks : UInt32) :
    { b with ticks, buffers := b.buffers.set b.current buffer : SampleBuffers size }.here
      = buffer := by
  simp [here]

theorem there_set (b : SampleBuffers size) (buffer : Array Float32) (ticks : UInt32) :
    { b with ticks, buffers := b.buffers.set b.current buffer : SampleBuffers size }.there
      = b.there := by
  have hne : (b.current : Nat) ≠ (b.other : Nat) := fun h => b.other_ne (Fin.ext h.symm)
  exact Vector.getElem_set_ne b.current.isLt b.other.isLt hne

/-- A push drops the sample only when no window is begun; else the sample joins the window that is
begun, and the window may become full. -/
theorem queue_push (hsize : 0 < size) (b : SampleBuffers size) (hb : b.Ordered) (value : Float32) :
    (b.push value).2.Ordered ∧
    (((b.push value).1 = .dropped ∧ b.begun = [] ∧ (b.push value).2.waiting = b.waiting ∧
        (b.push value).2.begun = []) ∨
      ((b.push value).1 ≠ .dropped ∧ (b.push value).2.waiting = b.waiting ∧
        (b.push value).2.begun = b.begun ++ [value]) ∨
      ((b.push value).1 ≠ .dropped ∧ (b.push value).2.begun = [] ∧
        ∃ window : Window size, window.toList = b.begun ++ [value] ∧
          (b.push value).2.waiting = b.waiting ++ [window])) := by
  rcases push_cases hsize b value with ⟨hfull, hpush⟩ | ⟨hroom, houtcome, hstate⟩ |
    ⟨hlt, hle, houtcome, hstate⟩
  · -- both buffers are full
    rw [hpush]
    have hbegun := begun_of_le hsize b hfull
    exact ⟨⟨hb.here_le, hb.there_whole, hb.there_full⟩, .inl ⟨rfl, hbegun, rfl, hbegun⟩⟩
  · -- the sample is stored, and its buffer is still filling
    have hhere := here_set b (b.here.push value) (b.ticks + 1)
    have hthere := there_set b (b.here.push value) (b.ticks + 1)
    rw [hstate, houtcome]
    have hordered : ({ b with
        ticks := b.ticks + 1
        buffers := b.buffers.set b.current (b.here.push value) } : SampleBuffers size).Ordered := by
      constructor
      · rw [hhere, Array.size_push]
        omega
      · rw [hthere]
        exact hb.there_whole
      · rw [hhere, Array.size_push]
        intro hfull
        omega
    refine ⟨hordered, .inr (.inl ⟨by simp, ?_, ?_⟩)⟩
    · rw [waiting_eq, waiting_eq, hhere, hthere, windowOf?_of_ne _ (by rw [Array.size_push]; omega),
        windowOf?_of_ne b.here (by omega)]
    · rw [begun_of_lt hsize _ (by rw [hhere, Array.size_push]; omega), hhere,
        begun_of_lt hsize b (by omega), Array.toList_push]
  · -- the sample makes its buffer full, and the other buffer is written next
    have hhere : (b.push value).2.here = b.there := by
      rw [hstate]
      exact there_set b (b.here.push value) (b.ticks + 1)
    have hthere : (b.push value).2.there = b.here.push value := by
      rw [hstate]
      exact (there_eq _ b.current b.sub_other).trans
        (here_set b (b.here.push value) (b.ticks + 1))
    have hwhole : (b.here.push value).size = size := by
      rw [Array.size_push]
      omega
    have hordered : (b.push value).2.Ordered := by
      constructor
      · rw [hhere]
        rcases hb.there_whole with h | h <;> omega
      · rw [hthere]
        exact .inr hwhole
      · intro _
        rw [hthere]
        exact hwhole
    have hkept : (b.push value).1 ≠ .dropped := by simp [houtcome]
    refine ⟨hordered, .inr (.inr ⟨hkept, ?_, ⟨b.here.push value, hwhole⟩, ?_, ?_⟩)⟩
    · rcases hb.there_whole with hempty | hfull
      · rw [begun_of_lt hsize _ (by rw [hhere]; omega), hhere, Array.toList_eq_nil_iff]
        exact Array.eq_empty_of_size_eq_zero hempty
      · exact begun_of_le hsize _ (by rw [hhere]; omega)
    · rw [begun_of_lt hsize b hlt]
      exact Array.toList_push
    · rw [waiting_eq, waiting_eq, hhere, hthere, windowOf?_of_ne b.here (by omega),
        windowOf?_of_eq hsize _ hwhole]
      rfl

theorem here_release_current (b : SampleBuffers size) : (b.release b.current).here = #[] := by
  simp [here, release]

theorem there_release_current (b : SampleBuffers size) :
    (b.release b.current).there = b.there :=
  there_set b #[] b.ticks

theorem here_release_other (b : SampleBuffers size) :
    (b.release b.other).here = b.here := by
  have hne : (b.other : Nat) ≠ (b.current : Nat) := fun h => b.other_ne (Fin.ext h)
  exact Vector.getElem_set_ne b.other.isLt b.current.isLt hne

theorem there_release_other (b : SampleBuffers size) :
    (b.release b.other).there = #[] :=
  (there_eq (b.release b.other) b.other rfl).trans (Vector.getElem_set_self b.other.isLt)

/-- Taking hands over the oldest waiting window, if there is one, and changes nothing else. -/
theorem queue_take (hsize : 0 < size) (b : SampleBuffers size) (hb : b.Ordered) :
    (b.waiting = [] ∧ b.take = none) ∨
    ∃ (window : Window size) (b' : SampleBuffers size), b.take = some (window, b') ∧
      b'.Ordered ∧ b.waiting = window :: b'.waiting ∧ b'.begun = b.begun ∧
      b'.ticks = b.ticks ∧ b'.dropped = b.dropped := by
  by_cases hhere : b.here.size = size
  · -- both are full, and the current one is handed over
    right
    have hthere := hb.there_full hhere
    have hempty := here_release_current b
    have hkept := there_release_current b
    refine ⟨⟨b.here, hhere⟩, b.release b.current, ?_, ⟨?_, ?_, ?_⟩, ?_, ?_, rfl, rfl⟩
    · have hwindow : b.window? b.current = some ⟨b.here, hhere⟩ := windowOf?_of_eq hsize _ hhere
      rw [take, hwindow]
    · rw [hempty]
      exact Nat.zero_le size
    · rw [hkept]
      exact .inr hthere
    · rw [hkept]
      exact fun _ => hthere
    · rw [waiting_eq, waiting_eq, hempty, hkept, windowOf?_of_eq hsize _ hhere,
        windowOf?_of_eq hsize _ hthere, windowOf?_of_ne #[] (Nat.ne_of_lt hsize)]
      rfl
    · rw [begun_of_lt hsize _ (by rw [hempty]; exact hsize), hempty,
        begun_of_le hsize b (by omega)]
  · have hnone : b.window? b.current = none := windowOf?_of_ne _ hhere
    have hle := hb.here_le
    by_cases hthere : b.there.size = size
    · right
      have hkept := here_release_other b
      have hempty := there_release_other b
      refine ⟨⟨b.there, hthere⟩, b.release b.other, ?_, ⟨?_, ?_, ?_⟩, ?_, ?_, rfl, rfl⟩
      · have hwindow : b.window? b.other = some ⟨b.there, hthere⟩ :=
          windowOf?_of_eq hsize _ hthere
        rw [take, hnone, hwindow]
        rfl
      · rw [hkept]
        exact hle
      · rw [hempty]
        exact .inl rfl
      · rw [hkept]
        exact fun h => absurd h hhere
      · rw [waiting_eq, waiting_eq, hempty, hkept, windowOf?_of_eq hsize _ hthere,
          windowOf?_of_ne b.here hhere, windowOf?_of_ne #[] (Nat.ne_of_lt hsize)]
        rfl
      · rw [begun_of_lt hsize b (by omega), begun_of_lt hsize _ (by rw [hkept]; omega), hkept]
    · left
      have hother : b.window? b.other = none := windowOf?_of_ne _ hthere
      constructor
      · rw [waiting_eq, windowOf?_of_ne b.here hhere, windowOf?_of_ne b.there hthere]
        rfl
      · rw [take, hnone, hother]
        rfl

theorem ticks_push (b : SampleBuffers size) (value : Float32) :
    (b.push value).2.ticks = b.ticks + 1 := by
  rw [push]
  dsimp only
  split
  · rfl
  · split <;> rfl

theorem dropped_push (hsize : 0 < size) (b : SampleBuffers size) (value : Float32) :
    (b.push value).2.dropped
      = b.dropped + if (b.push value).1 = .dropped then 1 else 0 := by
  rcases push_cases hsize b value with ⟨-, hpush⟩ | ⟨-, houtcome, hstate⟩ |
    ⟨-, -, houtcome, hstate⟩
  · rw [hpush]
    rfl
  · rw [houtcome, hstate]
    exact (UInt32.add_zero b.dropped).symm
  · rw [houtcome, hstate]
    exact (UInt32.add_zero b.dropped).symm

theorem push_eq_dropped_iff (hsize : 0 < size) (b : SampleBuffers size) (hb : b.Ordered)
    (value : Float32) :
    (b.push value).1 = .dropped ↔ b.status 0 = .full ∧ b.status 1 = .full := by
  have hcurrent : (b.push value).1 = .dropped ↔ size ≤ b.here.size := by
    rcases push_cases hsize b value with ⟨hfull, hpush⟩ | ⟨hroom, houtcome, -⟩ |
      ⟨hlt, -, houtcome, -⟩
    · rw [hpush]
      exact iff_of_true rfl hfull
    · rw [houtcome]
      exact iff_of_false (by simp) (by omega)
    · rw [houtcome]
      exact iff_of_false (by simp) (by omega)
  have hboth : (b.status b.current = .full ∧ b.status b.other = .full) ↔
      (b.status 0 = .full ∧ b.status 1 = .full) := by
    rw [other]
    generalize b.current = current
    match current with
    | 0 => exact Iff.rfl
    | 1 => exact And.comm
  rw [hcurrent, ← hboth, status_eq_full_iff hsize, status_eq_full_iff hsize]
  constructor
  · intro hfull
    have hhere : b.here.size = size := Nat.le_antisymm hb.here_le hfull
    exact ⟨hfull, Nat.le_of_eq (hb.there_full hhere).symm⟩
  · exact fun hfull => hfull.1

/-! ## The pushes in blocks -/

/-- `Blocks line windows`: the pushes of `line` are dropped samples and whole windows, and the windows
among them are `windows`. -/
inductive Blocks : List (Float32 × Bool) → List (Window size) → Prop
  | nil : Blocks [] []
  | dropped {line : List (Float32 × Bool)} {windows : List (Window size)} (value : Float32) :
      Blocks line windows → Blocks (line ++ [(value, false)]) windows
  | window {line : List (Float32 × Bool)} {windows : List (Window size)} (window : Window size) :
      Blocks line windows →
        Blocks (line ++ window.toList.map (·, true)) (windows ++ [window])

theorem filter_map_true (values : List Float32) :
    (values.map (·, true)).filter Prod.snd = values.map (·, true) :=
  List.filter_eq_self.2 (by simp)

/-- The values kept among the pushes are the samples of the windows. -/
theorem Blocks.kept {line : List (Float32 × Bool)} {windows : List (Window size)}
    (h : Blocks line windows) : (line.filter Prod.snd).map Prod.fst = samples windows := by
  induction h with
  | nil => rfl
  | dropped value _ ih => simpa using ih
  | window window _ ih =>
      have hfst : Prod.fst ∘ (fun value : Float32 => (value, true)) = id := rfl
      rw [List.filter_append, List.map_append, ih, filter_map_true, List.map_map, hfst]
      simp [samples]

theorem length_samples (windows : List (Window size)) :
    (samples windows).length = windows.length * size := by
  induction windows with
  | nil => simp [samples]
  | cons window windows ih =>
      have hcons : samples (window :: windows) = window.toList ++ samples windows := rfl
      rw [hcons, List.length_append, ih, Vector.length_toList, List.length_cons,
        Nat.succ_mul, Nat.add_comm]

/-- The place of a window among the pushes: its samples are consecutive, and those of the windows before
it are all that was kept before. -/
theorem Blocks.place {line : List (Float32 × Bool)} {windows : List (Window size)}
    (h : Blocks line windows) (k : Nat) (window : Window size) (hk : windows[k]? = some window) :
    ∃ before after, line = before ++ window.toList.map (·, true) ++ after ∧
      (before.filter Prod.snd).length = k * size := by
  induction h with
  | nil => simp at hk
  | dropped value _ ih =>
      obtain ⟨before, after, hline, hbefore⟩ := ih hk
      exact ⟨before, after ++ [(value, false)], by rw [hline, List.append_assoc], hbefore⟩
  | @window line windows newest hblocks ih =>
      rcases Nat.lt_or_ge k windows.length with hlt | hge
      · rw [List.getElem?_append_left hlt] at hk
        obtain ⟨before, after, hline, hbefore⟩ := ih hk
        exact ⟨before, after ++ newest.toList.map (·, true), by rw [hline, List.append_assoc],
          hbefore⟩
      · -- the window is the one added last
        obtain ⟨hlength, -⟩ := List.getElem?_eq_some_iff.1 hk
        rw [List.length_append, List.length_singleton] at hlength
        obtain rfl : k = windows.length := by omega
        obtain rfl : newest = window := by simpa using hk
        refine ⟨line, [], by rw [List.append_nil], ?_⟩
        rw [← length_samples, ← hblocks.kept, List.length_map]

/-! ## Runs -/

theorem pushes_append (events more : List (Event size)) :
    pushes (events ++ more) = pushes events ++ pushes more :=
  List.filterMap_append ..

theorem taken_append (events more : List (Event size)) :
    taken (events ++ more) = taken events ++ taken more :=
  List.filterMap_append ..

theorem tickCount_append (events more : List (Event size)) :
    tickCount (events ++ more) = tickCount events + tickCount more :=
  List.countP_append ..

/-- The number of samples dropped. -/
def dropCount (events : List (Event size)) : Nat :=
  (pushes events).countP fun push => !push.2

theorem dropCount_append (events more : List (Event size)) :
    dropCount (events ++ more) = dropCount events + dropCount more := by
  rw [dropCount, pushes_append, List.countP_append]
  rfl

/-- What a run that recorded `events` has done to the buffers `b`. -/
structure Accounts (events : List (Event size)) (b : SampleBuffers size) : Prop where
  ordered : b.Ordered
  /-- The pushes are whole blocks, and then the window that is begun. -/
  blocks : ∃ line, Blocks line (taken events ++ b.waiting) ∧
    pushes events = line ++ b.begun.map (·, true)
  ticks : b.ticks = UInt32.ofNat (tickCount events)
  dropped : b.dropped = UInt32.ofNat (dropCount events)

theorem accounts_nil (hsize : 0 < size) : Accounts [] (empty : SampleBuffers size) := by
  have hempty : (empty : SampleBuffers size).here = #[] := rfl
  have hwaiting : (empty : SampleBuffers size).waiting = [] := by
    have hnone : (windowOf? #[] : Option (Window size)) = none :=
      windowOf?_of_ne #[] (Nat.ne_of_lt hsize)
    exact congrArg (fun w : Option (Window size) => w.toList ++ w.toList) hnone
  have hbegun : (empty : SampleBuffers size).begun = [] := begun_of_lt hsize empty hsize
  refine ⟨⟨Nat.zero_le size, .inl rfl, ?_⟩, ⟨[], ?_, ?_⟩, rfl, rfl⟩
  · rw [hempty]
    exact id
  · rw [hwaiting]
    exact .nil
  · rw [hbegun]
    rfl

theorem accounts_push (hsize : 0 < size) {events : List (Event size)} {b : SampleBuffers size}
    (h : Accounts events b) (value : Float32) :
    Accounts (events ++ [.pushed value (b.push value).1]) (b.push value).2 := by
  obtain ⟨hordered, ⟨line, hblocks, hline⟩, hticks, hdropped⟩ := h
  obtain ⟨hnext, hqueue⟩ := queue_push hsize b hordered value
  have hpushes : pushes (events ++ [.pushed value (b.push value).1])
      = pushes events ++ [(value, decide ((b.push value).1 ≠ .dropped))] := pushes_append ..
  have htaken : taken (events ++ [.pushed value (b.push value).1]) = taken events :=
    (taken_append ..).trans (List.append_nil _)
  refine ⟨hnext, ?_, ?_, ?_⟩
  · rw [hpushes, htaken, hline]
    rcases hqueue with ⟨houtcome, hbegun, hwaiting, hbegun'⟩ | ⟨houtcome, hwaiting, hbegun⟩ |
      ⟨houtcome, hbegun, window, hwindow, hwaiting⟩
    · -- no window is begun, so the dropped sample is a block of its own
      refine ⟨line ++ [(value, false)], ?_, ?_⟩
      · rw [hwaiting]
        exact hblocks.dropped value
      · rw [hbegun, hbegun', houtcome]
        simp
    · refine ⟨line, ?_, ?_⟩
      · rw [hwaiting]
        exact hblocks
      · rw [hbegun, List.map_append, List.append_assoc, decide_eq_true houtcome]
        rfl
    · -- the window that was begun is a block now
      refine ⟨line ++ window.toList.map (·, true), ?_, ?_⟩
      · rw [hwaiting, ← List.append_assoc]
        exact hblocks.window window
      · rw [hbegun, hwindow, List.map_append, decide_eq_true houtcome]
        simp
  · rw [ticks_push, hticks, tickCount_append, UInt32.ofNat_add]
    rfl
  · rw [dropped_push hsize, hdropped, dropCount_append, UInt32.ofNat_add]
    by_cases houtcome : (b.push value).1 = .dropped <;> simp [houtcome, dropCount, pushes]

theorem accounts_skip {events : List (Event size)} {b : SampleBuffers size}
    (h : Accounts events b) : Accounts (events ++ [.skipped]) b.skip := by
  have hpushes : pushes (events ++ [.skipped]) = pushes events :=
    (pushes_append ..).trans (List.append_nil _)
  have htaken : taken (events ++ [.skipped]) = taken events :=
    (taken_append ..).trans (List.append_nil _)
  refine ⟨⟨h.ordered.here_le, h.ordered.there_whole, h.ordered.there_full⟩, ?_, ?_, ?_⟩
  · rw [hpushes, htaken]
    exact h.blocks
  · have hticks : b.skip.ticks = b.ticks + 1 := rfl
    rw [hticks, h.ticks, tickCount_append, UInt32.ofNat_add]
    rfl
  · rw [dropCount, hpushes]
    exact h.dropped

theorem accounts_took_none {events : List (Event size)} {b : SampleBuffers size}
    (h : Accounts events b) : Accounts (events ++ [.took none]) b := by
  have hpushes : pushes (events ++ [.took none]) = pushes events :=
    (pushes_append ..).trans (List.append_nil _)
  have htaken : taken (events ++ [.took none]) = taken events :=
    (taken_append ..).trans (List.append_nil _)
  refine ⟨h.ordered, ?_, ?_, ?_⟩
  · rw [hpushes, htaken]
    exact h.blocks
  · rw [h.ticks, tickCount_append]
    rfl
  · rw [dropCount, hpushes]
    exact h.dropped

theorem accounts_took_some {events : List (Event size)} {b b' : SampleBuffers size}
    {window : Window size} (h : Accounts events b) (hordered : b'.Ordered)
    (hwaiting : b.waiting = window :: b'.waiting) (hbegun : b'.begun = b.begun)
    (hticks : b'.ticks = b.ticks) (hdropped : b'.dropped = b.dropped) :
    Accounts (events ++ [.took (some window)]) b' := by
  have hpushes : pushes (events ++ [.took (some window)]) = pushes events :=
    (pushes_append ..).trans (List.append_nil _)
  have htaken : taken (events ++ [.took (some window)]) = taken events ++ [window] :=
    taken_append ..
  obtain ⟨line, hblocks, hline⟩ := h.blocks
  refine ⟨hordered, ⟨line, ?_, ?_⟩, ?_, ?_⟩
  · -- the window moves from the waiting ones to the taken ones
    rw [hwaiting] at hblocks
    rw [htaken, List.append_assoc]
    exact hblocks
  · rw [hpushes, hbegun, hline]
  · rw [hticks, h.ticks, tickCount_append]
    rfl
  · rw [hdropped, dropCount, hpushes]
    exact h.dropped

/-- One more call keeps the account of the run. -/
theorem accounts_perform (hsize : 0 < size) {events : List (Event size)} {b : SampleBuffers size}
    (h : Accounts events b) (call : Call) :
    Accounts (events ++ [(perform b call).1]) (perform b call).2 := by
  cases call with
  | push value => exact accounts_push hsize h value
  | skip => exact accounts_skip h
  | take =>
      rw [perform]
      rcases queue_take hsize b h.ordered with ⟨-, hnone⟩ |
        ⟨window, b', hsome, hordered, hwaiting, hbegun, hticks, hdropped⟩
      · rw [hnone]
        exact accounts_took_none h
      · rw [hsome]
        exact accounts_took_some h hordered hwaiting hbegun hticks hdropped

/-- What is promised of the buffers `b` after a run that recorded `events`. -/
structure Conserves (events : List (Event size)) (b : SampleBuffers size) : Prop where
  /-- Nothing is lost, repeated or reordered. -/
  kept : ((pushes events).filter Prod.snd).map Prod.fst
    = samples (taken events ++ b.waiting) ++ b.begun
  /-- The samples of a window were pushed one after the other, after those of the windows taken
  before. -/
  consecutive : ∀ k window, (taken events)[k]? = some window →
    ∃ before after, pushes events = before ++ window.toList.map (·, true) ++ after ∧
      (before.filter Prod.snd).length = k * size
  drops : ∀ value, (b.push value).1 = .dropped ↔ b.status 0 = .full ∧ b.status 1 = .full
  drop_frame : ∀ value, (b.push value).1 = .dropped →
    (b.push value).2 = { b with ticks := b.ticks + 1, dropped := b.dropped + 1 }
  ticks : b.ticks = UInt32.ofNat (tickCount events)
  dropped : b.dropped = UInt32.ofNat (dropCount events)

theorem Accounts.conserves (hsize : 0 < size) {events : List (Event size)}
    {b : SampleBuffers size} (h : Accounts events b) : Conserves events b := by
  obtain ⟨line, hblocks, hline⟩ := h.blocks
  refine ⟨?_, ?_, push_eq_dropped_iff hsize b h.ordered, ?_, h.ticks, h.dropped⟩
  · have hfst : Prod.fst ∘ (fun value : Float32 => (value, true)) = id := rfl
    rw [hline, List.filter_append, List.map_append, hblocks.kept, filter_map_true, List.map_map,
      hfst, List.map_id]
  · intro k window hk
    have htaken : (taken events ++ b.waiting)[k]? = some window := by
      obtain ⟨hlt, -⟩ := List.getElem?_eq_some_iff.1 hk
      rw [List.getElem?_append_left hlt, hk]
    obtain ⟨before, after, hplace, hbefore⟩ := hblocks.place k window htaken
    exact ⟨before, after ++ b.begun.map (·, true), by rw [hline, hplace, List.append_assoc],
      hbefore⟩
  · intro value houtcome
    rcases push_cases hsize b value with ⟨-, hpush⟩ | ⟨-, hstored, -⟩ | ⟨-, -, hfilled, -⟩
    · rw [hpush]
    · rw [hstored] at houtcome
      contradiction
    · rw [hfilled] at houtcome
      contradiction

/-- **Conservation.** Whatever calls are made on new buffers, in any order, the samples kept are those
of the windows taken, the windows waiting and the window begun, in the order of the pushes. -/
theorem conserves_run (hsize : 0 < size) (calls : List Call) :
    Conserves (Run.answers perform (empty : SampleBuffers size) calls)
      (Run.final perform (empty : SampleBuffers size) calls) := by
  have haccounts : Accounts (Run.answers perform (empty : SampleBuffers size) calls)
      (Run.final perform (empty : SampleBuffers size) calls) :=
    Run.induction (motive := fun _ events b => Accounts events b) (accounts_nil hsize)
      (fun _ _ _ call h => accounts_perform hsize h call) calls
  exact haccounts.conserves hsize

/-- Two buffers of two samples: the sample pushed while both are full is dropped, and the run goes on. -/
theorem conserves_overrun :
    0 < 2 ∧ Conserves
      (Run.answers perform (empty : SampleBuffers 2)
        [.push 1, .push 2, .skip, .push 3, .push 4, .push 5, .take, .push 6])
      (Run.final perform (empty : SampleBuffers 2)
        [.push 1, .push 2, .skip, .push 3, .push 4, .push 5, .take, .push 6]) :=
  ⟨by decide, conserves_run (by decide) _⟩

end LightPilot.SampleBuffers
