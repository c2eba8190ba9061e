import LightPilot.Proofs.Link.Decoder
import LightPilot.Proofs.World.Arithmetic

set_option autoImplicit false

/-! # Frames on air

The projector shows one frame after the other, each for eight bits, and a frame starts on a multiple of
the bit time. `Projector.Follows` says which millisecond may follow which, and `Projector.Regular` that
this holds throughout. So what is shown does not change within a bit time that starts on a multiple
(`Regular.of_bitTime`), and the bit times follow each other as milliseconds do with a bit time of one
(`Regular.follows_shownIn`). The frames started are the ones sent, in order, and each is completed before
the next one starts (`Regular.started_eq`). -/

namespace LightPilot.Projector

/-- The frame on air in a millisecond, and for how long it has been there. -/
abbrev Shown : Type := Option (UInt8 × Nat)

/-- Nothing is on air after this, or a frame is in its last millisecond. -/
def Free (bitMs : Nat) (before : Shown) : Prop :=
  ∀ frame elapsed, before = some (frame, elapsed) → 8 * bitMs ≤ elapsed + 1

/-- What may be shown in millisecond `t` after what was shown before. -/
inductive Follows (bitMs t : Nat) : Shown → Shown → Prop
  | pause {before : Shown} (hfree : Free bitMs before) : Follows bitMs t before none
  | start {before : Shown} (hfree : Free bitMs before) (hstart : bitMs ∣ t) (frame : UInt8) :
      Follows bitMs t before (some (frame, 0))
  | next {frame : UInt8} {elapsed : Nat} (hmore : elapsed + 1 < 8 * bitMs) :
      Follows bitMs t (some (frame, elapsed)) (some (frame, elapsed + 1))

/-- What was shown before millisecond `t`. -/
def before (air : List Shown) : (t : Nat) → Shown
  | 0 => none
  | t + 1 => air[t]?.join

/-- Each millisecond follows the one before. -/
def Regular (bitMs : Nat) (air : List Shown) : Prop :=
  ∀ t shown, air[t]? = some shown → Follows bitMs t (before air t) shown

variable {bitMs t : Nat} {air : List Shown} {shown : Shown} {frame : UInt8} {elapsed : Nat}

theorem free_none : Free bitMs none :=
  fun _ _ h => by contradiction

theorem follows_some {earlier : Shown} (h : Follows bitMs t earlier (some (frame, elapsed))) :
    (elapsed = 0 ∧ bitMs ∣ t ∧ Free bitMs earlier) ∨
      ∃ passed, elapsed = passed + 1 ∧ earlier = some (frame, passed) ∧ elapsed < 8 * bitMs := by
  cases h with
  | start hfree hstart => exact .inl ⟨rfl, hstart, hfree⟩
  | @next _ passed hmore => exact .inr ⟨passed, rfl, rfl, hmore⟩

theorem follows_none {earlier : Shown} (h : Follows bitMs t earlier none) : Free bitMs earlier := by
  cases h with
  | pause hfree => exact hfree

theorem before_append (h : t ≤ air.length) (more : List Shown) :
    before (air ++ more) t = before air t := by
  cases t with
  | zero => rfl
  | succ t => rw [before, before, List.getElem?_append_left h]

theorem before_snoc (air : List Shown) (shown : Shown) :
    before (air ++ [shown]) (air.length + 1) = shown := by
  rw [before, List.getElem?_concat_length]
  rfl

theorem getElem?_of_before {entry : UInt8 × Nat} (h : before air t = some entry) :
    air[t - 1]? = some (some entry) := by
  cases t with
  | zero => contradiction
  | succ t => exact Option.join_eq_some_iff.1 h

theorem regular_nil : Regular bitMs [] :=
  fun _ _ h => by simp at h

theorem Regular.snoc (h : Regular bitMs air)
    (hshown : Follows bitMs air.length (before air air.length) shown) :
    Regular bitMs (air ++ [shown]) := by
  intro t other hother
  rcases Nat.lt_or_ge t air.length with hlt | hge
  · rw [List.getElem?_append_left hlt] at hother
    rw [before_append hlt.le]
    exact h t other hother
  · have hlast : t = air.length := by
      obtain ⟨hlt, -⟩ := List.getElem?_eq_some_iff.1 hother
      rw [List.length_append, List.length_singleton] at hlt
      omega
    subst hlast
    rw [List.getElem?_concat_length] at hother
    rw [before_append (Nat.le_refl _), ← Option.some.inj hother]
    exact hshown

theorem Regular.of_prefix {longer : List Shown} (h : Regular bitMs longer) (hair : air <+: longer) :
    Regular bitMs air := by
  obtain ⟨more, rfl⟩ := hair
  intro t shown hshown
  obtain ⟨hlt, -⟩ := List.getElem?_eq_some_iff.1 hshown
  rw [← before_append hlt.le more]
  exact h t shown (by rw [List.getElem?_append_left hlt, hshown])

/-- A frame is on air for eight bit times. -/
theorem Regular.elapsed_lt (h : Regular bitMs air) (hbit : 0 < bitMs)
    (hshown : air[t]? = some (some (frame, elapsed))) : elapsed < 8 * bitMs := by
  rcases follows_some (h t _ hshown) with ⟨rfl, -⟩ | ⟨passed, -, -, hlt⟩
  · exact Nat.mul_pos (by decide) hbit
  · exact hlt

/-! ## Bit times -/

/-- What is shown `count` milliseconds later in the same bit time. -/
def later (first : Shown) (count : Nat) : Shown :=
  first.map fun entry => (entry.1, entry.2 + count)

theorem mod_succ_of_dvd (h : bitMs ∣ t + 1) : t % bitMs + 1 = bitMs := by
  have hnow := Nat.div_add_mod t bitMs
  have hnext := Nat.div_mul_cancel h
  rw [Nat.succ_div, if_pos h, Nat.succ_mul, Nat.mul_comm] at hnext
  omega

theorem dvd_succ_of_mod (h : bitMs ∣ t % bitMs + 1) : bitMs ∣ t + 1 := by
  rw [← Nat.div_add_mod t bitMs, Nat.add_assoc]
  exact Nat.dvd_add (Nat.dvd_mul_right ..) h

theorem mod_succ_of_not_dvd (h : ¬ bitMs ∣ t + 1) : (t + 1) % bitMs = t % bitMs + 1 := by
  have hnow := Nat.div_add_mod t bitMs
  have hnext := Nat.div_add_mod (t + 1) bitMs
  rw [Nat.succ_div_of_not_dvd h] at hnext
  omega

/-- What is shown does not change within a bit time. -/
theorem Regular.of_bitTime (h : Regular bitMs air) (hbit : 0 < bitMs) (hshown : air[t]? = some shown) :
    ∃ first, air[t / bitMs * bitMs]? = some first ∧
      (∀ frame elapsed, first = some (frame, elapsed) → bitMs ∣ elapsed) ∧
      shown = later first (t % bitMs) := by
  induction t generalizing shown with
  | zero =>
      refine ⟨shown, by simpa using hshown, fun frame elapsed hsome => ?_, by cases shown <;> simp [later]⟩
      subst hsome
      rcases follows_some (h 0 _ hshown) with ⟨rfl, -⟩ | ⟨passed, -, hsome, -⟩
      · exact Nat.dvd_zero bitMs
      · contradiction
  | succ t ih =>
      obtain ⟨earlier, hearlier⟩ : ∃ earlier, air[t]? = some earlier := by
        obtain ⟨hlt, -⟩ := List.getElem?_eq_some_iff.1 hshown
        exact ⟨_, List.getElem?_eq_getElem (Nat.lt_of_succ_lt hlt)⟩
      have hfollows := h (t + 1) shown hshown
      rw [before, hearlier, Option.join_some] at hfollows
      obtain ⟨first, hfirst, hmultiple, rfl⟩ := ih hearlier
      by_cases hstart : bitMs ∣ t + 1
      · -- a bit time starts here
        have hhere : (t + 1) / bitMs * bitMs = t + 1 := Nat.div_mul_cancel hstart
        have hmod : (t + 1) % bitMs = 0 := Nat.mod_eq_zero_of_dvd hstart
        refine ⟨shown, by rw [hhere, hshown], fun frame elapsed hsome => ?_, ?_⟩
        · subst hsome
          rcases follows_some hfollows with ⟨rfl, -⟩ | ⟨passed, rfl, hsame, -⟩
          · exact Nat.dvd_zero bitMs
          · obtain ⟨⟨other, start⟩, rfl, hpassed⟩ := Option.map_eq_some_iff.1 hsame
            obtain ⟨-, rfl⟩ := Prod.mk.inj hpassed
            rw [Nat.add_assoc, mod_succ_of_dvd hstart]
            exact Nat.dvd_add (hmultiple other start rfl) (Nat.dvd_refl bitMs)
        · rw [hmod]
          cases shown <;> simp [later]
      · refine ⟨first, by rw [Nat.succ_div_of_not_dvd hstart, hfirst], hmultiple, ?_⟩
        rw [mod_succ_of_not_dvd hstart]
        cases shown with
        | none =>
            cases first with
            | none => rfl
            | some entry =>
                -- a frame does not end within a bit time
                have hend := follows_none hfollows entry.1 (entry.2 + t % bitMs) rfl
                have hlast := h.elapsed_lt hbit hearlier
                have hfull : entry.2 + (t % bitMs + 1) = 8 * bitMs := by omega
                have hrest : bitMs ∣ t % bitMs + 1 := by
                  rw [← Nat.dvd_add_right (hmultiple entry.1 entry.2 rfl), hfull]
                  exact Nat.dvd_mul_left ..
                exact absurd (dvd_succ_of_mod hrest) hstart
        | some entry =>
            obtain ⟨frame, elapsed⟩ := entry
            rcases follows_some hfollows with ⟨-, hagain, -⟩ | ⟨passed, rfl, hsame, -⟩
            · contradiction
            · obtain ⟨⟨other, start⟩, rfl, hpassed⟩ := Option.map_eq_some_iff.1 hsame
              obtain ⟨rfl, rfl⟩ := Prod.mk.inj hpassed
              rfl

/-- The frame and the bit of it that are on air in bit time `index`. -/
def shownIn (bitMs : Nat) (air : List Shown) (index : Nat) : Shown :=
  air[index * bitMs]?.join.map fun entry => (entry.1, entry.2 / bitMs)

/-- What was on air before bit time `index`. -/
def earlierShown (bitMs : Nat) (air : List Shown) : (index : Nat) → Shown
  | 0 => none
  | index + 1 => shownIn bitMs air index

theorem shownIn_of_getElem? {index : Nat} (h : air[index * bitMs]? = some shown) :
    shownIn bitMs air index = shown.map fun entry => (entry.1, entry.2 / bitMs) := by
  rw [shownIn, h, Option.join_some]

/-- A frame that leaves room for another ends with its last bit. -/
theorem shownIn_append {index : Nat} {more : List Shown} (h : index * bitMs < air.length) :
    shownIn bitMs (air ++ more) index = shownIn bitMs air index := by
  rw [shownIn, shownIn, List.getElem?_append_left h]

theorem free_shownIn (hbit : 0 < bitMs) {first : Shown}
    (hfree : Free bitMs (later first (bitMs - 1))) :
    Free 1 (first.map fun entry => (entry.1, entry.2 / bitMs)) := by
  intro frame bit hsome
  obtain ⟨⟨other, start⟩, rfl, hentry⟩ := Option.map_eq_some_iff.1 hsome
  obtain ⟨rfl, rfl⟩ := Prod.mk.inj hentry
  have hend := hfree _ (start + (bitMs - 1)) rfl
  have hseven : 7 * bitMs ≤ start := by omega
  have hdiv := (Nat.le_div_iff_mul_le hbit).2 hseven
  exact Nat.succ_le_succ hdiv

/-- Bit times follow each other as milliseconds do. -/
theorem Regular.follows_shownIn (h : Regular bitMs air) (hbit : 0 < bitMs) {index : Nat}
    (hindex : index * bitMs < air.length) :
    Follows 1 index (earlierShown bitMs air index) (shownIn bitMs air index) := by
  obtain ⟨shown, hshown⟩ : ∃ shown, air[index * bitMs]? = some shown :=
    ⟨_, List.getElem?_eq_getElem hindex⟩
  have hfollows := h _ _ hshown
  rw [shownIn_of_getElem? hshown]
  cases index with
  | zero =>
      rw [Nat.zero_mul] at hfollows
      cases shown with
      | none => exact .pause free_none
      | some entry =>
          rcases follows_some hfollows with ⟨hzero, -, -⟩ | ⟨passed, -, hsome, -⟩
          · rw [Option.map_some, hzero, Nat.zero_div]
            exact .start free_none (Nat.one_dvd 0) entry.1
          · contradiction
  | succ index =>
      -- the last millisecond of the bit time before
      have hlast : (index + 1) * bitMs = index * bitMs + (bitMs - 1) + 1 := by
        rw [Nat.succ_mul]
        omega
      have hdiv : (index * bitMs + (bitMs - 1)) / bitMs = index := by
        rw [Nat.mul_comm, Nat.mul_add_div hbit, Nat.div_eq_of_lt (Nat.sub_lt hbit Nat.one_pos),
          Nat.add_zero]
      have hmod : (index * bitMs + (bitMs - 1)) % bitMs = bitMs - 1 := by
        rw [Nat.mul_comm, Nat.mul_add_mod, Nat.mod_eq_of_lt (Nat.sub_lt hbit Nat.one_pos)]
      obtain ⟨earlier, hearlier⟩ : ∃ earlier, air[index * bitMs + (bitMs - 1)]? = some earlier :=
        ⟨_, List.getElem?_eq_getElem (by omega)⟩
      obtain ⟨first, hfirst, hmultiple, rfl⟩ := h.of_bitTime hbit hearlier
      rw [hdiv] at hfirst
      rw [hlast, before, hearlier, Option.join_some, hmod] at hfollows
      rw [earlierShown, shownIn_of_getElem? hfirst]
      cases shown with
      | none => exact .pause (free_shownIn hbit (follows_none hfollows))
      | some entry =>
          obtain ⟨frame, elapsed⟩ := entry
          rcases follows_some hfollows with ⟨rfl, -, hfree⟩ | ⟨passed, rfl, hsame, hlt⟩
          · rw [Option.map_some, Nat.zero_div]
            exact .start (free_shownIn hbit hfree) (Nat.one_dvd _) frame
          · obtain ⟨⟨other, start⟩, rfl, hpassed⟩ := Option.map_eq_some_iff.1 hsame
            obtain ⟨rfl, rfl⟩ := Prod.mk.inj hpassed
            have hnext : start + (bitMs - 1) + 1 = start + bitMs := by omega
            have hbits : start / bitMs + 1 < 8 := by
              rw [hnext] at hlt
              rw [← Nat.add_div_right _ hbit, Nat.div_lt_iff_lt_mul hbit]
              exact hlt
            rw [Option.map_some, Option.map_some, hnext, Nat.add_div_right _ hbit]
            exact .next (by omega)

/-! ## Frames -/

/-- The frame that ends with a millisecond, if one does. -/
def ends? (bitMs : Nat) (shown : Shown) : Option UInt8 :=
  shown.bind fun entry => if entry.2 + 1 = 8 * bitMs then some entry.1 else none

/-- The frame that starts with a millisecond, if one does. -/
def starts? (shown : Shown) : Option UInt8 :=
  shown.bind fun entry => if entry.2 = 0 then some entry.1 else none

/-- The frames that were started, in order. -/
def started (air : List Shown) : List UInt8 :=
  air.filterMap starts?

/-- The frames that were completed, in order. -/
def completed (bitMs : Nat) (air : List Shown) : List UInt8 :=
  air.filterMap (ends? bitMs)

/-- The frame on air that goes on, if there is one. -/
def goesOn? (bitMs : Nat) (shown : Shown) : Option UInt8 :=
  shown.bind fun entry => if entry.2 + 1 < 8 * bitMs then some entry.1 else none

theorem filterMap_snoc {First Second : Type} (f : First → Option Second) (list : List First)
    (last : First) : (list ++ [last]).filterMap f = list.filterMap f ++ (f last).toList := by
  cases h : f last <;> simp [h]

theorem goesOn?_of_free {earlier : Shown} (h : Free bitMs earlier) : goesOn? bitMs earlier = none := by
  cases earlier with
  | none => rfl
  | some entry => exact if_neg (Nat.not_lt.2 (h entry.1 entry.2 rfl))

/-- The frames started are those completed and the one that goes on. -/
theorem Regular.started_eq (h : Regular bitMs air) (hbit : 0 < bitMs) :
    started air = completed bitMs air ++ (goesOn? bitMs (before air air.length)).toList := by
  induction air using List.reverseRecOn with
  | nil => rfl
  | append_singleton air shown ih =>
      have hbefore := ih (h.of_prefix (List.prefix_append ..))
      have hfollows := h air.length shown (List.getElem?_concat_length ..)
      rw [before_append (Nat.le_refl _)] at hfollows
      unfold started completed at hbefore ⊢
      rw [filterMap_snoc, filterMap_snoc, hbefore, List.length_append, List.length_singleton,
        before_snoc]
      cases shown with
      | none =>
          rw [goesOn?_of_free (follows_none hfollows)]
          rfl
      | some entry =>
          obtain ⟨frame, elapsed⟩ := entry
          rcases follows_some hfollows with ⟨rfl, -, hfree⟩ | ⟨passed, rfl, hsame, hlt⟩
          · have hnot : ¬ 0 + 1 = 8 * bitMs := by omega
            have hmore : 0 + 1 < 8 * bitMs := by omega
            rw [goesOn?_of_free hfree]
            simp [starts?, ends?, goesOn?, hnot, hmore]
          · rw [hsame]
            by_cases hend : passed + 1 + 1 = 8 * bitMs
            · simp [starts?, ends?, goesOn?, hend, hlt]
            · have hmore : passed + 1 + 1 < 8 * bitMs := by omega
              simp [starts?, ends?, goesOn?, hend, hmore, hlt]

/-- A frame ends with a bit time, and with its eighth bit. -/
theorem Regular.ends?_eq (h : Regular bitMs air) (hbit : 0 < bitMs) (hshown : air[t]? = some shown) :
    ends? bitMs shown
      = if bitMs ∣ t + 1 then ends? 1 (shownIn bitMs air (t / bitMs)) else none := by
  obtain ⟨first, hfirst, hmultiple, rfl⟩ := h.of_bitTime hbit hshown
  rw [shownIn_of_getElem? hfirst]
  cases first with
  | none => simp [ends?, later]
  | some entry =>
      obtain ⟨frame, start⟩ := entry
      obtain ⟨bit, rfl⟩ := hmultiple frame start rfl
      have hdiv : bitMs * bit / bitMs = bit := Nat.mul_div_cancel_left bit hbit
      by_cases hstart : bitMs ∣ t + 1
      · have heighth : bitMs * bit + t % bitMs + 1 = 8 * bitMs ↔ bit + 1 = 8 * 1 := by
          rw [Nat.add_assoc, mod_succ_of_dvd hstart, ← Nat.mul_succ, Nat.mul_comm 8,
            Nat.mul_right_inj hbit.ne', Nat.mul_one]
        simp [ends?, later, hdiv, hstart, heighth]
      · have hnot : ¬ bitMs * bit + t % bitMs + 1 = 8 * bitMs := by
          intro hend
          refine hstart (dvd_succ_of_mod ?_)
          rw [← Nat.dvd_add_right (Nat.dvd_mul_right bitMs bit), ← Nat.add_assoc, hend]
          exact Nat.dvd_mul_left ..
        simp [ends?, later, hstart, hnot]

theorem completed_take_succ (bitMs : Nat) (hshown : air[t]? = some shown) :
    completed bitMs (air.take (t + 1)) = completed bitMs (air.take t) ++ (ends? bitMs shown).toList := by
  rw [List.take_add_one, hshown, completed, Option.toList_some, filterMap_snoc]
  rfl

/-- Nothing is completed before the end of a part of a bit time. -/
theorem Regular.completed_within (h : Regular bitMs air) (hbit : 0 < bitMs) {part index count : Nat}
    (hpart : part ∣ bitMs) (hcount : count < part) (hwithin : index * part + count ≤ air.length) :
    completed bitMs (air.take (index * part + count)) = completed bitMs (air.take (index * part)) := by
  induction count with
  | zero => rfl
  | succ count ih =>
      obtain ⟨shown, hshown⟩ : ∃ shown, air[index * part + count]? = some shown :=
        ⟨_, List.getElem?_eq_getElem (by omega)⟩
      have hinside : ¬ bitMs ∣ index * part + count + 1 := by
        intro hend
        rw [Nat.add_assoc] at hend
        have hrest := (Nat.dvd_add_right (Nat.dvd_mul_left part index)).1 (hpart.trans hend)
        exact absurd (Nat.le_of_dvd (Nat.succ_pos count) hrest) (by omega)
      rw [← Nat.add_assoc, completed_take_succ bitMs hshown, h.ends?_eq hbit hshown, if_neg hinside,
        ih (by omega) (by omega)]
      exact List.append_nil _

/-- What is completed in a part of a bit time is the frame that ends with it. -/
theorem Regular.completed_take (h : Regular bitMs air) {part count : Nat} (hpart : 0 < part)
    (hcount : 0 < count) (hbit : bitMs = part * count) {index : Nat}
    (hindex : (index + 1) * part ≤ air.length) :
    completed bitMs (air.take ((index + 1) * part)) = completed bitMs (air.take (index * part))
      ++ (if count ∣ index + 1 then ends? 1 (shownIn bitMs air (index / count)) else none).toList := by
  have hpos : 0 < bitMs := hbit ▸ Nat.mul_pos hpart hcount
  -- the last millisecond of the part
  have hlast : (index + 1) * part = index * part + (part - 1) + 1 := by
    rw [Nat.succ_mul]
    omega
  obtain ⟨shown, hshown⟩ : ∃ shown, air[index * part + (part - 1)]? = some shown :=
    ⟨_, List.getElem?_eq_getElem (by omega)⟩
  have hends := h.ends?_eq hpos hshown
  have hdvd : bitMs ∣ (index + 1) * part ↔ count ∣ index + 1 := by
    rw [hbit, Nat.mul_comm part, Nat.mul_dvd_mul_iff_right hpart]
  have hdiv : (index * part + (part - 1)) / bitMs = index / count := by
    rw [hbit, ← Nat.div_div_eq_div_mul, Nat.mul_comm index, Nat.mul_add_div hpart,
      Nat.div_eq_of_lt (Nat.sub_lt hpart Nat.one_pos), Nat.add_zero]
  rw [← hlast, hdiv] at hends
  simp only [hdvd] at hends
  rw [← hends, hlast, completed_take_succ bitMs hshown,
    h.completed_within hpos (hbit ▸ Nat.dvd_mul_right part count) (Nat.sub_lt hpart Nat.one_pos)
      (by omega)]

/-! ## The projector -/

/-- What the projector shows in a millisecond. -/
structure Light where
  level : Float32
  bit? : Option Bool
  shown : Shown

/-- What the projector shows now. -/
def light (p : Projector) (now : UInt32) : Light where
  level := (p.intensity now).1
  bit? := (p.bitAt now).1
  shown := (p.bitAt now).2.onAir?.map fun transmission =>
    (transmission.frame, (now - transmission.startMs).toNat)

/-- The bit that is on air. -/
def bitOf? (bitMs : Nat) (shown : Shown) : Option Bool :=
  shown.bind fun entry => (Frame.bits entry.1)[entry.2 / bitMs]?

variable {p : Projector} {now : UInt32}

theorem snd_intensity : (p.intensity now).2 = (p.bitAt now).2 := by
  unfold intensity
  obtain ⟨bit?, q⟩ := p.bitAt now
  cases bit? <;> rfl

theorem start_of_onAir {transmission : Transmission} (h : p.onAir? = some transmission) :
    p.start now = p := by
  unfold start
  rw [h]

theorem bitAt_of_onAir {transmission : Transmission} (h : p.onAir? = some transmission)
    (now : UInt32) :
    p.bitAt now
      = match (Frame.bits transmission.frame)[((now - transmission.startMs) / p.bitMs).toNat]? with
        | some bit => (some bit, p)
        | none => (none, { p with onAir? := none }) := by
  cases hbit : (Frame.bits transmission.frame)[((now - transmission.startMs) / p.bitMs).toNat]?
    with
  | none => simp only [bitAt, start_of_onAir h, h, hbit]
  | some bit => simp only [bitAt, start_of_onAir h, h, hbit]

theorem bitAt_of_start {frame : UInt8} {queue : List UInt8} (hair : p.onAir? = none)
    (hqueue : p.queue = frame :: queue) (hnow : now % p.bitMs = 0) :
    p.bitAt now = ({ p with queue, onAir? := some ⟨now, frame⟩ } : Projector).bitAt now := by
  have hstart : p.start now = { p with queue, onAir? := some ⟨now, frame⟩ } := by
    unfold start
    rw [hair, hqueue]
    exact if_pos hnow
  unfold bitAt
  rw [hstart, start_of_onAir (p := { p with queue, onAir? := some ⟨now, frame⟩ }) rfl]

theorem bitAt_of_idle (hair : p.onAir? = none) (hwaits : p.queue = [] ∨ now % p.bitMs ≠ 0) :
    p.bitAt now = (none, p) := by
  have hstart : p.start now = p := by
    unfold start
    rw [hair]
    cases hqueue : p.queue with
    | nil => rfl
    | cons frame queue => exact if_neg (hwaits.resolve_left (by simp [hqueue]))
  unfold bitAt
  rw [hstart]
  dsimp only
  rw [hair]

/-- The bit does not change within a bit time. -/
theorem Regular.bitOf?_eq (h : Regular bitMs air) (hbit : 0 < bitMs) (hshown : air[t]? = some shown) :
    bitOf? bitMs shown
      = (shownIn bitMs air (t / bitMs)).map fun entry => entry.1.toNat.testBit entry.2 := by
  obtain ⟨first, hfirst, hmultiple, rfl⟩ := h.of_bitTime hbit hshown
  rw [shownIn_of_getElem? hfirst]
  cases first with
  | none => rfl
  | some entry =>
      obtain ⟨frame, start⟩ := entry
      have hlt := h.elapsed_lt hbit hfirst
      obtain ⟨bit, rfl⟩ := hmultiple frame start rfl
      have hbits : bit < 8 := by
        rw [Nat.mul_comm] at hlt
        exact Nat.lt_of_mul_lt_mul_right hlt
      have hdiv : (bitMs * bit + t % bitMs) / bitMs = bit := by
        rw [Nat.mul_add_div hbit, Nat.div_eq_of_lt (Nat.mod_lt t hbit), Nat.add_zero]
      simp [bitOf?, later, hdiv, Nat.mul_div_cancel_left bit hbit, Frame.bits, Binary.bits, hbits]

/-- The projector has shown `air` of the frames that were sent. -/
structure Airs (config : LinkConfig) (sent : List UInt8) (air : List Shown) (p : Projector) :
    Prop where
  config : p.config = config
  regular : Regular p.bitMs.toNat air
  onAir : p.onAir? = (before air air.length).map fun entry =>
    ⟨UInt32.ofNat (air.length - 1 - entry.2), entry.1⟩
  elapsed_lt : ∀ frame elapsed, before air air.length = some (frame, elapsed) → elapsed < air.length
  sent : started air ++ p.queue = sent

variable {config : LinkConfig} {sent : List UInt8}

theorem airs_new (config : LinkConfig) : Airs config [] [] { config } :=
  ⟨rfl, regular_nil, rfl, fun _ _ h => by contradiction, rfl⟩

theorem Airs.send (h : Airs config sent air p) (address : UInt8) (command : Command) :
    Airs config (sent ++ [p.frame address command]) air (p.send address command) := by
  refine ⟨h.config, h.regular, h.onAir, h.elapsed_lt, ?_⟩
  rw [← h.sent, List.append_assoc]
  rfl

/-- One more millisecond. -/
theorem Airs.snoc (h : Airs config sent air p) {q : Projector}
    (hshown : Follows p.bitMs.toNat air.length (before air air.length) shown)
    (hconfig : q.config = p.config)
    (honAir : q.onAir? = shown.map fun entry => ⟨UInt32.ofNat (air.length - entry.2), entry.1⟩)
    (helapsed : ∀ frame elapsed, shown = some (frame, elapsed) → elapsed ≤ air.length)
    (hqueue : (starts? shown).toList ++ q.queue = p.queue) :
    Airs config sent (air ++ [shown]) q := by
  have hlength : (air ++ [shown]).length = air.length + 1 := List.length_append
  refine ⟨hconfig.trans h.config, ?_, ?_, ?_, ?_⟩
  · rw [bitMs_of_config hconfig]
    exact h.regular.snoc hshown
  · rw [hlength, before_snoc]
    exact honAir
  · rw [hlength, before_snoc]
    exact fun frame elapsed hsome => Nat.lt_succ_of_le (helapsed frame elapsed hsome)
  · rw [started, filterMap_snoc, List.append_assoc, hqueue]
    exact h.sent

theorem length_frameBits (frame : UInt8) : (Frame.bits frame).length = 8 :=
  Decoder.length_bits frame

/-- What the projector shows next. -/
theorem Airs.light (h : Airs config sent air p) (hbit : 0 < p.bitMs.toNat)
    (hlength : air.length < UInt32.size) :
    Airs config sent (air ++ [(p.light (UInt32.ofNat air.length)).shown])
        (p.intensity (UInt32.ofNat air.length)).2 ∧
      (p.light (UInt32.ofNat air.length)).bit?
        = bitOf? p.bitMs.toNat (p.light (UInt32.ofNat air.length)).shown := by
  have honAir := h.onAir
  rw [snd_intensity, Projector.light]
  dsimp only
  cases hbefore : before air air.length with
  | none =>
      rw [hbefore, Option.map_none] at honAir
      have hfree : Free p.bitMs.toNat (before air air.length) := by
        rw [hbefore]
        exact free_none
      have hstart : UInt32.ofNat air.length % p.bitMs = 0 ↔ p.bitMs.toNat ∣ air.length := by
        rw [← UInt32.toNat_inj, UInt32.toNat_mod, UInt32.toNat_ofNat_of_lt' hlength,
          UInt32.toNat_zero, Nat.dvd_iff_mod_eq_zero]
      by_cases hidle : p.queue = [] ∨ UInt32.ofNat air.length % p.bitMs ≠ 0
      · rw [bitAt_of_idle honAir hidle, honAir]
        refine ⟨h.snoc ?_ rfl ?_ ?_ rfl, rfl⟩
        · exact .pause hfree
        · exact honAir
        · exact fun frame elapsed hsome => by contradiction
      · obtain ⟨hqueue, hnow⟩ := not_or.1 hidle
        have hnow := not_not.1 hnow
        obtain ⟨frame, queue, hcons⟩ := List.exists_cons_of_ne_nil hqueue
        obtain ⟨bit, hfirst⟩ : ∃ bit, (Frame.bits frame)[0]? = some bit :=
          ⟨_, List.getElem?_eq_getElem (by rw [length_frameBits]; decide)⟩
        have hbitAt : p.bitAt (UInt32.ofNat air.length)
            = (some bit, { p with queue, onAir? := some ⟨UInt32.ofNat air.length, frame⟩ }) := by
          rw [bitAt_of_start honAir hcons hnow, bitAt_of_onAir rfl, UInt32.sub_self, UInt32.zero_div,
            UInt32.toNat_zero, hfirst]
        rw [hbitAt]
        dsimp only [Option.map_some]
        rw [UInt32.sub_self, UInt32.toNat_zero]
        refine ⟨h.snoc (.start hfree (hstart.1 hnow) frame) rfl rfl ?_ hcons.symm, ?_⟩
        · intro other elapsed hsome
          cases hsome
          exact Nat.zero_le _
        · simp [bitOf?, hfirst]
  | some entry =>
      obtain ⟨frame, elapsed⟩ := entry
      have hlt := h.elapsed_lt frame elapsed hbefore
      have hpassed : UInt32.ofNat air.length - UInt32.ofNat (air.length - 1 - elapsed)
          = UInt32.ofNat (elapsed + 1) := by
        rw [← UInt32.ofNat_sub (by omega)]
        congr 1
        omega
      have htime : (UInt32.ofNat (elapsed + 1)).toNat = elapsed + 1 :=
        UInt32.toNat_ofNat_of_lt' (by omega)
      rw [hbefore, Option.map_some] at honAir
      have hbitAt := bitAt_of_onAir honAir (UInt32.ofNat air.length)
      rw [hpassed, UInt32.toNat_div, htime] at hbitAt
      have hinside := h.regular.elapsed_lt hbit (getElem?_of_before hbefore)
      by_cases hmore : elapsed + 1 < 8 * p.bitMs.toNat
      · have hroom : (elapsed + 1) / p.bitMs.toNat < (Frame.bits frame).length := by
          rw [length_frameBits, Nat.div_lt_iff_lt_mul hbit]
          exact hmore
        rw [List.getElem?_eq_getElem hroom] at hbitAt
        rw [hbitAt]
        dsimp only
        rw [honAir, Option.map_some]
        dsimp only
        rw [hpassed, htime]
        refine ⟨h.snoc ?_ rfl ?_ ?_ rfl, ?_⟩
        · rw [hbefore]
          exact .next hmore
        · rw [honAir, Option.map_some]
          dsimp only
          rw [Nat.sub_sub, Nat.add_comm 1]
        · intro other passed hsome
          cases hsome
          exact hlt
        · simp [bitOf?, hroom]
      · have hend : (elapsed + 1) / p.bitMs.toNat = 8 := by
          have hlast : elapsed + 1 = 8 * p.bitMs.toNat := by omega
          rw [hlast, Nat.mul_div_cancel _ hbit]
        rw [hend, List.getElem?_eq_none (Nat.le_of_eq (length_frameBits frame))] at hbitAt
        rw [hbitAt]
        refine ⟨h.snoc ?_ rfl rfl ?_ rfl, rfl⟩
        · rw [hbefore]
          refine .pause fun other passed hsome => ?_
          cases hsome
          exact Nat.not_lt.1 hmore
        · exact fun frame elapsed hsome => by contradiction

end LightPilot.Projector
