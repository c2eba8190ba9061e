import LightPilot.Filter.Population
import LightPilot.Proofs.Number.Zero
import LightPilot.Proofs.Random.Uniform

set_option autoImplicit false

/-! # The loop for a positive number ends

A normal draw needs a uniform number that is not zero, and draws again until it has one. No quantity gets
smaller from one draw to the next. But the increment of the state is odd, so the generator goes through every
state before it comes back to one (`Generator.exists_advance`), and one that gives a positive number is among
them. `Generator.Redraws` is the loop as it runs, without a bound; `Generator.endsLoop` says that it ends with
the number that `Generator.positiveUnit` finds within its bound, and `Population.returns_displace` that the
displacement of a population, which runs the loop for each particle, comes to its end too. -/

namespace LightPilot

namespace Generator

open Single

/-! ## Every state is reached -/

/-- What undoes a multiplication by the increment, which is odd. -/
def inverse : UInt64 := 0x939c72e4af1e62cf

theorem inverse_mul_increment : inverse * increment = 1 := by
  decide

theorem state_iterate_advance (g : Generator) (count : ℕ) :
    (advance^[count] g).state = g.state + UInt64.ofNat count * increment := by
  induction count with
  | zero => simp
  | succ count ih =>
      have hnext : (advance (advance^[count] g)).state = (advance^[count] g).state + increment := rfl
      rw [Function.iterate_succ_apply', hnext, ih, UInt64.ofNat_add, UInt64.add_mul, UInt64.add_assoc]
      rfl

/-- The period is full: each state is some draws ahead of any other. -/
theorem exists_advance (g : Generator) (state : UInt64) :
    ∃ count < period, (advance^[count] g).state = state := by
  refine ⟨((state - g.state) * inverse).toNat, UInt64.toNat_lt _, ?_⟩
  rw [state_iterate_advance, UInt64.ofNat_toNat, UInt64.mul_assoc, inverse_mul_increment, UInt64.mul_one,
    UInt64.add_comm, UInt64.sub_add_cancel]

/-! ## Zeros among the uniform numbers -/

/-- Only the word zero gives the number zero. -/
theorem value_unit_pos {g : Generator} (hword : g.word.1 ≠ 0) : 0 < value g.unit.1 := by
  obtain ⟨hfinite, hlow, hhigh⟩ := value_word g.word.1
  obtain ⟨hwords, hvalue⟩ := value_words
  have hone : (1 : ℚ) ≤ g.word.1.toNat := by
    have hpos : 0 < g.word.1.toNat := Nat.pos_of_ne_zero fun hzero => hword (UInt32.toNat_inj.1 hzero)
    exact_mod_cast hpos
  have hlt : (g.word.1.toNat : ℚ) ≤ 2 ^ 32 := by exact_mod_cast g.word.1.toNat_lt.le
  have hleast : 1 ≤ value g.word.1.toFloat32 :=
    ((rounds_toFloat32 g.word.1).of_le (by positivity) hlt).2.le_of_le
      ⟨1, 0, by norm_num, by norm_num, by norm_num⟩ hone
  have hquotient := rounds_div hfinite hwords (by rw [hvalue]; norm_num)
  rw [hvalue] at hquotient
  have hsmall : value g.word.1.toFloat32 / 2 ^ 32 ≤ 2 ^ 32 := by linarith
  obtain ⟨-, hrounded⟩ := hquotient.of_le (by positivity) hsmall
  have hlowest : (2 : ℚ) ^ (-32 : ℤ) ≤ value g.unit.1 :=
    hrounded.le_of_le ⟨1, -32, by norm_num, by norm_num, by norm_num⟩ (by linarith)
  exact lt_of_lt_of_le (by positivity) hlowest

/-- A number that is not taken for zero is above it. -/
theorem unit_pos {g : Generator} (haccepted : (g.unit.1 == 0) = false) : g.unit.1 > 0 := by
  obtain ⟨hfinite, hlow, -⟩ := value_unit g
  have hne : value g.unit.1 ≠ 0 := fun hzero =>
    ne_true_of_eq_false haccepted (isZero_iff.2 ⟨hfinite, hzero⟩)
  exact (lt_iff rfl hfinite).2 (lt_of_le_of_ne hlow hne.symm)

theorem unit_le_one (g : Generator) : g.unit.1 ≤ 1 := by
  obtain ⟨hfinite, -, hhigh⟩ := value_unit g
  have hone : value 1 = 1 := (value_natCast (n := 1) (by norm_num)).2.trans Nat.cast_one
  exact (le_iff hfinite rfl).2 (hone ▸ hhigh)

theorem accepted_of_word {g : Generator} (hword : g.word.1 ≠ 0) : (g.unit.1 == 0) = false := by
  refine Bool.eq_false_of_not_eq_true fun hzero => ?_
  exact (value_unit_pos hword).ne' (isZero_iff.1 hzero).2

/-- A state whose word is not zero. -/
def fruitful : UInt64 := 1 - increment

theorem accepted_of_fruitful {g : Generator} (hstate : g.state = fruitful) :
    (g.unit.1 == 0) = false := by
  have hword : (output (fruitful + increment)).toUInt32 ≠ 0 := by decide +kernel
  have hdraw : g.word.1 = (output (g.state + increment)).toUInt32 := rfl
  exact accepted_of_word (by rwa [hdraw, hstate])

/-! ## The loop -/

/-- The loop that draws until a number is not zero, as it runs: how many draws it makes, and what it ends
with. -/
inductive Redraws : Generator → ℕ → Float32 × Generator → Prop
  | accepts {g : Generator} (haccepted : (g.unit.1 == 0) = false) : Redraws g 1 g.unit
  | rejects {g : Generator} {draws : ℕ} {drawn : Float32 × Generator} (hzero : (g.unit.1 == 0) = true)
      (hrest : Redraws g.unit.2 draws drawn) : Redraws g (draws + 1) drawn

section Loop

variable {g : Generator} {draws more : ℕ} {drawn other : Float32 × Generator}

/-- The loop has one run at most. -/
theorem Redraws.unique (h : Redraws g draws drawn) (hother : Redraws g more other) :
    draws = more ∧ drawn = other := by
  induction h generalizing more with
  | accepts haccepted =>
      cases hother with
      | accepts => exact ⟨rfl, rfl⟩
      | rejects hzero => exact absurd hzero (ne_true_of_eq_false haccepted)
  | rejects hzero hrest ih =>
      cases hother with
      | accepts haccepted => exact absurd hzero (ne_true_of_eq_false haccepted)
      | rejects _ hrest' =>
          obtain ⟨rfl, rfl⟩ := ih hrest'
          exact ⟨rfl, rfl⟩

/-- What it ends with is the draw that it accepted. -/
theorem Redraws.mem_unit (h : Redraws g draws drawn) : drawn.1 > 0 ∧ drawn.1 ≤ 1 := by
  induction h with
  | accepts haccepted => exact ⟨unit_pos haccepted, unit_le_one _⟩
  | rejects _ _ ih => exact ih

theorem snd_unit (g : Generator) : g.unit.2 = g.advance :=
  rfl

/-- A bound on the draws is not noticed if some draw within it is accepted. -/
theorem redraws_positiveUnitWithin {ahead attempts : ℕ} (hwithin : ahead ≤ attempts)
    (haccepted : ((advance^[ahead] g).unit.1 == 0) = false) :
    ∃ draws ≤ ahead + 1, Redraws g draws (positiveUnitWithin attempts g) := by
  induction attempts generalizing g ahead with
  | zero =>
      obtain rfl := Nat.le_zero.1 hwithin
      rw [Function.iterate_zero_apply] at haccepted
      rw [positiveUnitWithin]
      exact ⟨1, le_rfl, .accepts haccepted⟩
  | succ attempts ih =>
      cases hzero : g.unit.1 == 0 with
      | false =>
          have hnow : positiveUnitWithin (attempts + 1) g = g.unit := by
            simp [positiveUnitWithin, hzero]
          rw [hnow]
          exact ⟨1, Nat.le_add_left .., .accepts hzero⟩
      | true =>
          have hlater : positiveUnitWithin (attempts + 1) g = positiveUnitWithin attempts g.unit.2 := by
            simp [positiveUnitWithin, hzero]
          cases ahead with
          | zero =>
              rw [Function.iterate_zero_apply] at haccepted
              exact absurd hzero (ne_true_of_eq_false haccepted)
          | succ ahead =>
              rw [Function.iterate_succ_apply, ← snd_unit] at haccepted
              obtain ⟨draws, hfew, hrest⟩ := ih (Nat.le_of_succ_le_succ hwithin) haccepted
              rw [hlater]
              exact ⟨draws + 1, Nat.succ_le_succ hfew, .rejects hzero hrest⟩

/-- The loop ends, in this one way, with a number above 0 and up to 1. -/
structure EndsLoop (g : Generator) (drawn : Float32 × Generator) : Prop where
  run : ∃ draws ≤ period, Redraws g draws drawn
  only : ∀ draws other, Redraws g draws other → other = drawn
  pos : drawn.1 > 0
  le_one : drawn.1 ≤ 1

theorem endsLoop (g : Generator) : g.EndsLoop g.positiveUnit := by
  obtain ⟨ahead, hwithin, hstate⟩ := g.exists_advance fruitful
  have hrun := redraws_positiveUnitWithin (Nat.le_of_lt hwithin) (accepted_of_fruitful hstate)
  rw [← positiveUnit] at hrun
  obtain ⟨draws, hfew, hrun⟩ := hrun
  exact ⟨⟨draws, hfew.trans hwithin, hrun⟩, fun _ _ hother => (hother.unique hrun).2, hrun.mem_unit.1,
    hrun.mem_unit.2⟩

end Loop

/-! ## Normal draws -/

theorem draws_succ {α : Type} (draw : Generator → α × Generator) (count : ℕ) (g : Generator) :
    draws draw (count + 1) g
      = ((draws draw count g).1.push (draw (draws draw count g).2).1,
          (draw (draws draw count g).2).2) :=
  rfl

/-- The pair of normal numbers that belongs to two uniform ones. -/
def normalPair (mean deviation u v : Float32) : Float32 × Float32 :=
  let angle := turn * v
  let radius := (-2 * Single.log u).sqrt
  (mean + deviation * radius * cosine angle, mean + deviation * radius * sine angle)

theorem gaussianPair_eq (mean deviation : Float32) (g : Generator) :
    g.gaussianPair mean deviation
      = (normalPair mean deviation g.positiveUnit.1 g.positiveUnit.2.unit.1, g.positiveUnit.2.unit.2) := by
  -- unfolded before it is applied: to compare two applications the kernel would run the loop
  have hbody : gaussianPair = gaussianPair := rfl
  conv_lhs at hbody => delta gaussianPair
  rw [← hbody]
  beta_reduce
  cases g.positiveUnit with
  | mk u next =>
      dsimp only
      cases next.unit with
      | mk v last => rw [normalPair]

end Generator

/-! ## The displacement of a population -/

namespace Population

variable {n : ℕ} {delta : Vec3} {deviation : Float32}

/-- A particle moved by `delta` and a normal spread on the map. -/
def displaced (delta : Vec3) (particle : Particle) (spread : Float32 × Float32) : Particle :=
  particle.place (particle.position + delta + ⟨spread.1, spread.2, 0⟩)

/-- The displacement of some particles, one after the other, as it runs: how many draws it makes, the
particles that it leaves, and the generator. -/
inductive Displaces (delta : Vec3) (deviation : Float32) :
    List Particle → Generator → ℕ → List Particle → Generator → Prop
  | done (g : Generator) : Displaces delta deviation [] g 0 [] g
  | next {particle : Particle} {rest moved : List Particle} {g last : Generator} {draws more : ℕ}
      {drawn : Float32 × Generator} (hloop : g.Redraws draws drawn)
      (hrest : Displaces delta deviation rest drawn.2.unit.2 more moved last) :
      Displaces delta deviation (particle :: rest) g (draws + 1 + more)
        (displaced delta particle (Generator.normalPair 0 deviation drawn.1 drawn.2.unit.1) :: moved) last

/-- One more particle. -/
theorem Displaces.snoc {particles moved : List Particle} {g last : Generator} {draws more : ℕ}
    {drawn : Float32 × Generator} (h : Displaces delta deviation particles g more moved last)
    (hloop : last.Redraws draws drawn) (particle : Particle) :
    Displaces delta deviation (particles ++ [particle]) g (more + (draws + 1))
      (moved ++ [displaced delta particle (Generator.normalPair 0 deviation drawn.1 drawn.2.unit.1)])
      drawn.2.unit.2 := by
  induction h with
  | done g =>
      rw [Nat.zero_add]
      exact .next hloop (.done _)
  | next hloop' hrest ih =>
      rw [Nat.add_assoc]
      exact .next hloop' (ih hloop)

/-- Each particle is spread by a pair of its own, drawn in the order of the particles. -/
theorem displaces_draws (delta : Vec3) (deviation : Float32) (particles : List Particle) (g : Generator) :
    ∃ draws ≤ particles.length * (Generator.period + 1),
      Displaces delta deviation particles g draws
        (List.zipWith (displaced delta) particles
          (Generator.draws (Generator.gaussianPair 0 deviation) particles.length g).1.toList)
        (Generator.draws (Generator.gaussianPair 0 deviation) particles.length g).2 := by
  induction particles using List.reverseRecOn with
  | nil => exact ⟨0, Nat.zero_le _, .done g⟩
  | append_singleton particles particle ih =>
      obtain ⟨more, hmore, hdisplaces⟩ := ih
      rw [List.length_append, List.length_singleton, Generator.draws_succ]
      generalize Generator.draws (Generator.gaussianPair 0 deviation) particles.length g = drawn
        at hdisplaces ⊢
      obtain ⟨draws, hfew, hloop⟩ := drawn.2.endsLoop.run
      have hsnoc := hdisplaces.snoc hloop particle
      refine ⟨more + (draws + 1), ?_, ?_⟩
      · rw [Nat.add_mul, Nat.one_mul]
        exact Nat.add_le_add hmore (Nat.succ_le_succ hfew)
      · rw [Generator.gaussianPair_eq, Vector.toList_push, List.zipWith_append (by simp)]
        exact hsnoc

theorem particles_displace (p : Population n) (delta : Vec3) (deviation : Float32) :
    (p.displace delta deviation).particles.toList
      = List.zipWith (displaced delta) p.particles.toList
          (Generator.draws (Generator.gaussianPair 0 deviation) n p.generator).1.toList := by
  rw [← Vector.toList_zipWith]
  rfl

theorem generator_displace (p : Population n) (delta : Vec3) (deviation : Float32) :
    (p.displace delta deviation).generator
      = (Generator.draws (Generator.gaussianPair 0 deviation) n p.generator).2 :=
  rfl

/-- The loop ends at every state of the generator, and so the displacement of a population ends, whatever its
size and its generator: it runs the loop without a bound once for each particle. -/
theorem returns_displace (p : Population n) (delta : Vec3) (deviation : Float32) :
    (∀ g : Generator, g.EndsLoop g.positiveUnit) ∧
      ∃ draws ≤ n * (Generator.period + 1),
        Displaces delta deviation p.particles.toList p.generator draws
          (p.displace delta deviation).particles.toList (p.displace delta deviation).generator := by
  refine ⟨Generator.endsLoop, ?_⟩
  have hruns := displaces_draws delta deviation p.particles.toList p.generator
  rwa [Vector.length_toList, ← particles_displace, ← generator_displace] at hruns

end Population

end LightPilot
