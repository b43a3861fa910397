import Mathlib.Tactic.Lemma
import ShaderLoom.Frame.Pipeline

/-!
What the operations of a pipeline can do, and what they leave alone.

A tick does one of five things, and changes nothing but the gate and the counts. Only a tick
presents a frame, and only a compilation touches what compilation has come to.
-/

namespace ShaderLoom

namespace Event

variable {τ : Type}

/-- The frame that the event presents. -/
@[simp] def frame? : Event τ → Option (Frame τ)
  | presented frame => some frame
  | _ => none

/-- The module that the backend is asked to compile. -/
@[simp] def request? : Event τ → Option String
  | requested source => some source
  | _ => none

/-- The fault with which the backend refuses a module. -/
@[simp] def refusal? : Event τ → Option Fault
  | refused fault => some fault
  | _ => none

/-- The buffer of the uniforms is made. -/
@[simp] def makesUniforms : Event τ → Bool
  | uniformsMade => true
  | _ => false

end Event

namespace Pipeline

variable {τ : Type} [Timescale τ]

/-- Only the first of several attachments has an effect. -/
theorem attach_cases (p : Pipeline τ) :
    (p.isAttached = true ∧ p.attach = (p, [])) ∨
    (p.isAttached = false ∧
      p.attach =
        ({ p with
           isAttached := true
           since := p.clock.now
           gate := p.gate.reset
           source := p.source.start p.rate },
         [.started p.serial p.rate, .attached p.clock.now])) := by
  cases ha : p.isAttached <;> simp [attach, ha]

theorem detach_cases (p : Pipeline τ) :
    (p.isAttached = false ∧ p.detach = (p, [])) ∨
    (p.isAttached = true ∧
      p.detach =
        ({ p with isAttached := false, source := p.source.stop },
         [.stopped p.serial, .detached])) := by
  cases ha : p.isAttached <;> simp [detach, ha]

lemma attach_isAttached (p : Pipeline τ) : p.attach.1.isAttached = true := by
  rcases p.attach_cases with ⟨hon, hp⟩ | ⟨-, hp⟩ <;> rw [hp]
  exact hon

lemma detach_isAttached (p : Pipeline τ) : p.detach.1.isAttached = false := by
  rcases p.detach_cases with ⟨hoff, hp⟩ | ⟨-, hp⟩ <;> rw [hp]
  exact hoff

/-- A tick source that is installed while the pipeline is attached is started. -/
theorem installTicks_cases (p : Pipeline τ) (source : TickSource) :
    (p.isAttached = false ∧
      p.installTicks source = ({ p with source := source, serial := p.serial + 1 }, [])) ∨
    (p.isAttached = true ∧
      p.installTicks source =
        ({ p with source := source.start p.rate, serial := p.serial + 1 },
         [.stopped p.serial, .started (p.serial + 1) p.rate])) := by
  cases ha : p.isAttached <;> simp [installTicks, ha]

/-- The three things that a compilation can do. -/
theorem compile_cases (p : Pipeline τ) (program : Program) (backend : Backend) :
    (p.phase = .ready ∧ p.compile program backend = (p, [.ignored])) ∨
    (p.phase ≠ .ready ∧ backend program.moduleText = none ∧
      p.compile program backend =
        ({ p with
           phase := .ready
           handle := some p.requests
           fault := none
           requests := p.requests + 1 },
         [.requested program.moduleText, .compiled p.rate])) ∨
    ∃ fault, p.phase ≠ .ready ∧ backend program.moduleText = some fault ∧
      p.compile program backend =
        ({ p with
           phase := .failed
           handle := none
           fault := some fault
           requests := p.requests + 1 },
         [.requested program.moduleText, .refused fault]) := by
  by_cases h : p.phase = .ready
  · simp [compile, h]
  · cases hb : backend program.moduleText <;> simp [compile, h, hb]

/-- The five things that a tick can do, each with its condition. -/
theorem answer_cases (p : Pipeline τ) (now : τ) :
    (p.isAttached = false ∧ p.answer now = (.detached, p, [])) ∨
    (p.isAttached = true ∧ p.handle = none ∧ p.answer now = (.notCompiled, p, [])) ∨
    ∃ handle, p.isAttached = true ∧ p.handle = some handle ∧
      ((p.gate.isDue now = false ∧
          p.answer now = (.throttled, { p with rates := p.rates.throttle }, [])) ∨
        (p.gate.isDue now = true ∧ p.surface.drawable = false ∧
          p.answer now = (.noDrawable, { p with rates := p.rates.skip }, [])) ∨
        (p.gate.isDue now = true ∧ p.surface.drawable = true ∧
          p.answer now =
            (.presented, p.present now, [.presented (p.frameAt handle now)]))) := by
  cases ha : p.isAttached with
  | false => simp [answer, ha]
  | true =>
    cases hh : p.handle with
    | none => simp [answer, ha, hh]
    | some handle =>
      cases hd : p.gate.isDue now with
      | false => simp [answer, ha, hh, hd]
      | true => cases hs : p.surface.drawable <;> simp [answer, ha, hh, hd, hs]

/-- A tick that presents nothing has no event and leaves the gate alone; one that presents a
frame is due, and marks the gate. -/
theorem tick_cases (p : Pipeline τ) (now : τ) :
    (∃ rates, p.tick now = ({ p with rates := rates }, [])) ∨
    ∃ handle, p.isAttached = true ∧ p.handle = some handle ∧ p.gate.isDue now = true ∧
      p.tick now = (p.present now, [.presented (p.frameAt handle now)]) := by
  rcases p.answer_cases now with ⟨-, h⟩ | ⟨-, -, h⟩ | ⟨handle, ha, hh, hc⟩
  · exact .inl ⟨p.rates, by rw [tick, h]⟩
  · exact .inl ⟨p.rates, by rw [tick, h]⟩
  · rcases hc with ⟨-, h⟩ | ⟨-, -, h⟩ | ⟨hd, -, h⟩
    · exact .inl ⟨_, by rw [tick, h]⟩
    · exact .inl ⟨_, by rw [tick, h]⟩
    · exact .inr ⟨handle, ha, hh, hd, by rw [tick, h]⟩

lemma run_snoc (p : Pipeline τ) (ops : List (Operation τ)) (op : Operation τ) :
    (p.run (ops ++ [op])).1 = ((p.run ops).1.step op).1 := by
  rw [run_append]
  rfl

/-- What every operation preserves holds after every history. -/
theorem run_preserves {I : Pipeline τ → Prop} (hstep : ∀ p op, I p → I (p.step op).1)
    {p : Pipeline τ} (hp : I p) (ops : List (Operation τ)) : I (p.run ops).1 := by
  induction ops generalizing p with
  | nil => exact hp
  | cons op ops ih => exact ih (hstep p op hp)

end Pipeline

/-! ### Presented frames -/

/-- A presented frame and the instant of its tick. -/
structure Shot (τ : Type) where
  instant : τ
  frame : Frame τ

namespace Pipeline

variable {τ : Type} [Timescale τ]

/-- The frames that an operation presents. -/
def shotsOf (p : Pipeline τ) : Operation τ → List (Shot τ)
  | .tick now => ((p.tick now).2.filterMap Event.frame?).map (⟨now, ·⟩)
  | _ => []

/-- The frames that are presented in a history. -/
def shots (p : Pipeline τ) : List (Operation τ) → List (Shot τ)
  | [] => []
  | op :: ops => p.shotsOf op ++ shots (p.step op).1 ops

/-- Only ticks present frames. -/
lemma frames_step (p : Pipeline τ) (op : Operation τ) :
    (p.step op).2.filterMap Event.frame? = (p.shotsOf op).map Shot.frame := by
  cases op with
  | tick now => simp [step, shotsOf, Function.comp_def]
  | attach => rcases p.attach_cases with ⟨-, h⟩ | ⟨-, h⟩ <;> rw [step, h] <;> rfl
  | detach => rcases p.detach_cases with ⟨-, h⟩ | ⟨-, h⟩ <;> rw [step, h] <;> rfl
  | installTicks source =>
    rcases p.installTicks_cases source with ⟨-, h⟩ | ⟨-, h⟩ <;> rw [step, h] <;> rfl
  | compile program backend =>
    rcases p.compile_cases program backend with ⟨-, h⟩ | ⟨-, -, h⟩ | ⟨fault, -, -, h⟩ <;>
      rw [step, h] <;> rfl
  | drop => rcases p.detach_cases with ⟨-, h⟩ | ⟨-, h⟩ <;> rw [step, h] <;> rfl
  | _ => rfl

/-- The frames among the events of a history are those that were presented, in order. -/
theorem frames_run (p : Pipeline τ) (ops : List (Operation τ)) :
    (p.run ops).2.filterMap Event.frame? = (p.shots ops).map Shot.frame := by
  induction ops generalizing p with
  | nil => rfl
  | cons op ops ih => simp [shots, frames_step, ih]

/-- An operation presents nothing, or it is a tick that is due. -/
lemma shotsOf_cases (p : Pipeline τ) (op : Operation τ) :
    p.shotsOf op = [] ∨
    ∃ now handle, op = .tick now ∧ p.handle = some handle ∧ p.gate.isDue now = true ∧
      (p.step op).1 = p.present now ∧ p.shotsOf op = [⟨now, p.frameAt handle now⟩] := by
  cases op with
  | tick now =>
    rcases p.tick_cases now with ⟨rates, h⟩ | ⟨handle, -, hh, hd, h⟩
    · exact .inl (by simp [shotsOf, h])
    · exact .inr ⟨now, handle, rfl, hh, hd, by simp [step, h], by simp [shotsOf, h]⟩
  | _ => exact .inl rfl

end Pipeline

/-! ### Sessions -/

/-- The operations that end a session. -/
def Operation.endsSession {τ : Type} : Operation τ → Bool
  | .detach => true
  | .drop => true
  | _ => false

namespace Pipeline

variable {τ : Type} [Timescale τ]

/-- While a session lasts, the instant of its attachment stands, and only a presented frame
changes the gate. -/
lemma step_session {p : Pipeline τ} {op : Operation τ} (ha : p.isAttached = true)
    (hop : op.endsSession = false) :
    (p.step op).1.isAttached = true ∧ (p.step op).1.since = p.since ∧
      (p.step op).1.gate = (p.shotsOf op).foldl (fun g s => g.mark s.instant) p.gate := by
  cases op with
  | detach => simp [Operation.endsSession] at hop
  | drop => simp [Operation.endsSession] at hop
  | tick now =>
    rcases p.tick_cases now with ⟨rates, h⟩ | ⟨handle, -, hh, hd, h⟩
    · simp [step, h, ha, shotsOf]
    · simp [step, h, ha, shotsOf, present]
  | attach =>
    rcases p.attach_cases with ⟨-, h⟩ | ⟨hoff, -⟩
    · rw [step, h]
      exact ⟨ha, rfl, rfl⟩
    · simp [ha] at hoff
  | installTicks source =>
    rcases p.installTicks_cases source with ⟨-, h⟩ | ⟨-, h⟩ <;> rw [step, h] <;>
      exact ⟨ha, rfl, rfl⟩
  | compile program backend =>
    rcases p.compile_cases program backend with ⟨-, h⟩ | ⟨-, -, h⟩ | ⟨fault, -, -, h⟩ <;>
      rw [step, h] <;> exact ⟨ha, rfl, rfl⟩
  | _ => exact ⟨ha, rfl, rfl⟩

/-- The gate is marked with the instant of the last frame of the session. -/
lemma run_session {p : Pipeline τ} (hon : p.isAttached = true) {ops : List (Operation τ)}
    (hops : ∀ op ∈ ops, op.endsSession = false) :
    (p.run ops).1.isAttached = true ∧
      (p.run ops).1.gate.last = ((p.shots ops).getLast?.map Shot.instant).or p.gate.last := by
  induction ops generalizing p with
  | nil => exact ⟨hon, rfl⟩
  | cons op ops ih =>
    obtain ⟨hon', -, hgate⟩ := step_session hon (hops op (by simp))
    obtain ⟨hrest, hlast⟩ := ih hon' fun o ho => hops o (by simp [ho])
    refine ⟨hrest, ?_⟩
    rw [run_cons, hlast, shots, List.getLast?_append]
    rcases p.shotsOf_cases op with hnone | ⟨now, handle, -, -, -, -, hshot⟩
    · rw [hnone] at hgate ⊢
      rw [hgate]
      simp
    · rw [hshot] at hgate ⊢
      rw [hgate]
      cases hlater : ((p.step op).1.shots ops).getLast? <;> simp [Gate.mark]

/-- An attachment opens the gate, which is then marked by the frames of its session only. -/
lemma run_attach {q p : Pipeline τ} (hoff : q.isAttached = false) {session : List (Operation τ)}
    (hon : ∀ op ∈ session, op.endsSession = false) (hp : p = (q.run (.attach :: session)).1) :
    p.isAttached = true ∧
      p.gate.last = (q.shots (.attach :: session)).getLast?.map Shot.instant := by
  have hreset : q.attach.1.gate.last = none := by
    rcases q.attach_cases with ⟨hon, -⟩ | ⟨-, hattach⟩
    · simp [hoff] at hon
    · rw [hattach]
      rfl
  have hstate : p = (q.attach.1.run session).1 := hp
  have hshots : q.shots (.attach :: session) = q.attach.1.shots session := rfl
  obtain ⟨hattached, hlast⟩ := run_session q.attach_isAttached hon
  rw [hreset, Option.or_none] at hlast
  rw [hstate, hshots]
  exact ⟨hattached, hlast⟩

/-- The interval of the gate and the rate never change. -/
lemma step_pace (p : Pipeline τ) (op : Operation τ) :
    (p.step op).1.gate.interval = p.gate.interval ∧ (p.step op).1.rate = p.rate := by
  cases op with
  | tick now =>
    rcases p.tick_cases now with ⟨rates, h⟩ | ⟨handle, -, -, -, h⟩ <;>
      rw [step, h] <;> exact ⟨rfl, rfl⟩
  | attach => rcases p.attach_cases with ⟨-, h⟩ | ⟨-, h⟩ <;> rw [step, h] <;> exact ⟨rfl, rfl⟩
  | detach => rcases p.detach_cases with ⟨-, h⟩ | ⟨-, h⟩ <;> rw [step, h] <;> exact ⟨rfl, rfl⟩
  | installTicks source =>
    rcases p.installTicks_cases source with ⟨-, h⟩ | ⟨-, h⟩ <;> rw [step, h] <;> exact ⟨rfl, rfl⟩
  | compile program backend =>
    rcases p.compile_cases program backend with ⟨-, h⟩ | ⟨-, -, h⟩ | ⟨fault, -, -, h⟩ <;>
      rw [step, h] <;> exact ⟨rfl, rfl⟩
  | drop => rcases p.detach_cases with ⟨-, h⟩ | ⟨-, h⟩ <;> rw [step, h] <;> exact ⟨rfl, rfl⟩
  | _ => exact ⟨rfl, rfl⟩

lemma run_pace (p : Pipeline τ) (ops : List (Operation τ)) :
    (p.run ops).1.gate.interval = p.gate.interval ∧ (p.run ops).1.rate = p.rate := by
  refine run_preserves (I := fun q => q.gate.interval = p.gate.interval ∧ q.rate = p.rate)
    (fun q op hq => ?_) ⟨rfl, rfl⟩ ops
  rw [(q.step_pace op).1, (q.step_pace op).2]
  exact hq

end Pipeline

end ShaderLoom
