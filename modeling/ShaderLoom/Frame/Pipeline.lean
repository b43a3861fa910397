import ShaderLoom.Frame.Clock
import ShaderLoom.Frame.Gate
import ShaderLoom.Frame.Rates
import ShaderLoom.Frame.Ticks
import ShaderLoom.Diagnostics.Fault
import ShaderLoom.Shader.Program

/-!
The rendering pipeline: one program, compiled at most once with success, and frames presented
at most at the target rate while the pipeline is attached.

A history of the pipeline is a list of operations. Each operation has events, in the order in
which they happen; the target, the tick sources and the diagnostics are reached only through
them.
-/

namespace ShaderLoom

/-- Where frames go. -/
structure Surface where
  width : UInt32
  height : UInt32
  drawable : Bool
  deriving DecidableEq, Repr

/-- The answer of a backend to a module: the fault with which it refuses it, if it does. -/
abbrev Backend := String → Option Fault

/-- How far compilation has come. -/
inductive Phase where
  | untried | compiling | ready | failed
  deriving DecidableEq, Repr

/-- What compilation has come to. A compiled program is known by the number of the request
that compiled it. -/
inductive Stage where
  | untried
  | ready (handle : Nat)
  | failed (fault : Fault)
  deriving DecidableEq, Repr

namespace Stage

def phase : Stage → Phase
  | untried => .untried
  | ready _ => .ready
  | failed _ => .failed

def handle? : Stage → Option Nat
  | ready handle => some handle
  | _ => none

def fault? : Stage → Option Fault
  | failed fault => some fault
  | _ => none

end Stage

/-- What a presented frame shows: the compiled program, the time since the pipeline was
attached, and the size of the surface. -/
structure Frame (τ : Type) where
  handle : Nat
  elapsed : τ
  width : UInt32
  height : UInt32
  deriving DecidableEq, Repr

inductive Outcome where
  | detached | notCompiled | throttled | noDrawable | presented
  deriving DecidableEq, Repr

inductive Event (τ : Type) where
  | rateRaised
  | uniformsMade
  | requested (source : String)
  | compiled (rate : Nat)
  | refused (fault : Fault)
  | ignored
  | attached (since : τ)
  | detached
  | started (serial : Nat) (rate : Nat)
  | stopped (serial : Nat)
  | presented (frame : Frame τ)

inductive Operation (τ : Type) where
  | attach
  | detach
  | resize (width height : UInt32)
  | setDrawable (on : Bool)
  | tick (now : τ)
  | setClock (now : τ)
  | advanceClock (dt : τ)
  | installTicks (source : TickSource)
  | compile (program : Program) (backend : Backend)
  | drop

/-- `handle` is the compiled program and `fault` the last refusal of a backend; `requests`
counts what the backend was asked to compile; `since` is the instant of the last attachment;
`serial` numbers the tick sources in the order in which they were installed, from zero. -/
structure Pipeline (τ : Type) [Timescale τ] where
  surface : Surface
  clock : ManualClock τ
  rate : Nat
  phase : Phase
  handle : Option Nat
  fault : Option Fault
  requests : Nat
  gate : Gate τ
  isAttached : Bool
  since : τ
  serial : Nat
  source : TickSource
  rates : Rates τ

namespace Pipeline

variable {τ : Type} [Timescale τ]

/-- Not compiled and not attached, with a tick source of its own. -/
def make (surface : Surface) (rate : UInt32) (now : τ) : Pipeline τ :=
  { surface := surface
    clock := ⟨now⟩
    rate := Gate.clampRate rate
    phase := .untried
    handle := none
    fault := none
    requests := 0
    gate := Gate.ofRate (Gate.clampRate rate)
    isAttached := false
    since := Timescale.zero
    serial := 0
    source := .idle
    rates := .empty }

def makeEvents (rate : UInt32) : List (Event τ) :=
  (if rate = 0 then [.rateRaised] else []) ++ [.uniformsMade]

/-- What compilation has come to, as the handle and the fault tell it. -/
def stage (p : Pipeline τ) : Stage :=
  match p.handle, p.fault with
  | some handle, _ => .ready handle
  | none, some fault => .failed fault
  | none, none => .untried

/-- When the next frame is due, while there is one to come. -/
def nextDue (p : Pipeline τ) : Option τ :=
  if !p.isAttached || p.handle.isNone then none else some (p.gate.nextDue.getD p.since)

/-- The frame that a tick would present. -/
def frameAt (p : Pipeline τ) (handle : Nat) (now : τ) : Frame τ :=
  ⟨handle, Timescale.clip (now - p.since), p.surface.width, p.surface.height⟩

def present (p : Pipeline τ) (now : τ) : Pipeline τ :=
  { p with
    rates := p.rates.record (p.gate.last.map (now - ·))
    gate := p.gate.mark now }

/-- What comes of a tick, the pipeline after it, and what happened. -/
def answer (p : Pipeline τ) (now : τ) : Outcome × Pipeline τ × List (Event τ) :=
  if p.isAttached then
    match p.handle with
    | none => (.notCompiled, p, [])
    | some handle =>
      if p.gate.isDue now then
        if p.surface.drawable then
          (.presented, p.present now, [.presented (p.frameAt handle now)])
        else (.noDrawable, { p with rates := p.rates.skip }, [])
      else (.throttled, { p with rates := p.rates.throttle }, [])
  else (.detached, p, [])

def outcome (p : Pipeline τ) (now : τ) : Outcome := (p.answer now).1

def tick (p : Pipeline τ) (now : τ) : Pipeline τ × List (Event τ) := (p.answer now).2

def attach (p : Pipeline τ) : Pipeline τ × List (Event τ) :=
  if p.isAttached then (p, [])
  else
    ({ p with
       isAttached := true
       since := p.clock.now
       gate := p.gate.reset
       source := p.source.start p.rate },
     [.started p.serial p.rate, .attached p.clock.now])

def detach (p : Pipeline τ) : Pipeline τ × List (Event τ) :=
  if p.isAttached then
    ({ p with isAttached := false, source := p.source.stop }, [.stopped p.serial, .detached])
  else (p, [])

/-- The old source is stopped before the new one is started. -/
def installTicks (p : Pipeline τ) (source : TickSource) : Pipeline τ × List (Event τ) :=
  if p.isAttached then
    ({ p with source := source.start p.rate, serial := p.serial + 1 },
     [.stopped p.serial, .started (p.serial + 1) p.rate])
  else ({ p with source := source, serial := p.serial + 1 }, [])

/-- A program that was compiled is never compiled again. -/
def compile (p : Pipeline τ) (program : Program) (backend : Backend) :
    Pipeline τ × List (Event τ) :=
  if p.phase = .ready then (p, [.ignored])
  else
    let source := program.moduleText
    let asked := { p with phase := .compiling, requests := p.requests + 1 }
    match backend source with
    | none =>
      ({ asked with phase := .ready, handle := some p.requests, fault := none },
       [.requested source, .compiled p.rate])
    | some fault =>
      ({ asked with phase := .failed, handle := none, fault := some fault },
       [.requested source, .refused fault])

def step (p : Pipeline τ) : Operation τ → Pipeline τ × List (Event τ)
  | .attach => p.attach
  | .detach => p.detach
  | .resize w h => ({ p with surface := { p.surface with width := w, height := h } }, [])
  | .setDrawable on => ({ p with surface := { p.surface with drawable := on } }, [])
  | .tick now => p.tick now
  | .setClock now => ({ p with clock := p.clock.set now }, [])
  | .advanceClock dt => ({ p with clock := p.clock.advance dt }, [])
  | .installTicks source => p.installTicks source
  | .compile program backend => p.compile program backend
  | .drop => p.detach

/-- The pipeline after a history, and everything that happened. -/
def run (p : Pipeline τ) : List (Operation τ) → Pipeline τ × List (Event τ)
  | [] => (p, [])
  | op :: ops =>
    let q := p.step op
    let r := run q.1 ops
    (r.1, q.2 ++ r.2)

@[simp] theorem run_nil (p : Pipeline τ) : p.run [] = (p, []) := rfl

@[simp] theorem run_cons (p : Pipeline τ) (op : Operation τ) (ops : List (Operation τ)) :
    p.run (op :: ops) =
      (((p.step op).1.run ops).1, (p.step op).2 ++ ((p.step op).1.run ops).2) := rfl

theorem run_append (p : Pipeline τ) (as bs : List (Operation τ)) :
    p.run (as ++ bs) = (((p.run as).1.run bs).1, (p.run as).2 ++ ((p.run as).1.run bs).2) := by
  induction as generalizing p with
  | nil => simp
  | cons a as ih => simp [ih, List.append_assoc]

end Pipeline

end ShaderLoom
