import ShaderLoom.Proofs.Operations

/-!
Which tick sources run.

The tick sources of a pipeline are numbered in the order in which they were installed. An event
is a signal to one of them at most. Each source is started and stopped by turns, and what runs
after a history is the source installed last, if the pipeline is attached, and nothing else.
-/

namespace ShaderLoom

/-! ### Signals -/

/-- What a tick source is told. -/
inductive Signal where
  | start (rate : Nat)
  | stop
  deriving DecidableEq, Repr

namespace Signal

/-- Starts at one rate and stops by turns, beginning with a start. The flag tells whether a
start came last. -/
inductive Turns (rate : Nat) : Bool → List Signal → Prop
  | silent : Turns rate false []
  | start {signals : List Signal} :
      Turns rate false signals → Turns rate true (signals ++ [.start rate])
  | stop {signals : List Signal} :
      Turns rate true signals → Turns rate false (signals ++ [.stop])

end Signal

namespace TickSource

/-- A source after a signal. -/
def hear (s : TickSource) : Signal → TickSource
  | .start rate => s.start rate
  | .stop => s.stop

def hearAll (s : TickSource) (signals : List Signal) : TickSource := signals.foldl hear s

/-- A source that was not running runs after signals by turns if a start came last. -/
lemma running_hearAll {s : TickSource} (hs : s.running = false) {rate : Nat} {on : Bool}
    {signals : List Signal} (h : Signal.Turns rate on signals) :
    (s.hearAll signals).running = on := by
  cases h with
  | silent => exact hs
  | start => rw [hearAll, List.foldl_append]; rfl
  | stop => rw [hearAll, List.foldl_append]; rfl

end TickSource

section Signals

variable {τ : Type}

/-- The signal that an event is to the tick source of this number. -/
def Event.signal? (k : Nat) : Event τ → Option Signal
  | started serial rate => if serial = k then some (.start rate) else none
  | stopped serial => if serial = k then some .stop else none
  | _ => none

/-- What the tick source of this number is told in the course of the events. -/
def signals (k : Nat) (events : List (Event τ)) : List Signal := events.filterMap (Event.signal? k)

lemma signals_append (k : Nat) (xs ys : List (Event τ)) :
    signals k (xs ++ ys) = signals k xs ++ signals k ys := List.filterMap_append

lemma signals_started (k serial rate : Nat) :
    signals k [(.started serial rate : Event τ)] = if serial = k then [.start rate] else [] := by
  by_cases h : serial = k <;> simp [signals, Event.signal?, h]

lemma signals_stopped (k serial : Nat) :
    signals k [(.stopped serial : Event τ)] = if serial = k then [.stop] else [] := by
  by_cases h : serial = k <;> simp [signals, Event.signal?, h]

/-- The tick source that an operation installs. -/
def Operation.source? : Operation τ → Option TickSource
  | .installTicks source => some source
  | _ => none

/-- The tick sources that a pipeline has had after a history, by their numbers. The first one is
its own. -/
def installed (ops : List (Operation τ)) : List TickSource :=
  .idle :: ops.filterMap Operation.source?

end Signals

/-- The source of this number is the one that runs, if any does: it has been started last, every
other source is stopped, and those that come after it have been told nothing. -/
structure Told {τ : Type} (rate serial : Nat) (on : Bool) (events : List (Event τ)) : Prop where
  turns : ∀ k, Signal.Turns rate (on && k == serial) (signals k events)
  unheard : ∀ k, serial < k → signals k events = []

namespace Told

variable {τ : Type} {rate serial : Nat} {on : Bool} {events : List (Event τ)}

lemma nil (rate : Nat) : Told rate 0 false ([] : List (Event τ)) :=
  ⟨fun _ => .silent, fun _ _ => rfl⟩

/-- Events that are no signals change nothing. -/
lemma quiet (h : Told rate serial on events) (more : List (Event τ))
    (hmore : ∀ k, signals k more = []) : Told rate serial on (events ++ more) := by
  have hsame : ∀ k, signals k (events ++ more) = signals k events := fun k => by
    rw [signals_append, hmore, List.append_nil]
  refine ⟨fun k => ?_, fun k hk => ?_⟩
  · rw [hsame]
    exact h.turns k
  · rw [hsame]
    exact h.unheard k hk

lemma start (h : Told rate serial false events) :
    Told rate serial true (events ++ [.started serial rate]) := by
  refine ⟨fun k => ?_, fun k hk => ?_⟩
  · have hold := h.turns k
    rw [Bool.false_and] at hold
    rw [signals_append, signals_started, Bool.true_and]
    by_cases hk : serial = k
    · rw [if_pos hk, beq_iff_eq.mpr hk.symm]
      exact .start hold
    · rw [if_neg hk, List.append_nil, beq_eq_false_iff_ne.mpr (Ne.symm hk)]
      exact hold
  · rw [signals_append, signals_started, h.unheard k hk, if_neg (Nat.ne_of_lt hk), List.nil_append]

lemma stop (h : Told rate serial true events) :
    Told rate serial false (events ++ [.stopped serial]) := by
  refine ⟨fun k => ?_, fun k hk => ?_⟩
  · have hold := h.turns k
    rw [Bool.true_and] at hold
    rw [signals_append, signals_stopped, Bool.false_and]
    by_cases hk : serial = k
    · rw [beq_iff_eq.mpr hk.symm] at hold
      rw [if_pos hk]
      exact .stop hold
    · rw [beq_eq_false_iff_ne.mpr (Ne.symm hk)] at hold
      rw [if_neg hk, List.append_nil]
      exact hold
  · rw [signals_append, signals_stopped, h.unheard k hk, if_neg (Nat.ne_of_lt hk), List.nil_append]

/-- While no source runs, the next one can take its place. -/
lemma next (h : Told rate serial false events) : Told rate (serial + 1) false events :=
  ⟨fun k => by simpa using h.turns k, fun k hk => h.unheard k (Nat.lt_of_succ_lt hk)⟩

end Told

/-! ### Runs -/

namespace Pipeline

variable {τ : Type} [Timescale τ] {rate : Nat} {sources : List TickSource} {events : List (Event τ)}
  {p : Pipeline τ}

/-- How a pipeline stands to the tick sources it has had, after the events. -/
structure TicksKept (rate : Nat) (sources : List TickSource) (events : List (Event τ))
    (p : Pipeline τ) : Prop where
  paced : p.rate = rate
  numbered : sources.length = p.serial + 1
  current : p.source.running = p.isAttached
  told : Told rate p.serial p.isAttached events

namespace TicksKept

/-- A source that was not running when it was installed runs after its signals exactly if it is
the last one and the pipeline is attached. -/
lemma running (h : TicksKept rate sources events p) (hidle : ∀ s ∈ sources, s.running = false)
    {k : Nat} {source : TickSource} (hk : sources[k]? = some source) :
    (source.hearAll (signals k events)).running = (p.isAttached && k == p.serial) :=
  TickSource.running_hearAll (hidle source (List.mem_of_getElem? hk)) (h.told.turns k)

lemma detach (h : TicksKept rate sources events p) :
    TicksKept rate sources (events ++ p.detach.2) p.detach.1 := by
  rcases p.detach_cases with ⟨-, hp⟩ | ⟨hon, hp⟩ <;> rw [hp]
  · rwa [List.append_nil]
  · have htold := h.told
    rw [hon] at htold
    have hstop := htold.stop.quiet [.detached] fun _ => rfl
    rw [List.append_assoc] at hstop
    exact ⟨h.paced, h.numbered, rfl, hstop⟩

/-- A source takes the place of another. While the pipeline is attached the old one is stopped
first, and then the new one is started. -/
lemma installTicks (h : TicksKept rate sources events p) {source : TickSource}
    (hidle : source.running = false) :
    TicksKept rate (sources ++ [source]) (events ++ (p.installTicks source).2)
      (p.installTicks source).1 := by
  have hnumbered : (sources ++ [source]).length = p.serial + 1 + 1 := by
    rw [List.length_append, h.numbered, List.length_singleton]
  have htold := h.told
  rcases p.installTicks_cases source with ⟨hoff, hp⟩ | ⟨hon, hp⟩ <;> rw [hp]
  · rw [hoff] at htold
    rw [List.append_nil]
    refine ⟨h.paced, hnumbered, ?_, ?_⟩
    · rw [hoff]
      exact hidle
    · rw [hoff]
      exact htold.next
  · rw [hon] at htold
    have hstart := htold.stop.next.start
    rw [List.append_assoc] at hstart
    refine ⟨h.paced, hnumbered, ?_, ?_⟩
    · rw [hon]
      rfl
    · rw [hon, h.paced]
      exact hstart

lemma attach (h : TicksKept rate sources events p) :
    TicksKept rate sources (events ++ p.attach.2) p.attach.1 := by
  rcases p.attach_cases with ⟨-, hp⟩ | ⟨hoff, hp⟩ <;> rw [hp]
  · rwa [List.append_nil]
  · have htold := h.told
    rw [hoff] at htold
    have hstart := htold.start.quiet [.attached p.clock.now] fun _ => rfl
    rw [List.append_assoc] at hstart
    refine ⟨h.paced, h.numbered, rfl, ?_⟩
    rw [h.paced]
    exact hstart

/-- What leaves the tick sources alone and sends no signal. -/
lemma unmoved (h : TicksKept rate sources events p) {q : Pipeline τ} {more : List (Event τ)}
    (hq : q.rate = p.rate ∧ q.serial = p.serial ∧ q.source = p.source ∧
      q.isAttached = p.isAttached) (hmore : ∀ k, signals k more = []) :
    TicksKept rate sources (events ++ more) q := by
  obtain ⟨hrate, hserial, hsource, hattached⟩ := hq
  refine ⟨?_, ?_, ?_, ?_⟩
  · rw [hrate, h.paced]
  · rw [hserial, h.numbered]
  · rw [hsource, hattached, h.current]
  · rw [hserial, hattached]
    exact h.told.quiet more hmore

/-- Operations preserve it, as long as no source runs when it is installed. -/
lemma step (h : TicksKept rate sources events p) {op : Operation τ}
    (hidle : ∀ s ∈ op.source?, s.running = false) :
    TicksKept rate (sources ++ op.source?.toList) (events ++ (p.step op).2) (p.step op).1 := by
  cases op with
  | installTicks source => exact h.installTicks (hidle source rfl)
  | attach => exact (List.append_nil sources).symm ▸ h.attach
  | detach => exact (List.append_nil sources).symm ▸ h.detach
  | drop => exact (List.append_nil sources).symm ▸ h.detach
  | tick now =>
    change TicksKept rate (sources ++ []) _ _
    rw [List.append_nil]
    rcases p.tick_cases now with ⟨rates, hp⟩ | ⟨handle, -, -, -, hp⟩ <;>
      rw [Pipeline.step, hp] <;> exact h.unmoved ⟨rfl, rfl, rfl, rfl⟩ fun _ => rfl
  | compile program backend =>
    change TicksKept rate (sources ++ []) _ _
    rw [List.append_nil]
    rcases p.compile_cases program backend with ⟨-, hp⟩ | ⟨-, -, hp⟩ | ⟨fault, -, -, hp⟩ <;>
      rw [Pipeline.step, hp] <;> exact h.unmoved ⟨rfl, rfl, rfl, rfl⟩ fun _ => rfl
  -- what changes the clock or the surface sends no signal
  | _ =>
    change TicksKept rate (sources ++ []) _ _
    rw [List.append_nil]
    exact h.unmoved ⟨rfl, rfl, rfl, rfl⟩ fun _ => rfl

/-- And so do histories. -/
lemma run (h : TicksKept rate sources events p) {ops : List (Operation τ)}
    (hidle : ∀ op ∈ ops, ∀ s ∈ op.source?, s.running = false) :
    TicksKept rate (sources ++ ops.filterMap Operation.source?) (events ++ (p.run ops).2)
      (p.run ops).1 := by
  induction ops generalizing p sources events with
  | nil => simpa using h
  | cons op ops ih =>
    have hstep := h.step (hidle op (by simp))
    have hrest := ih hstep fun o ho => hidle o (by simp [ho])
    have hsources : sources ++ (op :: ops).filterMap Operation.source? =
        sources ++ op.source?.toList ++ ops.filterMap Operation.source? := by
      cases hop : op.source? <;> simp [hop]
    rw [hsources, run_cons, ← List.append_assoc]
    exact hrest

end TicksKept

lemma ticksKept_make (surface : Surface) (rate : UInt32) (start : τ) :
    TicksKept (Gate.clampRate rate) (installed ([] : List (Operation τ))) []
      (make surface rate start) :=
  ⟨rfl, rfl, rfl, .nil _⟩

/-- **Tick sources**: every source a pipeline has had is started and stopped by turns, at the
rate that was asked for or at one if that was zero, and runs after a history if it was installed
last and the pipeline is attached. In an exchange the old source is stopped before the new one is
started; a dropped pipeline leaves none running, and says nothing if it was detached. -/
theorem tick_source_discipline (surface : Surface) (rate : UInt32) (start : τ)
    {ops : List (Operation τ)} {p : Pipeline τ} {events : List (Event τ)}
    (hrun : (make surface rate start).run ops = (p, events))
    (hidle : ∀ op ∈ ops, ∀ source ∈ op.source?, source.running = false) :
    (p.rate = max rate.toNat 1 ∧ 1 ≤ p.rate) ∧
      (installed ops).length = p.serial + 1 ∧
      p.source.running = p.isAttached ∧
      (∀ k, Signal.Turns (max rate.toNat 1) (p.isAttached && k == p.serial)
        (signals k events)) ∧
      (∀ k (source : TickSource), (installed ops)[k]? = some source →
        (source.hearAll (signals k events)).running = (p.isAttached && k == p.serial)) ∧
      (p.isAttached = true → ∀ source, (p.step (.installTicks source)).2 =
        [.stopped p.serial, .started (p.serial + 1) (max rate.toNat 1)]) ∧
      (∀ k, Signal.Turns (max rate.toNat 1) false (signals k (events ++ (p.step .drop).2))) ∧
      (∀ k (source : TickSource), (installed ops)[k]? = some source →
        (source.hearAll (signals k (events ++ (p.step .drop).2))).running = false) ∧
      (p.isAttached = false → (p.step .drop).2 = []) := by
  have hkept : TicksKept (max rate.toNat 1) _ _ _ :=
    (ticksKept_make surface rate start).run hidle
  rw [hrun, List.nil_append] at hkept
  have hsources : ∀ s ∈ installed ops, s.running = false := by
    intro s hs
    rcases List.mem_cons.mp hs with rfl | hs
    · rfl
    · obtain ⟨op, hop, hs⟩ := List.mem_filterMap.mp hs
      exact hidle op hop s hs
  -- a pipeline that is dropped detaches, and that is all it does
  have hdropped := hkept.detach
  have hoff := p.detach_isAttached
  have hpos : 1 ≤ p.rate := hkept.paced ▸ Gate.clampRate_pos rate
  refine ⟨⟨hkept.paced, hpos⟩, hkept.numbered, hkept.current, hkept.told.turns,
    fun k source => hkept.running hsources, fun hon source => ?_, fun k => ?_,
    fun k source hk => ?_, fun hoff' => ?_⟩
  · rcases p.installTicks_cases source with ⟨hoff', -⟩ | ⟨-, hp⟩
    · simp [hon] at hoff'
    · rw [step, hp, hkept.paced]
  · have hturns := hdropped.told.turns k
    rwa [hoff, Bool.false_and] at hturns
  · have hstill := hdropped.running hsources hk
    rwa [hoff, Bool.false_and] at hstill
  · rcases p.detach_cases with ⟨-, hp⟩ | ⟨hon, -⟩
    · rw [step, hp]
    · simp [hoff'] at hon

/-- A source is exchanged while the pipeline is attached and while it is not, between
attachments and detachments that come twice. -/
def exchanges : List (Operation Float) :=
  [.attach, .attach, .installTicks ⟨false, some 9⟩, .detach, .detach, .installTicks .idle,
    .attach, .tick 1, .installTicks .idle]

theorem tick_source_discipline_exchanges :
    let r := (make ⟨8, 6, true⟩ 0 (0 : Float)).run exchanges
    (List.range 4).map (fun k => signals k r.2) =
        [[.start 1, .stop], [.start 1, .stop], [.start 1, .stop], [.start 1]] ∧
      (∀ k, Signal.Turns 1 (r.1.isAttached && k == r.1.serial) (signals k r.2)) ∧
      ∀ k, Signal.Turns 1 false (signals k (r.2 ++ (r.1.step .drop).2)) := by
  intro r
  have hidle : ∀ op ∈ exchanges, ∀ source ∈ op.source?, source.running = false := by decide
  obtain ⟨-, -, -, hturns, -, -, hdropped, -⟩ :=
    @tick_source_discipline Float _ ⟨8, 6, true⟩ 0 0 exchanges r.1 r.2 rfl hidle
  exact ⟨by decide +kernel, hturns, hdropped⟩

end Pipeline

end ShaderLoom
