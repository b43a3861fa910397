import Mathlib.Data.List.Forall2
import Mathlib.Data.List.Induction
import ShaderLoom.Frame.Playback
import ShaderLoom.Proofs.Operations

/-!
What a presented frame shows.

A frame depends on three moments of the history: the attachment that opened the session, with
the clock as it was then, the last change of size, and the tick. Each of them is read off the
list of operations, without the pipeline, and the frame is compared with that.
-/

namespace ShaderLoom

/-! ### Words as bytes -/

namespace Number

/-- The four bytes of a word, the one of least weight first. -/
def littleEndian (w : UInt32) : List UInt8 :=
  (List.range 4).map fun i => UInt8.ofNat (w.toNat >>> (8 * i))

lemma toUInt8_shiftRight (w k : UInt32) (hk : k.toNat < 32) :
    (w >>> k).toUInt8 = UInt8.ofNat (w.toNat >>> k.toNat) := by
  apply UInt8.toNat_inj.mp
  rw [UInt32.toNat_toUInt8, UInt32.toNat_shiftRight, UInt8.toNat_ofNat', Nat.mod_eq_of_lt hk]

/-- The bits of a word are those of its bytes, each in its place. -/
lemma or_bytes (w : BitVec 32) :
    (w.setWidth 8).setWidth 32 ||| ((w >>> 8).setWidth 8).setWidth 32 <<< 8 |||
      ((w >>> 16).setWidth 8).setWidth 32 <<< 16 ||| ((w >>> 24).setWidth 8).setWidth 32 <<< 24 =
      w := by
  ext i hi
  -- each bit belongs to one of the bytes, and to no other
  have hplace : i < 8 ∨ (8 ≤ i ∧ i < 16) ∨ (16 ≤ i ∧ i < 24) ∨ 24 ≤ i := by omega
  rcases hplace with h | h | h | h <;> simp <;> grind

namespace Binary32

lemma bytes_eq_littleEndian (x : Binary32) : x.bytes = littleEndian x.bits := by
  have h0 : x.bits.toUInt8 = UInt8.ofNat (x.bits.toNat >>> 0) := by simp
  have h1 := toUInt8_shiftRight x.bits 8 (by decide)
  have h2 := toUInt8_shiftRight x.bits 16 (by decide)
  have h3 := toUInt8_shiftRight x.bits 24 (by decide)
  rw [bytes, h0, h1, h2, h3]
  rfl

lemma ofBytes_bytes (x : Binary32) :
    ofBytes x.bits.toUInt8 (x.bits >>> 8).toUInt8 (x.bits >>> 16).toUInt8
      (x.bits >>> 24).toUInt8 = x := by
  have h : (ofBytes x.bits.toUInt8 (x.bits >>> 8).toUInt8 (x.bits >>> 16).toUInt8
      (x.bits >>> 24).toUInt8).bits.toBitVec = x.bits.toBitVec := or_bytes x.bits.toBitVec
  exact congrArg Binary32.mk (UInt32.toBitVec_inj.mp h)

end Binary32

/-- The larger of two numbers, and the other one where one of them is none. -/
def larger (x y : Float) : Float :=
  if x.isNaN then y else if y.isNaN then x else if y < x then x else y

lemma compare_notANumber (u : Float.Model.UnpackedFloat) : u.compare .notANumber = none := by
  cases u with
  | infinity sign => cases sign <;> rfl
  | finite sign => cases sign <;> rfl
  | _ => rfl

/-- Nothing is smaller than what is not a number. -/
lemma not_lt_of_isNaN {x : Float} (h : x.isNaN = true) (y : Float) : ¬y < x := by
  have hx : x.toModel.unpack = .notANumber := by
    have hnan : x.toModel.unpack.isNaN = true := h
    cases hu : x.toModel.unpack with
    | notANumber => rfl
    | _ => rw [hu] at hnan; cases hnan
  intro hlt
  have hless : (y.toModel.unpack.compare x.toModel.unpack == some .lt) = true :=
    of_decide_eq_true hlt
  rw [hx, compare_notANumber] at hless
  cases hless

lemma clip_eq_larger (x : Float) : Timescale.clip x = larger x 0 := by
  have hzero : (0 : Float).isNaN = false := by decide
  have hclip : Timescale.clip x = if 0 < x then x else 0 := rfl
  rw [hclip, larger, hzero]
  cases hx : x.isNaN with
  | true => rw [if_neg (not_lt_of_isNaN hx 0), if_pos rfl]
  | false => rfl

end Number

open Number

namespace Uniforms

/-- The uniforms in memory. -/
lemma bytes_eq_littleEndian (u : Uniforms) :
    u.bytes = littleEndian u.time.bits ++ [0, 0, 0, 0] ++ littleEndian u.width.bits ++
      littleEndian u.height.bits := by
  rw [bytes, Binary32.bytes_eq_littleEndian, Binary32.bytes_eq_littleEndian,
    Binary32.bytes_eq_littleEndian]

/-- Reading back what was stored gives the same bits. -/
lemma ofBytes_bytes (u : Uniforms) : ofBytes? u.bytes = some u := by
  have h : ofBytes? u.bytes = some
      ⟨.ofBytes u.time.bits.toUInt8 (u.time.bits >>> 8).toUInt8 (u.time.bits >>> 16).toUInt8
        (u.time.bits >>> 24).toUInt8,
       .ofBytes u.width.bits.toUInt8 (u.width.bits >>> 8).toUInt8 (u.width.bits >>> 16).toUInt8
        (u.width.bits >>> 24).toUInt8,
       .ofBytes u.height.bits.toUInt8 (u.height.bits >>> 8).toUInt8
        (u.height.bits >>> 16).toUInt8 (u.height.bits >>> 24).toUInt8⟩ := rfl
  rw [h, Binary32.ofBytes_bytes, Binary32.ofBytes_bytes, Binary32.ofBytes_bytes]

end Uniforms

/-! ### Histories -/

section Histories

variable {τ : Type}

/-- The size that an operation gives to the surface. -/
def Operation.size? : Operation τ → Option (UInt32 × UInt32)
  | .resize width height => some (width, height)
  | _ => none

/-- The size that was given last, or the first one. -/
def sizeAfter (surface : Surface) (ops : List (Operation τ)) : UInt32 × UInt32 :=
  (ops.filterMap Operation.size?).getLastD (surface.width, surface.height)

variable [Timescale τ]

/-- What the clock of a pipeline shows after an operation, if it showed `t` before. -/
def Operation.reading (t : τ) : Operation τ → τ
  | .setClock now => now
  | .advanceClock dt => t + dt
  | _ => t

/-- What the clock shows after a history. -/
def readingAfter (start : τ) (ops : List (Operation τ)) : τ := ops.foldl Operation.reading start

end Histories

namespace Pipeline

variable {τ : Type} [Timescale τ]

/-- Width and height of the surface. -/
def size (p : Pipeline τ) : UInt32 × UInt32 := (p.surface.width, p.surface.height)

/-- Only a resize changes the size, and only what is done to the clock changes what it shows. -/
lemma step_inputs (p : Pipeline τ) (op : Operation τ) :
    (p.step op).1.size = op.size?.getD p.size ∧
      (p.step op).1.clock.now = op.reading p.clock.now := by
  cases op with
  | attach => rcases p.attach_cases with ⟨-, h⟩ | ⟨-, h⟩ <;> rw [step, h] <;> exact ⟨rfl, rfl⟩
  | detach => rcases p.detach_cases with ⟨-, h⟩ | ⟨-, h⟩ <;> rw [step, h] <;> exact ⟨rfl, rfl⟩
  | drop => rcases p.detach_cases with ⟨-, h⟩ | ⟨-, h⟩ <;> rw [step, h] <;> exact ⟨rfl, rfl⟩
  | installTicks source =>
    rcases p.installTicks_cases source with ⟨-, h⟩ | ⟨-, h⟩ <;> rw [step, h] <;> exact ⟨rfl, rfl⟩
  | compile program backend =>
    rcases p.compile_cases program backend with ⟨-, h⟩ | ⟨-, -, h⟩ | ⟨fault, -, -, h⟩ <;>
      rw [step, h] <;> exact ⟨rfl, rfl⟩
  | tick now =>
    rcases p.tick_cases now with ⟨rates, h⟩ | ⟨handle, -, -, -, h⟩ <;> rw [step, h] <;>
      exact ⟨rfl, rfl⟩
  | _ => exact ⟨rfl, rfl⟩

/-- The surface has the size of the last change, whether the pipeline was attached or not. -/
lemma run_size (p : Pipeline τ) (ops : List (Operation τ)) :
    (p.run ops).1.size = sizeAfter p.surface ops := by
  unfold sizeAfter
  change _ = (ops.filterMap Operation.size?).getLastD p.size
  induction ops generalizing p with
  | nil => rfl
  | cons op ops ih =>
    rw [run_cons, ih, (p.step_inputs op).1]
    cases hop : op.size? with
    | none => rw [List.filterMap_cons_none hop, Option.getD_none]
    | some size => rw [List.filterMap_cons_some hop, List.getLastD_cons, Option.getD_some]

lemma run_clock (p : Pipeline τ) (ops : List (Operation τ)) :
    (p.run ops).1.clock.now = readingAfter p.clock.now ops := by
  induction ops generalizing p with
  | nil => rfl
  | cons op ops ih => rw [run_cons, ih, (p.step_inputs op).2]; rfl

/-! ### The attachment that opened the session -/

/-- Only an attachment attaches, and it takes the time that the clock shows. -/
lemma step_opens {p : Pipeline τ} {op : Operation τ} (hoff : p.isAttached = false)
    (h : (p.step op).1.isAttached = true) :
    op = .attach ∧ (p.step op).1.since = p.clock.now := by
  cases op with
  | attach =>
    rcases p.attach_cases with ⟨hon, -⟩ | ⟨-, hp⟩
    · simp [hoff] at hon
    · exact ⟨rfl, by rw [step, hp]⟩
  | detach => rcases p.detach_cases with ⟨-, hp⟩ | ⟨-, hp⟩ <;> simp [step, hp, hoff] at h
  | drop => rcases p.detach_cases with ⟨-, hp⟩ | ⟨-, hp⟩ <;> simp [step, hp, hoff] at h
  | installTicks source =>
    rcases p.installTicks_cases source with ⟨-, hp⟩ | ⟨hon, -⟩
    · simp [step, hp, hoff] at h
    · simp [hoff] at hon
  | compile program backend =>
    rcases p.compile_cases program backend with ⟨-, hp⟩ | ⟨-, -, hp⟩ | ⟨fault, -, -, hp⟩ <;>
      simp [step, hp, hoff] at h
  | tick now =>
    rcases p.tick_cases now with ⟨rates, hp⟩ | ⟨handle, hon, -⟩
    · simp [step, hp, hoff] at h
    · simp [hoff] at hon
  | _ => simp [step, hoff] at h

/-- What ends a session detaches. -/
lemma step_ends {p : Pipeline τ} {op : Operation τ} (h : op.endsSession = true) :
    (p.step op).1.isAttached = false := by
  cases op with
  | detach => exact p.detach_isAttached
  | drop => exact p.detach_isAttached
  | _ => cases h

/-- While a pipeline is attached, some attachment of the history took effect, no session has
ended since, and the time of the session is what the clock showed at that attachment. -/
lemma run_opened {p : Pipeline τ} (hoff : p.isAttached = false) {ops : List (Operation τ)}
    (hon : (p.run ops).1.isAttached = true) :
    ∃ before session, ops = before ++ .attach :: session ∧ (p.run before).1.isAttached = false ∧
      (∀ op ∈ session, op.endsSession = false) ∧
      (p.run ops).1.since = readingAfter p.clock.now before := by
  -- by the last operation: it opened the session, or it came later in the same one
  induction ops using List.reverseRecOn with
  | nil => simp [hoff] at hon
  | append_singleton ops op ih =>
    rw [run_snoc] at hon ⊢
    cases hbefore : (p.run ops).1.isAttached with
    | false =>
      obtain ⟨rfl, hsince⟩ := step_opens hbefore hon
      exact ⟨ops, [], rfl, hbefore, by simp, by rw [hsince, run_clock]⟩
    | true =>
      obtain ⟨before, session, rfl, hstart, hsession, hsince⟩ := ih hbefore
      have hop : op.endsSession = false := by
        cases hends : op.endsSession with
        | false => rfl
        | true => rw [step_ends hends] at hon; cases hon
      refine ⟨before, session ++ [op], by simp, hstart, ?_, ?_⟩
      · intro o ho
        rcases List.mem_append.mp ho with ho | ho
        · exact hsession o ho
        · rwa [List.mem_singleton.mp ho]
      · rw [(step_session hbefore hop).2.1, hsince]

/-! ### Frames -/

/-- The history before an operation and its instant, if it is a tick that presents a frame. -/
def presentation? (p : Pipeline τ) (done : List (Operation τ)) :
    Operation τ → Option (List (Operation τ) × τ)
  | .tick now => if (p.run done).1.outcome now = .presented then some (done, now) else none
  | _ => none

/-- The ticks of a history that present a frame, each with what happened before it. -/
def presentations (p : Pipeline τ) (done : List (Operation τ)) :
    List (Operation τ) → List (List (Operation τ) × τ)
  | [] => []
  | op :: ops => (p.presentation? done op).toList ++ presentations p (done ++ [op]) ops

/-- A tick presents a frame and says so, or does neither. -/
lemma outcome_cases (p : Pipeline τ) (now : τ) :
    (p.outcome now ≠ .presented ∧ p.shotsOf (.tick now) = []) ∨
    ∃ handle, p.isAttached = true ∧ p.outcome now = .presented ∧
      p.shotsOf (.tick now) = [⟨now, p.frameAt handle now⟩] := by
  rcases p.answer_cases now with ⟨-, h⟩ | ⟨-, -, h⟩ | ⟨handle, hon, -, hc⟩
  · exact .inl (by simp [outcome, shotsOf, tick, h])
  · exact .inl (by simp [outcome, shotsOf, tick, h])
  · rcases hc with ⟨-, h⟩ | ⟨-, -, h⟩ | ⟨-, -, h⟩
    · exact .inl (by simp [outcome, shotsOf, tick, h])
    · exact .inl (by simp [outcome, shotsOf, tick, h])
    · exact .inr ⟨handle, hon, by simp [outcome, h], by simp [shotsOf, tick, h]⟩

end Pipeline

/-- What a frame shows that was presented at `now`, after the history `done` of a pipeline made
at `start`. -/
structure Depicts (surface : Surface) (rate : UInt32) (start : Float)
    (done : List (Operation Float)) (now : Float) (frame : Frame Float) : Prop where
  /-- The time since the attachment that opened the session, by the clock of that moment. -/
  time : ∃ before session, done = before ++ .attach :: session ∧
    ((Pipeline.make surface rate start).run before).1.isAttached = false ∧
    (∀ op ∈ session, op.endsSession = false) ∧
    frame.uniforms.time = .ofFloat (larger (now - readingAfter start before) 0)
  /-- The size given last. -/
  width : frame.uniforms.width = .ofUInt32 (sizeAfter surface done).1
  height : frame.uniforms.height = .ofUInt32 (sizeAfter surface done).2
  /-- The layout in memory. -/
  stored : frame.uniforms.bytes =
    littleEndian frame.uniforms.time.bits ++ [0, 0, 0, 0] ++
      littleEndian frame.uniforms.width.bits ++ littleEndian frame.uniforms.height.bits
  sixteen : frame.uniforms.bytes.length = Uniforms.size
  restored : Uniforms.ofBytes? frame.uniforms.bytes = some frame.uniforms

namespace Pipeline

lemma depicts_frameAt (surface : Surface) (rate : UInt32) (start : Float)
    {done : List (Operation Float)} {p : Pipeline Float}
    (hp : p = ((make surface rate start).run done).1) (hon : p.isAttached = true)
    (handle : Nat) (now : Float) :
    Depicts surface rate start done now (p.frameAt handle now) := by
  have hsize : p.size = sizeAfter surface done := by rw [hp, run_size]; rfl
  rw [hp] at hon
  obtain ⟨before, session, hdone, hstart, hsession, hsince⟩ := run_opened rfl hon
  rw [← hp] at hsince
  refine ⟨⟨before, session, hdone, hstart, hsession, ?_⟩, ?_, ?_,
    Uniforms.bytes_eq_littleEndian _, rfl, Uniforms.ofBytes_bytes _⟩
  · change Binary32.ofFloat (Timescale.clip (now - p.since)) = _
    rw [clip_eq_larger, hsince]
    rfl
  · rw [← hsize]
    rfl
  · rw [← hsize]
    rfl

lemma frames_presentations (surface : Surface) (rate : UInt32) (start : Float)
    (done ops : List (Operation Float)) :
    List.Forall₂ (fun moment frame => Depicts surface rate start moment.1 moment.2 frame)
      ((make surface rate start).presentations done ops)
      ((((make surface rate start).run done).1.shots ops).map Shot.frame) := by
  induction ops generalizing done with
  | nil => exact .nil
  | cons op ops ih =>
    have hrest := ih (done ++ [op])
    rw [run_snoc] at hrest
    rw [presentations, shots, List.map_append]
    refine List.rel_append ?_ hrest
    cases op with
    | tick now =>
      rcases ((make surface rate start).run done).1.outcome_cases now with
        ⟨hnot, hshot⟩ | ⟨handle, hon, hout, hshot⟩
      · rw [presentation?, if_neg hnot, hshot]
        exact .nil
      · rw [presentation?, if_pos hout, hshot]
        exact .cons (depicts_frameAt surface rate start rfl hon handle now) .nil
    | _ => exact .nil

/-- **Content of frames**: the target receives one frame for each tick that says it presented
one, in that order, and each shows the time since the attachment that opened its session and the
size given last. -/
theorem frame_contents (surface : Surface) (rate : UInt32) (start : Float)
    (ops : List (Operation Float)) :
    List.Forall₂ (fun moment frame => Depicts surface rate start moment.1 moment.2 frame)
      ((make surface rate start).presentations [] ops)
      (((make surface rate start).run ops).2.filterMap Event.frame?) := by
  rw [frames_run]
  exact frames_presentations surface rate start [] ops

/-- Two seconds after the attachment, on eight by six points. -/
example :
    let ops : List (Operation Float) :=
      [.setClock 3, .attach, .setClock 4, .compile ⟨"a"⟩ fun _ => none, .tick 5]
    let events := ((make ⟨8, 6, true⟩ 10 (0 : Float)).run ops).2
    (events.filterMap Event.frame?).map (·.uniforms.bytes) =
      [[0, 0, 0, 0x40, 0, 0, 0, 0, 0, 0, 0, 0x41, 0, 0, 0xc0, 0x40]] := by
  decide +kernel

end Pipeline

end ShaderLoom
