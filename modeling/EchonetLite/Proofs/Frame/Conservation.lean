import EchonetLite.Proofs.Frame.Boundary

/-! What enters a stream leaves it as frames, in order, or is still there. Reading and writing may
alternate in any way, and what fails moves no byte. -/

namespace EchonetLite

namespace Stream

inductive Action where
  | feed (bytes : Bytes)
  | next
  | last
  | write (m : Message)
deriving DecidableEq, Repr

inductive Reply where
  | fed
  | taken (result : Except Error (Option Message))
  | written (result : Except Error Unit)

def step (s : Stream) : Action → Reply × Stream
  | .feed bytes => (.fed, s.feed bytes)
  | .next => (.taken s.next.1, s.next.2)
  | .last => (.taken s.last.1, s.last.2)
  | .write m => (.written (s.write m).1, (s.write m).2)

def run : Stream → List Action → List (Action × Reply) × Stream
  | s, [] => ([], s)
  | s, action :: actions =>
    let (reply, s') := s.step action
    let (log, s'') := run s' actions
    ((action, reply) :: log, s'')

def entered : Action × Reply → Bytes
  | (.feed bytes, _) => bytes
  | (.write m, .written (.ok _)) => m.encode.toOption.getD []
  | _ => []

def departed : Reply → List Message
  | .taken (.ok (some m)) => [m]
  | _ => []

inductive Takes (s : Stream) : Except Error (Option Message) → Stream → Prop
  | frame {m : Message} {rest : Bytes} : m.Fits → s.buffer = m.wire ++ rest →
      Takes s (.ok (some m)) ⟨rest⟩
  | nothing {result : Except Error (Option Message)} : (∀ m, result ≠ .ok (some m)) →
      Takes s result s

lemma next_takes (s : Stream) : s.Takes s.next.1 s.next.2 := by
  rcases s.next_cases with ⟨m, rest, hm, hb, hn⟩ | ⟨_, -, -, hn⟩ | ⟨_, -, hn⟩
  · rw [hn]
    exact .frame hm hb
  · rw [hn]
    exact .nothing (by simp)
  · rw [hn]
    exact .nothing (by simp)

lemma last_takes (s : Stream) : s.Takes s.last.1 s.last.2 := by
  rcases s.next_cases with ⟨m, rest, hm, hb, hn⟩ | ⟨_, -, -, hn⟩ | ⟨_, -, hn⟩
  · simp only [last, hn]
    exact .frame hm hb
  · rw [last_of_incomplete hn]
    refine .nothing fun m => ?_
    dsimp only
    split <;> simp
  · simp only [last, hn]
    exact .nothing (by simp)

variable {s s' : Stream} {result : Except Error (Option Message)}

lemma Takes.stays (h : s.Takes result s') (hr : ∀ m, result ≠ .ok (some m)) : s' = s := by
  cases h with
  | frame _ _ => exact absurd rfl (hr _)
  | nothing _ => rfl

lemma Takes.departed_eq (h : s.Takes result s') :
    s.buffer = (departed (.taken result)).flatMap Message.wire ++ s'.buffer ∧
      ∀ m ∈ departed (.taken result), m.Fits := by
  cases h with
  | frame hm hb => exact ⟨by simpa [departed] using hb, by simpa [departed] using hm⟩
  | nothing hr =>
    have hd : departed (.taken result) = [] := by
      rcases result with _ | _ | m
      · rfl
      · rfl
      · exact absurd rfl (hr m)
    rw [hd]
    exact ⟨rfl, by simp⟩

lemma write_of_ok {m : Message} {frame : Bytes} (h : m.encode = .ok frame) :
    s.write m = (.ok (), ⟨s.buffer ++ frame⟩) := by
  simp only [write, h, feed]

lemma write_of_error {m : Message} {e : Error} (h : m.encode = .error e) :
    s.write m = (.error e, s) := by
  simp only [write, h]

lemma step_conserves (s : Stream) (action : Action) :
    s.buffer ++ entered (action, (s.step action).1) =
        (departed (s.step action).1).flatMap Message.wire ++ (s.step action).2.buffer ∧
      ∀ m ∈ departed (s.step action).1, m.Fits := by
  cases action with
  | feed bytes => exact ⟨rfl, by simp [step, departed]⟩
  | next => simpa [step, entered] using s.next_takes.departed_eq
  | last => simpa [step, entered] using s.last_takes.departed_eq
  | write m =>
    cases he : m.encode with
    | ok frame => simp [step, entered, departed, write_of_ok he, he, Except.toOption]
    | error e => simp [step, entered, departed, write_of_error he]

lemma run_departed (s : Stream) (actions : List Action) :
    s.buffer ++ (s.run actions).1.flatMap entered =
        ((s.run actions).1.flatMap (departed ·.2)).flatMap Message.wire ++
          (s.run actions).2.buffer ∧
      ∀ m ∈ (s.run actions).1.flatMap (departed ·.2), m.Fits := by
  induction actions generalizing s with
  | nil => simp [run]
  | cons action actions ih =>
    obtain ⟨hstep, hfits⟩ := s.step_conserves action
    obtain ⟨hrun, hfits'⟩ := ih (s.step action).2
    simp only [run, List.flatMap_cons, List.flatMap_append]
    constructor
    · rw [← List.append_assoc, hstep, List.append_assoc, hrun, List.append_assoc]
    · exact List.forall_mem_append.mpr ⟨hfits, hfits'⟩

/-- Along every run the bytes that were in the stream and those that entered it are the frames of
the messages that departed and what the stream still holds. A message that has no frame is not
written, and a step that fails, or finds no whole frame, changes nothing. -/
theorem run_conserves (s : Stream) (actions : List Action) :
    s.buffer ++ (s.run actions).1.flatMap entered =
        ((s.run actions).1.flatMap (departed ·.2)).flatMap Message.wire ++
          (s.run actions).2.buffer ∧
      (∀ m ∈ (s.run actions).1.flatMap (departed ·.2), m.encode = .ok m.wire) ∧
      (∀ (t : Stream) (m : Message) (frame : Bytes), m.encode = .ok frame →
        t.write m = (.ok (), ⟨t.buffer ++ frame⟩)) ∧
      (∀ (t : Stream) (m : Message) (e : Error), m.encode = .error e →
        t.write m = (.error e, t)) ∧
      (∀ t : Stream, (∀ m, t.next.1 ≠ .ok (some m)) → t.next.2 = t) ∧
      ∀ t : Stream, (∀ m, t.last.1 ≠ .ok (some m)) → t.last.2 = t := by
  obtain ⟨hb, hf⟩ := s.run_departed actions
  refine ⟨hb, ?_, fun _ _ _ => write_of_ok, fun _ _ _ => write_of_error,
    fun t => t.next_takes.stays, fun t => t.last_takes.stays⟩
  intro m hm
  exact Message.encode_eq_ok_iff.mpr ⟨hf m hm, rfl⟩

end Stream

end EchonetLite
