import EchonetLite.Frame.Stream
import EchonetLite.Proofs.Frame.RoundTrip

/-! A stream buffer and a byte string are read alike. The walk that looks for the end of a frame by
index and the walk that takes the frame apart stop at the same byte and for the same reason. -/

namespace EchonetLite

def Error.IsShort (e : Error) : Prop :=
  ∃ stage needed remaining, e = .shortMessage stage needed remaining

lemma Error.isShort_of_eq {α : Type} {stage : Stage} {needed remaining : Nat} {e : Error}
    (h : (.error (.shortMessage stage needed remaining) : Except Error α) = .error e) :
    e.IsShort :=
  ⟨stage, needed, remaining, (Except.error.inj h).symm⟩

namespace Frame

variable {bytes body : Bytes} {count : Nat} {e : Error}

lemma takeEntries_short {epc pdc : UInt8} (h : body.length < pdc.toNat) :
    takeEntries (count + 1) (epc :: pdc :: body) =
      .error (.shortMessage .propertyData pdc.toNat body.length) := by
  have hf : takeField .propertyData pdc.toNat body =
      .error (.shortMessage .propertyData pdc.toNat body.length) := if_pos h
  simp only [takeEntries, takeEntry, takeByte, hf, bind, Except.bind]

lemma takeEntries_cons {epc pdc : UInt8} (h : pdc.toNat ≤ body.length) :
    takeEntries (count + 1) (epc :: pdc :: body) =
      (takeEntries count (body.drop pdc.toNat)).map fun taken =>
        (⟨epc, body.take pdc.toNat⟩ :: taken.1, taken.2) := by
  have hf : takeField .propertyData pdc.toNat body =
      .ok (body.take pdc.toNat, body.drop pdc.toNat) := if_neg (Nat.not_lt.mpr h)
  simp only [takeEntries, takeEntry, takeByte, hf, bind, Except.bind, pure, Except.pure]
  cases takeEntries count (body.drop pdc.toNat) <;> rfl

lemma takeEntries_error (h : takeEntries count bytes = .error e) : e.IsShort := by
  induction count generalizing bytes e with
  | zero => cases h
  | succ count ih =>
    match bytes with
    | [] | [_] => exact Error.isShort_of_eq h
    | epc :: pdc :: body =>
      by_cases hp : pdc.toNat ≤ body.length
      · rw [takeEntries_cons hp] at h
        cases hr : takeEntries count (body.drop pdc.toNat) with
        | error e' =>
          rw [hr] at h
          obtain rfl := Except.error.inj h
          exact ih hr
        | ok taken =>
          rw [hr] at h
          cases h
      · rw [takeEntries_short (Nat.lt_of_not_le hp)] at h
        exact Error.isShort_of_eq h

lemma le_of_entriesEnd? {start stop : Nat} (h : entriesEnd? bytes count start = some stop) :
    start ≤ stop := by
  induction count generalizing start with
  | zero => exact Nat.le_of_eq (Option.some.inj h)
  | succ count ih =>
    rw [entriesEnd?] at h
    split at h
    · cases h
    · have hs := ih h
      omega

lemma entriesEnd?_filter {start : Nat} (hs : start ≤ bytes.length) :
    (entriesEnd? bytes count start).filter (· ≤ bytes.length) =
      (takeEntries count (bytes.drop start)).toOption.map (start + Entry.totalLength ·.1) := by
  induction count generalizing start with
  | zero => simp [entriesEnd?, takeEntries, Except.toOption, Entry.totalLength, hs]
  | succ count ih =>
    rw [entriesEnd?]
    rcases hd : bytes.drop start with _ | ⟨epc, _ | ⟨pdc, body⟩⟩
    · have hl := congrArg List.length hd
      simp only [List.length_drop, List.length_nil] at hl
      rw [if_pos (by omega)]
      rfl
    · have hl := congrArg List.length hd
      simp only [List.length_drop, List.length_cons, List.length_nil] at hl
      rw [if_pos (by omega)]
      rfl
    · have hl := congrArg List.length hd
      simp only [List.length_drop, List.length_cons] at hl
      have hpdc : bytes.getD (start + 1) 0 = pdc := by
        rw [List.getD_eq_getElem?_getD, ← List.getElem?_drop, hd]
        rfl
      have hbody : bytes.drop (start + 2 + pdc.toNat) = body.drop pdc.toNat := by
        rw [← List.drop_drop, ← List.drop_drop, hd]
        rfl
      rw [if_neg (by omega), hpdc]
      by_cases hp : pdc.toNat ≤ body.length
      · rw [ih (by omega), hbody, takeEntries_cons hp]
        cases takeEntries count (body.drop pdc.toNat) with
        | error e => rfl
        | ok taken =>
          simp only [Except.toOption, Except.map, Option.map_some, Entry.totalLength, Entry.pdc,
            List.length_take, Nat.min_eq_left hp]
          congr 1
          omega
      · rw [takeEntries_short (Nat.lt_of_not_le hp)]
        refine Option.filter_eq_none_iff.mpr fun stop hstop => ?_
        have hle := le_of_entriesEnd? hstop
        simp only [decide_eq_true_eq]
        omega

lemma checkHeader_error {first second : UInt8} (h : checkHeader first second = .error e) :
    ∃ fault, e = .malformedFrame fault := by
  rw [checkHeader] at h
  split at h
  · exact ⟨_, (Except.error.inj h).symm⟩
  · split at h
    · exact ⟨_, (Except.error.inj h).symm⟩
    · cases h

lemma decode_of_badHeader (hl : 2 ≤ bytes.length)
    (hc : checkHeader (bytes.getD 0 0) (bytes.getD 1 0) = .error e) :
    Message.decode bytes = .error e := by
  match bytes, hl with
  | first :: second :: rest, _ =>
    have hh : takeHeader (first :: second :: rest) = .error e := by
      rw [takeHeader]
      simp only [List.getD_cons_zero, List.getD_cons_succ] at hc
      rw [hc]
      rfl
    rw [Message.decode, takeMessage, hh]
    rfl

lemma decode_of_header (hl : headerSize ≤ bytes.length)
    (hc : checkHeader (bytes.getD 0 0) (bytes.getD 1 0) = .ok ()) :
    ∃ m : Message, Message.decode bytes =
      (takeEntries (bytes.getD (headerSize - 1) 0).toNat (bytes.drop headerSize)).map fun taken =>
        { m with entries := taken.1 } := by
  match bytes, hl with
  | first :: second :: hi :: lo :: x :: y :: z :: u :: v :: w :: esv :: opc :: body, _ =>
    obtain ⟨rfl, rfl⟩ := checkHeader_eq_ok_iff.mp hc
    refine ⟨⟨UInt16.ofNat (hi.toNat * 256 + lo.toNat), ⟨x, y, z⟩, ⟨u, v, w⟩, ⟨esv⟩, []⟩, ?_⟩
    simp only [Message.decode, takeMessage, takeHeader_eq_ok_iff.mpr rfl, takeTid, takeObjectCode,
      takeByte, bind, Except.bind, pure, Except.pure, headerSize, List.getD_cons_succ,
      List.getD_cons_zero, List.drop_succ_cons, List.drop_zero, Nat.reduceSub]
    cases takeEntries opc.toNat body <;> rfl

lemma takeEntries_of_decode_ok {m : Message} (hl : headerSize ≤ bytes.length)
    (hc : checkHeader (bytes.getD 0 0) (bytes.getD 1 0) = .ok ())
    (hd : Message.decode bytes = .ok m) :
    ∃ rest, takeEntries (bytes.getD (headerSize - 1) 0).toNat (bytes.drop headerSize) =
      .ok (m.entries, rest) := by
  obtain ⟨_, hm⟩ := decode_of_header hl hc
  rw [hd] at hm
  cases ht : takeEntries (bytes.getD (headerSize - 1) 0).toNat (bytes.drop headerSize) with
  | ok taken =>
    rw [ht] at hm
    obtain rfl := Except.ok.inj hm
    exact ⟨taken.2, rfl⟩
  | error e =>
    rw [ht] at hm
    cases hm

lemma takeEntries_of_decode_error (hl : headerSize ≤ bytes.length)
    (hc : checkHeader (bytes.getD 0 0) (bytes.getD 1 0) = .ok ())
    (hd : Message.decode bytes = .error e) :
    takeEntries (bytes.getD (headerSize - 1) 0).toNat (bytes.drop headerSize) = .error e := by
  obtain ⟨_, hm⟩ := decode_of_header hl hc
  rw [hd] at hm
  cases ht : takeEntries (bytes.getD (headerSize - 1) 0).toNat (bytes.drop headerSize) with
  | ok taken =>
    rw [ht] at hm
    cases hm
  | error e' =>
    rw [ht] at hm
    exact congrArg _ (Except.error.inj hm).symm

lemma bind_eq_error_iff {α β : Type} {x : Except Error α} {f : α → Except Error β} :
    x >>= f = .error e ↔ x = .error e ∨ ∃ a, x = .ok a ∧ f a = .error e := by
  cases x <;> simp [bind, Except.bind]

lemma takeHeader_error (h : takeHeader bytes = .error e) :
    e.IsShort ∨ 2 ≤ bytes.length ∧ checkHeader (bytes.getD 0 0) (bytes.getD 1 0) = .error e := by
  match bytes with
  | [] | [_] => exact Or.inl (Error.isShort_of_eq h)
  | first :: second :: rest =>
    rw [takeHeader, bind_eq_error_iff] at h
    rcases h with hc | ⟨_, _, hr⟩
    · exact Or.inr ⟨by simp, hc⟩
    · cases hr

lemma takeTid_error (h : takeTid bytes = .error e) : e.IsShort := by
  match bytes with
  | [] | [_] => exact Error.isShort_of_eq h

lemma takeObjectCode_error {stage : Stage} (h : takeObjectCode stage bytes = .error e) :
    e.IsShort := by
  match bytes with
  | [] | [_] | [_, _] => exact Error.isShort_of_eq h

lemma takeByte_error {stage : Stage} (h : takeByte stage bytes = .error e) : e.IsShort := by
  match bytes with
  | [] => exact Error.isShort_of_eq h

lemma decode_error (h : Message.decode bytes = .error e) :
    e.IsShort ∨ 2 ≤ bytes.length ∧ checkHeader (bytes.getD 0 0) (bytes.getD 1 0) = .error e := by
  have hm : takeMessage bytes = .error e := by
    rw [Message.decode] at h
    cases ht : takeMessage bytes with
    | error e' =>
      rw [ht] at h
      exact congrArg _ (Except.error.inj h)
    | ok taken =>
      rw [ht] at h
      cases h
  simp only [takeMessage, bind_eq_error_iff, pure, Except.pure, reduceCtorEq, and_false,
    exists_false, or_false] at hm
  rcases hm with hh | ⟨_, _, ht | ⟨_, _, hs | ⟨_, _, hd | ⟨_, _, hv | ⟨_, _, ho | ⟨_, _, he⟩⟩⟩⟩⟩⟩
  · exact takeHeader_error hh
  · exact Or.inl (takeTid_error ht)
  · exact Or.inl (takeObjectCode_error hs)
  · exact Or.inl (takeObjectCode_error hd)
  · exact Or.inl (takeByte_error hv)
  · exact Or.inl (takeByte_error ho)
  · exact Or.inl (takeEntries_error he)

lemma headerSize_le_of_decode {m : Message} (hd : Message.decode bytes = .ok m) :
    headerSize ≤ bytes.length := by
  have hw := (Message.decode_eq_ok_iff.mp hd).2.length_le
  rw [Message.length_wire, Message.encodedLength] at hw
  exact Nat.le_trans (Nat.le_add_right _ _) hw

lemma decode_of_short_header (hl : bytes.length < headerSize)
    (hc : 2 ≤ bytes.length → checkHeader (bytes.getD 0 0) (bytes.getD 1 0) = .ok ()) :
    ∃ e, Message.decode bytes = .error e ∧ e.IsShort := by
  cases hd : Message.decode bytes with
  | ok m => exact absurd (headerSize_le_of_decode hd) (Nat.not_le.mpr hl)
  | error e =>
    rcases decode_error hd with hs | ⟨h2, he⟩
    · exact ⟨e, rfl, hs⟩
    · rw [hc h2] at he
      cases he

lemma size?_of_header (hl : headerSize ≤ bytes.length)
    (hc : checkHeader (bytes.getD 0 0) (bytes.getD 1 0) = .ok ()) :
    size? bytes =
      .ok ((takeEntries (bytes.getD (headerSize - 1) 0).toNat (bytes.drop headerSize)).toOption.map
        (headerSize + Entry.totalLength ·.1)) := by
  have h2 : ¬ bytes.length < 2 := by
    simp only [headerSize] at hl
    omega
  rw [size?, if_neg h2, hc]
  simp only [bind, Except.bind, pure, Except.pure, if_neg (Nat.not_lt.mpr hl),
    entriesEnd?_filter hl]

lemma size?_eq (bytes : Bytes) :
    size? bytes =
      match Message.decode bytes with
      | .ok m => .ok (some m.encodedLength)
      | .error (.shortMessage ..) => .ok none
      | .error e => .error e := by
  by_cases h2 : bytes.length < 2
  · obtain ⟨_, hd, _, _, _, rfl⟩ := decode_of_short_header
      (show bytes.length < headerSize by simp only [headerSize]; omega) (by omega)
    rw [size?, if_pos h2, hd]
    rfl
  cases hc : checkHeader (bytes.getD 0 0) (bytes.getD 1 0) with
  | error e =>
    obtain ⟨fault, rfl⟩ := checkHeader_error hc
    rw [size?, if_neg h2, hc, decode_of_badHeader (Nat.le_of_not_lt h2) hc]
    rfl
  | ok =>
    by_cases hl : bytes.length < headerSize
    · obtain ⟨_, hd, _, _, _, rfl⟩ := decode_of_short_header hl fun _ => hc
      rw [size?, if_neg h2, hc, hd]
      exact if_pos hl
    · obtain ⟨m, hm⟩ := decode_of_header (Nat.le_of_not_lt hl) hc
      rw [size?_of_header (Nat.le_of_not_lt hl) hc, hm]
      cases ht : takeEntries (bytes.getD (headerSize - 1) 0).toNat (bytes.drop headerSize) with
      | ok taken => rfl
      | error e =>
        obtain ⟨_, _, _, rfl⟩ := takeEntries_error ht
        rfl

end Frame

namespace Message

lemma decode_wire_append {m : Message} (hm : m.Fits) (rest : Bytes) :
    decode (m.wire ++ rest) = .ok m :=
  decode_eq_ok_iff.mpr ⟨hm, List.prefix_append _ _⟩

lemma decode_wire {m : Message} (hm : m.Fits) : decode m.wire = .ok m :=
  decode_eq_ok_iff.mpr ⟨hm, List.prefix_refl _⟩

lemma decode_malformed_append {bytes : Bytes} {fault : FrameFault}
    (h : decode bytes = .error (.malformedFrame fault)) (more : Bytes) :
    decode (bytes ++ more) = .error (.malformedFrame fault) := by
  rcases Frame.decode_error h with ⟨_, _, _, he⟩ | ⟨hl, hc⟩
  · cases he
  · match bytes, hl with
    | first :: second :: rest, _ => exact Frame.decode_of_badHeader (by simp) hc

end Message

namespace Stream

variable {s : Stream}

lemma next_wire_append {m : Message} (hm : m.Fits) (rest : Bytes) :
    (⟨m.wire ++ rest⟩ : Stream).next = (.ok (some m), ⟨rest⟩) := by
  have hs := Frame.size?_eq (m.wire ++ rest)
  rw [Message.decode_wire_append hm rest] at hs
  simp only [next, hs, List.take_left' m.length_wire, List.drop_left' m.length_wire,
    Message.decode_wire hm, Except.map]

lemma next_of_short {e : Error} (hd : Message.decode s.buffer = .error e) (he : e.IsShort) :
    s.next = (.ok none, s) := by
  obtain ⟨_, _, _, rfl⟩ := he
  have hs := Frame.size?_eq s.buffer
  rw [hd] at hs
  simp only [next, hs]

lemma next_of_malformed {fault : FrameFault}
    (hd : Message.decode s.buffer = .error (.malformedFrame fault)) :
    s.next = (.error (.malformedFrame fault), s) := by
  have hs := Frame.size?_eq s.buffer
  rw [hd] at hs
  simp only [next, hs]

lemma next_cases (s : Stream) :
    (∃ m rest, m.Fits ∧ s.buffer = m.wire ++ rest ∧ s.next = (.ok (some m), ⟨rest⟩)) ∨
    (∃ e, Message.decode s.buffer = .error e ∧ e.IsShort ∧ s.next = (.ok none, s)) ∨
    ∃ fault, Message.decode s.buffer = .error (.malformedFrame fault) ∧
      s.next = (.error (.malformedFrame fault), s) := by
  cases hd : Message.decode s.buffer with
  | ok m =>
    obtain ⟨hm, rest, hb⟩ := Message.decode_eq_ok_iff.mp hd
    have hn := next_wire_append hm rest
    rw [hb] at hn
    exact Or.inl ⟨m, rest, hm, hb.symm, hn⟩
  | error e =>
    rcases Frame.decode_error hd with hshort | ⟨_, hc⟩
    · exact Or.inr (Or.inl ⟨e, rfl, hshort, next_of_short hd hshort⟩)
    · obtain ⟨fault, rfl⟩ := Frame.checkHeader_error hc
      exact Or.inr (Or.inr ⟨fault, rfl, next_of_malformed hd⟩)

lemma malformed_of_next {e : Error} (h : s.next.1 = .error e) :
    ∃ fault, e = .malformedFrame fault ∧ Message.decode s.buffer = .error e := by
  rcases s.next_cases with ⟨_, _, -, -, hn⟩ | ⟨_, -, -, hn⟩ | ⟨fault, hd, hn⟩
  · rw [hn] at h
    cases h
  · rw [hn] at h
    cases h
  · rw [hn] at h
    obtain rfl := Except.error.inj h
    exact ⟨fault, rfl, hd⟩

lemma last_of_incomplete (h : s.next = (.ok none, s)) :
    s.last = (if s.buffer = [] then .ok none else .error (.io .bytesRemaining), s) := by
  simp only [last, h, List.isEmpty_iff]

/-- Taking a frame off a stream and reading one from the bytes of the stream agree: they find the
same message, they call the same frames incomplete, and they report the same fault. Exactly the
frame is removed, and nothing if there is none. -/
theorem next_agrees_decode (s : Stream) :
    (∀ m, s.next.1 = .ok (some m) ↔ Message.decode s.buffer = .ok m) ∧
    (∀ m, s.next.1 = .ok (some m) →
      m.encodedLength ≤ s.buffer.length ∧ s.next.2.buffer = s.buffer.drop m.encodedLength) ∧
    (s.next.1 = .ok none ↔ ∃ stage needed remaining,
      Message.decode s.buffer = .error (.shortMessage stage needed remaining)) ∧
    (∀ fault, s.next.1 = .error (.malformedFrame fault) ↔
      Message.decode s.buffer = .error (.malformedFrame fault)) ∧
    (∀ e, s.next.1 = .error e → ∃ fault, e = .malformedFrame fault) ∧
    ((∀ m, s.next.1 ≠ .ok (some m)) → s.next.2 = s) ∧
    ∀ size, Frame.size? s.buffer = .ok (some size) →
      ∃ m, Message.decode (s.buffer.take size) = .ok m := by
  have hs := Frame.size?_eq s.buffer
  rcases s.next_cases with ⟨m, rest, hm, hb, hn⟩ | ⟨e, hd, ⟨stage, needed, remaining, rfl⟩, hn⟩ |
    ⟨fault, hd, hn⟩
  · have hd : Message.decode s.buffer = .ok m := by rw [hb, Message.decode_wire_append hm]
    have hl : s.buffer.length = m.encodedLength + rest.length := by
      rw [hb, List.length_append, m.length_wire]
    have hr : s.buffer.drop m.encodedLength = rest := by
      rw [hb, List.drop_left' m.length_wire]
    have ht : s.buffer.take m.encodedLength = m.wire := by
      rw [hb, List.take_left' m.length_wire]
    rw [hd] at hs
    rw [hn, hd]
    refine ⟨by simp, ?_, by simp, by simp, by simp, fun h => absurd rfl (h m), ?_⟩
    · intro m' h'
      obtain rfl := Option.some.inj (Except.ok.inj h')
      exact ⟨by omega, hr.symm⟩
    · intro size hsize
      obtain rfl := Option.some.inj (Except.ok.inj (hs.symm.trans hsize))
      exact ⟨m, by rw [ht, Message.decode_wire hm]⟩
  · rw [hd] at hs
    simp [hn, hd, hs]
  · rw [hd] at hs
    simp [hn, hd, hs]

end Stream

end EchonetLite
