import EchonetLite.Frame.Decode
import EchonetLite.Proofs.Bytes
import Mathlib.Tactic.Lemma

/-! Reading and writing are inverse. A message stands at the front of a byte string exactly if the
string begins with its frame, and the messages that fit the counters are those that have a frame. -/

namespace EchonetLite

def Entry.Fits (e : Entry) : Prop := e.pdc ≤ Frame.byteLimit

structure Message.Fits (m : Message) : Prop where
  entries : m.opc ≤ Frame.byteLimit
  data : ∀ e ∈ m.entries, e.Fits

namespace Frame

lemma toNat_byte {n : Nat} (h : n ≤ byteLimit) : (UInt8.ofNat n).toNat = n := by
  simp only [byteLimit] at h
  exact UInt8.toNat_ofNat_of_lt' (by simp only [UInt8.size]; omega)

lemma bind_eq_ok_iff {α β : Type} {x : Except Error α} {f : α → Except Error β} {y : β} :
    x >>= f = .ok y ↔ ∃ a, x = .ok a ∧ f a = .ok y := by
  cases x <;> simp [bind, Except.bind]

lemma takeField_eq_ok_iff {stage : Stage} {size : Nat} {bytes field rest : Bytes} :
    takeField stage size bytes = .ok (field, rest) ↔
      field.length = size ∧ bytes = field ++ rest := by
  rw [takeField]
  split
  case isTrue hs =>
    constructor
    · intro h
      cases h
    · rintro ⟨hf, rfl⟩
      simp only [List.length_append] at hs
      omega
  case isFalse hs =>
    constructor
    · intro h
      obtain ⟨rfl, rfl⟩ := Prod.mk.inj (Except.ok.inj h)
      exact ⟨by rw [List.length_take]; omega, (List.take_append_drop size bytes).symm⟩
    · rintro ⟨rfl, rfl⟩
      simp

lemma takeByte_eq_ok_iff {stage : Stage} {bytes rest : Bytes} {b : UInt8} :
    takeByte stage bytes = .ok (b, rest) ↔ bytes = b :: rest := by
  cases bytes <;> simp [takeByte]

lemma checkHeader_eq_ok_iff {first second : UInt8} :
    checkHeader first second = .ok () ↔ first = firstByte ∧ second = secondByte := by
  rw [checkHeader]
  split
  · simp_all
  · split <;> simp_all

lemma takeHeader_eq_ok_iff {bytes rest : Bytes} :
    takeHeader bytes = .ok rest ↔ bytes = firstByte :: secondByte :: rest := by
  match bytes with
  | [] => simp [takeHeader]
  | [_] => simp [takeHeader]
  | first :: second :: tail =>
    simp only [takeHeader, bind_eq_ok_iff, pure, Except.pure]
    constructor
    · rintro ⟨_, hc, ht⟩
      obtain ⟨rfl, rfl⟩ := checkHeader_eq_ok_iff.mp hc
      rw [Except.ok.inj ht]
    · intro h
      obtain ⟨rfl, rfl, rfl⟩ : first = firstByte ∧ second = secondByte ∧ tail = rest := by
        simpa using h
      exact ⟨(), checkHeader_eq_ok_iff.mpr ⟨rfl, rfl⟩, rfl⟩

lemma ofNat_two (n : Nat) : Bytes.ofNat 2 n = [UInt8.ofNat (n / 256), UInt8.ofNat n] := rfl

lemma tid_of_bytes (hi lo : UInt8) :
    Bytes.ofNat 2 (UInt16.ofNat (hi.toNat * 256 + lo.toNat)).toNat = [hi, lo] := by
  have hv : Bytes.value [hi, lo] = hi.toNat * 256 + lo.toNat := by simp [Bytes.value]
  have hp : 256 ^ 2 = UInt16.size := by decide
  have hn : (UInt16.ofNat (Bytes.value [hi, lo])).toNat = Bytes.value [hi, lo] :=
    UInt16.toNat_ofNat_of_lt' (Nat.lt_of_lt_of_eq (Bytes.value_lt [hi, lo]) hp)
  rw [← hv, hn]
  exact Bytes.ofNat_value [hi, lo]

lemma bytes_of_tid (tid : UInt16) :
    UInt16.ofNat ((UInt8.ofNat (tid.toNat / 256)).toNat * 256 + (UInt8.ofNat tid.toNat).toNat)
      = tid := by
  have ht := tid.toNat_lt
  apply UInt16.toNat_inj.mp
  simp only [UInt8.toNat_ofNat', UInt16.toNat_ofNat']
  omega

lemma takeTid_eq_ok_iff {bytes rest : Bytes} {tid : UInt16} :
    takeTid bytes = .ok (tid, rest) ↔ bytes = Bytes.ofNat 2 tid.toNat ++ rest := by
  match bytes with
  | [] => simp [takeTid, ofNat_two]
  | [_] => simp [takeTid, ofNat_two]
  | hi :: lo :: tail =>
    constructor
    · intro h
      obtain ⟨rfl, rfl⟩ := Prod.mk.inj (Except.ok.inj h)
      rw [tid_of_bytes]
      rfl
    · intro h
      obtain ⟨rfl, rfl, rfl⟩ :
          hi = UInt8.ofNat (tid.toNat / 256) ∧ lo = UInt8.ofNat tid.toNat ∧ tail = rest := by
        simpa only [ofNat_two, List.cons_append, List.nil_append, List.cons.injEq] using h
      rw [takeTid, bytes_of_tid]

lemma takeObjectCode_eq_ok_iff {stage : Stage} {bytes rest : Bytes} {code : ObjectCode} :
    takeObjectCode stage bytes = .ok (code, rest) ↔ bytes = code.toBytes ++ rest := by
  match bytes with
  | [] | [_] | [_, _] => simp [takeObjectCode, ObjectCode.toBytes]
  | x :: y :: z :: tail =>
    cases code
    simp [takeObjectCode, ObjectCode.toBytes, and_assoc]

lemma takeEntry_eq_ok_iff {bytes rest : Bytes} {e : Entry} :
    takeEntry bytes = .ok (e, rest) ↔ e.Fits ∧ bytes = e.wire ++ rest := by
  simp only [takeEntry, bind_eq_ok_iff, Prod.exists, pure, Except.pure]
  constructor
  · rintro ⟨epc, after, hc, pdc, after', hp, edt, after'', hd, he⟩
    obtain ⟨rfl, rfl⟩ := Prod.mk.inj (Except.ok.inj he)
    obtain rfl := takeByte_eq_ok_iff.mp hc
    obtain rfl := takeByte_eq_ok_iff.mp hp
    obtain ⟨hl, rfl⟩ := takeField_eq_ok_iff.mp hd
    have hb := pdc.toNat_lt
    refine ⟨by simp only [Entry.Fits, Entry.pdc, byteLimit]; omega, ?_⟩
    simp only [Entry.wire, Entry.pdc, hl, UInt8.ofNat_toNat, List.cons_append]
  · rintro ⟨hf, rfl⟩
    refine ⟨e.epc, _, rfl, UInt8.ofNat e.pdc, _, rfl, e.edt, rest, ?_, rfl⟩
    exact takeField_eq_ok_iff.mpr ⟨(toNat_byte hf).symm, rfl⟩

lemma takeEntries_eq_ok_iff {count : Nat} {bytes rest : Bytes} {entries : List Entry} :
    takeEntries count bytes = .ok (entries, rest) ↔
      entries.length = count ∧ (∀ e ∈ entries, e.Fits) ∧
        bytes = entries.flatMap Entry.wire ++ rest := by
  induction count generalizing bytes entries with
  | zero =>
    constructor
    · intro h
      obtain ⟨rfl, rfl⟩ := Prod.mk.inj (Except.ok.inj h)
      simp
    · rintro ⟨hl, _, rfl⟩
      obtain rfl := List.length_eq_zero_iff.mp hl
      rfl
  | succ count ih =>
    simp only [takeEntries, bind_eq_ok_iff, Prod.exists, pure, Except.pure]
    constructor
    · rintro ⟨e, after, he, es, after', hes, h⟩
      obtain ⟨rfl, rfl⟩ := Prod.mk.inj (Except.ok.inj h)
      obtain ⟨hf, rfl⟩ := takeEntry_eq_ok_iff.mp he
      obtain ⟨rfl, hfs, rfl⟩ := ih.mp hes
      exact ⟨rfl, by simpa using ⟨hf, hfs⟩, by simp⟩
    · rintro ⟨hl, hfs, rfl⟩
      cases entries with
      | nil => cases hl
      | cons e es =>
        obtain ⟨hf, hfs⟩ := List.forall_mem_cons.mp hfs
        refine ⟨e, es.flatMap Entry.wire ++ rest, ?_, es, rest, ?_, rfl⟩
        · exact takeEntry_eq_ok_iff.mpr ⟨hf, by simp⟩
        · exact ih.mpr ⟨Nat.succ.inj hl, hfs, rfl⟩

lemma takeMessage_eq_ok_iff {bytes rest : Bytes} {m : Message} :
    takeMessage bytes = .ok (m, rest) ↔ m.Fits ∧ bytes = m.wire ++ rest := by
  simp only [takeMessage, bind_eq_ok_iff, Prod.exists, pure, Except.pure]
  constructor
  · rintro ⟨b₁, h₁, tid, b₂, h₂, seoj, b₃, h₃, deoj, b₄, h₄, esv, b₅, h₅, opc, b₆, h₆,
      entries, b₇, h₇, h⟩
    obtain ⟨rfl, rfl⟩ := Prod.mk.inj (Except.ok.inj h)
    obtain rfl := takeHeader_eq_ok_iff.mp h₁
    obtain rfl := takeTid_eq_ok_iff.mp h₂
    obtain rfl := takeObjectCode_eq_ok_iff.mp h₃
    obtain rfl := takeObjectCode_eq_ok_iff.mp h₄
    obtain rfl := takeByte_eq_ok_iff.mp h₅
    obtain rfl := takeByte_eq_ok_iff.mp h₆
    obtain ⟨hl, hf, rfl⟩ := takeEntries_eq_ok_iff.mp h₇
    have hb := opc.toNat_lt
    refine ⟨⟨by simp only [Message.opc, byteLimit]; omega, hf⟩, ?_⟩
    simp [Message.wire, Message.wireHeader, Message.opc, hl]
  · rintro ⟨⟨ho, hf⟩, rfl⟩
    refine ⟨_, takeHeader_eq_ok_iff.mpr ?_, m.tid, _, takeTid_eq_ok_iff.mpr rfl,
      m.seoj, _, takeObjectCode_eq_ok_iff.mpr rfl, m.deoj, _, takeObjectCode_eq_ok_iff.mpr rfl,
      m.esv.code, _, takeByte_eq_ok_iff.mpr rfl, UInt8.ofNat m.opc, _, takeByte_eq_ok_iff.mpr rfl,
      m.entries, rest, takeEntries_eq_ok_iff.mpr ⟨(toNat_byte ho).symm, hf, rfl⟩, rfl⟩
    simp [Message.wire, Message.wireHeader]

end Frame

@[simp] lemma Entry.length_wire (e : Entry) : e.wire.length = 2 + e.pdc := by
  simp only [Entry.wire, List.length_cons, Entry.pdc]
  omega

lemma Entry.length_flatMap_wire (es : List Entry) :
    (es.flatMap Entry.wire).length = Entry.totalLength es := by
  induction es with
  | nil => rfl
  | cons e es ih => simp only [List.flatMap_cons, List.length_append, length_wire, ih, totalLength]

namespace Message

lemma length_wire (m : Message) : m.wire.length = m.encodedLength := by
  simp only [wire, List.length_append, Entry.length_flatMap_wire, encodedLength, wireHeader,
    Bytes.length_ofNat, ObjectCode.toBytes, List.length_cons, List.length_nil]

lemma frameFault?_eq_none_iff (m : Message) : m.frameFault? = none ↔ m.Fits := by
  rw [frameFault?]
  split
  case isTrue ho =>
    constructor
    · intro h
      cases h
    · intro h
      exact absurd h.entries (Nat.not_le.mpr ho)
  case isFalse ho =>
    rw [Option.map_eq_none_iff, List.find?_eq_none]
    constructor
    · intro h
      exact ⟨Nat.le_of_not_lt ho, fun e he => Nat.le_of_not_lt (by simpa using h e he)⟩
    · intro h e he
      have hd : e.pdc ≤ Frame.byteLimit := h.data e he
      simpa using hd

lemma encode_eq_ok_iff {m : Message} {frame : Bytes} :
    m.encode = .ok frame ↔ m.Fits ∧ frame = m.wire := by
  rw [← frameFault?_eq_none_iff]
  rw [encode]
  cases m.frameFault? <;> simp [eq_comm]

lemma decode_eq_ok_iff {bytes : Bytes} {m : Message} :
    Message.decode bytes = .ok m ↔ m.Fits ∧ m.wire <+: bytes := by
  have ht : Message.decode bytes = .ok m ↔ ∃ rest, Frame.takeMessage bytes = .ok (m, rest) := by
    rw [Message.decode]
    cases Frame.takeMessage bytes <;> simp [Prod.ext_iff]
  rw [ht]
  constructor
  · rintro ⟨rest, h⟩
    obtain ⟨hf, rfl⟩ := Frame.takeMessage_eq_ok_iff.mp h
    exact ⟨hf, List.prefix_append _ _⟩
  · rintro ⟨hf, rest, rfl⟩
    exact ⟨rest, Frame.takeMessage_eq_ok_iff.mpr ⟨hf, rfl⟩⟩

/-- A byte string decodes to a message exactly if it begins with the frame of that message; a
message has a frame exactly if both counters can carry it. -/
theorem decode_eq_ok_iff_frame_prefix (bytes : Bytes) (m : Message) :
    (Message.decode bytes = .ok m ↔ ∃ frame, m.encode = .ok frame ∧ frame <+: bytes) ∧
      ((∃ frame, m.encode = .ok frame) ↔
        m.entries.length ≤ 255 ∧ ∀ e ∈ m.entries, e.edt.length ≤ 255) ∧
      ∀ frame, m.encode = .ok frame → frame.length = m.encodedLength := by
  refine ⟨?_, ?_, ?_⟩
  · rw [decode_eq_ok_iff]
    constructor
    · rintro ⟨hf, hp⟩
      exact ⟨m.wire, encode_eq_ok_iff.mpr ⟨hf, rfl⟩, hp⟩
    · rintro ⟨frame, he, hp⟩
      obtain ⟨hf, rfl⟩ := encode_eq_ok_iff.mp he
      exact ⟨hf, hp⟩
  · constructor
    · rintro ⟨frame, he⟩
      obtain ⟨hf, _⟩ := encode_eq_ok_iff.mp he
      exact ⟨hf.entries, hf.data⟩
    · rintro ⟨ho, hd⟩
      exact ⟨m.wire, encode_eq_ok_iff.mpr ⟨⟨ho, hd⟩, rfl⟩⟩
  · intro frame he
    obtain ⟨_, rfl⟩ := encode_eq_ok_iff.mp he
    exact m.length_wire

end Message

end EchonetLite
