import EchonetLite.Proofs.Frame.Boundary

/-! Byte strings that end too early. A frame is a sequence of fields, and a string that is too short
for a frame ends inside one of them. Whatever a string with a right header ends in, zeros complete
it, so each such string is the beginning of a frame. -/

namespace EchonetLite

structure Frame.Field where
  stage : Stage
  bytes : Bytes

def Entry.fields (e : Entry) : List Frame.Field :=
  [⟨.propertyCode, [e.epc]⟩, ⟨.propertyDataCounter, [UInt8.ofNat e.pdc]⟩, ⟨.propertyData, e.edt⟩]

def Message.fields (m : Message) : List Frame.Field :=
  ⟨.header, [Frame.firstByte, Frame.secondByte]⟩ :: ⟨.tid, Bytes.ofNat 2 m.tid.toNat⟩ ::
    ⟨.seoj, m.seoj.toBytes⟩ :: ⟨.deoj, m.deoj.toBytes⟩ :: ⟨.esv, [m.esv.code]⟩ ::
    ⟨.opc, [UInt8.ofNat m.opc]⟩ :: m.entries.flatMap Entry.fields

namespace Frame

/-- The bytes end inside a field: those before it are whole, and of its `needed` bytes only
`remaining` are there. -/
inductive EndsIn : List Field → Bytes → Stage → Nat → Nat → Prop
  | here {field : Field} {later : List Field} {part : Bytes} :
      part.length < field.bytes.length →
      EndsIn (field :: later) part field.stage field.bytes.length part.length
  | later {field : Field} {fields : List Field} {bytes : Bytes} {stage : Stage}
      {needed remaining : Nat} : EndsIn fields bytes stage needed remaining →
      EndsIn (field :: fields) (field.bytes ++ bytes) stage needed remaining

variable {fields : List Field} {bytes more : Bytes} {stage : Stage} {needed remaining : Nat}

lemma EndsIn.lt (h : EndsIn fields bytes stage needed remaining) : remaining < needed := by
  induction h with
  | here hlt => exact hlt
  | later _ ih => exact ih

lemma EndsIn.append (h : EndsIn fields bytes stage needed remaining)
    (hm : more.length < needed - remaining) :
    EndsIn fields (bytes ++ more) stage needed (remaining + more.length) := by
  induction h with
  | here hlt =>
    rw [← List.length_append]
    refine .here ?_
    rw [List.length_append]
    omega
  | later _ ih =>
    rw [List.append_assoc]
    exact .later (ih hm)

lemma exists_endsIn (hp : bytes <+: fields.flatMap Field.bytes)
    (hne : bytes ≠ fields.flatMap Field.bytes) :
    ∃ stage needed remaining, EndsIn fields bytes stage needed remaining := by
  induction fields generalizing bytes with
  | nil => exact absurd (List.prefix_nil.mp hp) hne
  | cons field fields ih =>
    rw [List.flatMap_cons] at hp hne
    rcases Nat.lt_or_ge bytes.length field.bytes.length with hlt | hge
    · exact ⟨_, _, _, .here hlt⟩
    · obtain ⟨rest, rfl⟩ := List.prefix_of_prefix_length_le (List.prefix_append _ _) hp hge
      rw [List.prefix_append_right_inj] at hp
      obtain ⟨stage, needed, remaining, h⟩ := ih hp fun he => hne (he ▸ rfl)
      exact ⟨stage, needed, remaining, .later h⟩

end Frame

lemma Entry.flatMap_fields (es : List Entry) :
    (es.flatMap fields).flatMap Frame.Field.bytes = es.flatMap wire := by
  induction es with
  | nil => rfl
  | cons e es ih =>
    rw [List.flatMap_cons, List.flatMap_append, ih, List.flatMap_cons]
    simp [fields, wire]

lemma Message.flatMap_fields (m : Message) : m.fields.flatMap Frame.Field.bytes = m.wire := by
  simp only [fields, List.flatMap_cons, Entry.flatMap_fields, wire, wireHeader,
    List.append_assoc, List.cons_append, List.nil_append]

namespace Frame

variable {bytes : Bytes} {stage : Stage} {needed remaining : Nat}

lemma takeHeader_append (rest : Bytes) : takeHeader ([firstByte, secondByte] ++ rest) = .ok rest :=
  takeHeader_eq_ok_iff.mpr rfl

lemma takeByte_append (stage : Stage) (b : UInt8) (rest : Bytes) :
    takeByte stage ([b] ++ rest) = .ok (b, rest) := rfl

lemma takeByte_of_lt {stage : Stage} (h : bytes.length < 1) :
    takeByte stage bytes = .error (.shortMessage stage 1 bytes.length) := by
  obtain rfl := List.length_eq_zero_iff.mp (Nat.lt_one_iff.mp h)
  rfl

lemma takeTid_of_lt (h : bytes.length < 2) :
    takeTid bytes = .error (.shortMessage .tid 2 bytes.length) := by
  match bytes, h with
  | [], _ | [_], _ => rfl

lemma takeObjectCode_of_lt {stage : Stage} (h : bytes.length < 3) :
    takeObjectCode stage bytes = .error (.shortMessage stage 3 bytes.length) := by
  match bytes, h with
  | [], _ | [_], _ | [_, _], _ => rfl

lemma takeHeader_of_lt (h : bytes.length < 2) :
    takeHeader bytes = .error (.shortMessage .header 2 bytes.length) := by
  match bytes, h with
  | [], _ | [_], _ => rfl

lemma takeEntries_of_endsIn {es : List Entry} (hf : ∀ e ∈ es, e.Fits)
    (h : EndsIn (es.flatMap Entry.fields) bytes stage needed remaining) :
    takeEntries es.length bytes = .error (.shortMessage stage needed remaining) := by
  induction es generalizing bytes with
  | nil => cases h
  | cons e es ih =>
    obtain ⟨he, hes⟩ := List.forall_mem_cons.mp hf
    have hpdc : (UInt8.ofNat e.pdc).toNat = e.edt.length := toNat_byte he
    rw [List.flatMap_cons, Entry.fields] at h
    cases h with
    | here hl =>
      simp only [List.length_cons, takeEntries, takeEntry, takeByte_of_lt hl]
      rfl
    | later h =>
      cases h with
      | here hl =>
        simp only [List.length_cons, takeEntries, takeEntry, takeByte_append, bind, Except.bind,
          takeByte_of_lt hl]
        rfl
      | @later _ _ part _ _ _ h =>
        cases h with
        | here hl =>
          have hs : takeEntries (es.length + 1) (e.epc :: UInt8.ofNat e.pdc :: part) = _ :=
            takeEntries_short (hpdc.symm ▸ hl)
          rw [hpdc] at hs
          exact hs
        | @later _ _ bytes _ _ _ h =>
          have hl : (UInt8.ofNat e.pdc).toNat ≤ (e.edt ++ bytes).length := by
            rw [hpdc, List.length_append]
            exact Nat.le_add_right _ _
          have hc : takeEntries (es.length + 1)
              (e.epc :: UInt8.ofNat e.pdc :: (e.edt ++ bytes)) = _ := takeEntries_cons hl
          rw [hpdc, List.drop_left, ih hes h] at hc
          exact hc

lemma takeMessage_of_endsIn {m : Message} (hm : m.Fits)
    (h : EndsIn m.fields bytes stage needed remaining) :
    takeMessage bytes = .error (.shortMessage stage needed remaining) := by
  rw [takeMessage]
  cases h with
  | here hl => rw [takeHeader_of_lt hl]; rfl
  | later h =>
  simp only [takeHeader_append, bind, Except.bind]
  cases h with
  | here hl => simp only [takeTid_of_lt hl]; rfl
  | later h =>
  simp only [takeTid_eq_ok_iff.mpr rfl]
  cases h with
  | here hl => simp only [takeObjectCode_of_lt hl]; rfl
  | later h =>
  simp only [takeObjectCode_eq_ok_iff.mpr rfl]
  cases h with
  | here hl => simp only [takeObjectCode_of_lt hl]; rfl
  | later h =>
  simp only [takeObjectCode_eq_ok_iff.mpr rfl]
  cases h with
  | here hl => simp only [takeByte_of_lt hl]; rfl
  | later h =>
  simp only [takeByte_append]
  cases h with
  | here hl => simp only [takeByte_of_lt hl]; rfl
  | later h =>
  have hopc : (UInt8.ofNat m.opc).toNat = m.entries.length := toNat_byte hm.entries
  simp only [takeByte_append, hopc, takeEntries_of_endsIn hm.data h]

lemma exists_front_zeros (bytes : Bytes) {n : Nat} (hn : 2 ≤ n) :
    ∃ epc pdc body k, bytes ++ List.replicate n 0 = epc :: pdc :: (body ++ List.replicate k 0) ∧
      n ≤ k + 2 := by
  obtain ⟨k, rfl⟩ := Nat.exists_eq_add_of_le' hn
  match bytes with
  | [] => exact ⟨0, 0, [], k, rfl, Nat.le_refl _⟩
  | [epc] => exact ⟨epc, 0, [], k + 1, rfl, by omega⟩
  | epc :: pdc :: body => exact ⟨epc, pdc, body, k + 2, rfl, by omega⟩

lemma exists_takeEntries_zeros (count : Nat) (bytes : Bytes) {n : Nat} (hn : count * 257 ≤ n) :
    ∃ taken, takeEntries count (bytes ++ List.replicate n 0) = .ok taken := by
  induction count generalizing bytes n with
  | zero => exact ⟨_, rfl⟩
  | succ count ih =>
    rw [Nat.succ_mul] at hn
    obtain ⟨epc, pdc, body, k, hb, hk⟩ := exists_front_zeros bytes (n := n) (by omega)
    have hpdc : pdc.toNat ≤ 255 := Nat.le_of_lt_succ pdc.toNat_lt
    have hleft : count * 257 ≤ k - (pdc.toNat - body.length) := Nat.le_sub_of_add_le (by omega)
    have hl : pdc.toNat ≤ (body ++ List.replicate k (0 : UInt8)).length := by
      rw [List.length_append, List.length_replicate]
      omega
    obtain ⟨taken, ht⟩ := ih (body.drop pdc.toNat) hleft
    rw [hb, takeEntries_cons hl, List.drop_append, List.drop_replicate, ht]
    exact ⟨_, rfl⟩

lemma checkHeader_of_begins (h : [firstByte, secondByte] <+: bytes) :
    checkHeader (bytes.getD 0 0) (bytes.getD 1 0) = .ok () := by
  obtain ⟨rest, rfl⟩ := h
  exact checkHeader_eq_ok_iff.mpr ⟨rfl, rfl⟩

lemma prefix_of_checkHeader (hl : 2 ≤ bytes.length)
    (h : checkHeader (bytes.getD 0 0) (bytes.getD 1 0) = .ok ()) :
    [firstByte, secondByte] <+: bytes := by
  match bytes, hl with
  | first :: second :: rest, _ =>
    obtain ⟨rfl, rfl⟩ := checkHeader_eq_ok_iff.mp h
    exact List.prefix_append _ rest

end Frame

namespace Message

open EchonetLite.Frame

variable {bytes : Bytes} {m : Message} {stage : Stage} {needed remaining : Nat}

lemma decode_of_endsIn (hm : m.Fits) (h : EndsIn m.fields bytes stage needed remaining) :
    decode bytes = .error (.shortMessage stage needed remaining) := by
  rw [decode, takeMessage_of_endsIn hm h]

lemma exists_wire_comparable (h : [firstByte, secondByte] <+: bytes) :
    ∃ m : Message, m.Fits ∧ (m.wire <+: bytes ∨ bytes <+: m.wire) := by
  let padded := bytes ++ List.replicate (headerSize + 255 * 257) 0
  have hp : bytes <+: padded := List.prefix_append _ _
  have hl : headerSize ≤ padded.length := by
    rw [List.length_append, List.length_replicate]
    omega
  have hopc : (padded.getD (headerSize - 1) 0).toNat * 257 ≤
      headerSize + 255 * 257 - (headerSize - bytes.length) := by
    have hb := (padded.getD (headerSize - 1) 0).toNat_lt
    omega
  obtain ⟨taken, ht⟩ := exists_takeEntries_zeros _ (bytes.drop headerSize) hopc
  rw [← List.drop_replicate, ← List.drop_append] at ht
  obtain ⟨m, hm⟩ := decode_of_header hl (checkHeader_of_begins (h.trans hp))
  rw [ht] at hm
  obtain ⟨hf, hw⟩ := decode_eq_ok_iff.mp hm
  exact ⟨_, hf, List.prefix_or_prefix_of_prefix hw hp⟩

lemma decode_of_beginning (hm : m.Fits) (hp : bytes <+: m.wire) (hne : bytes ≠ m.wire) :
    ∃ stage needed remaining, EndsIn m.fields bytes stage needed remaining ∧
      decode bytes = .error (.shortMessage stage needed remaining) := by
  rw [← m.flatMap_fields] at hp hne
  obtain ⟨stage, needed, remaining, h⟩ := exists_endsIn hp hne
  exact ⟨stage, needed, remaining, h, decode_of_endsIn hm h⟩

lemma decode_of_length_lt (hl : bytes.length < 2) :
    decode bytes = .error (.shortMessage .header 2 bytes.length) := by
  rw [decode, takeMessage, takeHeader_of_lt hl]
  rfl

lemma malformed_iff : (∃ fault, decode bytes = .error (.malformedFrame fault)) ↔
    2 ≤ bytes.length ∧ ¬ [firstByte, secondByte] <+: bytes := by
  constructor
  · rintro ⟨fault, h⟩
    rcases decode_error h with ⟨_, _, _, he⟩ | ⟨hl, hc⟩
    · cases he
    · refine ⟨hl, fun hp => ?_⟩
      rw [checkHeader_of_begins hp] at hc
      cases hc
  · rintro ⟨hl, hp⟩
    cases hc : checkHeader (bytes.getD 0 0) (bytes.getD 1 0) with
    | ok => exact absurd (prefix_of_checkHeader hl hc) hp
    | error e =>
      obtain ⟨fault, rfl⟩ := checkHeader_error hc
      exact ⟨fault, decode_of_badHeader hl hc⟩

lemma short_cases (h : decode bytes = .error (.shortMessage stage needed remaining)) :
    bytes.length < 2 ∨ [firstByte, secondByte] <+: bytes ∧
      ∃ m : Message, m.Fits ∧ bytes <+: m.wire ∧ bytes ≠ m.wire := by
  rcases Nat.lt_or_ge bytes.length 2 with hl | hl
  · exact .inl hl
  have hp : [firstByte, secondByte] <+: bytes := Decidable.byContradiction fun hp => by
    obtain ⟨fault, hf⟩ := malformed_iff.mpr ⟨hl, hp⟩
    cases hf.symm.trans h
  have hne : ∀ m : Message, m.Fits → ¬ m.wire <+: bytes := fun m hm hw =>
    nomatch (decode_eq_ok_iff.mpr ⟨hm, hw⟩).symm.trans h
  obtain ⟨m, hm, hw⟩ := exists_wire_comparable hp
  refine .inr ⟨hp, m, hm, hw.resolve_left (hne m hm), ?_⟩
  rintro rfl
  exact hne m hm (List.prefix_refl _)

lemma exists_endsIn_of_short (h : decode bytes = .error (.shortMessage stage needed remaining)) :
    ∃ m : Message, m.Fits ∧ EndsIn m.fields bytes stage needed remaining := by
  rcases short_cases h with hl | ⟨-, m, hm, hp, hne⟩
  · obtain ⟨rfl, rfl, rfl⟩ := Error.shortMessage.inj
      (Except.error.inj ((decode_of_length_lt hl).symm.trans h))
    exact ⟨{ seoj := .controller, deoj := .nodeProfile, esv := .get }, ⟨by decide, nofun⟩, .here hl⟩
  · obtain ⟨_, _, _, he, hd⟩ := decode_of_beginning hm hp hne
    obtain ⟨rfl, rfl, rfl⟩ := Error.shortMessage.inj (Except.error.inj (hd.symm.trans h))
    exact ⟨m, hm, he⟩

lemma short_iff :
    (∃ stage needed remaining, decode bytes = .error (.shortMessage stage needed remaining)) ↔
      bytes.length < 2 ∨ [firstByte, secondByte] <+: bytes ∧
        ∃ m frame, Message.encode m = .ok frame ∧ bytes <+: frame ∧ bytes ≠ frame := by
  constructor
  · rintro ⟨stage, needed, remaining, h⟩
    refine (short_cases h).imp_right fun ⟨hp, m, hm, hw⟩ => ⟨hp, m, m.wire, ?_, hw⟩
    exact encode_eq_ok_iff.mpr ⟨hm, rfl⟩
  · rintro (hl | ⟨-, m, frame, he, hp, hne⟩)
    · exact ⟨_, _, _, decode_of_length_lt hl⟩
    · obtain ⟨hm, rfl⟩ := encode_eq_ok_iff.mp he
      obtain ⟨stage, needed, remaining, -, hd⟩ := decode_of_beginning hm hp hne
      exact ⟨stage, needed, remaining, hd⟩

lemma ok_iff : (∃ m, decode bytes = .ok m) ↔
    ¬ (∃ fault, decode bytes = .error (.malformedFrame fault)) ∧
    ¬ ∃ stage needed remaining, decode bytes = .error (.shortMessage stage needed remaining) := by
  constructor
  · rintro ⟨m, hm⟩
    exact ⟨fun ⟨_, h⟩ => (nomatch hm.symm.trans h), fun ⟨_, _, _, h⟩ => nomatch hm.symm.trans h⟩
  · rintro ⟨hm, hs⟩
    cases hd : decode bytes with
    | ok m => exact ⟨m, rfl⟩
    | error e =>
      rcases decode_error hd with ⟨stage, needed, remaining, rfl⟩ | ⟨-, hc⟩
      · exact absurd ⟨stage, needed, remaining, hd⟩ hs
      · obtain ⟨fault, rfl⟩ := checkHeader_error hc
        exact absurd ⟨fault, hd⟩ hm

/-- Reading a byte string comes to one of three ends. The frame is wrong exactly if the first two
bytes are there and are not those of a frame. The string is too short exactly if it lacks one of
these, or begins with them and is the beginning of a frame but not all of it. In every other case
there is a message. A string that is too short is reported with the field in which it ends, the
width of that field and the number of its bytes that are there, and the report stays with that field
until the field is whole. -/
theorem decode_outcomes (bytes : Bytes) :
    ((∃ fault, decode bytes = .error (.malformedFrame fault)) ↔
      2 ≤ bytes.length ∧ ¬ [0x10, 0x81] <+: bytes) ∧
    ((∃ stage needed remaining, decode bytes = .error (.shortMessage stage needed remaining)) ↔
      bytes.length < 2 ∨ [0x10, 0x81] <+: bytes ∧
        ∃ m frame, Message.encode m = .ok frame ∧ bytes <+: frame ∧ bytes ≠ frame) ∧
    ((∃ m, decode bytes = .ok m) ↔
      ¬ (∃ fault, decode bytes = .error (.malformedFrame fault)) ∧
      ¬ ∃ stage needed remaining, decode bytes = .error (.shortMessage stage needed remaining)) ∧
    ∀ stage needed remaining,
      decode bytes = .error (.shortMessage stage needed remaining) →
        (bytes.length < 2 → stage = .header ∧ needed = 2 ∧ remaining = bytes.length) ∧
        (∀ m frame, Message.encode m = .ok frame → bytes <+: frame →
          EndsIn m.fields bytes stage needed remaining) ∧
        remaining < needed ∧
        ∀ more : Bytes, more.length < needed - remaining →
          decode (bytes ++ more) =
            .error (.shortMessage stage needed (remaining + more.length)) := by
  refine ⟨malformed_iff, short_iff, ok_iff, fun stage needed remaining h => ?_⟩
  obtain ⟨m, hm, he⟩ := exists_endsIn_of_short h
  refine ⟨fun hl => ?_, fun m' frame henc hp => ?_, he.lt, fun more hmore => ?_⟩
  · exact Error.shortMessage.inj (Except.error.inj (h.symm.trans (decode_of_length_lt hl)))
  · obtain ⟨hm', rfl⟩ := encode_eq_ok_iff.mp henc
    have hne : bytes ≠ m'.wire := by
      rintro rfl
      cases (decode_wire hm').symm.trans h
    obtain ⟨_, _, _, he', hd⟩ := decode_of_beginning hm' hp hne
    obtain ⟨rfl, rfl, rfl⟩ := Error.shortMessage.inj (Except.error.inj (hd.symm.trans h))
    exact he'
  · exact decode_of_endsIn hm (he.append hmore)

end Message

end EchonetLite
