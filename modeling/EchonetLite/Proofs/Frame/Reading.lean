import EchonetLite.Frame.Reader
import EchonetLite.Proofs.Frame.Boundary

/-! A message is read from a source of bytes as it is from the bytes. How the source cuts them into
calls, and how often it is interrupted, does not show; nothing behind the frame is consumed. -/

namespace EchonetLite

namespace Reader

def deliveredBy : List Event → Bytes
  | [] => []
  | .bytes piece :: events => piece ++ deliveredBy events
  | .interrupted :: events => deliveredBy events
  | .failed _ :: _ => []
  | .endOfFile :: _ => []

def faultBehind : List Event → Option IoFault
  | [] => none
  | .bytes _ :: events => faultBehind events
  | .interrupted :: events => faultBehind events
  | .failed fault :: _ => some fault
  | .endOfFile :: _ => none

def delivered (r : Reader) : Bytes := deliveredBy r.events

def fault? (r : Reader) : Option IoFault := faultBehind r.events

def shortage (r : Reader) (stage : Stage) (needed got : Nat) : Error :=
  r.fault?.elim (.shortMessage stage needed got) .io

structure Advances (r : Reader) (size : Nat) (r' : Reader) : Prop where
  delivered : r'.delivered = r.delivered.drop size
  fault : r'.fault? = r.fault?
  remaining : r'.remaining + size = r.remaining

lemma Advances.refl (r : Reader) : r.Advances 0 r := ⟨rfl, rfl, rfl⟩

lemma Advances.trans {r r' r'' : Reader} {m n : Nat} (h : r.Advances m r')
    (h' : r'.Advances n r'') : r.Advances (m + n) r'' where
  delivered := by rw [h'.delivered, h.delivered, List.drop_drop]
  fault := h'.fault.trans h.fault
  remaining := by
    have hr := h.remaining
    have hr' := h'.remaining
    omega

variable {events : List Event} {needed size : Nat} {r r' : Reader}

lemma shortage_congr (h : r'.fault? = r.fault?) : r'.shortage = r.shortage := by
  funext stage needed got
  rw [shortage, shortage, h]

lemma advances_piece (piece : Bytes) (events : List Event) (h : size ≤ piece.length) :
    Advances ⟨.bytes piece :: events⟩ size ⟨.bytes (piece.drop size) :: events⟩ where
  delivered := by simp only [Reader.delivered, deliveredBy, List.drop_append_of_le_length h]
  fault := rfl
  remaining := by
    simp only [Reader.remaining, List.foldr_cons, Event.size, List.length_drop]
    omega

lemma advances_whole_piece (piece : Bytes) (events : List Event) :
    Advances ⟨.bytes piece :: events⟩ piece.length ⟨events⟩ where
  delivered := by simp only [Reader.delivered, deliveredBy, List.drop_left]
  fault := rfl
  remaining := by
    simp only [Reader.remaining, List.foldr_cons, Event.size]
    omega

lemma advances_interrupted (events : List Event) :
    Advances ⟨.interrupted :: events⟩ 0 ⟨events⟩ where
  delivered := rfl
  fault := rfl
  remaining := by simp only [Reader.remaining, List.foldr_cons, Event.size]; omega

lemma readOn_of_full (stage : Stage) {got : Bytes} (events : List Event)
    (h : needed ≤ got.length) :
    readOn stage needed got events =
        (.ok (got ++ (deliveredBy events).take (needed - got.length)), events) ∧
      Advances ⟨events⟩ (needed - got.length) ⟨events⟩ := by
  have hz : needed - got.length = 0 := Nat.sub_eq_zero_of_le h
  have hn : ¬ got.length < needed := Nat.not_lt.mpr h
  rw [hz, List.take_zero, List.append_nil]
  refine ⟨?_, Advances.refl _⟩
  cases events with
  | nil => rw [readOn, if_neg hn]
  | cons event events => cases event <;> rw [readOn, if_neg hn]

lemma readOn_of_le (stage : Stage) (got : Bytes)
    (h : needed ≤ got.length + (deliveredBy events).length) :
    ∃ events', readOn stage needed got events =
        (.ok (got ++ (deliveredBy events).take (needed - got.length)), events') ∧
      Advances ⟨events⟩ (needed - got.length) ⟨events'⟩ := by
  -- a piece that is too short moves to `got`, so the induction is for all bytes already got
  induction events generalizing got with
  | nil => exact ⟨[], readOn_of_full stage [] h⟩
  | cons event events ih =>
    by_cases hfull : needed ≤ got.length
    · exact ⟨event :: events, readOn_of_full stage _ hfull⟩
    have hlt : got.length < needed := Nat.lt_of_not_le hfull
    cases event with
    | bytes piece =>
      rw [deliveredBy, List.length_append] at h
      by_cases hp : needed - got.length < piece.length
      · refine ⟨_, ?_, advances_piece piece events (Nat.le_of_lt hp)⟩
        rw [readOn, if_pos hlt, if_pos hp, deliveredBy,
          List.take_append_of_le_length (Nat.le_of_lt hp)]
      · have hl : (got ++ piece).length = got.length + piece.length := List.length_append
        obtain ⟨events', he, ha⟩ := ih (got ++ piece) (by omega)
        have hsize : needed - got.length = piece.length + (needed - (got ++ piece).length) := by
          omega
        refine ⟨events', ?_, hsize ▸ (advances_whole_piece piece events).trans ha⟩
        rw [readOn, if_pos hlt, if_neg hp, he, deliveredBy, hsize, List.take_length_add_append,
          List.append_assoc]
    | interrupted =>
      obtain ⟨events', he, ha⟩ := ih got h
      have hz : needed - got.length = 0 + (needed - got.length) := by omega
      refine ⟨events', ?_, hz ▸ (advances_interrupted events).trans ha⟩
      rw [readOn, if_pos hlt, he, deliveredBy]
    | failed fault =>
      simp only [deliveredBy, List.length_nil] at h
      omega
    | endOfFile =>
      simp only [deliveredBy, List.length_nil] at h
      omega

lemma readOn_of_lt (stage : Stage) (got : Bytes)
    (h : got.length + (deliveredBy events).length < needed) :
    ∃ events', readOn stage needed got events =
        (.error (shortage ⟨events⟩ stage needed (got.length + (deliveredBy events).length)),
          events') ∧
      Reader.remaining ⟨events'⟩ + (deliveredBy events).length = Reader.remaining ⟨events⟩ := by
  induction events generalizing got with
  | nil =>
    refine ⟨[], ?_, rfl⟩
    simp only [deliveredBy, List.length_nil, Nat.add_zero] at h
    rw [readOn, if_pos h]
    rfl
  | cons event events ih =>
    have hlt : got.length < needed := by omega
    cases event with
    | bytes piece =>
      rw [deliveredBy, List.length_append] at h ⊢
      have hl : (got ++ piece).length = got.length + piece.length := List.length_append
      obtain ⟨events', he, hr⟩ := ih (got ++ piece) (by omega)
      have ha := (advances_whole_piece piece events).remaining
      refine ⟨events', ?_, by omega⟩
      rw [readOn, if_pos hlt, if_neg (by omega), he, hl, Nat.add_assoc]
      rfl
    | interrupted =>
      obtain ⟨events', he, hr⟩ := ih got h
      have ha := (advances_interrupted events).remaining
      refine ⟨events', ?_, by rw [deliveredBy]; omega⟩
      rw [readOn, if_pos hlt, he]
      rfl
    | failed fault =>
      refine ⟨events, ?_, by simp [deliveredBy, Reader.remaining, Event.size]⟩
      rw [readOn, if_pos hlt]
      rfl
    | endOfFile =>
      refine ⟨events, ?_, by simp [deliveredBy, Reader.remaining, Event.size]⟩
      rw [readOn, if_pos hlt]
      rfl

lemma readExact_of_le (stage : Stage) (h : size ≤ r.delivered.length) :
    ∃ r', r.readExact stage size = (.ok (r.delivered.take size), r') ∧ r.Advances size r' := by
  have hn : size ≤ ([] : Bytes).length + (deliveredBy r.events).length := by
    rwa [List.length_nil, Nat.zero_add]
  obtain ⟨events', he, ha⟩ := readOn_of_le stage [] hn
  rw [List.length_nil, Nat.sub_zero, List.nil_append] at he
  refine ⟨⟨events'⟩, ?_, ha⟩
  simp only [readExact, he, delivered]

lemma readExact_of_lt (stage : Stage) (h : r.delivered.length < size) :
    ∃ r', r.readExact stage size = (.error (r.shortage stage size r.delivered.length), r') ∧
      r'.remaining + r.delivered.length = r.remaining := by
  have hn : ([] : Bytes).length + (deliveredBy r.events).length < size := by
    rwa [List.length_nil, Nat.zero_add]
  obtain ⟨events', he, hr⟩ := readOn_of_lt stage [] hn
  rw [List.length_nil, Nat.zero_add] at he
  refine ⟨⟨events'⟩, ?_, hr⟩
  simp only [readExact, he, delivered]

def entryShortage (r : Reader) : Error → Error
  | .shortMessage .propertyCode .. => r.shortage .propertyCode 2 0
  | .shortMessage .propertyDataCounter .. => r.shortage .propertyCode 2 1
  | .shortMessage stage needed got => r.shortage stage needed got
  | e => e

lemma entryShortage_congr (h : r'.fault? = r.fault?) : r'.entryShortage = r.entryShortage := by
  funext e
  simp only [entryShortage, shortage_congr h]

lemma readEntries_of_shortFront (count : Nat) (frame : Bytes) (h : r.delivered.length < 2) :
    ∃ r', r.readEntries (count + 1) frame =
        (.error (r.shortage .propertyCode 2 r.delivered.length), r') ∧
      r'.remaining + r.delivered.length = r.remaining := by
  obtain ⟨r', he, hr⟩ := readExact_of_lt .propertyCode h
  refine ⟨r', ?_, hr⟩
  rw [readEntries, he]

section Front

variable {epc pdc : UInt8} {body : Bytes}

lemma readExact_front (hd : r.delivered = epc :: pdc :: body) :
    ∃ r', r.readExact .propertyCode 2 = (.ok [epc, pdc], r') ∧ r.Advances 2 r' ∧
      r'.delivered = body := by
  obtain ⟨r', he, ha⟩ := readExact_of_le (r := r) .propertyCode (show 2 ≤ _ by simp [hd])
  rw [hd] at he
  exact ⟨r', he, ha, by rw [ha.delivered, hd]; rfl⟩

lemma readEntries_of_shortData (count : Nat) (frame : Bytes)
    (hd : r.delivered = epc :: pdc :: body) (h : body.length < pdc.toNat) :
    ∃ r', r.readEntries (count + 1) frame =
        (.error (r.shortage .propertyData pdc.toNat body.length), r') ∧
      r'.remaining + r.delivered.length = r.remaining := by
  obtain ⟨r₁, h₁, ha₁, hd₁⟩ := readExact_front hd
  obtain ⟨r₂, h₂, hr⟩ := readExact_of_lt (r := r₁) .propertyData (hd₁ ▸ h)
  rw [hd₁] at h₂ hr
  have hpdc : [epc, pdc].getD 1 0 = pdc := rfl
  refine ⟨r₂, ?_, ?_⟩
  · simp only [readEntries, h₁, hpdc, h₂, shortage_congr ha₁.fault]
  · have hrem := ha₁.remaining
    rw [hd, List.length_cons, List.length_cons]
    omega

lemma readEntries_of_entry (count : Nat) (frame : Bytes)
    (hd : r.delivered = epc :: pdc :: body) (h : pdc.toNat ≤ body.length) :
    ∃ r', r.readEntries (count + 1) frame =
        r'.readEntries count (frame ++ [epc, pdc] ++ body.take pdc.toNat) ∧
      r.Advances (2 + pdc.toNat) r' ∧ r'.delivered = body.drop pdc.toNat := by
  obtain ⟨r₁, h₁, ha₁, hd₁⟩ := readExact_front hd
  obtain ⟨r₂, h₂, ha₂⟩ := readExact_of_le (r := r₁) .propertyData (hd₁ ▸ h)
  rw [hd₁] at h₂
  have hpdc : [epc, pdc].getD 1 0 = pdc := rfl
  refine ⟨r₂, ?_, ha₁.trans ha₂, by rw [ha₂.delivered, hd₁]⟩
  simp only [readEntries, h₁, hpdc, h₂]

end Front

inductive ReadsEntries (r : Reader) (frame : Bytes) :
    Except Error (List Entry × Bytes) → Except Error Bytes × Reader → Prop
  | whole {entries : List Entry} {rest : Bytes} {r' : Reader} :
      r.Advances (Entry.totalLength entries) r' →
      ReadsEntries r frame (.ok (entries, rest)) (.ok (frame ++ entries.flatMap Entry.wire), r')
  | broken {e : Error} {r' : Reader} : r'.remaining + r.delivered.length = r.remaining →
      ReadsEntries r frame (.error e) (.error (r.entryShortage e), r')

lemma ReadsEntries.cons {entry : Entry} {frame : Bytes}
    {taken : Except Error (List Entry × Bytes)} {out : Except Error Bytes × Reader}
    (ha : r.Advances (2 + entry.pdc) r') (hl : 2 + entry.pdc ≤ r.delivered.length)
    (h : r'.ReadsEntries (frame ++ entry.wire) taken out) :
    r.ReadsEntries frame (taken.map fun t => (entry :: t.1, t.2)) out := by
  cases h with
  | whole ha' =>
    rw [List.append_assoc, ← List.flatMap_cons]
    exact .whole (ha.trans ha')
  | broken hr =>
    rw [entryShortage_congr ha.fault]
    refine .broken ?_
    have hrem := ha.remaining
    rw [ha.delivered, List.length_drop] at hr
    omega

lemma readEntries_reads (count : Nat) (frame : Bytes) (r : Reader) :
    r.ReadsEntries frame (Frame.takeEntries count r.delivered) (r.readEntries count frame) := by
  induction count generalizing frame r with
  | zero =>
    have h : r.ReadsEntries frame (.ok ([], r.delivered))
        (.ok (frame ++ [].flatMap Entry.wire), r) := .whole (Advances.refl r)
    rwa [List.flatMap_nil, List.append_nil] at h
  | succ count ih =>
    match hd : r.delivered with
    | [] | [_] =>
      obtain ⟨r', he, hr⟩ := readEntries_of_shortFront (r := r) count frame (by simp [hd])
      rw [he, hd]
      exact .broken hr
    | epc :: pdc :: body =>
      by_cases hp : pdc.toNat ≤ body.length
      · obtain ⟨r', he, ha, hd'⟩ := readEntries_of_entry count frame hd hp
        have hpdc : (body.take pdc.toNat).length = pdc.toNat := List.length_take_of_le hp
        have hw : (⟨epc, body.take pdc.toNat⟩ : Entry).wire =
            [epc, pdc] ++ body.take pdc.toNat := by
          simp [Entry.wire, Entry.pdc, hpdc]
        have hi := ih (frame ++ [epc, pdc] ++ body.take pdc.toNat) r'
        rw [hd', List.append_assoc, ← hw] at hi
        rw [he, Frame.takeEntries_cons hp, List.append_assoc, ← hw]
        refine hi.cons ?_ ?_
        · rwa [Entry.pdc, hpdc]
        · rw [Entry.pdc, hpdc, hd, List.length_cons, List.length_cons]
          omega
      · obtain ⟨r', he, hr⟩ := readEntries_of_shortData count frame hd (Nat.lt_of_not_le hp)
        rw [he, Frame.takeEntries_short (Nat.lt_of_not_le hp)]
        exact .broken hr

lemma getD_take {bytes : Bytes} {i n : Nat} (h : i < n) :
    (bytes.take n).getD i 0 = bytes.getD i 0 := by
  rw [List.getD_eq_getElem?_getD, List.getD_eq_getElem?_getD, List.getElem?_take_of_lt h]

lemma readMessage_of_shortHeader (hl : r.delivered.length < Frame.headerSize) :
    ∃ r', r.readMessage =
        (.error (r.shortage .header Frame.headerSize r.delivered.length), r') ∧
      r'.remaining + r.delivered.length = r.remaining := by
  obtain ⟨r', he, hr⟩ := readExact_of_lt .header hl
  refine ⟨r', ?_, hr⟩
  rw [readMessage, he]

lemma readMessage_of_badHeader {e : Error} (hl : Frame.headerSize ≤ r.delivered.length)
    (hc : Frame.checkHeader (r.delivered.getD 0 0) (r.delivered.getD 1 0) = .error e) :
    ∃ r', r.readMessage = (.error e, r') ∧ r.Advances Frame.headerSize r' := by
  obtain ⟨r', he, ha⟩ := readExact_of_le .header hl
  refine ⟨r', ?_, ha⟩
  rw [readMessage, he]
  simp only [getD_take (show 0 < Frame.headerSize by decide),
    getD_take (show 1 < Frame.headerSize by decide), hc]

lemma readMessage_of_header (hl : Frame.headerSize ≤ r.delivered.length)
    (hc : Frame.checkHeader (r.delivered.getD 0 0) (r.delivered.getD 1 0) = .ok ()) :
    ∃ r' out, r.Advances Frame.headerSize r' ∧
      r'.ReadsEntries (r.delivered.take Frame.headerSize)
        (Frame.takeEntries (r.delivered.getD (Frame.headerSize - 1) 0).toNat
          (r.delivered.drop Frame.headerSize)) out ∧
      r.readMessage = (out.1 >>= Message.decode, out.2) := by
  obtain ⟨r', he, ha⟩ := readExact_of_le .header hl
  have hentries := readEntries_reads (r.delivered.getD (Frame.headerSize - 1) 0).toNat
    (r.delivered.take Frame.headerSize) r'
  rw [ha.delivered] at hentries
  refine ⟨r', _, ha, hentries, ?_⟩
  rw [readMessage, he]
  simp only [getD_take (show 0 < Frame.headerSize by decide),
    getD_take (show 1 < Frame.headerSize by decide),
    getD_take (show Frame.headerSize - 1 < Frame.headerSize by decide), hc]
  cases readEntries (r.delivered.getD (Frame.headerSize - 1) 0).toNat
      (r.delivered.take Frame.headerSize) r' with
  | mk frame r'' => cases frame <;> rfl

lemma length_wireHeader (m : Message) : m.wireHeader.length = Frame.headerSize := by
  simp only [Message.wireHeader, List.length_append, Bytes.length_ofNat, ObjectCode.toBytes,
    List.length_cons, List.length_nil, Frame.headerSize]

lemma checkHeader_of_decode_ne (hl : Frame.headerSize ≤ r.delivered.length)
    (hd : ∀ fault, Message.decode r.delivered ≠ .error (.malformedFrame fault)) :
    Frame.checkHeader (r.delivered.getD 0 0) (r.delivered.getD 1 0) = .ok () := by
  cases hc : Frame.checkHeader (r.delivered.getD 0 0) (r.delivered.getD 1 0) with
  | ok => rfl
  | error e =>
    obtain ⟨fault, rfl⟩ := Frame.checkHeader_error hc
    exact absurd (Frame.decode_of_badHeader (Nat.le_trans (by decide) hl) hc) (hd fault)

lemma readMessage_of_ok {m : Message} (hd : Message.decode r.delivered = .ok m) :
    ∃ r', r.readMessage = (.ok m, r') ∧ r.Advances m.encodedLength r' := by
  obtain ⟨hm, rest, hb⟩ := Message.decode_eq_ok_iff.mp hd
  have hb' : m.wireHeader ++ (m.entries.flatMap Entry.wire ++ rest) = r.delivered := by
    rw [← hb, Message.wire, List.append_assoc]
  have hl := Frame.headerSize_le_of_decode hd
  have hc := checkHeader_of_decode_ne hl (by simp [hd])
  obtain ⟨r', out, ha, he, hr⟩ := readMessage_of_header hl hc
  obtain ⟨_, ht⟩ := Frame.takeEntries_of_decode_ok hl hc hd
  rw [ht] at he
  rw [hr]
  cases he with
  | @whole _ _ r'' ha' =>
    refine ⟨r'', ?_, ha.trans ha'⟩
    have hf : r.delivered.take Frame.headerSize ++ m.entries.flatMap Entry.wire = m.wire := by
      rw [← hb', List.take_left' (length_wireHeader m), Message.wire]
    simp only [hf, bind, Except.bind, Message.decode_wire hm]

lemma readMessage_of_shortEntry {e : Error} (hl : Frame.headerSize ≤ r.delivered.length)
    (hd : Message.decode r.delivered = .error e) (hs : e.IsShort) :
    ∃ r', r.readMessage = (.error (r.entryShortage e), r') ∧
      r'.remaining + r.delivered.length = r.remaining := by
  have hc : Frame.checkHeader (r.delivered.getD 0 0) (r.delivered.getD 1 0) = .ok () := by
    obtain ⟨_, _, _, rfl⟩ := hs
    exact checkHeader_of_decode_ne hl (by simp [hd])
  obtain ⟨r', out, ha, he, hr⟩ := readMessage_of_header hl hc
  rw [Frame.takeEntries_of_decode_error hl hc hd] at he
  rw [hr]
  cases he with
  | @broken _ r'' hrem =>
    refine ⟨r'', by rw [entryShortage_congr ha.fault]; rfl, ?_⟩
    have hrem' := ha.remaining
    rw [ha.delivered, List.length_drop] at hrem
    omega

def outcome (r : Reader) : Except Error Message :=
  if r.delivered.length < Frame.headerSize then
    .error (r.shortage .header Frame.headerSize r.delivered.length)
  else (Message.decode r.delivered).mapError r.entryShortage

def consumed (bytes : Bytes) : Bytes :=
  match Message.decode bytes with
  | .ok m => m.wire
  | .error (.malformedFrame _) => bytes.take Frame.headerSize
  | .error _ => bytes

lemma outcome_congr (hd : r'.delivered = r.delivered) (hf : r'.fault? = r.fault?) :
    r'.outcome = r.outcome := by
  rw [outcome, outcome, hd, shortage_congr hf, entryShortage_congr hf]

lemma consumed_of_short_header {bytes : Bytes} (hl : bytes.length < Frame.headerSize) :
    consumed bytes = bytes := by
  cases hd : Message.decode bytes with
  | ok m => exact absurd (Frame.headerSize_le_of_decode hd) (Nat.not_le.mpr hl)
  | error e =>
    rw [consumed, hd]
    cases e with
    | malformedFrame fault => exact List.take_of_length_le (Nat.le_of_lt hl)
    | _ => rfl

lemma consumed_front (bytes : Bytes) : consumed bytes <+: bytes := by
  rw [consumed]
  split
  case h_1 m hd => exact (Message.decode_eq_ok_iff.mp hd).2
  case h_2 => exact List.take_prefix _ _
  case h_3 => exact List.prefix_refl _

lemma consumed_eq_wire {bytes : Bytes} {m : Message} (hm : m.Fits) (h : m.wire <+: bytes) :
    consumed bytes = m.wire := by
  rw [consumed, Message.decode_eq_ok_iff.mpr ⟨hm, h⟩]

lemma readMessage_eq (r : Reader) :
    r.readMessage.1 = r.outcome ∧
      r.readMessage.2.remaining + (consumed r.delivered).length = r.remaining := by
  by_cases hl : r.delivered.length < Frame.headerSize
  · obtain ⟨r', hr, hrem⟩ := readMessage_of_shortHeader hl
    rw [hr, outcome, if_pos hl, consumed_of_short_header hl]
    exact ⟨rfl, hrem⟩
  have hge := Nat.le_of_not_lt hl
  rw [outcome, if_neg hl, consumed]
  cases hd : Message.decode r.delivered with
  | ok m =>
    obtain ⟨r', hr, ha⟩ := readMessage_of_ok hd
    rw [hr]
    refine ⟨rfl, ?_⟩
    simp only [Message.length_wire]
    exact ha.remaining
  | error e =>
    rcases Frame.decode_error hd with hs | ⟨-, hc⟩
    · obtain ⟨r', hr, hrem⟩ := readMessage_of_shortEntry hge hd hs
      obtain ⟨_, _, _, rfl⟩ := hs
      rw [hr]
      exact ⟨rfl, hrem⟩
    · obtain ⟨r', hr, ha⟩ := readMessage_of_badHeader hge hc
      obtain ⟨fault, rfl⟩ := Frame.checkHeader_error hc
      rw [hr]
      refine ⟨rfl, ?_⟩
      simp only [List.length_take_of_le hge]
      exact ha.remaining

lemma readMessage_eq_ok_iff {m : Message} :
    r.readMessage.1 = .ok m ↔ Message.decode r.delivered = .ok m := by
  constructor
  · intro h
    rw [r.readMessage_eq.1, outcome] at h
    split at h
    · cases h
    · cases hd : Message.decode r.delivered with
      | ok m' => rwa [hd] at h
      | error e =>
        rw [hd] at h
        cases h
  · intro hd
    obtain ⟨r', hr, -⟩ := readMessage_of_ok hd
    rw [hr]

lemma readMessages_of_wires {ms : List Message} (hf : ∀ m ∈ ms, m.Fits)
    (h : ms.flatMap Message.wire <+: r.delivered) :
    (r.readMessages ms.length).map Prod.fst = ms.map .ok := by
  induction ms generalizing r with
  | nil => rfl
  | cons m ms ih =>
    obtain ⟨hm, hms⟩ := List.forall_mem_cons.mp hf
    obtain ⟨more, hmore⟩ := h
    rw [List.flatMap_cons, List.append_assoc] at hmore
    have hd : Message.decode r.delivered = .ok m := by
      rw [← hmore, Message.decode_wire_append hm]
    obtain ⟨r', hr, ha⟩ := readMessage_of_ok hd
    have hrest : ms.flatMap Message.wire <+: r'.delivered := by
      rw [ha.delivered, ← hmore, List.drop_left' m.length_wire]
      exact List.prefix_append _ _
    simp only [List.length_cons, readMessages, hr, List.map_cons, ih hms hrest]

/-- What is read from a source is what its bytes decode to, and exactly the frame is consumed, so
frames behind each other are read one by one. Result and consumption are the same for every source
that delivers these bytes and then ends in this way; neither goes beyond the frame, nor beyond the
header if that is wrong. -/
theorem readMessage_delivered (r : Reader) :
    (∀ m, r.readMessage.1 = .ok m ↔ Message.decode r.delivered = .ok m) ∧
    (∀ m, r.readMessage.1 = .ok m → r.Advances m.encodedLength r.readMessage.2) ∧
    (∀ ms : List Message, (∀ m ∈ ms, m.encode = .ok m.wire) →
      ms.flatMap Message.wire <+: r.delivered →
        (r.readMessages ms.length).map Prod.fst = ms.map .ok) ∧
    ∃ used, used <+: r.delivered ∧ r.readMessage.2.remaining + used.length = r.remaining ∧
      (∀ (m : Message) (frame : Bytes), m.encode = .ok frame → frame <+: used → used = frame) ∧
      (∀ fault, Message.decode r.delivered = .error (.malformedFrame fault) →
        used.length ≤ Frame.headerSize) ∧
      ∀ r' : Reader, r'.delivered = r.delivered → r'.fault? = r.fault? →
        r'.readMessage.1 = r.readMessage.1 ∧
          r'.readMessage.2.remaining + used.length = r'.remaining := by
  refine ⟨fun _ => readMessage_eq_ok_iff, ?_, ?_, consumed r.delivered, consumed_front _,
    r.readMessage_eq.2, ?_, ?_, ?_⟩
  · intro m hm
    obtain ⟨r', hr, ha⟩ := readMessage_of_ok (readMessage_eq_ok_iff.mp hm)
    rwa [hr]
  · intro ms hms hfront
    exact readMessages_of_wires (fun m hm => (Message.encode_eq_ok_iff.mp (hms m hm)).1) hfront
  · intro m frame he hfront
    obtain ⟨hm, rfl⟩ := Message.encode_eq_ok_iff.mp he
    exact consumed_eq_wire hm (hfront.trans (consumed_front _))
  · intro fault hd
    rw [consumed, hd]
    exact List.length_take_le _ _
  · intro r' hd hf
    rw [r'.readMessage_eq.1, r.readMessage_eq.1, ← hd]
    exact ⟨outcome_congr hd hf, r'.readMessage_eq.2⟩

end Reader

end EchonetLite
