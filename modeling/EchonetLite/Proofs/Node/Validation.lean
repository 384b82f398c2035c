import EchonetLite.Node.Request
import Mathlib.Tactic.Lemma

/-! Which services are requests, what access each of them needs, and when an object refuses an
entry of a request. The checks of a request find no fault exactly if no entry is refused. -/

namespace EchonetLite

namespace Service

inductive Exchange : Service → Option Service → Service → Prop
  | setI : Exchange setI none setISna
  | setC : Exchange setC (some setRes) setCSna
  | get : Exchange get (some getRes) getSna
  | infReq : Exchange infReq (some inf) infSna
  | setGet : Exchange setGet (some setGetRes) setGetSna

inductive Writes : Service → Prop
  | setI : Writes setI
  | setC : Writes setC
  | setGet : Writes setGet

variable {s refusal : Service} {success : Option Service}

lemma isRequest_iff : s.isRequest = true ↔ ∃ success refusal, s.Exchange success refusal := by
  constructor
  · intro h
    simp only [isRequest, isStandard, standard, table, Bool.and_eq_true, List.contains_iff_mem,
      List.map_cons, List.map_nil, List.mem_cons, List.not_mem_nil, or_false] at h
    obtain ⟨hr, rfl | rfl | rfl | rfl | rfl | rfl | rfl | rfl | rfl | rfl | rfl | rfl | rfl | rfl |
      rfl | rfl⟩ := h
    · exact ⟨_, _, .setI⟩
    · exact ⟨_, _, .setC⟩
    · exact ⟨_, _, .get⟩
    · exact ⟨_, _, .infReq⟩
    · exact ⟨_, _, .setGet⟩
    all_goals exact absurd hr (by decide)
  · rintro ⟨success, refusal, h⟩
    cases h <;> decide

lemma isWriteClass_iff : s.isWriteClass = true ↔ s.Writes := by
  constructor
  · intro h
    simp only [isWriteClass, isWriteRequest, isWriteReadRequest, Bool.or_eq_true,
      beq_iff_eq] at h
    obtain (rfl | rfl) | rfl := h
    · exact .setI
    · exact .setC
    · exact .setGet
  · intro h
    cases h <;> rfl

instance : DecidablePred Writes := fun _ => decidable_of_iff _ isWriteClass_iff

lemma Writes.exchange (h : s.Writes) : ∃ success refusal, s.Exchange success refusal := by
  cases h with
  | setI => exact ⟨_, _, .setI⟩
  | setC => exact ⟨_, _, .setC⟩
  | setGet => exact ⟨_, _, .setGet⟩

lemma Exchange.isRequest (h : s.Exchange success refusal) : s.isRequest = true :=
  isRequest_iff.mpr ⟨success, refusal, h⟩

lemma Exchange.ne_infC (h : s.Exchange success refusal) : s ≠ infC := by
  cases h <;> decide

lemma Exchange.response?_eq (h : s.Exchange success refusal) : s.response? = success := by
  cases h <;> decide

lemma Exchange.refusal?_eq (h : s.Exchange success refusal) : s.refusal? = some refusal := by
  cases h <;> decide

lemma Exchange.unique {success' : Option Service} {refusal' : Service}
    (h : s.Exchange success refusal) (h' : s.Exchange success' refusal') :
    success = success' ∧ refusal = refusal' :=
  ⟨h.response?_eq.symm.trans h'.response?_eq,
    Option.some.inj (h.refusal?_eq.symm.trans h'.refusal?_eq)⟩

lemma Exchange.success_ne (h : s.Exchange success refusal) : success ≠ some refusal := by
  cases h <;> decide

lemma Exchange.refusal_ne_inf (h : s.Exchange success refusal) : refusal ≠ inf := by
  cases h <;> decide

end Service

inductive Access.Permits (a : Access) (s : Service) : Prop
  | write : s = .setI ∨ s = .setC → a.writable = true → Permits a s
  | read : s = .get → a.readable = true → Permits a s
  | inform : s = .infReq → a.announceable = true → Permits a s
  | writeRead : s = .setGet → a.writable = true → a.readable = true → Permits a s

lemma Property.allows_iff {s refusal : Service} {success : Option Service} {p : Property}
    (hx : s.Exchange success refusal) : p.allows s = true ↔ p.access.Permits s := by
  constructor
  · intro h
    cases hx with
    | setI => exact .write (.inl rfl) h
    | setC => exact .write (.inr rfl) h
    | get => exact .read rfl h
    | infReq => exact .inform rfl h
    | setGet =>
      obtain ⟨hr, hw⟩ := Bool.and_eq_true_iff.mp h
      exact .writeRead rfl hw hr
  · rintro (⟨rfl | rfl, h⟩ | ⟨rfl, h⟩ | ⟨rfl, h⟩ | ⟨rfl, hw, hr⟩)
    · exact h
    · exact h
    · exact h
    · exact h
    · exact Bool.and_eq_true_iff.mpr ⟨hr, hw⟩

inductive Object.Refuses (o : Object) (s : Service) (e : Entry) : Prop
  | missing : o.property? e.epc = none → Refuses o s e
  | denied (p : Property) : o.property? e.epc = some p → ¬ p.access.Permits s → Refuses o s e
  | mismatch (p : Property) : o.property? e.epc = some p → s.Writes → p.data.length ≠ 0 →
      p.data.length ≠ e.edt.length → Refuses o s e

lemma Object.exists_property {o : Object} {s : Service} {e : Entry} (h : ¬ o.Refuses s e) :
    ∃ p, o.property? e.epc = some p := by
  cases hp : o.property? e.epc with
  | none => exact absurd (.missing hp) h
  | some p => exact ⟨p, rfl⟩

lemma Object.refuses_iff {o : Object} {s : Service} {e : Entry} {p : Property}
    (hp : o.property? e.epc = some p) :
    o.Refuses s e ↔ ¬ p.access.Permits s ∨
      s.Writes ∧ p.data.length ≠ 0 ∧ p.data.length ≠ e.edt.length := by
  constructor
  · rintro (hn | ⟨q, hq, hd⟩ | ⟨q, hq, hw, hz, hl⟩)
    · rw [hp] at hn
      cases hn
    · obtain rfl := Option.some.inj (hp.symm.trans hq)
      exact .inl hd
    · obtain rfl := Option.some.inj (hp.symm.trans hq)
      exact .inr ⟨hw, hz, hl⟩
  · rintro (hd | ⟨hw, hz, hl⟩)
    · exact .denied p hp hd
    · exact .mismatch p hp hw hz hl

namespace Request

variable {o : Object} {m : Message} {refusal : Service} {success : Option Service}

lemma entryFault?_eq_none_iff {s : Service} {e : Entry} (hx : s.Exchange success refusal) :
    entryFault? o s e = none ↔ ¬ o.Refuses s e := by
  rw [entryFault?]
  cases hp : o.property? e.epc with
  | none =>
    constructor
    · intro h
      cases h
    · intro h
      exact absurd (.missing hp) h
  | some p =>
    rw [Object.refuses_iff hp, ← Property.allows_iff hx, ← Service.isWriteClass_iff]
    have hs : (s.isWriteClass && decide (0 < p.size) && p.size != e.pdc) = true ↔
        s.isWriteClass = true ∧ p.data.length ≠ 0 ∧ p.data.length ≠ e.edt.length := by
      simp [Property.size, Entry.pdc, and_assoc, Nat.pos_iff_ne_zero]
    dsimp only
    split
    · simp_all
    · split <;> simp_all

lemma fault?_eq_none_iff (hx : m.esv.Exchange success refusal) :
    fault? o m = none ↔ ∀ e ∈ m.entries, ¬ o.Refuses m.esv e := by
  rw [fault?]
  rw [List.findSome?_eq_none_iff]
  exact forall₂_congr fun e _ => entryFault?_eq_none_iff hx

inductive Verdict (o : Object) (m : Message) : Prop
  | acknowledged : m.esv = .infC → Verdict o m
  | dropped : m.esv ≠ .infC → (∀ success refusal, ¬ m.esv.Exchange success refusal) → Verdict o m
  | refused (success : Option Service) (refusal : Service) : m.esv.Exchange success refusal →
      (∃ e ∈ m.entries, o.Refuses m.esv e) → Verdict o m
  | accepted (success : Option Service) (refusal : Service) : m.esv.Exchange success refusal →
      (∀ e ∈ m.entries, ¬ o.Refuses m.esv e) → Verdict o m

lemma verdict (o : Object) (m : Message) : Verdict o m := by
  by_cases hi : m.esv = .infC
  · exact .acknowledged hi
  by_cases hr : ∃ success refusal, m.esv.Exchange success refusal
  · obtain ⟨success, refusal, hx⟩ := hr
    by_cases hb : ∃ e ∈ m.entries, o.Refuses m.esv e
    · exact .refused success refusal hx hb
    · exact .accepted success refusal hx fun e he h => hb ⟨e, he, h⟩
  · exact .dropped hi fun success refusal hx => hr ⟨success, refusal, hx⟩

end Request

end EchonetLite
