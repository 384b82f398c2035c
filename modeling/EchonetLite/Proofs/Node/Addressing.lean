import EchonetLite.Node.Objects
import Mathlib.Tactic.Lemma

/-! An address finds the first object that it covers, profiles before devices, and changing the
object that it finds changes nothing else in the collection. -/

namespace EchonetLite

namespace ObjectCode

def Covers (wanted held : ObjectCode) : Prop :=
  if wanted.instanceCode = 0 then held.objectClass = wanted.objectClass else held = wanted

lemma names_iff {wanted held : ObjectCode} : wanted.names held = true ↔ wanted.Covers held := by
  rw [names, Covers]
  by_cases h : wanted.instanceCode = 0 <;> simp [h]

lemma names_eq_false_iff {wanted held : ObjectCode} :
    wanted.names held = false ↔ ¬ wanted.Covers held := by
  rw [← names_iff, Bool.not_eq_true]

end ObjectCode

namespace NodeObjects

/-- The address `code` finds `h` in the collection, and `put h'` is the collection with `h'` in
the place of `h`. -/
inductive Addressed (code : ObjectCode) :
    NodeObjects → HostedObject → (HostedObject → NodeObjects) → Prop
  | profile {devices before after : List HostedObject} {h : HostedObject} :
      (∀ g ∈ before, ¬ code.Covers g.code) → code.Covers h.code →
      Addressed code ⟨devices, before ++ h :: after⟩ h fun h' => ⟨devices, before ++ h' :: after⟩
  | device {profiles before after : List HostedObject} {h : HostedObject} :
      (∀ g ∈ profiles ++ before, ¬ code.Covers g.code) → code.Covers h.code →
      Addressed code ⟨before ++ h :: after, profiles⟩ h fun h' => ⟨before ++ h' :: after, profiles⟩

lemma modifyFirst_append {α : Type} {test : α → Bool} {f : α → α} {before after : List α} {x : α}
    (hb : ∀ y ∈ before, test y = false) (hx : test x = true) :
    modifyFirst test f (before ++ x :: after) = before ++ f x :: after := by
  induction before with
  | nil => simp [modifyFirst, hx]
  | cons y ys ih =>
    obtain ⟨hy, hys⟩ := List.forall_mem_cons.mp hb
    simp only [List.cons_append, modifyFirst, hy, ih hys, Bool.false_eq_true, if_false]

lemma find?_append_cons {α : Type} {test : α → Bool} {before after : List α} {x : α}
    (hb : ∀ y ∈ before, test y = false) (hx : test x = true) :
    (before ++ x :: after).find? test = some x :=
  List.find?_eq_some_iff_append.mpr ⟨hx, before, after, rfl, fun y hy => by simp [hb y hy]⟩

variable {n : NodeObjects} {code : ObjectCode} {h h' : HostedObject}
  {put : HostedObject → NodeObjects}

lemma Addressed.find? (ha : n.Addressed code h put) : n.find? code = some h := by
  cases ha with
  | @profile devices before after h hb hh =>
    rw [NodeObjects.find?, toList]
    rw [List.append_assoc, List.cons_append]
    exact find?_append_cons (fun g hg => ObjectCode.names_eq_false_iff.mpr (hb g hg))
      (ObjectCode.names_iff.mpr hh)
  | @device profiles before after h hb hh =>
    rw [NodeObjects.find?, toList]
    rw [← List.append_assoc]
    exact find?_append_cons (fun g hg => ObjectCode.names_eq_false_iff.mpr (hb g hg))
      (ObjectCode.names_iff.mpr hh)

lemma Addressed.modify (ha : n.Addressed code h put) (f : HostedObject → HostedObject) :
    n.modify code f = put (f h) := by
  cases ha with
  | @profile devices before after h hb hh =>
    have hn : ∀ g ∈ before, code.names g.code = false :=
      fun g hg => ObjectCode.names_eq_false_iff.mpr (hb g hg)
    have hc : code.names h.code = true := ObjectCode.names_iff.mpr hh
    have hp : ((before ++ h :: after).any fun g => code.names g.code) = true :=
      List.any_eq_true.mpr ⟨h, by simp, hc⟩
    rw [NodeObjects.modify, if_pos hp, modifyFirst_append hn hc]
  | @device profiles before after h hb hh =>
    have hn : ∀ g ∈ profiles ++ before, code.names g.code = false :=
      fun g hg => ObjectCode.names_eq_false_iff.mpr (hb g hg)
    have hp : ¬ (profiles.any fun g => code.names g.code) = true := by
      rw [List.any_eq_true]
      rintro ⟨g, hg, hc⟩
      rw [hn g (List.mem_append_left _ hg)] at hc
      cases hc
    rw [NodeObjects.modify, if_neg hp,
      modifyFirst_append (fun g hg => hn g (List.mem_append_right _ hg))
        (ObjectCode.names_iff.mpr hh)]

lemma Addressed.mem (ha : n.Addressed code h put) : h ∈ n.toList := by
  cases ha <;> simp [toList]

lemma Addressed.put_self (ha : n.Addressed code h put) : put h = n := by
  cases ha <;> rfl

lemma find?_eq_none_iff : n.find? code = none ↔ ∀ h ∈ n.toList, ¬ code.Covers h.code := by
  simp only [NodeObjects.find?, List.find?_eq_none, ObjectCode.names_iff]

lemma exists_addressed (hf : n.find? code = some h) : ∃ put, n.Addressed code h put := by
  obtain ⟨hc, before, after, hs, hb⟩ := List.find?_eq_some_iff_append.mp hf
  have hh : code.Covers h.code := ObjectCode.names_iff.mp hc
  have hn : ∀ g ∈ before, ¬ code.Covers g.code := by
    intro g hg
    rw [← ObjectCode.names_iff]
    simpa using hb g hg
  obtain ⟨devices, profiles⟩ := n
  rcases List.append_eq_append_iff.mp hs with ⟨middle, rfl, rfl⟩ | ⟨middle, rfl, hm⟩
  · exact ⟨_, .device hn hh⟩
  · cases middle with
    | nil =>
      obtain rfl : h :: after = devices := by simpa using hm
      exact ⟨_, @Addressed.device code _ [] after h (by simpa using hn) hh⟩
    | cons g middle =>
      obtain ⟨rfl, rfl⟩ := List.cons.inj hm
      exact ⟨_, .profile hn hh⟩

lemma modify_object (hf : n.find? code = some h) :
    (n.modify code fun g => { g with object := h.object }) = n := by
  obtain ⟨put, ha⟩ := exists_addressed hf
  exact (ha.modify _).trans ha.put_self

lemma exists_addressed_or (n : NodeObjects) (code : ObjectCode) :
    (∃ h put, n.Addressed code h put) ∨ ∀ h ∈ n.toList, ¬ code.Covers h.code := by
  cases hf : n.find? code with
  | none => exact .inr (find?_eq_none_iff.mp hf)
  | some h => exact .inl ⟨h, exists_addressed hf⟩

def lamps : NodeObjects :=
  { devices := [{ object := .device ⟨0x02, 0x90, 0x01⟩ }, { object := .device ⟨0x02, 0x90, 0x02⟩ }] }

example : (lamps.find? ⟨0x02, 0x90, 0x00⟩).map (·.code) = some ⟨0x02, 0x90, 0x01⟩ := by decide

end NodeObjects

end EchonetLite
