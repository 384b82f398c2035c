import EchonetLite.Proofs.Node.Serving
import EchonetLite.Proofs.Object.Contents

/-! What a call on one property of an object leaves alone. A call that is refused changes nothing. One
that adds the property or changes its access rewrites the maps and the data that holds them, and one
that writes data changes that data only. -/

namespace EchonetLite.Object

inductive PropertyCall where
  | add (access : Access)
  | addWithData (access : Access) (data : Bytes)
  | setAccess (access : Access)
  | setData (data : Bytes)
  | setInteger (value : UInt32) (size : Nat)

namespace PropertyCall

def access? : PropertyCall → Option Access
  | add access | addWithData access _ | setAccess access => some access
  | setData _ | setInteger _ _ => none

def data? : PropertyCall → Option Bytes
  | add _ => some []
  | addWithData _ data | setData data => some data
  | setInteger value size => some (Property.integerBytes value size)
  | setAccess _ => none

def Refused (o : Object) (epc : UInt8) : PropertyCall → Prop
  | add _ | addWithData _ _ => epc < Property.lowestCode
  | setAccess _ | setData _ | setInteger _ _ => o.property? epc = none

end PropertyCall

def call (o : Object) (epc : UInt8) (out : Outbox) :
    PropertyCall → Except Error Unit × Object × Outbox
  | .add access => (o.add epc access).map id (·, out)
  | .addWithData access data => (o.add epc access data).map id (·, out)
  | .setAccess access => (o.setAccess epc access).map id (·, out)
  | .setData data => o.write epc data out
  | .setInteger value size => o.write epc (Property.integerBytes value size) out

structure KeptBeside (o : Object) (epc : UInt8) (o' : Object) : Prop where
  codes : ∀ c, c ≠ epc → (o'.property? c).isSome = (o.property? c).isSome
  access : ∀ c, c ≠ epc → o'.access? c = o.access? c
  others : ∀ c, c ≠ epc → (∀ k : MapKind, k.epc ≠ c) → o'.property? c = o.property? c
  code : o'.code = o.code
  attached : o'.attached = o.attached

inductive Outcome (o : Object) (epc : UInt8) (out : Outbox) (c : PropertyCall) :
    Except Error Unit × Object × Outbox → Prop
  | refused {e : Error} : c.Refused o epc → Outcome o epc out c ⟨.error e, o, out⟩
  | rearranged {access : Access} {o' : Object} : ¬ c.Refused o epc → c.access? = some access →
      o.KeptBeside epc o' → o'.access? epc = some access →
      ((∀ k : MapKind, k.epc ≠ epc) → o'.data? epc = c.data?.or (o.data? epc)) →
      Outcome o epc out c ⟨.ok (), o', out⟩
  | written {data : Bytes} {o' : Object} : ¬ c.Refused o epc → c.access? = none →
      c.data? = some data → o.Rewritten [⟨epc, data⟩] o' →
      Outcome o epc out c ⟨.ok (), o', o.announce ⟨epc, data⟩ out⟩

variable {o o' : Object} {epc : UInt8} {out : Outbox} {c : PropertyCall} {access : Access}
  {data : Bytes}

lemma property?_setAccess (o : Object) (epc c : UInt8) (access : Access) :
    property? { o with properties := o.properties.setAccess epc access } c =
      (o.property? c).map fun p => if p.epc = epc then { p with access } else p :=
  PropertyTable.find?_setAccess _ _ _ _

lemma keptBeside_refreshMaps (h : ∀ c, c ≠ epc → o'.property? c = o.property? c)
    (hc : o'.code = o.code) (ha : o'.attached = o.attached) : o.KeptBeside epc o'.refreshMaps where
  codes c hne := by
    rw [property?_refreshMaps, property?_storeAll, h c hne, Option.isSome_map]
  access c hne := by rw [access?_refreshMaps, access?, access?, h c hne]
  others c hne hk := (property?_refreshMaps_of_ne hk).trans (h c hne)
  code := hc
  attached := ha

lemma keptBeside_place (o : Object) (epc : UInt8) (access : Access) (data : Bytes) :
    o.KeptBeside epc (o.place epc access data).refreshMaps := by
  refine keptBeside_refreshMaps ?_ rfl rfl
  intro c hne
  rw [property?_place, if_neg hne.symm]

lemma keptBeside_setAccess (o : Object) (epc : UInt8) (access : Access) :
    o.KeptBeside epc { o with properties := o.properties.setAccess epc access }.refreshMaps := by
  refine keptBeside_refreshMaps ?_ rfl rfl
  intro c hne
  rw [property?_setAccess]
  cases hp : o.property? c with
  | none => rfl
  | some p =>
    have he : p.epc ≠ epc := PropertyTable.epc_of_find? hp ▸ hne
    rw [Option.map_some, if_neg he]

lemma outcome_add (hc : o.call epc out c = (o.add epc access data).map id (·, out))
    (ha : c.access? = some access) (hd : c.data? = some data)
    (hr : c.Refused o epc ↔ epc < Property.lowestCode) :
    Outcome o epc out c (o.call epc out c) := by
  rw [hc]
  by_cases hlow : epc < Property.lowestCode
  · rw [add_of_lt hlow]
    exact .refused (hr.mpr hlow)
  · rw [add_of_le (UInt8.not_lt.mp hlow)]
    apply Outcome.rearranged (fun h => hlow (hr.mp h)) ha (keptBeside_place o epc access data)
    · rw [access?_refreshMaps, access?_place, if_pos rfl]
    · intro hk
      rw [data?_refreshMaps hk, data?_place, if_pos rfl, hd, Option.some_or]

lemma outcome_setAccess (o : Object) (epc : UInt8) (out : Outbox) (access : Access) :
    Outcome o epc out (.setAccess access) (o.call epc out (.setAccess access)) := by
  rw [call]
  cases hp : o.property? epc with
  | none =>
    rw [setAccess_of_none hp]
    exact .refused hp
  | some p =>
    have he : p.epc = epc := PropertyTable.epc_of_find? hp
    have hr : ¬ (PropertyCall.setAccess access).Refused o epc := by
      rw [PropertyCall.Refused, hp]
      exact Option.some_ne_none p
    rw [setAccess_of_some hp]
    apply Outcome.rearranged hr rfl (keptBeside_setAccess o epc access)
    · rw [access?_refreshMaps, access?, property?_setAccess, hp, Option.map_some, if_pos he]
      rfl
    · intro hk
      rw [data?_refreshMaps hk, Object.data?, property?_setAccess, hp, Option.map_some, if_pos he,
        Object.data?, hp]
      rfl

lemma outcome_write (hc : o.call epc out c = o.write epc data out) (ha : c.access? = none)
    (hd : c.data? = some data) (hr : c.Refused o epc ↔ o.property? epc = none) :
    Outcome o epc out c (o.call epc out c) := by
  rw [hc]
  cases hp : o.property? epc with
  | none =>
    rw [write_of_none hp]
    exact .refused (hr.mpr hp)
  | some p =>
    have hn : ¬ c.Refused o epc := by
      rw [hr, hp]
      exact Option.some_ne_none p
    rw [write_eq (e := ⟨epc, data⟩) hp]
    refine .written hn ha hd ?_
    exact rewritten_storeAll (List.forall_mem_singleton.mpr ⟨p, hp⟩)

/-- A call is refused or has its effect, and in either case leaves everything else alone. -/
theorem call_outcome (o : Object) (epc : UInt8) (out : Outbox) (c : PropertyCall) :
    Outcome o epc out c (o.call epc out c) := by
  cases c with
  | add access => exact outcome_add rfl rfl rfl Iff.rfl
  | addWithData access data => exact outcome_add rfl rfl rfl Iff.rfl
  | setAccess access => exact outcome_setAccess o epc out access
  | setData data => exact outcome_write rfl rfl rfl Iff.rfl
  | setInteger value size => exact outcome_write rfl rfl rfl Iff.rfl

end EchonetLite.Object
