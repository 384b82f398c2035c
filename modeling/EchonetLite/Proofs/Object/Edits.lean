import EchonetLite.Database
import EchonetLite.Object.NodeProfile
import EchonetLite.Proofs.Object.Writes

/-! How an object comes about: it is made in one of a few ways, and edits follow one another. An
edit puts a property into the object, changes the access to one, or stores data. -/

namespace EchonetLite

namespace PropertyTable

lemma find?_insertInto (p : Property) {list : List Property}
    (hs : (list.map Property.epc).Pairwise (· < ·)) (epc : UInt8) :
    (insertInto p list).find? (·.epc == epc) =
      if p.epc = epc then some p else list.find? (·.epc == epc) := by
  induction list with
  | nil => by_cases h : p.epc = epc <;> simp [insertInto, h]
  | cons q list ih =>
    obtain ⟨hq, hlist⟩ := List.pairwise_cons.mp hs
    rw [insertInto]
    split
    · by_cases h : p.epc = epc <;> simp [List.find?_cons, h]
    · split
      case isTrue he => by_cases h : p.epc = epc <;> simp [h, ← he]
      case isFalse he =>
        rw [List.find?_cons, ih hlist, List.find?_cons]
        by_cases h : q.epc = epc
        · have hp : p.epc ≠ epc := fun hp => he (hp.trans h.symm)
          simp [h, hp]
        · rw [beq_eq_false_iff_ne.mpr h]

lemma find?_insert (t : PropertyTable) (p : Property) (epc : UInt8) :
    (t.insert p).find? epc = if p.epc = epc then some p else t.find? epc :=
  find?_insertInto p t.ascending epc

lemma find?_of_mem {t : PropertyTable} {p : Property} (hp : p ∈ t.toList) :
    t.find? p.epc = some p := by
  obtain ⟨before, after, ht⟩ := List.append_of_mem hp
  have hs := t.ascending
  rw [ht, List.map_append, List.pairwise_append] at hs
  rw [find?, ht]
  refine List.find?_eq_some_iff_append.mpr ⟨beq_self_eq_true p.epc, before, after, rfl, ?_⟩
  intro q hq
  have hlt := hs.2.2 q.epc (List.mem_map_of_mem hq) p.epc List.mem_cons_self
  simpa using UInt8.ne_of_lt hlt

lemma find?_setAccess (t : PropertyTable) (epc c : UInt8) (access : Access) :
    (t.setAccess epc access).find? c =
      (t.find? c).map fun p => if p.epc = epc then { p with access } else p := by
  have hc : (fun p : Property => (if p.epc = epc then { p with access } else p).epc == c) =
      fun p => p.epc == c := by
    funext p
    split <;> rfl
  rw [find?, setAccess, List.find?_map]
  exact congrArg (Option.map _) (congrArg (List.find? · t.toList) hc)

end PropertyTable

namespace Object

lemma property?_place (o : Object) (epc c : UInt8) (access : Access) (data : Bytes) :
    (o.place epc access data).property? c =
      if epc = c then some { epc, access, data, parent := some o.code } else o.property? c :=
  PropertyTable.find?_insert _ _ _

inductive Origin where
  | bare (code : ObjectCode)
  | basic (code : ObjectCode)
  | device (code : ObjectCode)
  | profile (classCode instanceCode : UInt8)
  | nodeProfile (manufacturer : UInt32) (sendOnly : Bool) (serial : Serial)
  | template (db : Database) (code : ObjectCode)

def Origin.object : Origin → Object
  | .bare code => .bare code
  | .basic code => .basic code
  | .device code => .device code
  | .profile classCode instanceCode => .profile classCode instanceCode
  | .nodeProfile manufacturer sendOnly serial => .nodeProfile manufacturer sendOnly serial
  | .template db code => db.createObject code

inductive Edit where
  | add (epc : UInt8) (access : Access)
  | addWithData (epc : UInt8) (access : Access) (data : Bytes)
  | setAccess (epc : UInt8) (access : Access)
  | setData (epc : UInt8) (data : Bytes)
  | setInteger (epc : UInt8) (value : UInt32) (size : Nat)
  | setManufacturer (code : UInt32)

inductive Edit.Rearranges : Edit → Prop
  | add (epc : UInt8) (access : Access) : Rearranges (.add epc access)
  | addWithData (epc : UInt8) (access : Access) (data : Bytes) :
      Rearranges (.addWithData epc access data)
  | setAccess (epc : UInt8) (access : Access) : Rearranges (.setAccess epc access)

inductive Edit.Writes : Edit → UInt8 → Prop
  | setData (epc : UInt8) (data : Bytes) : Writes (.setData epc data) epc
  | setInteger (epc : UInt8) (value : UInt32) (size : Nat) : Writes (.setInteger epc value size) epc
  | setManufacturer (code : UInt32) : Writes (.setManufacturer code) Epc.manufacturer

def perform (o : Object) : Edit → Except Error Unit × Object
  | .add epc access => o.add epc access
  | .addWithData epc access data => o.add epc access data
  | .setAccess epc access => o.setAccess epc access
  | .setData epc data => o.setData epc data
  | .setInteger epc value size => o.setData epc (Property.integerBytes value size)
  | .setManufacturer code => (.ok (), o.setManufacturer code)

def edit (o : Object) (e : Edit) : Object := (o.perform e).2

def editAll (o : Object) (es : List Edit) : Object := es.foldl edit o

inductive Edited (o : Object) (e : Edit) : Object → Prop
  | failed {err : Error} : (o.perform e).1 = .error err → Edited o e o
  | placed {epc : UInt8} {access : Access} {data : Bytes} : e.Rearranges →
      Property.lowestCode ≤ epc → Edited o e (o.place epc access data).refreshMaps
  | granted {epc : UInt8} {access : Access} : e.Rearranges →
      Edited o e { o with properties := o.properties.setAccess epc access }.refreshMaps
  | stored {epc : UInt8} {data : Bytes} : ¬ e.Rearranges → e.Writes epc →
      Edited o e (o.store epc data)

variable {o : Object} {e : Edit} {epc : UInt8} {access : Access} {data : Bytes} {p : Property}

lemma add_of_lt (h : epc < Property.lowestCode) :
    o.add epc access data = (.error (.protocol (.codeTooLow epc)), o) :=
  if_pos h

lemma add_of_le (h : Property.lowestCode ≤ epc) :
    o.add epc access data = (.ok (), (o.place epc access data).refreshMaps) :=
  if_neg (UInt8.not_lt.mpr h)

lemma setAccess_of_none (h : o.property? epc = none) :
    o.setAccess epc access = (.error (.protocol (.noProperty o.code epc)), o) := by
  rw [setAccess, h]

lemma setAccess_of_some (h : o.property? epc = some p) : o.setAccess epc access =
    (.ok (), { o with properties := o.properties.setAccess epc access }.refreshMaps) := by
  rw [setAccess, h]

lemma setData_of_none (h : o.property? epc = none) :
    o.setData epc data = (.error (.protocol (.noProperty o.code epc)), o) := by
  rw [setData, h]

lemma setData_of_some (h : o.property? epc = some p) :
    o.setData epc data = (.ok (), o.store epc data) := by
  rw [setData, h]

lemma edited_add (he : o.perform e = o.add epc access data) (hr : e.Rearranges) :
    o.Edited e (o.edit e) := by
  rw [edit]
  by_cases hlow : epc < Property.lowestCode
  · rw [he.trans (add_of_lt hlow)]
    exact .failed (congrArg Prod.fst (he.trans (add_of_lt hlow)))
  · rw [he.trans (add_of_le (UInt8.not_lt.mp hlow))]
    exact .placed hr (UInt8.not_lt.mp hlow)

lemma edited_setData (he : o.perform e = o.setData epc data) (hr : ¬ e.Rearranges)
    (hw : e.Writes epc) : o.Edited e (o.edit e) := by
  rw [edit]
  cases hp : o.property? epc with
  | none =>
    rw [he.trans (setData_of_none hp)]
    exact .failed (congrArg Prod.fst (he.trans (setData_of_none hp)))
  | some p =>
    rw [he.trans (setData_of_some hp)]
    exact .stored hr hw

lemma edited (o : Object) (e : Edit) : o.Edited e (o.edit e) := by
  cases e with
  | add epc access => exact edited_add rfl (.add epc access)
  | addWithData epc access data => exact edited_add rfl (.addWithData epc access data)
  | setAccess epc access =>
    rw [edit, perform]
    cases hp : o.property? epc with
    | none =>
      rw [setAccess_of_none hp]
      exact .failed (congrArg Prod.fst (setAccess_of_none hp))
    | some p =>
      rw [setAccess_of_some hp]
      exact .granted (.setAccess epc access)
  | setData epc data => exact edited_setData rfl nofun (.setData epc data)
  | setInteger epc value size => exact edited_setData rfl nofun (.setInteger epc value size)
  | setManufacturer code => exact .stored nofun (.setManufacturer code)

lemma editAll_append (o : Object) (es fs : List Edit) :
    o.editAll (es ++ fs) = (o.editAll es).editAll fs :=
  List.foldl_append

lemma editAll_preserves {P : Object → Prop} {o : Object} {es : List Edit}
    (hstep : ∀ e ∈ es, ∀ o : Object, P o → P (o.edit e)) (h : P o) : P (o.editAll es) :=
  List.foldlRecOn es edit h fun o ho e he => hstep e he o ho

lemma createObject_eq (db : Database) (code : ObjectCode) :
    ∃ es, (∀ e ∈ es, ∃ epc access, e = .add epc access) ∧
      db.createObject code = (Database.plainObject code).editAll es := by
  rw [Database.createObject]
  split
  · exact ⟨[], nofun, rfl⟩
  case h_2 t _ =>
    have hstep : Database.addTemplateProperty = fun o t => o.edit (.add t.epc t.access) := rfl
    refine ⟨t.properties.map fun t => .add t.epc t.access, ?_, ?_⟩
    · intro e he
      obtain ⟨t, _, rfl⟩ := List.mem_map.mp he
      exact ⟨t.epc, t.access, rfl⟩
    · rw [editAll, List.foldl_map, hstep]

end Object

end EchonetLite
