import EchonetLite.Proofs.Node.Additions

/-! Objects that join a collection directly, where nothing checks that a device is no profile. The
devices and the profiles each have codes of their own, but an object may stand in both lists. -/

namespace EchonetLite.NodeObjects

inductive Joining
  | device (h : HostedObject)
  | profile (h : HostedObject)
  | object (h : HostedObject)

def Joining.deviceCode? : Joining → Option ObjectCode
  | .device h => some h.code
  | .profile _ => none
  | .object h => if h.code.isProfile then none else some h.code

def Joining.profileCode? : Joining → Option ObjectCode
  | .device _ => none
  | .profile h => some h.code
  | .object h => if h.code.isProfile then some h.code else none

def join (n : NodeObjects) : Joining → NodeObjects
  | .device h => n.addDevice h
  | .profile h => n.addProfile h
  | .object h => n.add h

def joinAll (n : NodeObjects) (calls : List Joining) : NodeObjects := calls.foldl join n

variable {n : NodeObjects}

lemma deviceCodes_join (n : NodeObjects) (j : Joining) :
    (n.join j).deviceCodes = j.deviceCode?.elim n.deviceCodes (ObjectCode.enrol n.deviceCodes) := by
  cases j with
  | device h => exact map_code_upsert _ _
  | profile h => rfl
  | object h =>
    rw [join, Joining.deviceCode?]
    split
    case isTrue hp => exact (profileCodes_add hp).2
    case isFalse hd => exact (deviceCodes_add (Bool.eq_false_iff.mpr hd)).1

lemma profileCodes_join (n : NodeObjects) (j : Joining) : (n.join j).profileCodes =
    j.profileCode?.elim n.profileCodes (ObjectCode.enrol n.profileCodes) := by
  cases j with
  | device h => rfl
  | profile h => exact map_code_upsert _ _
  | object h =>
    rw [join, Joining.profileCode?]
    split
    case isTrue hp => exact (profileCodes_add hp).1
    case isFalse hd => exact (deviceCodes_add (Bool.eq_false_iff.mpr hd)).2

lemma joinAll_concat (n : NodeObjects) (calls : List Joining) (j : Joining) :
    n.joinAll (calls ++ [j]) = (n.joinAll calls).join j :=
  List.foldl_append

lemma codes_joinAll (hd : n.deviceCodes.Nodup) (hp : n.profileCodes.Nodup)
    (calls : List Joining) :
    (n.joinAll calls).deviceCodes =
        (n.deviceCodes ++ calls.filterMap Joining.deviceCode?).eraseDups ∧
      (n.joinAll calls).profileCodes =
        (n.profileCodes ++ calls.filterMap Joining.profileCode?).eraseDups := by
  induction calls using List.reverseRecOn with
  | nil =>
    rw [List.filterMap_nil, List.filterMap_nil, List.append_nil, List.append_nil,
      ObjectCode.eraseDups_of_nodup hd, ObjectCode.eraseDups_of_nodup hp]
    exact ⟨rfl, rfl⟩
  | append_singleton calls j ih =>
    rw [joinAll_concat, deviceCodes_join, profileCodes_join, ih.1, ih.2,
      ObjectCode.eraseDups_filterMap_concat, ObjectCode.eraseDups_filterMap_concat]
    exact ⟨rfl, rfl⟩

/-- Devices and profiles each stand in the order in which their codes were first added, every code
once. Two objects of the collection share a code exactly if one was added to the devices and one to
the profiles under that code. -/
theorem codes_unique_iff (calls : List Joining) :
    (joinAll {} calls).deviceCodes = (calls.filterMap Joining.deviceCode?).eraseDups ∧
    (joinAll {} calls).profileCodes = (calls.filterMap Joining.profileCode?).eraseDups ∧
    (((joinAll {} calls).toList.map (·.code)).Nodup ↔
      ∀ c ∈ calls.filterMap Joining.profileCode?, c ∉ calls.filterMap Joining.deviceCode?) := by
  obtain ⟨hd, hp⟩ := codes_joinAll (n := {}) List.nodup_nil List.nodup_nil calls
  refine ⟨hd, hp, ?_⟩
  have hs : (joinAll {} calls).toList.map (·.code) =
      (calls.filterMap Joining.profileCode?).eraseDups ++
        (calls.filterMap Joining.deviceCode?).eraseDups := by
    rw [toList, List.map_append]
    exact congrArg₂ _ hp hd
  rw [hs, List.nodup_append]
  simp only [List.mem_eraseDups]
  constructor
  · rintro ⟨_, _, hne⟩ c hc hc'
    exact hne c hc c hc' rfl
  · intro h
    refine ⟨ObjectCode.nodup_eraseDups _, ObjectCode.nodup_eraseDups _, ?_⟩
    rintro c hc d hd rfl
    exact h c hc hd

theorem not_codes_unique :
    ¬ ((joinAll {} [.profile { object := .bare .nodeProfile },
      .device { object := .bare .nodeProfile }]).toList.map (·.code)).Nodup := by
  decide

end EchonetLite.NodeObjects
