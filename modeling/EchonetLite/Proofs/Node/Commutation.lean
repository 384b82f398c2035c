import EchonetLite.Proofs.Node.Sequences

/-! Two messages to different objects can be handled in either order, and so can two messages that
do not write. -/

namespace EchonetLite.NodeObjects

lemma append_cons_eq_cases {α : Type} {before before' after after' : List α} {x x' : α}
    (h : before ++ x :: after = before' ++ x' :: after') :
    (before = before' ∧ x = x' ∧ after = after') ∨
      (∃ middle, before' = before ++ x :: middle ∧ after = middle ++ x' :: after') ∨
      ∃ middle, before = before' ++ x' :: middle ∧ after' = middle ++ x :: after := by
  rcases List.append_eq_append_iff.mp h with ⟨middle, rfl, hm⟩ | ⟨middle, rfl, hm⟩
  · rcases List.cons_eq_append_iff.mp hm with ⟨rfl, hc⟩ | ⟨middle, rfl, rfl⟩
    · obtain ⟨rfl, rfl⟩ := List.cons.inj hc
      exact .inl ⟨(List.append_nil _).symm, rfl, rfl⟩
    · exact .inr (.inl ⟨middle, rfl, rfl⟩)
  · rcases List.cons_eq_append_iff.mp hm with ⟨rfl, hc⟩ | ⟨middle, rfl, rfl⟩
    · obtain ⟨rfl, rfl⟩ := List.cons.inj hc
      exact .inl ⟨List.append_nil _, rfl, rfl⟩
    · exact .inr (.inr ⟨middle, rfl, rfl⟩)

lemma findIdx?_append_cons {α : Type} {test : α → Bool} {before after : List α} {x : α}
    (hb : ∀ y ∈ before, test y = false) (hx : test x = true) :
    (before ++ x :: after).findIdx? test = some before.length := by
  rw [List.findIdx?_append, List.findIdx?_eq_none_iff.mpr hb, Option.none_or, List.findIdx?_cons,
    if_pos hx, Option.map_some, Nat.zero_add]

variable {n : NodeObjects} {code code' : ObjectCode} {h h' : HostedObject} {m m' : Message}
  {put put' : HostedObject → NodeObjects} {both : HostedObject → HostedObject → NodeObjects}
  {out : Outbox}

def place? (n : NodeObjects) (code : ObjectCode) : Option Nat :=
  n.toList.findIdx? fun h => code.names h.code

def Apart (n : NodeObjects) (code code' : ObjectCode) : Prop :=
  ∀ i, n.place? code = some i → n.place? code' ≠ some i

lemma Apart.code_ne (hap : n.Apart code code') (ha : n.Addressed code h put)
    (ha' : n.Addressed code' h' put') : h.code ≠ h'.code := by
  intro hc
  obtain ⟨hh, before, after, hs, hb⟩ := List.find?_eq_some_iff_append.mp ha.find?
  obtain ⟨hh', before', after', hs', hb'⟩ := List.find?_eq_some_iff_append.mp ha'.find?
  simp only [Bool.not_eq_eq_eq_not, Bool.not_true] at hb hb'
  rcases append_cons_eq_cases (hs.symm.trans hs') with ⟨rfl, _⟩ | ⟨middle, rfl, _⟩ | ⟨middle, rfl, _⟩
  · have hi : n.place? code = some before.length := by
      rw [place?, hs, findIdx?_append_cons hb hh]
    have hi' : n.place? code' = some before.length := by
      rw [place?, hs', findIdx?_append_cons hb' hh']
    exact hap _ hi hi'
  · rw [← hc, hb' h (by simp)] at hh'
    cases hh'
  · rw [hc, hb h' (by simp)] at hh
    cases hh

/-- In `both g g'`, `g` stands at the place of `h` and `g'` at the place of `h'`. Whatever stands at
the one place, with the code of the object there, the address of the other place finds what it
found. -/
structure Beside (code code' : ObjectCode) (h h' : HostedObject)
    (put put' : HostedObject → NodeObjects) (both : HostedObject → HostedObject → NodeObjects) :
    Prop where
  first : ∀ g, g.code = h.code → (put g).Addressed code' h' (both g)
  second : ∀ g', g'.code = h'.code → (put' g').Addressed code h fun g => both g g'

lemma Beside.symm (hb : Beside code code' h h' put put' both) :
    Beside code' code h' h put' put fun g' g => both g g' :=
  ⟨hb.second, hb.first⟩

lemma forall_append_cons {P : HostedObject → Prop} {before middle : List HostedObject}
    {g : HostedObject} (hp : ∀ k ∈ before ++ h :: middle, P k) (hg : P h → P g) :
    ∀ k ∈ before ++ g :: middle, P k := by
  simp only [List.forall_mem_append, List.forall_mem_cons] at hp ⊢
  exact ⟨hp.1, hg hp.2.1, hp.2.2⟩

def FoundIn (outer : List HostedObject) (wrap : List HostedObject → NodeObjects) : Prop :=
  ∀ code before h after, (∀ g ∈ outer ++ before, ¬ ObjectCode.Covers code g.code) →
    code.Covers h.code →
      (wrap (before ++ h :: after)).Addressed code h fun h' => wrap (before ++ h' :: after)

lemma foundIn_profiles (devices : List HostedObject) :
    FoundIn [] fun profiles => ⟨devices, profiles⟩ :=
  fun _ _ _ _ => .profile

lemma foundIn_devices (profiles : List HostedObject) :
    FoundIn profiles fun devices => ⟨devices, profiles⟩ :=
  fun _ _ _ _ => .device

section

variable {outer before middle after before' after' profiles devices : List HostedObject}
  {wrap : List HostedObject → NodeObjects}

lemma FoundIn.beside (hw : FoundIn outer wrap) (hb : ∀ g ∈ outer ++ before, ¬ code.Covers g.code)
    (hh : code.Covers h.code)
    (hb' : ∀ g ∈ outer ++ (before ++ h :: middle), ¬ code'.Covers g.code)
    (hh' : code'.Covers h'.code) :
    Beside code code' h h' (fun g => wrap (before ++ g :: (middle ++ h' :: after)))
      (fun g' => wrap (before ++ h :: middle ++ g' :: after))
      fun g g' => wrap (before ++ g :: (middle ++ g' :: after)) where
  first g hg := by
    rw [← List.append_assoc] at hb'
    have hn := forall_append_cons hb' fun hn => (hg ▸ hn : ¬ code'.Covers g.code)
    rw [List.append_assoc] at hn
    simpa only [List.append_assoc, List.cons_append] using hw code' _ h' after hn hh'
  second g' _ := by
    simpa only [List.append_assoc, List.cons_append] using
      hw code before h (middle ++ g' :: after) hb hh

lemma FoundIn.exists_beside (hw : FoundIn outer wrap)
    (hb : ∀ g ∈ outer ++ before, ¬ code.Covers g.code) (hh : code.Covers h.code)
    (hb' : ∀ g ∈ outer ++ before', ¬ code'.Covers g.code) (hh' : code'.Covers h'.code)
    (hs : before ++ h :: after = before' ++ h' :: after') (hne : h ≠ h') :
    ∃ both, Beside code code' h h' (fun g => wrap (before ++ g :: after))
      (fun g' => wrap (before' ++ g' :: after')) both := by
  rcases append_cons_eq_cases hs with ⟨_, he, _⟩ | ⟨middle, rfl, rfl⟩ | ⟨middle, rfl, rfl⟩
  · exact absurd he hne
  · exact ⟨_, hw.beside hb hh hb' hh'⟩
  · exact ⟨_, (hw.beside hb' hh' hb hh).symm⟩

lemma beside_profile_device (hb : ∀ g ∈ before, ¬ code.Covers g.code) (hh : code.Covers h.code)
    (hb' : ∀ g ∈ before ++ h :: after ++ before', ¬ code'.Covers g.code)
    (hh' : code'.Covers h'.code) :
    Beside code code' h h' (fun g => ⟨before' ++ h' :: after', before ++ g :: after⟩)
      (fun g' => ⟨before' ++ g' :: after', before ++ h :: after⟩)
      fun g g' => ⟨before' ++ g' :: after', before ++ g :: after⟩ where
  first g hg := by
    rw [List.append_assoc, List.cons_append] at hb'
    have hn := forall_append_cons hb' fun hn => (hg ▸ hn : ¬ code'.Covers g.code)
    rw [← List.cons_append, ← List.append_assoc] at hn
    exact .device hn hh'
  second _ _ := .profile hb hh

end

lemma Addressed.exists_beside (ha : n.Addressed code h put) (ha' : n.Addressed code' h' put')
    (hne : h ≠ h') : ∃ both, Beside code code' h h' put put' both := by
  cases ha with
  | @profile devices before after h hb hh =>
    generalize hn : (⟨devices, before ++ h :: after⟩ : NodeObjects) = n at ha'
    cases ha' with
    | profile hb' hh' =>
      obtain ⟨rfl, hs⟩ := NodeObjects.mk.inj hn
      exact (foundIn_profiles devices).exists_beside hb hh hb' hh' hs hne
    | device hb' hh' =>
      obtain ⟨rfl, rfl⟩ := NodeObjects.mk.inj hn
      exact ⟨_, beside_profile_device hb hh hb' hh'⟩
  | @device profiles before after h hb hh =>
    generalize hn : (⟨before ++ h :: after, profiles⟩ : NodeObjects) = n at ha'
    cases ha' with
    | profile hb' hh' =>
      obtain ⟨rfl, rfl⟩ := NodeObjects.mk.inj hn
      exact ⟨_, (beside_profile_device hb' hh' hb hh).symm⟩
    | device hb' hh' =>
      obtain ⟨hs, rfl⟩ := NodeObjects.mk.inj hn
      exact (foundIn_devices profiles).exists_beside hb hh hb' hh' hs hne

lemma objects_handle_of_reads (quiet : ∀ h ∈ n.toList, h.listener = none) (hw : ¬ m.esv.Writes)
    (out : Outbox) : (n.handle m out).objects = n := by
  rcases n.exists_addressed_or m.deoj with ⟨h, put, ha⟩ | hn
  · have ho := (Request.serve_written (quiet h ha.mem) m out).1
    rw [Request.written_eq_nil hw] at ho
    rw [handle_addressed ha, ho]
    exact ha.put_self
  · rw [handle_unaddressed hn]

lemma handleAfter_unaddressed (quiet : ∀ h ∈ n.toList, h.listener = none)
    (hn : ∀ h ∈ n.toList, ¬ m.deoj.Covers h.code) (m' : Message) (out : Outbox) :
    (n.handleAfter m' m out).answer = (n.handle m out).answer ∧
      (n.handleAfter m m' out).answer = (n.handle m' out).answer ∧
      (n.handleAfter m m' out).objects = (n.handleAfter m' m out).objects := by
  rw [handleAfter, handleAfter, handle_unaddressed hn,
    handle_unaddressed (unaddressed_handle quiet hn m' out)]
  exact ⟨rfl, rfl, rfl⟩

lemma handleAfter_beside (quiet : ∀ h ∈ n.toList, h.listener = none)
    (ha : n.Addressed m.deoj h put) (ha' : n.Addressed m'.deoj h' put')
    (hb : Beside m.deoj m'.deoj h h' put put' both) (out : Outbox) :
    (n.handleAfter m m' out).answer = (n.handle m' out).answer ∧
      (n.handleAfter m m' out).objects =
        both { h with object := (Request.serve h m out).object }
          { h' with object := (Request.serve h' m' out).object } := by
  have hb' := hb.first { h with object := (Request.serve h m out).object }
    (Request.code_serve (quiet h ha.mem) m out)
  obtain ⟨ho, hs⟩ := Request.serve_outbox (quiet h' ha'.mem) m' out (Request.serve h m out).outbox
  rw [handleAfter, handle_addressed ha, handle_addressed hb', handle_addressed ha', ho]
  exact ⟨hs, rfl⟩

/-- Two messages that find different objects, or of which one finds none, or that both do not write,
can be handled in either order: each of them is answered as if it came first, and the objects are the
same in the end. -/
theorem handle_commutes (n : NodeObjects) (m m' : Message) (out : Outbox)
    (quiet : ∀ h ∈ n.toList, h.listener = none)
    (hap : n.Apart m.deoj m'.deoj ∨ ¬ m.esv.Writes ∧ ¬ m'.esv.Writes) :
    (n.handleAfter m' m out).answer = (n.handle m out).answer ∧
      (n.handleAfter m m' out).answer = (n.handle m' out).answer ∧
      (n.handleAfter m m' out).objects = (n.handleAfter m' m out).objects := by
  rcases hap with hap | ⟨hw, hw'⟩
  · rcases n.exists_addressed_or m.deoj with ⟨h, put, ha⟩ | hn
    · rcases n.exists_addressed_or m'.deoj with ⟨h', put', ha'⟩ | hn'
      · obtain ⟨both, hb⟩ := ha.exists_beside ha' fun he => hap.code_ne ha ha' (congrArg _ he)
        obtain ⟨hs', ho'⟩ := handleAfter_beside quiet ha ha' hb out
        obtain ⟨hs, ho⟩ := handleAfter_beside quiet ha' ha hb.symm out
        exact ⟨hs, hs', ho'.trans ho.symm⟩
      · obtain ⟨hs', hs, ho⟩ := handleAfter_unaddressed quiet hn' m out
        exact ⟨hs, hs', ho.symm⟩
    · exact handleAfter_unaddressed quiet hn m' out
  · have ho := objects_handle_of_reads quiet hw out
    have ho' := objects_handle_of_reads quiet hw' out
    simp only [handleAfter, ho, ho']
    obtain ⟨hr, hs⟩ := handle_outbox quiet m out (n.handle m' out).outbox
    obtain ⟨hr', hs'⟩ := handle_outbox quiet m' out (n.handle m out).outbox
    exact ⟨hs, hs', (hr'.trans ho').trans (hr.trans ho).symm⟩

def install (lamp : ObjectCode) (location : UInt8) : Message :=
  { seoj := .controller, deoj := lamp, esv := .setC, entries := [⟨0x81, [location]⟩] }

theorem handle_commutes_lamps :
    (∀ h ∈ lamps.toList, h.listener = none) ∧
      lamps.Apart ⟨0x02, 0x90, 0x00⟩ ⟨0x02, 0x90, 0x02⟩ ∧
      (lamps.handleAfter (install ⟨0x02, 0x90, 0x00⟩ 0x08) (install ⟨0x02, 0x90, 0x02⟩ 0x10)
          {}).objects =
        (lamps.handleAfter (install ⟨0x02, 0x90, 0x02⟩ 0x10) (install ⟨0x02, 0x90, 0x00⟩ 0x08)
          {}).objects := by
  have quiet : ∀ h ∈ lamps.toList, h.listener = none := by simp [lamps, toList]
  have hap : lamps.Apart ⟨0x02, 0x90, 0x00⟩ ⟨0x02, 0x90, 0x02⟩ := by
    have hp : lamps.place? ⟨0x02, 0x90, 0x00⟩ = some 0 := by decide
    have hp' : lamps.place? ⟨0x02, 0x90, 0x02⟩ = some 1 := by decide
    rintro i hi hi'
    have he : some 0 = some 1 := (hp.symm.trans hi).trans (hi'.symm.trans hp')
    exact absurd he (by decide)
  exact ⟨quiet, hap, (handle_commutes lamps (install ⟨0x02, 0x90, 0x00⟩ 0x08)
    (install ⟨0x02, 0x90, 0x02⟩ 0x10) {} quiet (.inl hap)).2.2⟩

end EchonetLite.NodeObjects
