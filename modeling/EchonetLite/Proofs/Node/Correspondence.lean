import EchonetLite.Proofs.Node.Addressing
import Mathlib.Data.List.Forall2

/-! Two collections of objects that correspond place by place. What an address finds in one of them
corresponds to what it finds in the other. -/

namespace EchonetLite.NodeObjects

variable {R : HostedObject → HostedObject → Prop} {n n' n'' : NodeObjects} {code : ObjectCode}
  {h h' : HostedObject} {put : HostedObject → NodeObjects}

structure Corresponds (R : HostedObject → HostedObject → Prop) (n n' : NodeObjects) : Prop where
  profiles : List.Forall₂ R n.profiles n'.profiles
  devices : List.Forall₂ R n.devices n'.devices

lemma Corresponds.refl (hr : ∀ h, R h h) (n : NodeObjects) : n.Corresponds R n :=
  ⟨List.forall₂_same.mpr fun h _ => hr h, List.forall₂_same.mpr fun h _ => hr h⟩

lemma forall₂_trans (ht : ∀ a b c, R a b → R b c → R a c) {as bs cs : List HostedObject}
    (hab : List.Forall₂ R as bs) (hbc : List.Forall₂ R bs cs) : List.Forall₂ R as cs := by
  induction hab generalizing cs with
  | nil => exact hbc
  | cons hab _ ih =>
    obtain ⟨c, cs, hc, hcs, rfl⟩ := List.forall₂_cons_left_iff.mp hbc
    exact .cons (ht _ _ _ hab hc) (ih hcs)

lemma Corresponds.trans (ht : ∀ a b c, R a b → R b c → R a c) (h : n.Corresponds R n')
    (h' : n'.Corresponds R n'') : n.Corresponds R n'' :=
  ⟨forall₂_trans ht h.profiles h'.profiles, forall₂_trans ht h.devices h'.devices⟩

lemma Addressed.corresponds (hr : ∀ h, R h h) (ha : n.Addressed code h put) (hh : R h h') :
    n.Corresponds R (put h') := by
  have hs : ∀ list : List HostedObject, List.Forall₂ R list list :=
    fun list => List.forall₂_same.mpr fun g _ => hr g
  cases ha with
  | profile => exact ⟨List.rel_append (hs _) (.cons hh (hs _)), hs _⟩
  | device => exact ⟨hs _, List.rel_append (hs _) (.cons hh (hs _))⟩

lemma forall₂_append_cons {before after list : List HostedObject}
    (hl : List.Forall₂ R (before ++ h :: after) list) : ∃ before' h' after',
      list = before' ++ h' :: after' ∧ List.Forall₂ R before before' ∧ R h h' ∧
        List.Forall₂ R after after' := by
  induction before generalizing list with
  | nil =>
    obtain ⟨h', after', hh, ha, rfl⟩ := List.forall₂_cons_left_iff.mp hl
    exact ⟨[], h', after', rfl, .nil, hh, ha⟩
  | cons g before ih =>
    obtain ⟨g', rest, hg, hrest, rfl⟩ := List.forall₂_cons_left_iff.mp hl
    obtain ⟨before', h', after', rfl, hb, hh, ha⟩ := ih hrest
    exact ⟨g' :: before', h', after', rfl, .cons hg hb, hh, ha⟩

lemma forall_of_forall₂ {P : HostedObject → Prop} (hp : ∀ g g', R g g' → P g → P g')
    {list list' : List HostedObject} (hl : List.Forall₂ R list list') (hn : ∀ g ∈ list, P g) :
    ∀ g ∈ list', P g := by
  induction hl with
  | nil => exact hn
  | cons hg _ ih =>
    obtain ⟨hg₀, hn⟩ := List.forall_mem_cons.mp hn
    exact List.forall_mem_cons.mpr ⟨hp _ _ hg hg₀, ih hn⟩

lemma Corresponds.forall {P : HostedObject → Prop} (hn : n.Corresponds R n')
    (hp : ∀ g g', R g g' → P g → P g') (h : ∀ g ∈ n.toList, P g) : ∀ g ∈ n'.toList, P g :=
  forall_of_forall₂ hp (List.rel_append hn.profiles hn.devices) h

lemma Corresponds.quiet (hn : n.Corresponds R n') (hl : ∀ g g', R g g' → g'.listener = g.listener)
    (quiet : ∀ h ∈ n.toList, h.listener = none) : ∀ h ∈ n'.toList, h.listener = none :=
  hn.forall (fun g g' hg hq => (hl g g' hg).trans hq) quiet

lemma Corresponds.addressed (hn : n.Corresponds R n') (hc : ∀ g g', R g g' → g'.code = g.code)
    (ha : n.Addressed code h put) : ∃ h' put', n'.Addressed code h' put' ∧ R h h' ∧
      ∀ g g', R g g' → (put g).Corresponds R (put' g') := by
  have hu : ∀ g g', R g g' → ¬ code.Covers g.code → ¬ code.Covers g'.code :=
    fun g g' hg hn => hc g g' hg ▸ hn
  obtain ⟨devices', profiles'⟩ := n'
  cases ha with
  | profile hb hh =>
    obtain ⟨before', h', after', rfl, hb', hh', ha'⟩ := forall₂_append_cons hn.profiles
    exact ⟨h', _, .profile (forall_of_forall₂ hu hb' hb) (hc _ _ hh' ▸ hh), hh',
      fun g g' hg => ⟨List.rel_append hb' (.cons hg ha'), hn.devices⟩⟩
  | device hb hh =>
    obtain ⟨before', h', after', rfl, hb', hh', ha'⟩ := forall₂_append_cons hn.devices
    have hl := List.rel_append hn.profiles hb'
    exact ⟨h', _, .device (forall_of_forall₂ hu hl hb) (hc _ _ hh' ▸ hh), hh',
      fun g g' hg => ⟨hn.profiles, List.rel_append hb' (.cons hg ha')⟩⟩

lemma Corresponds.unaddressed (hn : n.Corresponds R n') (hc : ∀ g g', R g g' → g'.code = g.code)
    (hu : ∀ h ∈ n.toList, ¬ code.Covers h.code) : ∀ h ∈ n'.toList, ¬ code.Covers h.code :=
  hn.forall (fun g g' hg hn => hc g g' hg ▸ hn) hu

end EchonetLite.NodeObjects
