import EchonetLite.Neighbourhood.Basic
import Mathlib.Data.List.Induction
import Mathlib.Data.List.Perm.Basic
import Mathlib.Tactic.Lemma

/-! A controller that hears messages lists the nodes that they describe: each endpoint once, as the
first message from it that describes a node does, in the order of these messages. -/

namespace EchonetLite

namespace RemoteNode

def described? (db : Database) (f : Endpoint × Message) : Option RemoteNode :=
  ofMessage? f.1 f.2 db

variable {db : Database} {f : Endpoint × Message} {node x y : RemoteNode}

lemma endpoint_of_described? (h : described? db f = some node) : node.endpoint = f.1 := by
  obtain ⟨data, _, rfl⟩ := Option.map_eq_some_iff.mp h
  rfl

lemma isSame_iff : x.isSame y = true ↔ x.endpoint = y.endpoint := beq_iff_eq

end RemoteNode

lemma eraseDupsBy_loop_concat {α : Type} (r : α → α → Bool) (list seen : List α) (x : α) :
    List.eraseDupsBy.loop r (list ++ [x]) seen =
      if (List.eraseDupsBy.loop r list seen).any (r x) then List.eraseDupsBy.loop r list seen
      else List.eraseDupsBy.loop r list seen ++ [x] := by
  induction list generalizing seen with
  | nil =>
    simp only [List.nil_append, List.eraseDupsBy.loop, List.any_reverse]
    cases seen.any (r x) <;> simp
  | cons y list ih =>
    rw [List.cons_append, List.eraseDupsBy.loop, List.eraseDupsBy.loop]
    cases hy : seen.any (r y) with
    | true => exact ih seen
    | false => exact ih (y :: seen)

lemma eraseDupsBy_concat {α : Type} (r : α → α → Bool) (list : List α) (x : α) :
    (list ++ [x]).eraseDupsBy r =
      if (list.eraseDupsBy r).any (r x) then list.eraseDupsBy r else list.eraseDupsBy r ++ [x] :=
  eraseDupsBy_loop_concat r list [] x

namespace Discovery

variable {db : Database} {d : Discovery} {frames : List (Endpoint × Message)}
  {f : Endpoint × Message} {node : RemoteNode}

inductive Received (d : Discovery) (f : Endpoint × Message) : Discovery × Option RemoteNode → Prop
  | unnoted : RemoteNode.described? d.database f = none → Received d f (d, none)
  | known {node x : RemoteNode} : RemoteNode.described? d.database f = some node → x ∈ d.nodes →
      x.endpoint = f.1 → Received d f (d, none)
  | found {node : RemoteNode} : RemoteNode.described? d.database f = some node →
      (∀ x ∈ d.nodes, x.endpoint ≠ f.1) →
      Received d f ({ d with nodes := d.nodes ++ [node] }, some node)

lemma received (d : Discovery) (f : Endpoint × Message) : d.Received f (d.receive f.1 f.2) := by
  rw [receive]
  cases hf : RemoteNode.ofMessage? f.1 f.2 d.database with
  | none => exact .unnoted hf
  | some node =>
    have he : node.endpoint = f.1 := RemoteNode.endpoint_of_described? hf
    dsimp only
    split
    case isTrue ha =>
      obtain ⟨x, hx, hs⟩ := List.any_eq_true.mp ha
      exact .known hf hx ((RemoteNode.isSame_iff.mp hs).symm.trans he)
    case isFalse ha =>
      refine .found hf ?_
      intro x hx hxf
      exact ha (List.any_eq_true.mpr ⟨x, hx, RemoteNode.isSame_iff.mpr (he.trans hxf.symm)⟩)

def FirstDescribed (db : Database) (frames : List (Endpoint × Message)) (node : RemoteNode) :
    Prop :=
  ∃ before f after, frames = before ++ f :: after ∧ RemoteNode.described? db f = some node ∧
    ∀ g ∈ before, g.1 = f.1 → RemoteNode.described? db g = none

lemma FirstDescribed.append (h : FirstDescribed db frames node)
    (later : List (Endpoint × Message)) : FirstDescribed db (frames ++ later) node := by
  obtain ⟨before, f, after, rfl, hf, hb⟩ := h
  exact ⟨before, f, after ++ later, by simp, hf, hb⟩

lemma firstDescribed_concat :
    FirstDescribed db (frames ++ [f]) node ↔ FirstDescribed db frames node ∨
      RemoteNode.described? db f = some node ∧
        ∀ g ∈ frames, g.1 = f.1 → RemoteNode.described? db g = none := by
  constructor
  · rintro ⟨before, g, after, he, hg, hb⟩
    rcases List.eq_nil_or_concat after with rfl | ⟨after, h, rfl⟩
    · obtain ⟨rfl, hfg⟩ := List.append_inj' he rfl
      obtain rfl := (List.cons.inj hfg).1
      exact .inr ⟨hg, hb⟩
    · rw [List.concat_eq_append, ← List.cons_append, ← List.append_assoc] at he
      obtain ⟨rfl, _⟩ := List.append_inj' he rfl
      exact .inl ⟨before, g, after, rfl, hg, hb⟩
  · rintro (h | ⟨hf, hb⟩)
    · exact h.append [f]
    · exact ⟨frames, f, [], rfl, hf, hb⟩

def Lists (db : Database) (frames : List (Endpoint × Message)) (nodes : List RemoteNode) : Prop :=
  ∀ node, node ∈ nodes ↔ FirstDescribed db frames node

lemma Lists.mem_endpoints {nodes : List RemoteNode} (h : Lists db frames nodes) {e : Endpoint} :
    e ∈ nodes.map (·.endpoint) ↔
      ∃ f ∈ frames, f.1 = e ∧ ∃ node, RemoteNode.described? db f = some node := by
  rw [List.mem_map]
  constructor
  · rintro ⟨node, hn, rfl⟩
    obtain ⟨before, f, after, rfl, hf, _⟩ := (h node).mp hn
    exact ⟨f, by simp, (RemoteNode.endpoint_of_described? hf).symm, node, hf⟩
  · rintro ⟨f, hf, rfl, hs⟩
    obtain ⟨g, hg⟩ := Option.isSome_iff_exists.mp
      (List.find?_isSome.mpr ⟨f, hf, by simpa using Option.isSome_iff_exists.mpr hs⟩ :
        (frames.find? fun g => g.1 == f.1 && (RemoteNode.described? db g).isSome).isSome = true)
    obtain ⟨hp, before, after, rfl, hb⟩ := List.find?_eq_some_iff_append.mp hg
    rw [Bool.and_eq_true, beq_iff_eq] at hp
    obtain ⟨node, hn⟩ := Option.isSome_iff_exists.mp hp.2
    refine ⟨node, (h node).mpr ⟨before, g, after, rfl, hn, ?_⟩,
      (RemoteNode.endpoint_of_described? hn).trans hp.1⟩
    intro x hx hxg
    simpa [hxg, hp.1] using hb x hx

lemma find?_eq_some_iff (hd : (d.nodes.map (·.endpoint)).Nodup) {e : Endpoint} :
    d.find? e = some node ↔ node ∈ d.nodes ∧ node.endpoint = e := by
  rw [find?]
  constructor
  · intro h
    exact ⟨List.mem_of_find?_eq_some h, beq_iff_eq.mp (List.find?_some h :)⟩
  · rintro ⟨hm, rfl⟩
    obtain ⟨before, after, hs⟩ := List.append_of_mem hm
    rw [hs, List.map_append, List.map_cons] at hd
    rw [hs]
    refine List.find?_eq_some_iff_append.mpr ⟨beq_self_eq_true _, before, after, rfl, ?_⟩
    intro x hx
    have hne : x.endpoint ≠ node.endpoint :=
      (List.nodup_append.mp hd).2.2 _ (List.mem_map_of_mem hx) _ List.mem_cons_self
    simpa using hne

def receiveAll (d : Discovery) (frames : List (Endpoint × Message)) : Discovery :=
  frames.foldl (fun d f => (d.receive f.1 f.2).1) d

structure Follows (d : Discovery) (db : Database) (frames : List (Endpoint × Message)) : Prop where
  database : d.database = db
  nodes : d.nodes =
    (frames.filterMap (RemoteNode.described? db)).eraseDupsBy RemoteNode.isSame
  listed : Lists db frames d.nodes
  unique : (d.nodes.map (·.endpoint)).Nodup

lemma follows_nil (hn : d.nodes = []) : d.Follows d.database [] where
  database := rfl
  nodes := hn
  listed node := by
    rw [hn]
    constructor
    · intro h
      cases h
    · rintro ⟨before, f, after, h, _⟩
      simp at h
  unique := by
    rw [hn]
    exact List.nodup_nil

lemma Follows.unnoted (h : d.Follows db frames) (hf : RemoteNode.described? db f = none) :
    d.Follows db (frames ++ [f]) where
  database := h.database
  nodes := by
    rw [List.filterMap_append, List.filterMap_cons_none hf, List.filterMap_nil, List.append_nil]
    exact h.nodes
  listed x := by
    rw [h.listed x, firstDescribed_concat, hf]
    exact ⟨.inl, fun hx => hx.elim id fun he => nomatch he.1⟩
  unique := h.unique

lemma Follows.known {x : RemoteNode} (h : d.Follows db frames)
    (hf : RemoteNode.described? db f = some node) (hx : x ∈ d.nodes) (he : x.endpoint = f.1) :
    d.Follows db (frames ++ [f]) where
  database := h.database
  nodes := by
    have ha : d.nodes.any node.isSame = true := List.any_eq_true.mpr ⟨x, hx,
      RemoteNode.isSame_iff.mpr ((RemoteNode.endpoint_of_described? hf).trans he.symm)⟩
    rw [List.filterMap_append, List.filterMap_cons_some hf, List.filterMap_nil,
      eraseDupsBy_concat, ← h.nodes, if_pos ha]
  listed y := by
    rw [h.listed y, firstDescribed_concat]
    refine ⟨.inl, fun hy => hy.elim id fun hb => ?_⟩
    obtain ⟨g, hg, hge, z, hz⟩ := h.listed.mem_endpoints.mp (List.mem_map_of_mem hx)
    rw [hb.2 g hg (hge.trans he)] at hz
    cases hz
  unique := h.unique

lemma Follows.found (h : d.Follows db frames) (hf : RemoteNode.described? db f = some node)
    (hn : ∀ x ∈ d.nodes, x.endpoint ≠ f.1) :
    Follows { d with nodes := d.nodes ++ [node] } db (frames ++ [f]) where
  database := h.database
  nodes := by
    have he := RemoteNode.endpoint_of_described? hf
    have ha : ¬ d.nodes.any node.isSame = true := by
      rw [List.any_eq_true]
      rintro ⟨x, hx, hs⟩
      exact hn x hx ((RemoteNode.isSame_iff.mp hs).symm.trans he)
    rw [List.filterMap_append, List.filterMap_cons_some hf, List.filterMap_nil,
      eraseDupsBy_concat, ← h.nodes, if_neg ha]
  listed x := by
    have hb : ∀ g ∈ frames, g.1 = f.1 → RemoteNode.described? db g = none := by
      intro g hg he
      rw [Option.eq_none_iff_forall_ne_some]
      intro y hy
      obtain ⟨z, hz, hze⟩ := List.mem_map.mp (h.listed.mem_endpoints.mpr ⟨g, hg, he, y, hy⟩)
      exact hn z hz hze
    rw [List.mem_append, List.mem_singleton, h.listed x, firstDescribed_concat, hf]
    exact or_congr_right
      ⟨fun hx => ⟨congrArg some hx.symm, hb⟩, fun hx => (Option.some.inj hx.1).symm⟩
  unique := by
    rw [List.map_append, List.nodup_append]
    refine ⟨h.unique, List.pairwise_singleton _ _, ?_⟩
    intro a hm b hb hab
    obtain ⟨x, hx, rfl⟩ := List.mem_map.mp hm
    have hbn := (List.mem_singleton.mp hb).trans (RemoteNode.endpoint_of_described? hf)
    exact hn x hx (hab.trans hbn)

lemma Follows.receive (h : d.Follows db frames) (f : Endpoint × Message) :
    (d.receive f.1 f.2).1.Follows db (frames ++ [f]) := by
  have hr := d.received f
  generalize d.receive f.1 f.2 = result at hr
  cases hr with
  | unnoted hf => exact h.unnoted (h.database ▸ hf)
  | known hf hx he => exact h.known (h.database ▸ hf) hx he
  | found hf hn => exact h.found (h.database ▸ hf) hn

lemma receiveAll_concat (d : Discovery) (frames : List (Endpoint × Message))
    (f : Endpoint × Message) :
    d.receiveAll (frames ++ [f]) = ((d.receiveAll frames).receive f.1 f.2).1 :=
  List.foldl_append

lemma follows_receiveAll (hn : d.nodes = []) (frames : List (Endpoint × Message)) :
    (d.receiveAll frames).Follows d.database frames := by
  induction frames using List.reverseRecOn with
  | nil => exact follows_nil hn
  | append_singleton frames f ih =>
    rw [receiveAll_concat]
    exact ih.receive f

lemma nodes_receive (d : Discovery) (f : Endpoint × Message) :
    (d.receive f.1 f.2).1.nodes = d.nodes ++ (d.receive f.1 f.2).2.toList := by
  have hr := d.received f
  generalize d.receive f.1 f.2 = result at hr
  cases hr with
  | unnoted => exact (List.append_nil _).symm
  | known => exact (List.append_nil _).symm
  | found => rfl

lemma nodes_prefix_receiveAll (d : Discovery) (later : List (Endpoint × Message)) :
    d.nodes <+: (d.receiveAll later).nodes := by
  induction later using List.reverseRecOn with
  | nil => exact List.prefix_rfl
  | append_singleton later f ih =>
    rw [receiveAll_concat, nodes_receive]
    exact ih.trans (List.prefix_append _ _)

end Discovery

namespace Sight

def found? : Sight → Option RemoteNode
  | .found node => some node
  | _ => none

def heard? : Sight → Option (Endpoint × Message)
  | .heard source m => some (source, m)
  | _ => none

def ofMessage (f : Endpoint × Message) (new : Option RemoteNode) : List Sight :=
  .heard f.1 f.2 :: new.toList.map .found

lemma found?_ofMessage (f : Endpoint × Message) (new : Option RemoteNode) :
    (ofMessage f new).filterMap found? = new.toList := by
  cases new <;> rfl

lemma heard?_ofMessage (f : Endpoint × Message) (new : Option RemoteNode) :
    (ofMessage f new).filterMap heard? = [f] := by
  cases new <;> rfl

end Sight

namespace Neighbourhood

def hearAll (s : Neighbourhood) (frames : List (Endpoint × Message)) : Neighbourhood :=
  frames.foldl (fun s f => s.hear f.1 f.2) s

variable {s : Neighbourhood}

lemma hear_eq (hd : s.discovers = true) (f : Endpoint × Message) :
    s.hear f.1 f.2 = { s with
      discovery := (s.discovery.receive f.1 f.2).1
      sights := s.sights ++ Sight.ofMessage f (s.discovery.receive f.1 f.2).2 } := by
  simp [hear, see, hd, Sight.ofMessage]

lemma hearAll_concat (s : Neighbourhood) (frames : List (Endpoint × Message))
    (f : Endpoint × Message) : s.hearAll (frames ++ [f]) = (s.hearAll frames).hear f.1 f.2 :=
  List.foldl_append

lemma hearAll_discovery (hd : s.discovers = true) (frames : List (Endpoint × Message)) :
    (s.hearAll frames).discovers = true ∧
      (s.hearAll frames).discovery = s.discovery.receiveAll frames ∧
      (s.hearAll frames).sights.filterMap Sight.heard? =
        s.sights.filterMap Sight.heard? ++ frames ∧
      ∃ new, (s.hearAll frames).discovery.nodes = s.discovery.nodes ++ new ∧
        (s.hearAll frames).sights.filterMap Sight.found? =
          s.sights.filterMap Sight.found? ++ new := by
  induction frames using List.reverseRecOn with
  | nil => exact ⟨hd, rfl, (List.append_nil _).symm, [], by simp [hearAll]⟩
  | append_singleton frames f ih =>
    obtain ⟨hd', hr, hh, new, hn, hf⟩ := ih
    rw [hearAll_concat, hear_eq hd']
    refine ⟨hd', ?_, ?_, new ++ ((s.hearAll frames).discovery.receive f.1 f.2).2.toList, ?_, ?_⟩
    · rw [Discovery.receiveAll_concat, hr]
    · rw [List.filterMap_append, hh, Sight.heard?_ofMessage, List.append_assoc]
    · rw [Discovery.nodes_receive, hn, List.append_assoc]
    · rw [List.filterMap_append, hf, Sight.found?_ofMessage, List.append_assoc]

/-- A controller that knew no node lists the nodes that the messages it hears describe, each
endpoint once and as it was first described. Its listener is told of every message, and of every
node when it is first described. What is listed never changes, and which endpoints are listed does
not depend on the order of the messages. -/
theorem hearAll_discovers (s : Neighbourhood) (hd : s.discovers = true)
    (hn : s.discovery.nodes = []) (hs : s.sights = []) (frames : List (Endpoint × Message)) :
    (s.hearAll frames).discovery.Follows s.discovery.database frames ∧
    (s.hearAll frames).sights.filterMap Sight.found? = (s.hearAll frames).discovery.nodes ∧
    (s.hearAll frames).sights.filterMap Sight.heard? = frames ∧
    (∀ e node, (s.hearAll frames).discovery.find? e = some node ↔
      node ∈ (s.hearAll frames).discovery.nodes ∧ node.endpoint = e) ∧
    (∀ e node, (s.hearAll frames).discovery.find? e = some node → ∀ later,
      (s.hearAll (frames ++ later)).discovery.find? e = some node) ∧
    ∀ frames', frames.Perm frames' → ∀ e,
      e ∈ (s.hearAll frames).discovery.nodes.map (·.endpoint) ↔
        e ∈ (s.hearAll frames').discovery.nodes.map (·.endpoint) := by
  have h : ∀ frames, (s.hearAll frames).discovery.Follows s.discovery.database frames := by
    intro frames
    rw [(hearAll_discovery hd frames).2.1]
    exact Discovery.follows_receiveAll hn frames
  obtain ⟨_, hr, hh, new, hnew, hf⟩ := hearAll_discovery hd frames
  refine ⟨h frames, ?_, ?_, ?_, ?_, ?_⟩
  · rw [hf, hnew, hn, hs, List.filterMap_nil]
  · rw [hh, hs, List.filterMap_nil, List.nil_append]
  · intro e node
    exact Discovery.find?_eq_some_iff (h frames).unique
  · intro e node hk later
    obtain ⟨hm, he⟩ := (Discovery.find?_eq_some_iff (h frames).unique).mp hk
    refine (Discovery.find?_eq_some_iff (h (frames ++ later)).unique).mpr ⟨?_, he⟩
    have hp := Discovery.nodes_prefix_receiveAll (s.discovery.receiveAll frames) later
    rw [Discovery.receiveAll, Discovery.receiveAll, ← List.foldl_append] at hp
    rw [(hearAll_discovery hd (frames ++ later)).2.1]
    rw [hr] at hm
    exact hp.subset hm
  · intro frames' hp e
    rw [(h frames).listed.mem_endpoints, (h frames').listed.mem_endpoints]
    exact exists_congr fun f => and_congr_left' hp.mem_iff

def newcomer : Neighbourhood where
  activity := .idle (.new {} (.replicate 13 0) 0)
  discovery := {}
  discovers := true
  machine := {}
  peers := []
  group := .ofIpv4 .nodeGroup 3610

def deviceNotification (code : ObjectCode) : Message where
  seoj := .nodeProfile
  deoj := .nodeProfile
  esv := .inf
  entries := [⟨Epc.announcedInstances, InstanceList.encode [code]⟩]

theorem hearAll_discovers_lamp :
    ∃ node, (newcomer.hearAll
        [(.ofIpv4 .localhost 3610, deviceNotification ⟨0x02, 0x90, 0x01⟩)]).discovery.find?
          (.ofIpv4 .localhost 3610) = some node ∧
      node.objects.deviceCodes = [⟨0x02, 0x90, 0x01⟩] ∧
      (newcomer.hearAll
        [(.ofIpv4 .localhost 3610, deviceNotification ⟨0x02, 0x90, 0x01⟩),
          (.ofIpv4 .localhost 3610, deviceNotification ⟨0x01, 0x30, 0x01⟩)]).discovery.find?
        (.ofIpv4 .localhost 3610) = some node := by
  obtain ⟨_, _, _, _, hk, _⟩ := hearAll_discovers newcomer rfl rfl rfl
    [(.ofIpv4 .localhost 3610, deviceNotification ⟨0x02, 0x90, 0x01⟩)]
  exact ⟨_, rfl, rfl,
    hk _ _ rfl [(.ofIpv4 .localhost 3610, deviceNotification ⟨0x01, 0x30, 0x01⟩)]⟩

end Neighbourhood

end EchonetLite
