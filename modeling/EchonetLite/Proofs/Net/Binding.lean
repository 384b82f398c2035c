import EchonetLite.Net.Bind
import Mathlib.Tactic.Lemma

/-! The attempts to bind a port: on which ports they are made and how often, where the waits are, and
which fault is reported if none of them succeeds. -/

namespace EchonetLite

namespace Bind

variable {σ α : Type} {bind : UInt16 → σ → Except IoFault α × σ} {wait : Duration} {count : Nat}

def attempts (ports : List UInt16) (count : Nat) : List (UInt16 × Nat) :=
  ports.flatMap fun port => (List.range' 1 count).map (port, ·)

inductive Fails (bind : UInt16 → σ → Except IoFault α × σ) :
    List UInt16 → σ → List IoFault → σ → Prop
  | nil {s : σ} : Fails bind [] s [] s
  | cons {port : UInt16} {ports : List UInt16} {s s' s'' : σ} {fault : IoFault}
      {faults : List IoFault} : bind port s = (.error fault, s') →
      Fails bind ports s' faults s'' → Fails bind (port :: ports) s (fault :: faults) s''

/-- What is seen of calls that fail: there is a wait after every one, except for the last on a
port. -/
def failures (wait : Duration) (count : Nat) : List (UInt16 × Nat) → List IoFault → List BindStep
  | (port, attempt) :: calls, fault :: faults =>
    .failed port attempt count fault ::
      ((if attempt < count then [.waited wait] else []) ++ failures wait count calls faults)
  | _, _ => []

inductive Tries (bind : UInt16 → σ → Except IoFault α × σ) (wait : Duration) (count : Nat)
    (calls : List (UInt16 × Nat)) (s : σ) :
    Except (List IoFault) α → σ → List BindStep → Prop
  | bound {made rest : List (UInt16 × Nat)} {port : UInt16} {attempt : Nat}
      {faults : List IoFault} {s' s'' : σ} {x : α} :
      calls = made ++ (port, attempt) :: rest → Fails bind (made.map Prod.fst) s faults s' →
      bind port s' = (.ok x, s'') →
      Tries bind wait count calls s (.ok x) s'' (failures wait count made faults ++ [.bound port])
  | failed {faults : List IoFault} {s' : σ} : Fails bind (calls.map Prod.fst) s faults s' →
      Tries bind wait count calls s (.error faults) s' (failures wait count calls faults)

variable {ports ports' : List UInt16} {port : UInt16} {calls more : List (UInt16 × Nat)}
  {s s' s'' : σ} {faults faults' : List IoFault} {result : Except (List IoFault) α}
  {steps steps' : List BindStep} {x : α}

lemma Fails.length_eq (h : Fails bind ports s faults s') : faults.length = ports.length := by
  induction h with
  | nil => rfl
  | cons _ _ ih => rw [List.length_cons, List.length_cons, ih]

lemma Fails.append (h : Fails bind ports s faults s') (h' : Fails bind ports' s' faults' s'') :
    Fails bind (ports ++ ports') s (faults ++ faults') s'' := by
  induction h with
  | nil => exact h'
  | cons hb _ ih => exact .cons hb (ih h')

lemma failures_append (hl : faults.length = calls.length) :
    failures wait count (calls ++ more) (faults ++ faults') =
      failures wait count calls faults ++ failures wait count more faults' := by
  induction calls generalizing faults with
  | nil =>
    obtain rfl := List.eq_nil_of_length_eq_zero hl
    rfl
  | cons call calls ih =>
    obtain ⟨port, attempt⟩ := call
    cases faults with
    | nil => cases hl
    | cons fault faults =>
      rw [List.length_cons, List.length_cons, Nat.succ_inj] at hl
      simp only [List.cons_append, failures, ih hl, List.append_assoc]

lemma Tries.length_eq (h : Tries bind wait count calls s (.error faults) s' steps) :
    faults.length = calls.length := by
  cases h with
  | failed hf => rw [hf.length_eq, List.length_map]

lemma Tries.stop (h : Tries bind wait count calls s (.ok x) s' steps)
    (more : List (UInt16 × Nat)) : Tries bind wait count (calls ++ more) s (.ok x) s' steps := by
  cases h with
  | bound hc hf hb => exact .bound (by rw [hc, List.append_assoc, List.cons_append]) hf hb

lemma Tries.goOn (h : Tries bind wait count calls s (.error faults) s' steps)
    (h' : Tries bind wait count more s' result s'' steps') :
    Tries bind wait count (calls ++ more) s (result.mapError (faults ++ ·)) s'' (steps ++ steps') := by
  have hl := h.length_eq
  cases h with
  | failed hf =>
    cases h' with
    | @bound made rest port attempt faults' s₁ _ x hc hf' hb =>
      rw [← List.append_assoc, ← failures_append hl]
      refine .bound (by rw [hc, List.append_assoc]) ?_ hb
      rw [List.map_append]
      exact hf.append hf'
    | failed hf' =>
      rw [← failures_append hl]
      apply Tries.failed
      rw [List.map_append]
      exact hf.append hf'

lemma tries_once_ok (attempt : Nat) (hb : bind port s = (.ok x, s')) :
    Tries bind wait count [(port, attempt)] s (.ok x) s' [.bound port] := by
  have h : Tries bind wait count [(port, attempt)] s (.ok x) s'
    (failures wait count [] [] ++ [.bound port]) := .bound rfl .nil hb
  exact h

lemma tries_once_error (wait : Duration) (count attempt : Nat) {fault : IoFault}
    (hb : bind port s = (.error fault, s')) :
    Tries bind wait count [(port, attempt)] s (.error [fault]) s'
      (.failed port attempt count fault :: if attempt < count then [.waited wait] else []) := by
  have h : Tries bind wait count [(port, attempt)] s (.error [fault]) s'
    (failures wait count [(port, attempt)] [fault]) := .failed (.cons hb .nil)
  rwa [failures, failures, List.append_nil] at h
  nofun

inductive Last : Except (List IoFault) α → Except IoFault α → Prop
  | ok {x : α} : Last (.ok x) (.ok x)
  | error {faults : List IoFault} {fault : IoFault} : faults.getLast? = some fault →
      Last (.error faults) (.error fault)

lemma Last.goOn {outcome : Except IoFault α} (h : Last result outcome)
    (faults : List IoFault) : Last (result.mapError (faults ++ ·)) outcome := by
  cases h with
  | ok => exact .ok
  | error hl =>
    apply Last.error
    rw [List.getLast?_append, hl, Option.some_or]

lemma tries_onPort (bind : UInt16 → σ → Except IoFault α × σ) (wait : Duration)
    (port : UInt16) (left attempt : Nat) (s : σ) :
    ∃ result, Tries bind wait (attempt + left)
        ((List.range' attempt (left + 1)).map (port, ·)) s result
        (onPort wait (attempt + left) port bind left attempt s).system
        (onPort wait (attempt + left) port bind left attempt s).steps ∧
      Last result (onPort wait (attempt + left) port bind left attempt s).result := by
  induction left generalizing attempt s with
  | zero =>
    rw [onPort]
    rcases hb : bind port s with ⟨outcome, s'⟩
    cases outcome with
    | ok x => exact ⟨.ok x, tries_once_ok attempt hb, .ok⟩
    | error fault =>
      have h := tries_once_error wait attempt attempt hb
      rw [if_neg (Nat.lt_irrefl attempt)] at h
      exact ⟨.error [fault], h, .error rfl⟩
  | succ left ih =>
    have hcount : attempt + (left + 1) = attempt + 1 + left := by omega
    rw [hcount, List.range'_succ, List.map_cons, onPort]
    rcases hb : bind port s with ⟨outcome, s'⟩
    cases outcome with
    | ok x => exact ⟨.ok x, (tries_once_ok attempt hb).stop _, .ok⟩
    | error fault =>
      obtain ⟨result, htries, hlast⟩ := ih (attempt + 1) s'
      have h := tries_once_error wait (attempt + 1 + left) attempt hb
      rw [if_pos (by omega)] at h
      exact ⟨_, h.goOn htries, hlast.goOn [fault]⟩

lemma tries_onPorts (bind : UInt16 → σ → Except IoFault α × σ) (wait : Duration)
    (hc : 0 < count) (ports : List UInt16) (last : Option IoFault) (s : σ) :
    ∃ result, Tries bind wait count (attempts ports count) s result
        (onPorts wait count bind ports last s).2.1 (onPorts wait count bind ports last s).2.2 ∧
      (onPorts wait count bind ports last s).1 =
        result.mapError fun faults => faults.getLast?.or last := by
  induction ports generalizing last s with
  | nil => exact ⟨.error [], .failed .nil, rfl⟩
  | cons port ports ih =>
    obtain ⟨result, htries, hlast⟩ := tries_onPort bind wait port (count - 1) 1 s
    have hcount : 1 + (count - 1) = count := by omega
    have hleft : count - 1 + 1 = count := by omega
    rw [hcount] at htries hlast
    rw [hleft] at htries
    rw [attempts, List.flatMap_cons, onPorts]
    generalize onPort wait count port bind (count - 1) 1 s = here at htries hlast
    obtain ⟨outcome, system, steps⟩ := here
    cases hlast with
    | ok => exact ⟨_, htries.stop _, rfl⟩
    | @error faults fault hl =>
      obtain ⟨rest, hrest, he⟩ := ih (some fault) system
      refine ⟨rest.mapError (faults ++ ·), htries.goOn hrest, ?_⟩
      dsimp only
      rw [he]
      cases rest with
      | ok x => rfl
      | error more =>
        have hmore : (faults ++ more).getLast?.or last = more.getLast?.or (some fault) := by
          rw [List.getLast?_append, Option.or_assoc, hl, Option.some_or]
        exact congrArg Except.error hmore.symm

lemma toNat_candidates (port : UInt16) (count : Nat) :
    (candidates port count).map UInt16.toNat =
      List.range' port.toNat (min count (65536 - port.toNat)) := by
  rw [candidates, List.map_map, List.range'_eq_map_range]
  apply List.map_congr_left
  intro i hi
  have hi' := List.mem_range.mp hi
  exact UInt16.toNat_ofNat_of_lt' (by simp only [UInt16.size]; omega)

lemma length_attempts (ports : List UInt16) (count : Nat) :
    (attempts ports count).length = ports.length * count := by
  simp [attempts, List.map_const']

lemma message_bindFailed (port : UInt16) (fault : IoFault) :
    (Error.network (.bindFailed port (some fault))).message =
      "Network error: failed to bind port " ++ toString port.toNat ++ ": " ++ fault.text := by
  have hprefix : "Network error: failed to bind port " =
      "Network error: " ++ "failed to bind port " := by decide
  have hmessage : (Error.network (.bindFailed port (some fault))).message = "Network error: " ++
      ("failed to bind port " ++ toString port.toNat ++ ": " ++ fault.text) := rfl
  rw [hmessage, hprefix]
  simp only [String.append_assoc]

lemma portCount_pos (settings : TransportSettings) (port : UInt16) (stepPorts : Bool) :
    0 < portCount settings port stepPorts := by
  rw [portCount]
  split <;> omega

lemma Tries.exists_last (h : Tries bind wait count calls s (.error faults) s' steps)
    (hc : 0 < calls.length) : ∃ fault, faults.getLast? = some fault := by
  apply Option.ne_none_iff_exists'.mp
  intro hn
  have hl := h.length_eq
  rw [List.getLast?_eq_none_iff.mp hn, List.length_nil] at hl
  omega

lemma tries_run (settings : TransportSettings) (port : UInt16) (stepPorts : Bool)
    (bind : UInt16 → σ → Except IoFault α × σ) (system : σ) :
    let calls := attempts (candidates port (portCount settings port stepPorts))
      (attemptCount settings)
    let ran := run settings port stepPorts bind system
    ∃ result, Tries bind settings.bindWait (attemptCount settings) calls system result
        ran.2.1 ran.2.2 ∧
      ran.1 = result.mapError fun faults => .network (.bindFailed port faults.getLast?) := by
  intro calls ran
  obtain ⟨result, htries, houtcome⟩ := tries_onPorts bind settings.bindWait
    (show 0 < attemptCount settings from Nat.le_max_right _ _)
    (candidates port (portCount settings port stepPorts)) none system
  refine ⟨result, ?_⟩
  simp only [ran, run]
  generalize onPorts settings.bindWait (attemptCount settings) bind
    (candidates port (portCount settings port stepPorts)) none system = tried at htries houtcome
  obtain ⟨outcome, after, steps⟩ := tried
  obtain rfl : outcome = _ := houtcome
  cases result with
  | ok x => exact ⟨htries, rfl⟩
  | error faults =>
    refine ⟨htries, ?_⟩
    exact congrArg (fun last => Except.error (Error.network (.bindFailed port last))) Option.or_none

/-- The ports from the given one on are tried in order, each of them as often as the settings say and
none beyond the last one, until one can be bound. If none can, all attempts have been made and the
fault of the last one is reported, whatever it is, with the port that was asked for. -/
theorem run_tries (settings : TransportSettings) (port : UInt16) (stepPorts : Bool)
    (bind : UInt16 → σ → Except IoFault α × σ) (system : σ) :
    let reach := if stepPorts = true ∧ settings.stepPorts = true ∧ port ≠ 0 then
      max settings.portLimit.toNat 1 else 1
    let count := max settings.bindAttempts 1
    let ran := run settings port stepPorts bind system
    ∃ ports result,
      ports.map UInt16.toNat = List.range' port.toNat (min reach (65536 - port.toNat)) ∧
      Tries bind settings.bindWait count (attempts ports count) system result ran.2.1 ran.2.2 ∧
      (∀ x, result = .ok x → ran.1 = .ok x) ∧
      (∀ faults, result = .error faults →
        faults.length = min reach (65536 - port.toNat) * count ∧
        ∃ fault, faults.getLast? = some fault ∧
          ran.1 = .error (.network (.bindFailed port (some fault))) ∧
          (Error.network (.bindFailed port (some fault))).message =
            "Network error: failed to bind port " ++ toString port.toNat ++ ": " ++ fault.text) ∧
      ∀ p, ran.1 ≠ .error (.network (.bindFailed p none)) := by
  intro reach count ran
  have hreach : portCount settings port stepPorts = reach := by
    simp [portCount, reach, and_assoc]
  have hports := toNat_candidates port reach
  have hpos := portCount_pos settings port stepPorts
  obtain ⟨result, htries, hran⟩ := tries_run settings port stepPorts bind system
  rw [hreach] at htries hpos
  have hcalls : (attempts (candidates port reach) count).length =
      min reach (65536 - port.toNat) * count := by
    have hn := congrArg List.length hports
    rw [List.length_map, List.length_range'] at hn
    rw [length_attempts, hn]
  have hfailed : ∀ faults, result = .error faults → ∃ fault, faults.getLast? = some fault ∧
      ran.1 = .error (.network (.bindFailed port (some fault))) := by
    rintro faults rfl
    have hport := port.toNat_lt
    have hmade : 0 < min reach (65536 - port.toNat) * count := Nat.mul_pos (by omega) (by omega)
    obtain ⟨fault, hl⟩ := htries.exists_last (hcalls ▸ hmade)
    refine ⟨fault, hl, hran.trans ?_⟩
    exact congrArg (fun last => Except.error (Error.network (.bindFailed port last))) hl
  refine ⟨candidates port reach, result, hports, htries, ?_, fun faults hf => ?_, fun p hp => ?_⟩
  · rintro x rfl
    exact hran
  · obtain ⟨fault, hl, he⟩ := hfailed faults hf
    subst hf
    exact ⟨htries.length_eq.trans hcalls, fault, hl, he, message_bindFailed port fault⟩
  · cases result with
    | ok x => cases hran.symm.trans hp
    | error faults =>
      obtain ⟨fault, -, he⟩ := hfailed faults rfl
      cases he.symm.trans hp

example :
    let ran := run (α := Unit) { bindAttempts := 3 } 3610 true
      (fun _ calls => (.error (.reported "busy"), calls + 1)) 0
    ran.1 = .error (.network (.bindFailed 3610 (some (.reported "busy")))) ∧ ran.2.1 = 3 :=
  ⟨rfl, rfl⟩

end Bind

end EchonetLite
