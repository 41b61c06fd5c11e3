import Pecanpico.Crypto.Invariant

/-! Calls made one after another on one driver: the usage rules under which no call halts, and
the state, configuration and transient key a run leaves. -/
namespace Pecanpico.Crypto

/-- A build with the checks compiled in and the assertions out. -/
def checksOnly : CryHal := ⟨false, false, 0, fun _ => true, true, false⟩

/-- Whether an entry point's own `osalDbgCheck` passes on its arguments: the call returns in
a build that compiles only the checks in. -/
def CryOperationCall.argsOk (op : CryOperationCall) : Bool :=
  (op.run checksOnly (⟨.ready, none, (), 0⟩ : CRYDriver Unit Unit) .noError .noError).isOk

section
variable (hal : CryHal) {C A : Type}

/-- Calls made one after another on one driver, up to the first halt: the driver afterwards
and the code each call returned. -/
def runCalls : List (CryCall C A) → CRYDriver C A →
    Except Halt (CRYDriver C A × List (Option CryError))
  | [], cryp => .ok (cryp, [])
  | c :: cs, cryp =>
    match c.run hal cryp with
    | .error e => .error e
    | .ok (cryp', r) => (fun p => (p.1, r :: p.2)) <$> runCalls cs cryp'

/-- Whether a call passes the checks the build makes on a driver that is `ready` or not.
`cryStart` and `cryStop` assert a state that every driver reached from `cryObjectInit` is in,
and `cryLoadTransientKey` asserts no state at all. -/
def CryCall.allowed (ready : Bool) : CryCall C A → Bool
  | .cryStart _ | .cryStop => true
  | .cryLoadTransientKey _ size keyp _ _ =>
    !hal.enableChecks || (decide (size ≤ hal.maxKeySize) && keyp != 0)
  | .operation op _ _ => (!hal.enableChecks || op.argsOk) && (!hal.enableAsserts || ready)

/-- Whether the driver is ready after a call: `cryStart` readies it, `cryStop` stops it. -/
def CryCall.readyAfter (ready : Bool) : CryCall C A → Bool
  | .cryStart _ => true
  | .cryStop => false
  | _ => ready

/-- The usage rules of the API over a sequence of calls, from a driver that is `ready` or not:
every call is allowed in the state the calls before it left. -/
def usageOk : Bool → List (CryCall C A) → Bool
  | _, [] => true
  | ready, c :: cs => c.allowed hal ready && usageOk (c.readyAfter ready) cs

/-- The state and configuration after a call: `cryStart` sets `CRY_READY` with its
configuration, `cryStop` sets `CRY_STOP` with none, the other calls keep both. -/
def CryCall.lifecycle (s : CryState × Option C) : CryCall C A → CryState × Option C
  | .cryStart config => (.ready, config)
  | .cryStop => (.stop, none)
  | _ => s

/-- The transient key after a call that returned `r`: a load that returned `CRY_NOERROR`
records its algorithm and size, every other call keeps the key. -/
def CryCall.loadedKey (key : A × Nat) : CryCall C A → Option CryError → A × Nat
  | .cryLoadTransientKey algorithm size _ _ _, some .noError => (algorithm, size)
  | _, _ => key

end

section
variable {hal : CryHal} {C A : Type}

theorem isOk_map {ε α β : Type} (f : α → β) (x : Except ε α) : (f <$> x).isOk = x.isOk := by
  cases x <;> rfl

@[simp] theorem isOk_pure {ε α : Type} (a : α) : (pure a : Except ε α).isOk = true := rfl

theorem osalDbgCheck_bind_isOk {α : Type} (c : Bool) (func : String) (f : Unit → Except Halt α) :
    (osalDbgCheck hal c func >>= f).isOk = ((!hal.enableChecks || c) && (f ()).isOk) := by
  unfold osalDbgCheck
  cases hal.enableChecks <;> cases c <;> rfl

theorem osalDbgAssert_bind_isOk {α : Type} (c : Bool) (func remark : String)
    (f : Unit → Except Halt α) :
    (osalDbgAssert hal c func remark >>= f).isOk = ((!hal.enableAsserts || c) && (f ()).isOk) := by
  unfold osalDbgAssert
  cases hal.enableAsserts <;> cases c <;> rfl

theorem cryOperation_isOk (feature : CryFeature) (func : String) (argsOk : Bool)
    (cryp : CRYDriver C A) (lld fallback : CryError) :
    (cryOperation hal feature func argsOk cryp lld fallback).isOk =
      ((!hal.enableChecks || argsOk) && (!hal.enableAsserts || cryp.state == .ready)) := by
  simp only [cryOperation, osalDbgCheck_bind_isOk, osalDbgAssert_bind_isOk, isOk_pure,
    Bool.and_true]

/-- Every cipher, hash and TRNG entry point is `cryOperation` with a check of its own arguments
only, whatever the build and the driver. -/
theorem CryOperationCall.run_eq_cryOperation (op : CryOperationCall) :
    ∃ feature func argsOk, ∀ (hal : CryHal) {C A : Type} (cryp : CRYDriver C A) lld fallback,
      op.run hal cryp lld fallback = cryOperation hal feature func argsOk cryp lld fallback := by
  cases op <;> exact ⟨_, _, _, fun _ _ _ _ _ _ => rfl⟩

theorem CryOperationCall.run_isOk (op : CryOperationCall) (cryp : CRYDriver C A)
    (lld fallback : CryError) :
    (op.run hal cryp lld fallback).isOk =
      ((!hal.enableChecks || op.argsOk) && (!hal.enableAsserts || cryp.state == .ready)) := by
  obtain ⟨feature, func, argsOk, h⟩ := op.run_eq_cryOperation
  rw [CryOperationCall.argsOk, h, h, cryOperation_isOk, cryOperation_isOk]
  simp [checksOnly]

theorem cryLoadTransientKey_isOk (cryp : CRYDriver C A) (algorithm : A) (size keyp : Nat)
    (lld fallback : CryError) :
    (cryLoadTransientKey hal cryp algorithm size keyp lld fallback).isOk =
      (!hal.enableChecks || (decide (size ≤ hal.maxKeySize) && keyp != 0)) := by
  simp only [cryLoadTransientKey, osalDbgCheck_bind_isOk]
  split <;> simp only [isOk_pure, Bool.and_true]

/-- On a driver in the invariant, a call halts exactly when the usage rules disallow it. -/
theorem CryCall.run_isOk (c : CryCall C A) {cryp : CRYDriver C A} (hi : CryInvariant cryp) :
    (c.run hal cryp).isOk = c.allowed hal (cryp.state == .ready) := by
  cases c with
  | cryStart config => simp only [CryCall.run, cryStart_of_invariant hi]; rfl
  | cryStop => simp only [CryCall.run, cryStop_of_invariant hi]; rfl
  | cryLoadTransientKey algorithm size keyp lld fallback =>
    rw [CryCall.run, isOk_map, cryLoadTransientKey_isOk]; rfl
  | operation op lld fallback => rw [CryCall.run, isOk_map, CryOperationCall.run_isOk]; rfl

/-- What a call that returns does to the state, the configuration and the transient key. -/
theorem CryCall.lifecycle_loadedKey_of_run {c : CryCall C A} {cryp cryp' : CRYDriver C A}
    {r : Option CryError} (h : c.run hal cryp = .ok (cryp', r)) :
    (cryp'.state, cryp'.config) = c.lifecycle (cryp.state, cryp.config) ∧
      (cryp'.key0Type, cryp'.key0Size) = c.loadedKey (cryp.key0Type, cryp.key0Size) r := by
  cases c with
  | cryStart config => rw [cryStart_ok (run_cryStart h).1]; exact ⟨rfl, rfl⟩
  | cryStop => rw [cryStop_ok (run_cryStop h).1]; exact ⟨rfl, rfl⟩
  | cryLoadTransientKey algorithm size keyp lld fallback =>
    obtain ⟨err, hs, rfl⟩ := run_cryLoadTransientKey h
    rcases cryLoadTransientKey_ok hs with ⟨rfl, rfl⟩ | ⟨he, rfl⟩
    · exact ⟨rfl, rfl⟩
    · exact ⟨rfl, by cases err <;> first | rfl | exact absurd rfl he⟩
  | operation op lld fallback =>
    obtain ⟨_, hs, rfl⟩ := run_operation h
    rw [CryOperationCall.run_ok hs]
    exact ⟨rfl, rfl⟩

theorem CryCall.readyAfter_lifecycle (c : CryCall C A) (s : CryState × Option C) :
    ((c.lifecycle s).1 == .ready) = c.readyAfter (s.1 == .ready) := by
  cases c <;> rfl

theorem CryCall.ready_of_run {c : CryCall C A} {cryp cryp' : CRYDriver C A} {r : Option CryError}
    (h : c.run hal cryp = .ok (cryp', r)) :
    (cryp'.state == .ready) = c.readyAfter (cryp.state == .ready) := by
  rw [← c.readyAfter_lifecycle (cryp.state, cryp.config), ← (lifecycle_loadedKey_of_run h).1]

theorem runCalls_cons_ok {c : CryCall C A} {cs : List (CryCall C A)}
    {cryp cryp'' : CRYDriver C A} {rs : List (Option CryError)}
    (h : runCalls hal (c :: cs) cryp = .ok (cryp'', rs)) :
    ∃ cryp' r rs', c.run hal cryp = .ok (cryp', r) ∧ runCalls hal cs cryp' = .ok (cryp'', rs') ∧
      rs = r :: rs' := by
  rw [runCalls] at h
  split at h
  · cases h
  · rename_i cryp' r hc
    obtain ⟨⟨_, rs'⟩, hrun, he⟩ := map_ok h
    cases he
    exact ⟨cryp', r, rs', hc, hrun, rfl⟩

theorem runCalls_isOk {cryp : CRYDriver C A} (hi : CryInvariant cryp)
    (calls : List (CryCall C A)) :
    (runCalls hal calls cryp).isOk = usageOk hal (cryp.state == .ready) calls := by
  induction calls generalizing cryp with
  | nil => rfl
  | cons c cs ih =>
    have hc : (c.run hal cryp).isOk = _ := c.run_isOk hi
    rw [runCalls, usageOk]
    split
    · rename_i he
      rw [he] at hc
      rw [← hc]
      rfl
    · rename_i cryp' r he
      rw [he] at hc
      rw [isOk_map, ih (cryInvariant_call hi he), CryCall.ready_of_run he, ← hc]
      rfl

end

section
variable {C A : Type}

/-- A debug build: checks and assertions compiled in, every family in the low level driver. -/
def debugHal : CryHal := ⟨false, false, 32, fun _ => true, true, true⟩

/-- From `cryObjectInit`, a sequence of calls runs to its end without a halt exactly when it
keeps to the usage rules: every call passes the argument check the build makes, and, with
assertions compiled in, every cipher, hash and TRNG call comes after a `cryStart` with no
`cryStop` since. -/
theorem runCalls_cryObjectInit_isOk (hal : CryHal) (cryp : CRYDriver C A)
    (calls : List (CryCall C A)) :
    (runCalls hal calls (cryObjectInit cryp)).isOk = usageOk hal false calls :=
  runCalls_isOk (cryInvariant_objectInit cryp) calls

example : (runCalls debugHal [.operation (.cryTRNG 1) .noError .noError, .cryStart none]
    (cryObjectInit (⟨.uninit, none, 0, 0⟩ : CRYDriver Unit Nat))).isOk = false := rfl

/-- A run that returns gives one code per call, leaves the state and configuration of its last
`cryStart` or `cryStop`, and the key of its last load that returned `CRY_NOERROR`, whatever
starts and stops came after that load. -/
theorem runCalls_ok_state_key {hal : CryHal} {calls : List (CryCall C A)}
    {cryp cryp' : CRYDriver C A} {rs : List (Option CryError)}
    (h : runCalls hal calls cryp = .ok (cryp', rs)) :
    rs.length = calls.length ∧
      (cryp'.state, cryp'.config) = calls.foldl CryCall.lifecycle (cryp.state, cryp.config) ∧
      (cryp'.key0Type, cryp'.key0Size) =
        (calls.zip rs).foldl (fun key p => p.1.loadedKey key p.2) (cryp.key0Type, cryp.key0Size) := by
  induction calls generalizing cryp rs with
  | nil => cases h; exact ⟨rfl, rfl, rfl⟩
  | cons c cs ih =>
    obtain ⟨cryp1, r, rs', hc, hrun, rfl⟩ := runCalls_cons_ok h
    obtain ⟨hl, hk⟩ := CryCall.lifecycle_loadedKey_of_run hc
    obtain ⟨hlen, hl', hk'⟩ := ih hrun
    refine ⟨congrArg (· + 1) hlen, ?_, ?_⟩
    · rw [hl', hl]
      rfl
    · rw [hk', hk]
      rfl

/-- A key load on a stopped driver, then a stop and a start. -/
def loadStopStart : List (CryCall Unit Nat) :=
  [.cryLoadTransientKey 3 16 1 .noError .noError, .cryStop, .cryStart (some ())]

/-- The key loaded into the stopped driver is kept through the stop and the start. -/
theorem runCalls_ok_state_key_load_stop_start :
    runCalls debugHal loadStopStart (cryObjectInit ⟨.uninit, none, 0, 0⟩) =
        .ok (⟨.ready, some (), 3, 16⟩, [some .noError, none, none]) ∧
      [some CryError.noError, none, none].length = loadStopStart.length ∧
      (CryState.ready, some ()) = loadStopStart.foldl CryCall.lifecycle (.stop, none) ∧
      (3, 16) = (loadStopStart.zip [some .noError, none, none]).foldl
        (fun key p => p.1.loadedKey key p.2) (0, 0) := by
  have h : runCalls debugHal loadStopStart (cryObjectInit ⟨.uninit, none, 0, 0⟩) =
      .ok (⟨.ready, some (), 3, 16⟩, [some .noError, none, none]) := rfl
  exact ⟨h, runCalls_ok_state_key h⟩

end

end Pecanpico.Crypto
