import Pecanpico.Crypto.Driver

/-! Every driver reachable from `cryObjectInit` is stopped or ready, and only a successful key
load touches the transient key. -/
namespace Pecanpico.Crypto

section
variable {hal : CryHal} {C A : Type}

theorem except_bind_ok {ε α β : Type} {x : Except ε α} {f : α → Except ε β} {b : β}
    (h : (x >>= f) = .ok b) : ∃ a, x = .ok a ∧ f a = .ok b := by
  cases x with
  | error e => cases h
  | ok a => exact ⟨a, rfl, h⟩

theorem cryStart_ok {cryp cryp' : CRYDriver C A} {config : Option C}
    (h : cryStart hal cryp config = .ok cryp') :
    cryp' = { cryp with config := config, state := .ready } := by
  obtain ⟨_, -, h⟩ := except_bind_ok h
  exact (Except.ok.inj h).symm

theorem cryStop_ok {cryp cryp' : CRYDriver C A} (h : cryStop hal cryp = .ok cryp') :
    cryp' = { cryp with config := none, state := .stop } := by
  obtain ⟨_, -, h⟩ := except_bind_ok h
  exact (Except.ok.inj h).symm

theorem osalDbgAssert_of {c : Bool} (hc : c = true) (func remark : String) :
    osalDbgAssert hal c func remark = .ok () := by
  simp [osalDbgAssert, hc]

/-- The result of a key load: on `CRY_NOERROR` the key's algorithm and size are recorded and
nothing else changes; on any other code the driver is left as it was. -/
theorem cryLoadTransientKey_ok {cryp cryp' : CRYDriver C A} {algorithm : A} {size keyp : Nat}
    {lld fallback err : CryError}
    (h : cryLoadTransientKey hal cryp algorithm size keyp lld fallback = .ok (cryp', err)) :
    (err = .noError ∧ cryp' = { cryp with key0Type := algorithm, key0Size := size }) ∨
      (err ≠ .noError ∧ cryp' = cryp) := by
  obtain ⟨_, -, h⟩ := except_bind_ok h
  by_cases he : loadKeyError hal lld fallback = .noError
  · simp only [he, beq_self_eq_true, if_true] at h
    cases h
    exact .inl ⟨rfl, rfl⟩
  · simp only [he, beq_iff_eq, if_false] at h
    cases h
    exact .inr ⟨he, rfl⟩

/-- The whole family of cipher, hash and TRNG entry points leaves the driver as it was. -/
theorem cryOperation_ok {feature : CryFeature} {func : String} {argsOk : Bool}
    {cryp cryp' : CRYDriver C A} {lld fallback r : CryError}
    (h : cryOperation hal feature func argsOk cryp lld fallback = .ok (cryp', r)) :
    cryp' = cryp := by
  obtain ⟨_, -, h⟩ := except_bind_ok h
  obtain ⟨_, -, h⟩ := except_bind_ok h
  exact (Prod.mk.inj (Except.ok.inj h)).1.symm

theorem CryOperationCall.run_ok {op : CryOperationCall} {cryp cryp' : CRYDriver C A}
    {lld fallback r : CryError} (h : op.run hal cryp lld fallback = .ok (cryp', r)) :
    cryp' = cryp := by
  cases op <;> exact cryOperation_ok h

theorem map_ok {ε α β : Type} {f : α → β} {x : Except ε α} {b : β}
    (h : (f <$> x) = .ok b) :
    ∃ a, x = .ok a ∧ f a = b := by
  cases x with
  | error e => cases h
  | ok a => exact ⟨a, rfl, Except.ok.inj h⟩

theorem run_cryStart {config : Option C} {cryp cryp' : CRYDriver C A} {r : Option CryError}
    (h : (CryCall.cryStart config).run hal cryp = .ok (cryp', r)) :
    cryStart hal cryp config = .ok cryp' ∧ r = none := by
  obtain ⟨_, hs, hr⟩ := map_ok h
  cases hr
  exact ⟨hs, rfl⟩

theorem run_cryStop {cryp cryp' : CRYDriver C A} {r : Option CryError}
    (h : (CryCall.cryStop : CryCall C A).run hal cryp = .ok (cryp', r)) :
    cryStop hal cryp = .ok cryp' ∧ r = none := by
  obtain ⟨_, hs, hr⟩ := map_ok h
  cases hr
  exact ⟨hs, rfl⟩

theorem run_cryLoadTransientKey {algorithm : A} {size keyp : Nat} {lld fallback : CryError}
    {cryp cryp' : CRYDriver C A} {r : Option CryError}
    (h : (CryCall.cryLoadTransientKey algorithm size keyp lld fallback).run hal cryp =
      .ok (cryp', r)) :
    ∃ err, cryLoadTransientKey hal cryp algorithm size keyp lld fallback = .ok (cryp', err) ∧
      r = some err := by
  obtain ⟨⟨_, err⟩, hs, hr⟩ := map_ok h
  cases hr
  exact ⟨err, hs, rfl⟩

theorem run_operation {op : CryOperationCall} {lld fallback : CryError}
    {cryp cryp' : CRYDriver C A} {r : Option CryError}
    (h : (CryCall.operation op lld fallback).run hal cryp = .ok (cryp', r)) :
    ∃ err, op.run hal cryp lld fallback = .ok (cryp', err) ∧ r = some err := by
  obtain ⟨⟨_, err⟩, hs, hr⟩ := map_ok h
  cases hr
  exact ⟨err, hs, rfl⟩

/-- What one call can do to the driver. -/
theorem CryCall.run_ok {c : CryCall C A} {cryp cryp' : CRYDriver C A} {r : Option CryError}
    (h : c.run hal cryp = .ok (cryp', r)) :
    (∃ config, cryp' = { cryp with config := config, state := .ready }) ∨
      cryp' = { cryp with config := none, state := .stop } ∨
      (∃ algorithm size, cryp' = { cryp with key0Type := algorithm, key0Size := size }) ∨
      cryp' = cryp := by
  cases c with
  | cryStart config => exact .inl ⟨config, cryStart_ok (run_cryStart h).1⟩
  | cryStop => exact .inr (.inl (cryStop_ok (run_cryStop h).1))
  | cryLoadTransientKey algorithm size keyp lld fallback =>
    obtain ⟨_, hs, -⟩ := run_cryLoadTransientKey h
    rcases cryLoadTransientKey_ok hs with ⟨-, he⟩ | ⟨-, he⟩
    · exact .inr (.inr (.inl ⟨algorithm, size, he⟩))
    · exact .inr (.inr (.inr he))
  | operation op lld fallback =>
    obtain ⟨_, hs, -⟩ := run_operation h
    exact .inr (.inr (.inr (CryOperationCall.run_ok hs)))

/-- Only a load that returns `CRY_NOERROR` touches the transient key, and it records the
algorithm and size it was given. -/
theorem CryCall.key_of_run {c : CryCall C A} {cryp cryp' : CRYDriver C A} {r : Option CryError}
    (h : c.run hal cryp = .ok (cryp', r)) :
    (cryp'.key0Type = cryp.key0Type ∧ cryp'.key0Size = cryp.key0Size) ∨
      ∃ algorithm size keyp lld fallback,
        c = .cryLoadTransientKey algorithm size keyp lld fallback ∧ r = some .noError ∧
          cryp'.key0Type = algorithm ∧ cryp'.key0Size = size := by
  cases c with
  | cryStart config => rw [cryStart_ok (run_cryStart h).1]; exact .inl ⟨rfl, rfl⟩
  | cryStop => rw [cryStop_ok (run_cryStop h).1]; exact .inl ⟨rfl, rfl⟩
  | cryLoadTransientKey algorithm size keyp lld fallback =>
    obtain ⟨_, hs, rfl⟩ := run_cryLoadTransientKey h
    rcases cryLoadTransientKey_ok hs with ⟨rfl, rfl⟩ | ⟨-, rfl⟩
    · exact .inr ⟨algorithm, size, keyp, lld, fallback, rfl, rfl, rfl, rfl⟩
    · exact .inl ⟨rfl, rfl⟩
  | operation op lld fallback =>
    obtain ⟨_, hs, -⟩ := run_operation h
    rw [CryOperationCall.run_ok hs]
    exact .inl ⟨rfl, rfl⟩


end

/-- The drivers that calls reach from `cryObjectInit`, whatever the driver held before it and
whatever the low level driver and the fallback return. -/
inductive Reachable (hal : CryHal) {C A : Type} : CRYDriver C A → Prop where
  | objectInit (cryp : CRYDriver C A) : Reachable hal (cryObjectInit cryp)
  | call {cryp cryp' : CRYDriver C A} {r : Option CryError} (c : CryCall C A) :
      Reachable hal cryp → c.run hal cryp = .ok (cryp', r) → Reachable hal cryp'

/-- Stopped or ready, and no configuration while stopped. -/
structure CryInvariant {C A : Type} (cryp : CRYDriver C A) : Prop where
  stop_or_ready : cryp.state = .stop ∨ cryp.state = .ready
  config_of_stop : cryp.state = .stop → cryp.config = none

section
variable {hal : CryHal} {C A : Type}

theorem cryInvariant_objectInit (cryp : CRYDriver C A) : CryInvariant (cryObjectInit cryp) :=
  ⟨.inl rfl, fun _ => rfl⟩

theorem cryInvariant_call {c : CryCall C A} {cryp cryp' : CRYDriver C A} {r : Option CryError}
    (hi : CryInvariant cryp) (h : c.run hal cryp = .ok (cryp', r)) : CryInvariant cryp' := by
  rcases CryCall.run_ok h with ⟨_, rfl⟩ | rfl | ⟨_, _, rfl⟩ | rfl
  · exact ⟨.inr rfl, fun h => by cases h⟩
  · exact ⟨.inl rfl, fun _ => rfl⟩
  · exact ⟨hi.stop_or_ready, hi.config_of_stop⟩
  · exact hi

theorem Reachable.cryInvariant {cryp : CRYDriver C A} (h : Reachable hal cryp) :
    CryInvariant cryp := by
  induction h with
  | objectInit cryp => exact cryInvariant_objectInit cryp
  | call _ _ hrun ih => exact cryInvariant_call ih hrun

theorem stateValid_of_invariant {cryp : CRYDriver C A} (hi : CryInvariant cryp) :
    (cryp.state == .stop || cryp.state == .ready) = true := by
  rcases hi.stop_or_ready with h | h <;> simp [h]

theorem cryStart_of_invariant {cryp : CRYDriver C A} (hi : CryInvariant cryp) (config : Option C) :
    cryStart hal cryp config = .ok { cryp with config := config, state := .ready } := by
  simp only [cryStart, osalDbgAssert_of (stateValid_of_invariant hi)]
  rfl

theorem cryStop_of_invariant {cryp : CRYDriver C A} (hi : CryInvariant cryp) :
    cryStop hal cryp = .ok { cryp with config := none, state := .stop } := by
  simp only [cryStop, osalDbgAssert_of (stateValid_of_invariant hi)]
  rfl

end

/-- The CRY driver's state machine over every sequence of calls from `cryObjectInit`: the state
is always `CRY_STOP` or `CRY_READY`, with no configuration when stopped, so `cryStart` and
`cryStop` never halt on their assertion; the transient key changes only on a load returning
`CRY_NOERROR`, which records its algorithm and size; a failed load changes nothing. -/
theorem cry_driver_state_machine (hal : CryHal) {C A : Type} :
    (∀ cryp : CRYDriver C A, Reachable hal cryp →
      (cryp.state = .stop ∨ cryp.state = .ready) ∧ (cryp.state = .stop → cryp.config = none) ∧
      (∀ config, cryStart hal cryp config = .ok { cryp with config := config, state := .ready }) ∧
      cryStop hal cryp = .ok { cryp with config := none, state := .stop }) ∧
    (∀ (c : CryCall C A) (cryp cryp' : CRYDriver C A) (r : Option CryError),
      c.run hal cryp = .ok (cryp', r) →
      (cryp'.key0Type = cryp.key0Type ∧ cryp'.key0Size = cryp.key0Size) ∨
        ∃ algorithm size keyp lld fallback,
          c = .cryLoadTransientKey algorithm size keyp lld fallback ∧ r = some .noError ∧
            cryp'.key0Type = algorithm ∧ cryp'.key0Size = size) ∧
    (∀ (cryp cryp' : CRYDriver C A) (algorithm : A) (size keyp : Nat) (lld fallback err : CryError),
      cryLoadTransientKey hal cryp algorithm size keyp lld fallback = .ok (cryp', err) →
      (err = .noError ∧ cryp' = { cryp with key0Type := algorithm, key0Size := size }) ∨
        (err ≠ .noError ∧ cryp' = cryp)) :=
  ⟨fun _ h => ⟨h.cryInvariant.stop_or_ready, h.cryInvariant.config_of_stop,
      cryStart_of_invariant h.cryInvariant, cryStop_of_invariant h.cryInvariant⟩,
    fun _ _ _ _ => CryCall.key_of_run, fun _ _ _ _ _ _ _ _ => cryLoadTransientKey_ok⟩

end Pecanpico.Crypto
