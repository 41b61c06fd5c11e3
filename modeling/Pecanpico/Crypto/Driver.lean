import Mathlib.Data.Nat.Bitwise

/-! The cryptographic driver of `hal_crypto.c`: its state, its checks and its entry points. -/
namespace Pecanpico.Crypto

/-- `crystate_t`: the state before `cryObjectInit`, and the two the driver moves between. -/
inductive CryState where
  | uninit
  | stop
  | ready
  deriving DecidableEq, Repr

/-- `cryerror_t`, the codes `hal_crypto.c` documents. A low level driver may return any. -/
inductive CryError where
  | noError
  | invAlgo
  | invKeySize
  | invKeyType
  | invKeyId
  deriving DecidableEq, Repr

/-- The `CRY_LLD_SUPPORTS_*` switches, one per family of entry points. -/
inductive CryFeature where
  | aes | aesEcb | aesCbc | aesCfb | aesCtr | aesGcm
  | des | desEcb | desCbc
  | sha1 | sha256 | sha512 | hmacSha256 | hmacSha512
  | trng
  deriving DecidableEq, Repr

/-- The build configuration the driver reads: `HAL_CRY_ENFORCE_FALLBACK`, `HAL_CRY_USE_FALLBACK`,
`HAL_CRY_MAX_KEY_SIZE`, the low level driver's switches, and whether the kernel's debug checks
and assertions are compiled in. -/
structure CryHal where
  enforceFallback : Bool
  useFallback : Bool
  maxKeySize : Nat
  lldSupports : CryFeature → Bool
  enableChecks : Bool
  enableAsserts : Bool

/-- The fields of `CRYDriver` the portable driver reads and writes. The configuration pointer
is `none` for `NULL`; `C` is `CRYConfig` and `A` is `cryalgorithm_t`. -/
structure CRYDriver (C A : Type) where
  state : CryState
  config : Option C
  key0Type : A
  key0Size : Nat

/-- A system halt: a failed `osalDbgCheck` in a function, or a failed `osalDbgAssert` with its
remark. -/
inductive Halt where
  | check (func : String)
  | assert (func remark : String)
  deriving DecidableEq, Repr

section
variable (hal : CryHal) {C A : Type}

def osalDbgCheck (c : Bool) (func : String) : Except Halt Unit :=
  if hal.enableChecks && !c then .error (.check func) else .ok ()

def osalDbgAssert (c : Bool) (func remark : String) : Except Halt Unit :=
  if hal.enableAsserts && !c then .error (.assert func remark) else .ok ()

def cryObjectInit (cryp : CRYDriver C A) : CRYDriver C A :=
  { cryp with state := .stop, config := none }

def cryStart (cryp : CRYDriver C A) (config : Option C) : Except Halt (CRYDriver C A) := do
  osalDbgAssert hal (cryp.state == .stop || cryp.state == .ready) "cryStart" "invalid state"
  pure { cryp with config := config, state := .ready }

def cryStop (cryp : CRYDriver C A) : Except Halt (CRYDriver C A) := do
  osalDbgAssert hal (cryp.state == .stop || cryp.state == .ready) "cryStop" "invalid state"
  pure { cryp with config := none, state := .stop }

/-- The code `cryLoadTransientKey` settles on: the low level driver's, or `CRY_ERR_INV_ALGO`
when the fallback is enforced; then the fallback's, when it is enabled and the first code was
`CRY_ERR_INV_ALGO`. -/
def loadKeyError (lld fallback : CryError) : CryError :=
  let err := if hal.enforceFallback then .invAlgo else lld
  if hal.useFallback && err == .invAlgo then fallback else err

/-- `cryLoadTransientKey` with the codes `cry_lld_loadkey` and `cry_fallback_loadkey` return;
`keyp` is the key's address, `0` for `NULL`. -/
def cryLoadTransientKey (cryp : CRYDriver C A) (algorithm : A) (size keyp : Nat)
    (lld fallback : CryError) : Except Halt (CRYDriver C A × CryError) := do
  osalDbgCheck hal (decide (size ≤ hal.maxKeySize) && keyp != 0) "cryLoadTransientKey"
  let err := loadKeyError hal lld fallback
  if err == .noError then pure ({ cryp with key0Type := algorithm, key0Size := size }, err)
  else pure (cryp, err)

/-- The shape of every cipher, hash and TRNG entry point: the argument check, the `CRY_READY`
assertion, then the low level driver when it supports the operation, else the fallback when
it is enabled, else `CRY_ERR_INV_ALGO`. -/
def cryOperation (feature : CryFeature) (func : String) (argsOk : Bool) (cryp : CRYDriver C A)
    (lld fallback : CryError) : Except Halt (CRYDriver C A × CryError) := do
  osalDbgCheck hal argsOk func
  osalDbgAssert hal (cryp.state == .ready) func "not ready"
  pure (cryp, if hal.lldSupports feature then lld else if hal.useFallback then fallback
    else .invAlgo)


def cryEncryptAES (cryp : CRYDriver C A) (inp out : Nat) (lld fallback : CryError) :
    Except Halt (CRYDriver C A × CryError) :=
  cryOperation hal .aes "cryEncryptAES"
    (inp != 0 && out != 0) cryp lld fallback

def cryDecryptAES (cryp : CRYDriver C A) (inp out : Nat) (lld fallback : CryError) :
    Except Halt (CRYDriver C A × CryError) :=
  cryOperation hal .aes "cryDecryptAES"
    (inp != 0 && out != 0) cryp lld fallback

def cryEncryptAES_ECB (cryp : CRYDriver C A) (size inp out : Nat) (lld fallback : CryError) :
    Except Halt (CRYDriver C A × CryError) :=
  cryOperation hal .aesEcb "cryEncryptAES_ECB"
    (inp != 0 && out != 0 && size &&& 15 == 0) cryp lld fallback

def cryDecryptAES_ECB (cryp : CRYDriver C A) (size inp out : Nat) (lld fallback : CryError) :
    Except Halt (CRYDriver C A × CryError) :=
  cryOperation hal .aesEcb "cryDecryptAES_ECB"
    (inp != 0 && out != 0 && size &&& 15 == 0) cryp lld fallback

def cryEncryptAES_CBC (cryp : CRYDriver C A) (size inp out iv : Nat) (lld fallback : CryError) :
    Except Halt (CRYDriver C A × CryError) :=
  cryOperation hal .aesCbc "cryEncryptAES_CBC"
    (inp != 0 && out != 0 && iv != 0 && size &&& 15 == 0) cryp lld fallback

def cryDecryptAES_CBC (cryp : CRYDriver C A) (size inp out iv : Nat) (lld fallback : CryError) :
    Except Halt (CRYDriver C A × CryError) :=
  cryOperation hal .aesCbc "cryDecryptAES_CBC"
    (inp != 0 && out != 0 && iv != 0 && size &&& 15 == 0) cryp lld fallback

def cryEncryptAES_CFB (cryp : CRYDriver C A) (size inp out iv : Nat) (lld fallback : CryError) :
    Except Halt (CRYDriver C A × CryError) :=
  cryOperation hal .aesCfb "cryEncryptAES_CFB"
    (inp != 0 && out != 0 && iv != 0 && size &&& 15 == 0) cryp lld fallback

def cryDecryptAES_CFB (cryp : CRYDriver C A) (size inp out iv : Nat) (lld fallback : CryError) :
    Except Halt (CRYDriver C A × CryError) :=
  cryOperation hal .aesCfb "cryDecryptAES_CFB"
    (inp != 0 && out != 0 && iv != 0 && size &&& 15 == 0) cryp lld fallback

def cryEncryptAES_CTR (cryp : CRYDriver C A) (size inp out iv : Nat) (lld fallback : CryError) :
    Except Halt (CRYDriver C A × CryError) :=
  cryOperation hal .aesCtr "cryEncryptAES_CTR"
    (inp != 0 && out != 0 && iv != 0 && size &&& 15 == 0) cryp lld fallback

def cryDecryptAES_CTR (cryp : CRYDriver C A) (size inp out iv : Nat) (lld fallback : CryError) :
    Except Halt (CRYDriver C A × CryError) :=
  cryOperation hal .aesCtr "cryDecryptAES_CTR"
    (inp != 0 && out != 0 && iv != 0 && size &&& 15 == 0) cryp lld fallback

def cryEncryptAES_GCM (cryp : CRYDriver C A) (size inp out iv aadsize aad authtag : Nat)
    (lld fallback : CryError) :
    Except Halt (CRYDriver C A × CryError) :=
  cryOperation hal .aesGcm "cryEncryptAES_GCM"
    (inp != 0 && out != 0 && iv != 0 && aad != 0 && authtag != 0 &&
      size &&& 15 == 0 && aadsize &&& 15 == 0) cryp lld fallback

def cryDecryptAES_GCM (cryp : CRYDriver C A) (size inp out iv aadsize aad authtag : Nat)
    (lld fallback : CryError) :
    Except Halt (CRYDriver C A × CryError) :=
  cryOperation hal .aesGcm "cryDecryptAES_GCM"
    (inp != 0 && out != 0 && iv != 0 && aad != 0 && authtag != 0 &&
      size &&& 15 == 0 && aadsize &&& 15 == 0) cryp lld fallback

def cryEncryptDES (cryp : CRYDriver C A) (inp out : Nat) (lld fallback : CryError) :
    Except Halt (CRYDriver C A × CryError) :=
  cryOperation hal .des "cryEncryptDES"
    (inp != 0 && out != 0) cryp lld fallback

def cryDecryptDES (cryp : CRYDriver C A) (inp out : Nat) (lld fallback : CryError) :
    Except Halt (CRYDriver C A × CryError) :=
  cryOperation hal .des "cryDecryptDES"
    (inp != 0 && out != 0) cryp lld fallback

def cryEncryptDES_ECB (cryp : CRYDriver C A) (size inp out : Nat) (lld fallback : CryError) :
    Except Halt (CRYDriver C A × CryError) :=
  cryOperation hal .desEcb "cryEncryptDES_ECB"
    (inp != 0 && out != 0 && size &&& 7 == 0) cryp lld fallback

def cryDecryptDES_ECB (cryp : CRYDriver C A) (size inp out : Nat) (lld fallback : CryError) :
    Except Halt (CRYDriver C A × CryError) :=
  cryOperation hal .desEcb "cryDecryptDES_ECB"
    (inp != 0 && out != 0 && size &&& 7 == 0) cryp lld fallback

def cryEncryptDES_CBC (cryp : CRYDriver C A) (size inp out iv : Nat) (lld fallback : CryError) :
    Except Halt (CRYDriver C A × CryError) :=
  cryOperation hal .desCbc "cryEncryptDES_CBC"
    (inp != 0 && out != 0 && iv != 0 && size &&& 7 == 0) cryp lld fallback

def cryDecryptDES_CBC (cryp : CRYDriver C A) (size inp out iv : Nat) (lld fallback : CryError) :
    Except Halt (CRYDriver C A × CryError) :=
  cryOperation hal .desCbc "cryDecryptDES_CBC"
    (inp != 0 && out != 0 && iv != 0 && size &&& 7 == 0) cryp lld fallback

def crySHA1Init (cryp : CRYDriver C A) (sha1ctxp : Nat) (lld fallback : CryError) :
    Except Halt (CRYDriver C A × CryError) :=
  cryOperation hal .sha1 "crySHA1Init"
    (sha1ctxp != 0) cryp lld fallback

def crySHA1Update (cryp : CRYDriver C A) (sha1ctxp inp : Nat) (lld fallback : CryError) :
    Except Halt (CRYDriver C A × CryError) :=
  cryOperation hal .sha1 "crySHA1Update"
    (sha1ctxp != 0 && inp != 0) cryp lld fallback

def crySHA1Final (cryp : CRYDriver C A) (sha1ctxp out : Nat) (lld fallback : CryError) :
    Except Halt (CRYDriver C A × CryError) :=
  cryOperation hal .sha1 "crySHA1Final"
    (sha1ctxp != 0 && out != 0) cryp lld fallback

def crySHA256Init (cryp : CRYDriver C A) (sha256ctxp : Nat) (lld fallback : CryError) :
    Except Halt (CRYDriver C A × CryError) :=
  cryOperation hal .sha256 "crySHA256Init"
    (sha256ctxp != 0) cryp lld fallback

def crySHA256Update (cryp : CRYDriver C A) (sha256ctxp inp : Nat) (lld fallback : CryError) :
    Except Halt (CRYDriver C A × CryError) :=
  cryOperation hal .sha256 "crySHA256Update"
    (sha256ctxp != 0 && inp != 0) cryp lld fallback

def crySHA256Final (cryp : CRYDriver C A) (sha256ctxp out : Nat) (lld fallback : CryError) :
    Except Halt (CRYDriver C A × CryError) :=
  cryOperation hal .sha256 "crySHA256Final"
    (sha256ctxp != 0 && out != 0) cryp lld fallback

def crySHA512Init (cryp : CRYDriver C A) (sha512ctxp : Nat) (lld fallback : CryError) :
    Except Halt (CRYDriver C A × CryError) :=
  cryOperation hal .sha512 "crySHA512Init"
    (sha512ctxp != 0) cryp lld fallback

def crySHA512Update (cryp : CRYDriver C A) (sha512ctxp inp : Nat) (lld fallback : CryError) :
    Except Halt (CRYDriver C A × CryError) :=
  cryOperation hal .sha512 "crySHA512Update"
    (sha512ctxp != 0 && inp != 0) cryp lld fallback

def crySHA512Final (cryp : CRYDriver C A) (sha512ctxp out : Nat) (lld fallback : CryError) :
    Except Halt (CRYDriver C A × CryError) :=
  cryOperation hal .sha512 "crySHA512Final"
    (sha512ctxp != 0 && out != 0) cryp lld fallback

def cryHMACSHA256Init (cryp : CRYDriver C A) (hmacsha256ctxp : Nat) (lld fallback : CryError) :
    Except Halt (CRYDriver C A × CryError) :=
  cryOperation hal .hmacSha256 "cryHMACSHA256Init"
    (hmacsha256ctxp != 0) cryp lld fallback

def cryHMACSHA256Update (cryp : CRYDriver C A) (hmacsha256ctxp inp : Nat)
    (lld fallback : CryError) :
    Except Halt (CRYDriver C A × CryError) :=
  cryOperation hal .hmacSha256 "cryHMACSHA256Update"
    (hmacsha256ctxp != 0 && inp != 0) cryp lld fallback

def cryHMACSHA256Final (cryp : CRYDriver C A) (hmacsha256ctxp out : Nat) (lld fallback : CryError) :
    Except Halt (CRYDriver C A × CryError) :=
  cryOperation hal .hmacSha256 "cryHMACSHA256Final"
    (hmacsha256ctxp != 0 && out != 0) cryp lld fallback

def cryHMACSHA512Init (cryp : CRYDriver C A) (hmacsha512ctxp : Nat) (lld fallback : CryError) :
    Except Halt (CRYDriver C A × CryError) :=
  cryOperation hal .hmacSha512 "cryHMACSHA512Init"
    (hmacsha512ctxp != 0) cryp lld fallback

def cryHMACSHA512Update (cryp : CRYDriver C A) (hmacsha512ctxp inp : Nat)
    (lld fallback : CryError) :
    Except Halt (CRYDriver C A × CryError) :=
  cryOperation hal .hmacSha512 "cryHMACSHA512Update"
    (hmacsha512ctxp != 0 && inp != 0) cryp lld fallback

def cryHMACSHA512Final (cryp : CRYDriver C A) (hmacsha512ctxp out : Nat) (lld fallback : CryError) :
    Except Halt (CRYDriver C A × CryError) :=
  cryOperation hal .hmacSha512 "cryHMACSHA512Final"
    (hmacsha512ctxp != 0 && out != 0) cryp lld fallback

def cryTRNG (cryp : CRYDriver C A) (out : Nat) (lld fallback : CryError) :
    Except Halt (CRYDriver C A × CryError) :=
  cryOperation hal .trng "cryTRNG"
    (out != 0) cryp lld fallback

end

/-- A call of one of the cipher, hash and TRNG entry points, with the arguments it checks;
buffer addresses are `0` for `NULL`. -/
inductive CryOperationCall where
  | cryEncryptAES (inp out : Nat)
  | cryDecryptAES (inp out : Nat)
  | cryEncryptAES_ECB (size inp out : Nat)
  | cryDecryptAES_ECB (size inp out : Nat)
  | cryEncryptAES_CBC (size inp out iv : Nat)
  | cryDecryptAES_CBC (size inp out iv : Nat)
  | cryEncryptAES_CFB (size inp out iv : Nat)
  | cryDecryptAES_CFB (size inp out iv : Nat)
  | cryEncryptAES_CTR (size inp out iv : Nat)
  | cryDecryptAES_CTR (size inp out iv : Nat)
  | cryEncryptAES_GCM (size inp out iv aadsize aad authtag : Nat)
  | cryDecryptAES_GCM (size inp out iv aadsize aad authtag : Nat)
  | cryEncryptDES (inp out : Nat)
  | cryDecryptDES (inp out : Nat)
  | cryEncryptDES_ECB (size inp out : Nat)
  | cryDecryptDES_ECB (size inp out : Nat)
  | cryEncryptDES_CBC (size inp out iv : Nat)
  | cryDecryptDES_CBC (size inp out iv : Nat)
  | crySHA1Init (sha1ctxp : Nat)
  | crySHA1Update (sha1ctxp inp : Nat)
  | crySHA1Final (sha1ctxp out : Nat)
  | crySHA256Init (sha256ctxp : Nat)
  | crySHA256Update (sha256ctxp inp : Nat)
  | crySHA256Final (sha256ctxp out : Nat)
  | crySHA512Init (sha512ctxp : Nat)
  | crySHA512Update (sha512ctxp inp : Nat)
  | crySHA512Final (sha512ctxp out : Nat)
  | cryHMACSHA256Init (hmacsha256ctxp : Nat)
  | cryHMACSHA256Update (hmacsha256ctxp inp : Nat)
  | cryHMACSHA256Final (hmacsha256ctxp out : Nat)
  | cryHMACSHA512Init (hmacsha512ctxp : Nat)
  | cryHMACSHA512Update (hmacsha512ctxp inp : Nat)
  | cryHMACSHA512Final (hmacsha512ctxp out : Nat)
  | cryTRNG (out : Nat)
  deriving Repr

/-- A call of the driver's API, with the codes the low level driver and the fallback return. -/
inductive CryCall (C A : Type) where
  | cryStart (config : Option C)
  | cryStop
  | cryLoadTransientKey (algorithm : A) (size keyp : Nat) (lld fallback : CryError)
  | operation (op : CryOperationCall) (lld fallback : CryError)

section
variable (hal : CryHal) {C A : Type}

def CryOperationCall.run (op : CryOperationCall) (cryp : CRYDriver C A)
    (lld fallback : CryError) : Except Halt (CRYDriver C A × CryError) :=
  match op with
  | .cryEncryptAES inp out => Crypto.cryEncryptAES hal cryp inp out lld fallback
  | .cryDecryptAES inp out => Crypto.cryDecryptAES hal cryp inp out lld fallback
  | .cryEncryptAES_ECB size inp out => Crypto.cryEncryptAES_ECB hal cryp size inp out lld fallback
  | .cryDecryptAES_ECB size inp out => Crypto.cryDecryptAES_ECB hal cryp size inp out lld fallback
  | .cryEncryptAES_CBC size inp out iv =>
    Crypto.cryEncryptAES_CBC hal cryp size inp out iv lld fallback
  | .cryDecryptAES_CBC size inp out iv =>
    Crypto.cryDecryptAES_CBC hal cryp size inp out iv lld fallback
  | .cryEncryptAES_CFB size inp out iv =>
    Crypto.cryEncryptAES_CFB hal cryp size inp out iv lld fallback
  | .cryDecryptAES_CFB size inp out iv =>
    Crypto.cryDecryptAES_CFB hal cryp size inp out iv lld fallback
  | .cryEncryptAES_CTR size inp out iv =>
    Crypto.cryEncryptAES_CTR hal cryp size inp out iv lld fallback
  | .cryDecryptAES_CTR size inp out iv =>
    Crypto.cryDecryptAES_CTR hal cryp size inp out iv lld fallback
  | .cryEncryptAES_GCM size inp out iv aadsize aad authtag =>
    Crypto.cryEncryptAES_GCM hal cryp size inp out iv aadsize aad authtag lld fallback
  | .cryDecryptAES_GCM size inp out iv aadsize aad authtag =>
    Crypto.cryDecryptAES_GCM hal cryp size inp out iv aadsize aad authtag lld fallback
  | .cryEncryptDES inp out => Crypto.cryEncryptDES hal cryp inp out lld fallback
  | .cryDecryptDES inp out => Crypto.cryDecryptDES hal cryp inp out lld fallback
  | .cryEncryptDES_ECB size inp out => Crypto.cryEncryptDES_ECB hal cryp size inp out lld fallback
  | .cryDecryptDES_ECB size inp out => Crypto.cryDecryptDES_ECB hal cryp size inp out lld fallback
  | .cryEncryptDES_CBC size inp out iv =>
    Crypto.cryEncryptDES_CBC hal cryp size inp out iv lld fallback
  | .cryDecryptDES_CBC size inp out iv =>
    Crypto.cryDecryptDES_CBC hal cryp size inp out iv lld fallback
  | .crySHA1Init sha1ctxp => Crypto.crySHA1Init hal cryp sha1ctxp lld fallback
  | .crySHA1Update sha1ctxp inp => Crypto.crySHA1Update hal cryp sha1ctxp inp lld fallback
  | .crySHA1Final sha1ctxp out => Crypto.crySHA1Final hal cryp sha1ctxp out lld fallback
  | .crySHA256Init sha256ctxp => Crypto.crySHA256Init hal cryp sha256ctxp lld fallback
  | .crySHA256Update sha256ctxp inp => Crypto.crySHA256Update hal cryp sha256ctxp inp lld fallback
  | .crySHA256Final sha256ctxp out => Crypto.crySHA256Final hal cryp sha256ctxp out lld fallback
  | .crySHA512Init sha512ctxp => Crypto.crySHA512Init hal cryp sha512ctxp lld fallback
  | .crySHA512Update sha512ctxp inp => Crypto.crySHA512Update hal cryp sha512ctxp inp lld fallback
  | .crySHA512Final sha512ctxp out => Crypto.crySHA512Final hal cryp sha512ctxp out lld fallback
  | .cryHMACSHA256Init hmacsha256ctxp =>
    Crypto.cryHMACSHA256Init hal cryp hmacsha256ctxp lld fallback
  | .cryHMACSHA256Update hmacsha256ctxp inp =>
    Crypto.cryHMACSHA256Update hal cryp hmacsha256ctxp inp lld fallback
  | .cryHMACSHA256Final hmacsha256ctxp out =>
    Crypto.cryHMACSHA256Final hal cryp hmacsha256ctxp out lld fallback
  | .cryHMACSHA512Init hmacsha512ctxp =>
    Crypto.cryHMACSHA512Init hal cryp hmacsha512ctxp lld fallback
  | .cryHMACSHA512Update hmacsha512ctxp inp =>
    Crypto.cryHMACSHA512Update hal cryp hmacsha512ctxp inp lld fallback
  | .cryHMACSHA512Final hmacsha512ctxp out =>
    Crypto.cryHMACSHA512Final hal cryp hmacsha512ctxp out lld fallback
  | .cryTRNG out => Crypto.cryTRNG hal cryp out lld fallback

/-- A call on the driver: the driver afterwards and the code returned, `none` for `void`. -/
def CryCall.run : CryCall C A → CRYDriver C A → Except Halt (CRYDriver C A × Option CryError)
  | .cryStart config, cryp => (·, none) <$> Crypto.cryStart hal cryp config
  | .cryStop, cryp => (·, none) <$> Crypto.cryStop hal cryp
  | .cryLoadTransientKey algorithm size keyp lld fallback, cryp =>
    (fun r => (r.1, some r.2)) <$>
      Crypto.cryLoadTransientKey hal cryp algorithm size keyp lld fallback
  | .operation op lld fallback, cryp => (fun r => (r.1, some r.2)) <$> op.run hal cryp lld fallback

end

end Pecanpico.Crypto
