import ThrevoActions.Sha256

/-!
# HMAC-SHA256

`hmac.new(key, message, hashlib.sha256)`, as FIPS 198-1 defines it over blocks of 64 bytes.
-/

namespace ThrevoActions

/-- `hashlib.sha256(message).digest()`. -/
def Sha256.digestBytes (message : Bytes) : Bytes :=
  (digest message).flatMap fun word ↦ toBytesBig 4 word.toNat

namespace Hmac

/-- A key that does not fill a block is padded with zeros, a longer one is hashed first. -/
def blockKey (key : Bytes) : Bytes :=
  let key := if 64 < key.length then Sha256.digestBytes key else key
  key ++ List.replicate (64 - key.length) 0

/-- `hmac.new(key, message, hashlib.sha256).hexdigest()`. -/
def hexdigest (key message : Bytes) : String :=
  let inner := (blockKey key).map (· ^^^ 0x36)
  let outer := (blockKey key).map (· ^^^ 0x5c)
  Sha256.hexdigest (outer ++ Sha256.digestBytes (inner ++ message))

set_option maxRecDepth 8000 in
example : hexdigest [0x4a, 0x65, 0x66, 0x65] (("what do ya want for nothing?".toList).map
    fun c ↦ c.toNat.toUInt8) =
    "5bdcc146bf60754e6a042426089575c75a003f089d2739839dec58b964ec3843" := by
  decide +kernel

end Hmac

end ThrevoActions
